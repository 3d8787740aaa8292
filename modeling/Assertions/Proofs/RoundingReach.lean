import Assertions.Proofs.RoundingOrder

/-!
What rounds to a value. A value of a format takes the numbers from half a step below it to half a
step above it, with the two ends where its significand is even; below a power of two the steps are
half as long. The numbers in between are exactly those that round to the value.
-/

namespace Assertions

attribute [local instance (high)] instPowNat

variable {f : Format}

namespace Format

/-- Multiples of a step on one side of another multiple keep a whole step away. -/
theorem add_le_of_dvd {step x y : Nat} (left : step ∣ x) (right : step ∣ y) (h : x < y) :
    x + step ≤ y := by
  obtain ⟨a, rfl⟩ := left
  obtain ⟨b, rfl⟩ := right
  have below := Nat.mul_le_mul_left step (Nat.lt_of_mul_lt_mul_left h)
  rwa [Nat.mul_succ] at below

theorem spacing_congr {x y : Nat} (h : x.log2 = y.log2) : f.spacing x = f.spacing y := by
  rw [spacing, h, spacing]

theorem spacing_dvd_next (precise : 0 < f.precision) (units : Nat) :
    f.spacing units ∣ 2 ^ (units.log2 + 1) :=
  Nat.pow_dvd_pow 2 (by omega)

/-- Up to half a step above a value the spacing stays. -/
theorem spacing_above (precise : 0 < f.precision) {units number : Nat}
    (holds : f.spacing units ∣ units) (low : units ≤ number)
    (high : 2 * number ≤ 2 * units + f.spacing units) : f.spacing number = f.spacing units := by
  obtain rfl | pos := Nat.eq_zero_or_pos units
  · have least : f.spacing 0 = 1 := by
      rw [spacing, show Nat.log2 0 = 0 from rfl, Nat.sub_eq_zero_of_le (by omega)]
    rw [show number = 0 by omega]
  · refine spacing_congr ?_
    have next := add_le_of_dvd holds (spacing_dvd_next precise units) Nat.lt_log2_self
    have first := Nat.log2_self_le pos.ne'
    have step := f.spacing_pos units
    rw [Nat.log2_eq_iff (by omega)]
    omega

/-- Down to half a step below a value the spacing stays, except at a power of two. -/
theorem spacing_below (precise : 0 < f.precision) {units number : Nat}
    (holds : f.spacing units ∣ units) (apart : units ≠ 2 ^ units.log2 ∨ f.spacing units = 1)
    (low : 2 * units ≤ 2 * number + f.spacing units + 1) (high : number < units) :
    f.spacing number = f.spacing units := by
  have first := Nat.log2_self_le (show units ≠ 0 by omega)
  have next : units < 2 ^ (units.log2 + 1) := Nat.lt_log2_self
  by_cases one : f.spacing units = 1
  · have least := spacing_mono (f := f) high.le
    have pos := f.spacing_pos number
    omega
  · have inside := add_le_of_dvd (spacing_dvd_binade precise le_rfl) holds
      (lt_of_le_of_ne first (apart.resolve_right one).symm)
    have pos := f.spacing_pos units
    refine spacing_congr ?_
    rw [Nat.log2_eq_iff (by omega)]
    omega

theorem le_log2_of_spacing {units : Nat} (wide : f.spacing units ≠ 1) :
    f.precision ≤ units.log2 := by
  by_contra fine
  exact wide (by rw [spacing, Nat.sub_eq_zero_of_le (by omega), Nat.pow_zero])

/-- Below a power of two the spacing is half of what it is above. -/
theorem spacing_narrow (precise : 0 < f.precision) {units number : Nat}
    (power : units = 2 ^ units.log2) (wide : f.spacing units ≠ 1)
    (low : 4 * units ≤ 4 * number + f.spacing units + 3) (high : number < units) :
    f.spacing units = 2 * f.spacing number := by
  have coarse := le_log2_of_spacing wide
  have short := spacing_le precise (show 0 < units by omega)
  have leading : number.log2 = units.log2 - 1 := by
    have half : 2 ^ units.log2 = 2 * 2 ^ (units.log2 - 1) := by
      rw [← Nat.pow_succ', Nat.succ_eq_add_one, Nat.sub_add_cancel (by omega)]
    rw [Nat.log2_eq_iff (by omega), Nat.sub_add_cancel (by omega)]
    omega
  rw [spacing, spacing, leading, ← Nat.pow_succ']
  congr 1
  omega

/-- At most half a step away from the middle, and nearer than that where a tie would go away. -/
structure Near (odd : Prop) (middle step number : Nat) : Prop where
  below : 2 * middle ≤ 2 * number + step
  above : 2 * number ≤ 2 * middle + step
  inside : odd → 2 * middle < 2 * number + step ∧ 2 * number < 2 * middle + step

/-- A number near a multiple of its spacing rounds to that multiple. -/
theorem nearest_of_near {number denominator units multiple : Nat} (pos : 0 < denominator)
    (exact : units = f.spacing (number / denominator) * multiple)
    (near : Near (multiple % 2 = 1) (denominator * units)
      (denominator * f.spacing (number / denominator)) number) :
    f.nearest number denominator = units := by
  obtain ⟨below, above, inside⟩ := near
  have weight := Nat.mul_pos pos (f.spacing_pos (number / denominator))
  have middle :
      denominator * units = denominator * f.spacing (number / denominator) * multiple := by
    rw [Nat.mul_assoc, ← exact]
  rw [middle] at below above inside
  rw [exact, Nat.mul_comm]
  simp only [nearest]
  generalize denominator * f.spacing (number / denominator) = w at *
  congr 1
  have split := Nat.div_add_mod number w
  have short := Nat.mod_lt number weight
  generalize number / w = q at *
  generalize number % w = r at *
  -- The quotient is the multiple or the one below it.
  have low : multiple ≤ q + 1 := by
    by_contra beyond
    have far := Nat.mul_le_mul_left w (show q + 2 ≤ multiple by omega)
    rw [Nat.mul_add] at far
    omega
  have high : q ≤ multiple := by
    by_contra beyond
    have far := Nat.mul_le_mul_left w (show multiple + 1 ≤ q by omega)
    rw [Nat.mul_add] at far
    omega
  obtain rfl | rfl : multiple = q ∨ multiple = q + 1 := by omega
  · split_ifs <;> omega
  · rw [Nat.mul_add] at *
    split_ifs <;> omega

/-- What a number rounds to is a multiple of its spacing near it. -/
theorem near_nearest (f : Format) (number : Nat) {denominator : Nat} (pos : 0 < denominator) :
    ∃ multiple, f.nearest number denominator = f.spacing (number / denominator) * multiple ∧
      Near (multiple % 2 = 1) (denominator * f.nearest number denominator)
        (denominator * f.spacing (number / denominator)) number := by
  have weight := Nat.mul_pos pos (f.spacing_pos (number / denominator))
  rw [nearest, Nat.mul_comm _ (f.spacing _)]
  refine ⟨_, rfl, ?_⟩
  rw [← Nat.mul_assoc]
  generalize denominator * f.spacing (number / denominator) = w at *
  have split := Nat.div_add_mod number w
  have short := Nat.mod_lt number weight
  generalize number / w = q at *
  generalize number % w = r at *
  rw [Nat.mul_add]
  split_ifs with small large
  · exact ⟨by omega, by omega, by omega⟩
  · exact ⟨by omega, by omega, by omega⟩
  · obtain even | odd := Nat.mod_two_eq_zero_or_one q
    · rw [even]
      exact ⟨by omega, by omega, by omega⟩
    · rw [odd]
      exact ⟨by omega, by omega, by omega⟩

/-- Below a power of two the values are twice as close. -/
def Narrow (f : Format) (units : Nat) : Prop :=
  units = 2 ^ (f.precision - 1) * f.spacing units ∧ 1 < f.spacing units

instance (f : Format) (units : Nat) : Decidable (f.Narrow units) :=
  inferInstanceAs (Decidable (_ ∧ _))

theorem narrow_iff (precise : 0 < f.precision) (units : Nat) :
    f.Narrow units ↔ units = 2 ^ units.log2 ∧ f.spacing units ≠ 1 := by
  have step := f.spacing_pos units
  rw [Narrow, show 1 < f.spacing units ↔ f.spacing units ≠ 1 by omega]
  refine and_congr_left fun wide => ?_
  have coarse := le_log2_of_spacing wide
  rw [spacing, ← Nat.pow_add]
  rw [show f.precision - 1 + (units.log2 + 1 - f.precision) = units.log2 by omega]

/-- Half a step up and half a step down; at an odd multiple of the spacing without the ends. -/
def Reaches (f : Format) (units number denominator : Nat) : Prop :=
  let middle := 4 * (denominator * units)
  let step := denominator * f.spacing units
  let below := if f.Narrow units then step else 2 * step
  middle ≤ 4 * number + below ∧ 4 * number ≤ middle + 2 * step ∧
    (units / f.spacing units % 2 = 1 →
      middle < 4 * number + below ∧ 4 * number < middle + 2 * step)

/-- What a number is short of a value, counted in units, its whole part is short of it too. -/
theorem units_lt {units number denominator times margin : Nat} (pos : 0 < denominator)
    (some : 0 < times)
    (h : times * (denominator * units) ≤ times * number + denominator * margin) :
    times * units < times * (number / denominator + 1) + margin := by
  have next := Nat.mul_lt_mul_of_pos_left (Nat.lt_mul_div_succ number pos) some
  refine Nat.lt_of_mul_lt_mul_left (a := denominator) ?_
  rw [Nat.mul_add, Nat.mul_left_comm, Nat.mul_left_comm denominator times]
  omega

section Sides

variable {units number denominator : Nat}

theorem nearest_of_same (pos : 0 < denominator) (holds : f.spacing units ∣ units)
    (same : f.spacing (number / denominator) = f.spacing units)
    (near : Near (units / f.spacing units % 2 = 1) (denominator * units)
      (denominator * f.spacing units) number) : f.nearest number denominator = units := by
  refine nearest_of_near pos ?_ (same.symm ▸ near)
  rw [same, Nat.mul_div_cancel' holds]

theorem nearest_of_above (precise : 0 < f.precision) (pos : 0 < denominator)
    (holds : f.spacing units ∣ units)
    (near : Near (units / f.spacing units % 2 = 1) (denominator * units)
      (denominator * f.spacing units) number)
    (above : denominator * units ≤ number) : f.nearest number denominator = units := by
  refine nearest_of_same pos holds (spacing_above precise holds ?_ ?_) near
  · exact (Nat.le_div_iff_mul_le pos).mpr (Nat.mul_comm _ _ ▸ above)
  · have whole := Nat.mul_div_le number denominator
    have high := near.above
    refine Nat.le_of_mul_le_mul_left ?_ pos
    rw [Nat.mul_add, Nat.mul_left_comm, Nat.mul_left_comm _ 2 units]
    omega

theorem nearest_of_below (precise : 0 < f.precision) (pos : 0 < denominator)
    (holds : f.spacing units ∣ units)
    (near : Near (units / f.spacing units % 2 = 1) (denominator * units)
      (denominator * f.spacing units) number)
    (under : number / denominator < units) (even : ¬ f.Narrow units) :
    f.nearest number denominator = units := by
  have short := units_lt pos Nat.two_pos near.below
  rw [narrow_iff precise, not_and_or, not_ne_iff] at even
  exact nearest_of_same pos holds (spacing_below precise holds even (by omega) under) near

/-- The spacing below a power of two divides it an even number of times. -/
theorem nearest_of_narrow (precise : 0 < f.precision) (pos : 0 < denominator)
    (holds : f.spacing units ∣ units)
    (low : 4 * (denominator * units) ≤ 4 * number + denominator * f.spacing units)
    (under : number < denominator * units) (narrow : f.Narrow units) :
    f.nearest number denominator = units := by
  have short := units_lt pos (by decide) low
  have inside : number / denominator < units :=
    (Nat.div_lt_iff_lt_mul pos).mpr (Nat.mul_comm _ _ ▸ under)
  obtain ⟨power, wide⟩ := (narrow_iff precise units).mp narrow
  have half : f.spacing units = 2 * f.spacing (number / denominator) :=
    spacing_narrow precise power wide (by omega) inside
  have exact : units = f.spacing (number / denominator) * (2 * (units / f.spacing units)) := by
    rw [← Nat.mul_assoc, Nat.mul_comm _ 2, ← half, Nat.mul_div_cancel' holds]
  rw [half, Nat.mul_left_comm _ 2] at low
  exact nearest_of_near pos exact ⟨by omega, by omega, by omega⟩

theorem nearest_of_reaches (precise : 0 < f.precision) (pos : 0 < denominator)
    (holds : f.spacing units ∣ units) (h : f.Reaches units number denominator) :
    f.nearest number denominator = units := by
  obtain ⟨low, high, inside⟩ := h
  by_cases above : denominator * units ≤ number
  · refine nearest_of_above precise pos holds ⟨by omega, by omega, fun odd => ?_⟩ above
    have strict := inside odd
    omega
  · by_cases narrow : f.Narrow units
    · rw [if_pos narrow] at low
      exact nearest_of_narrow precise pos holds low (Nat.not_le.mp above) narrow
    · have under : number / denominator < units :=
        (Nat.div_lt_iff_lt_mul pos).mpr (Nat.mul_comm _ _ ▸ Nat.not_le.mp above)
      rw [if_neg narrow] at low inside
      refine nearest_of_below precise pos holds ⟨by omega, by omega, fun odd => ?_⟩ under narrow
      have strict := inside odd
      omega

/-- Rounding leaves a number between the same two powers of two, or takes it to the upper one. -/
theorem log2_nearest (precise : 0 < f.precision) (pos : 0 < denominator) :
    (f.nearest number denominator).log2 = (number / denominator).log2 ∨
      f.nearest number denominator = 2 ^ ((number / denominator).log2 + 1) := by
  obtain ⟨multiple, exact, near⟩ := f.near_nearest number pos
  have multiples : f.spacing (number / denominator) ∣ f.nearest number denominator :=
    ⟨multiple, exact⟩
  have low : 2 * (number / denominator) ≤
      2 * f.nearest number denominator + f.spacing (number / denominator) := by
    have whole := Nat.mul_div_le number denominator
    have above := near.above
    refine Nat.le_of_mul_le_mul_left ?_ pos
    rw [Nat.mul_add, Nat.mul_left_comm, Nat.mul_left_comm _ 2 (f.nearest _ _)]
    omega
  have high := units_lt pos Nat.two_pos near.below
  have step := f.spacing_pos (number / denominator)
  have next : number / denominator < 2 ^ ((number / denominator).log2 + 1) := Nat.lt_log2_self
  have top : f.nearest number denominator ≤ 2 ^ ((number / denominator).log2 + 1) := by
    by_contra beyond
    have far := add_le_of_dvd (spacing_dvd_next precise _) multiples (Nat.not_le.mp beyond)
    omega
  obtain equal | below := top.eq_or_lt
  · exact .inr equal
  · left
    obtain zero | some := Nat.eq_zero_or_pos (number / denominator)
    · rw [zero] at below ⊢
      have small : f.nearest number denominator = 0 ∨ f.nearest number denominator = 1 := by
        have two : 2 ^ (Nat.log2 0 + 1) = 2 := rfl
        omega
      obtain rounds | rounds := small
      · rw [rounds]
      · rw [rounds]
        rfl
    · have first := Nat.log2_self_le some.ne'
      have bottom : 2 ^ (number / denominator).log2 ≤ f.nearest number denominator := by
        by_contra beyond
        have far := add_le_of_dvd multiples (spacing_dvd_binade precise le_rfl)
          (Nat.not_le.mp beyond)
        omega
      have leads := Nat.two_pow_pos (number / denominator).log2
      exact (Nat.log2_eq_iff (by omega)).mpr ⟨bottom, below⟩

/-- At the lower end of the spacing nothing is lost below. -/
theorem le_of_narrow (precise : 0 < f.precision) {value : Nat} (narrow : f.Narrow value)
    (same : value.log2 = (number / denominator).log2) : denominator * value ≤ number := by
  obtain ⟨power, wide⟩ := (narrow_iff precise value).mp narrow
  have coarse := le_log2_of_spacing wide
  have some : number / denominator ≠ 0 := by
    intro zero
    rw [zero, show Nat.log2 0 = 0 from rfl] at same
    omega
  have first := Nat.log2_self_le some
  rw [← same, ← power] at first
  exact (Nat.mul_le_mul_left denominator first).trans (Nat.mul_div_le number denominator)

/-- Rounded up to a power of two, a number had half the spacing, unless all values have the same
one. -/
theorem spacing_two_pow (precise : 1 < f.precision) {units leading : Nat}
    (power : units = 2 ^ (leading + 1)) :
    (f.Narrow units ∧ f.spacing units = 2 * 2 ^ (leading + 1 - f.precision) ∧
        units / f.spacing units % 2 = 0) ∨
      (¬ f.Narrow units ∧ f.spacing units = 2 ^ (leading + 1 - f.precision)) := by
  have top : units.log2 = leading + 1 := by rw [power, Nat.log2_two_pow]
  rw [narrow_iff (by omega), top]
  by_cases fine : leading + 1 < f.precision
  · have one : f.spacing units = 1 := by
      rw [spacing, top, Nat.sub_eq_zero_of_le (by omega), Nat.pow_zero]
    have below : 2 ^ (leading + 1 - f.precision) = 1 := by
      rw [Nat.sub_eq_zero_of_le (by omega), Nat.pow_zero]
    exact .inr ⟨fun narrow => narrow.2 one, one.trans below.symm⟩
  · have wide : f.spacing units = 2 * 2 ^ (leading + 1 - f.precision) := by
      rw [spacing, top, ← Nat.pow_succ']
      congr 1
      omega
    have step := Nat.two_pow_pos (leading + 1 - f.precision)
    refine .inl ⟨⟨power, by omega⟩, wide, ?_⟩
    have even : units = f.spacing units * (2 * 2 ^ (f.precision - 2)) := by
      rw [spacing, top, ← Nat.pow_succ', ← Nat.pow_add, power]
      congr 1
      omega
    rw [Nat.div_eq_of_eq_mul_right (f.spacing_pos units) even, Nat.mul_mod_right]

theorem reaches_nearest (precise : 1 < f.precision) (pos : 0 < denominator) :
    f.Reaches (f.nearest number denominator) number denominator := by
  obtain ⟨multiple, exact, near⟩ := f.near_nearest number pos
  obtain ⟨below, above, inside⟩ := near
  obtain same | power := @log2_nearest f number denominator (by omega) pos
  · rw [← spacing_congr same] at exact below above inside
    rw [← Nat.div_eq_of_eq_mul_right (f.spacing_pos _) exact] at inside
    rw [Reaches]
    split_ifs with narrow
    · have bottom := le_of_narrow (by omega) narrow same
      have step := Nat.mul_pos pos (f.spacing_pos (f.nearest number denominator))
      exact ⟨by omega, by omega, fun odd => ⟨by omega, by have strict := inside odd; omega⟩⟩
    · exact ⟨by omega, by omega, fun odd => by have strict := inside odd; omega⟩
  · have under : number < denominator * f.nearest number denominator := by
      rw [power, Nat.mul_comm, ← Nat.div_lt_iff_lt_mul pos]
      exact Nat.lt_log2_self
    obtain ⟨narrow, wide, even⟩ | ⟨even, one⟩ := spacing_two_pow precise power
    · rw [Reaches, if_pos narrow, even, wide, Nat.mul_left_comm _ 2]
      rw [spacing] at below
      exact ⟨by omega, by omega, by omega⟩
    · change f.spacing (f.nearest number denominator) = f.spacing (number / denominator) at one
      rw [← one] at exact below above inside
      rw [← Nat.div_eq_of_eq_mul_right (f.spacing_pos _) exact] at inside
      rw [Reaches, if_neg even]
      exact ⟨by omega, by omega, fun odd => by have strict := inside odd; omega⟩

theorem nearest_eq_iff (precise : 1 < f.precision) (pos : 0 < denominator)
    (holds : f.spacing units ∣ units) :
    f.nearest number denominator = units ↔ f.Reaches units number denominator := by
  constructor
  · rintro rfl
    exact reaches_nearest precise pos
  · exact nearest_of_reaches (by omega) pos holds

/-- What rounds to a value has no gaps. -/
theorem nearest_between {low high : Nat} (precise : 1 < f.precision) (pos : 0 < denominator)
    (holds : f.spacing units ∣ units) (left : f.nearest low denominator = units)
    (right : f.nearest high denominator = units) (above : low ≤ number) (below : number ≤ high) :
    f.nearest number denominator = units := by
  rw [nearest_eq_iff precise pos holds] at left right ⊢
  obtain ⟨low_below, _, low_inside⟩ := left
  obtain ⟨_, high_above, high_inside⟩ := right
  refine ⟨by omega, by omega, fun odd => ?_⟩
  have low_strict := low_inside odd
  have high_strict := high_inside odd
  omega

/-- Both terms of a ratio can be taken the same number of times. -/
theorem nearest_mul_left (f : Format) {times : Nat} (pos : 0 < times) (number denominator : Nat) :
    f.nearest (times * number) (times * denominator) = f.nearest number denominator := by
  simp only [nearest, Nat.mul_div_mul_left _ _ pos, Nat.mul_assoc times, Nat.mul_mod_mul_left,
    Nat.mul_left_comm 2 times, Nat.mul_lt_mul_left pos]

end Sides

end Format

end Assertions
