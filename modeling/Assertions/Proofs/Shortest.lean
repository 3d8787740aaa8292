import Assertions.Floating.Shortest
import Assertions.Proofs.RoundingReach
import Mathlib.Tactic.Ring

/-!
The shortest decimal reads back, and none that reads back is shorter. The search stays among the
decimals that round to the value. They have no gaps, so a grid with one of them has it next to
the value, where the search looks; a decimal of few digits lies on a coarse grid, or behind the
leading place of the value, which is on every grid.
-/

namespace Assertions

attribute [local instance (high)] instPowNat

variable {f : Format}

namespace Floating

namespace Reach

theorem contains_iff (f : Format) (units decimal : Nat) :
    (ofUnits f units).contains decimal = true ↔ f.Reaches units decimal (5 ^ f.scale) := by
  have half : 2 * f.spacing units * 5 ^ f.scale = 2 * (5 ^ f.scale * f.spacing units) := by
    rw [Nat.mul_assoc, Nat.mul_comm (f.spacing units)]
  have narrow : (decide (units = 2 ^ (f.precision - 1) * f.spacing units) &&
      decide (1 < f.spacing units)) = decide (f.Narrow units) := (Bool.decide_and _ _).symm
  simp only [Format.Reaches, ofUnits, contains, half, narrow, Nat.mul_comm units,
    Nat.mul_div_cancel_left _ Nat.two_pos, decide_eq_true_eq]
  split_ifs <;> simp only [Bool.and_eq_true, decide_eq_true_eq] <;> omega

theorem contains_iff_nearest (precise : 1 < f.precision) {units : Nat}
    (holds : f.spacing units ∣ units) (decimal : Nat) :
    (ofUnits f units).contains decimal = true ↔ f.nearest decimal (5 ^ f.scale) = units :=
  (contains_iff f units decimal).trans
    (Format.nearest_eq_iff precise (Nat.pow_pos (by decide)) holds).symm

theorem contains_exact (f : Format) (units : Nat) :
    (ofUnits f units).contains (units * 5 ^ f.scale) = true := by
  have step : 0 < 5 ^ f.scale * f.spacing units :=
    Nat.mul_pos (Nat.pow_pos (by decide)) (f.spacing_pos units)
  rw [contains_iff, Format.Reaches, Nat.mul_comm units]
  split_ifs <;> omega

section Search

variable {r : Reach} {exact : Nat}

theorem contains_between {low high decimal : Nat} (left : r.contains low = true)
    (right : r.contains high = true) (above : low ≤ decimal) (below : decimal ≤ high) :
    r.contains decimal = true := by
  revert left right
  simp only [contains]
  split <;> simp only [Bool.and_eq_true, decide_eq_true_eq] <;> omega

theorem onGrid_eq_some {places decimal : Nat} (h : r.onGrid exact places = some decimal) :
    r.contains decimal = true ∧ 10 ^ places ∣ decimal ∧
      decimal ≤ exact / 10 ^ places * 10 ^ places + 10 ^ places := by
  have low : 10 ^ places ∣ exact / 10 ^ places * 10 ^ places := Nat.dvd_mul_left _ _
  have high : 10 ^ places ∣ exact / 10 ^ places * 10 ^ places + 10 ^ places :=
    Nat.dvd_add low (Nat.dvd_refl _)
  simp only [onGrid] at h
  split at h
  · rename_i below above
    split at h <;> cases h
    · exact ⟨below, low, Nat.le_add_right _ _⟩
    · exact ⟨above, high, Nat.le_refl _⟩
  · rename_i below _
    cases h
    exact ⟨below, low, Nat.le_add_right _ _⟩
  · rename_i _ above
    cases h
    exact ⟨above, high, Nat.le_refl _⟩
  · cases h

/-- A grid with a decimal of the reach has one next to the value. -/
theorem onGrid_ne_none {places decimal : Nat} (itself : r.contains exact = true)
    (multiple : 10 ^ places ∣ decimal) (inside : r.contains decimal = true) :
    r.onGrid exact places ≠ none := by
  obtain ⟨count, rfl⟩ := multiple
  have step : 0 < 10 ^ places := Nat.pow_pos (by decide)
  have neighbour : r.contains (exact / 10 ^ places * 10 ^ places) = true ∨
      r.contains (exact / 10 ^ places * 10 ^ places + 10 ^ places) = true := by
    obtain below | above := Nat.lt_or_ge exact (10 ^ places * count)
    · right
      have next := Nat.mul_le_mul_left (10 ^ places)
        (Nat.div_lt_of_lt_mul below : exact / 10 ^ places < count)
      have split := Nat.lt_mul_div_succ exact step
      rw [Nat.mul_succ, Nat.mul_comm (10 ^ places) (exact / _)] at next
      rw [Nat.mul_add, Nat.mul_one, Nat.mul_comm (10 ^ places)] at split
      exact contains_between itself inside split.le next
    · left
      have count_le := Nat.mul_le_mul_right (10 ^ places)
        ((Nat.le_div_iff_mul_le step).mpr (Nat.mul_comm _ count ▸ above))
      rw [Nat.mul_comm count] at count_le
      exact contains_between inside itself count_le (Nat.div_mul_le_self _ _)
  simp only [onGrid]
  split
  · split <;> exact nofun
  · exact nofun
  · exact nofun
  · rename_i low high
    simp [low, high] at neighbour

theorem search_contains (itself : r.contains exact = true) (places : Nat) :
    r.contains (r.search exact places) = true := by
  induction places with
  | zero => exact itself
  | succ places ih =>
      rw [search]
      split
      · rename_i decimal found
        exact (onGrid_eq_some found).1
      · exact ih

/-- The search ends on the coarsest grid that has a decimal of the reach. -/
theorem search_grid (itself : r.contains exact = true) (places : Nat) :
    ∃ grid ≤ places, 10 ^ grid ∣ r.search exact places ∧
      r.search exact places ≤ exact / 10 ^ grid * 10 ^ grid + 10 ^ grid ∧
      ∀ place ≤ places, ∀ decimal, 10 ^ place ∣ decimal → r.contains decimal = true →
        place ≤ grid := by
  induction places with
  | zero =>
      refine ⟨0, Nat.le_refl 0, Nat.one_dvd _, ?_, fun place h _ _ _ => h⟩
      rw [search, Nat.pow_zero, Nat.div_one, Nat.mul_one]
      exact Nat.le_succ exact
  | succ places ih =>
      rw [search]
      split
      · rename_i decimal found
        obtain ⟨-, multiple, near⟩ := onGrid_eq_some found
        exact ⟨places + 1, Nat.le_refl _, multiple, near, fun place h _ _ _ => h⟩
      · rename_i empty
        obtain ⟨grid, low, multiple, near, coarsest⟩ := ih
        refine ⟨grid, Nat.le_succ_of_le low, multiple, near, ?_⟩
        intro place high decimal divides inside
        obtain below | rfl := Nat.le_or_eq_of_le_succ high
        · exact coarsest place below decimal divides inside
        · exact absurd empty (onGrid_ne_none itself divides inside)

end Search

end Reach

theorem nearest_shortest (precise : 1 < f.precision) {units : Nat}
    (holds : f.spacing units ∣ units) :
    f.nearest (shortest f units) (5 ^ f.scale) = units :=
  (Reach.contains_iff_nearest precise holds _).mp
    (Reach.search_contains (Reach.contains_exact f units) _)

/-- At most `count` digits, and then only zeros. -/
def Figures (count number : Nat) : Prop :=
  ∃ digits zeros, number = digits * 10 ^ zeros ∧ digits < 10 ^ count

/-- A number on a coarse grid has few figures, and so has the next power of ten. -/
theorem figures_of_grid {count length grid number : Nat} (some : 0 < count)
    (coarse : length ≤ grid + count) (multiple : 10 ^ grid ∣ number) (le : number ≤ 10 ^ length) :
    Figures count number := by
  obtain rfl | below := le.eq_or_lt
  · exact ⟨1, length, (Nat.one_mul _).symm, Nat.one_lt_pow some.ne' (by decide)⟩
  · obtain ⟨digits, rfl⟩ := multiple
    refine ⟨digits, grid, Nat.mul_comm _ _, ?_⟩
    have bound := below.trans_le (Nat.pow_le_pow_right (by decide) coarse)
    rw [Nat.pow_add] at bound
    exact Nat.lt_of_mul_lt_mul_left bound

theorem grid_le {exact grid length : Nat} (low : grid ≤ length) (short : exact < 10 ^ length) :
    exact / 10 ^ grid * 10 ^ grid + 10 ^ grid ≤ 10 ^ length := by
  rw [← Nat.succ_mul, ← Nat.sub_add_cancel low, Nat.pow_add] at *
  exact Nat.mul_le_mul_right _ ((Nat.div_lt_iff_lt_mul (Nat.pow_pos (by decide))).mpr short)

theorem length_toDigits_le {count number : Nat} (pos : 0 < number) :
    (Nat.toDigits 10 number).length ≤ count ↔ number < 10 ^ count := by
  cases count with
  | zero => exact iff_of_false (Nat.not_le.mpr Nat.length_toDigits_pos) (Nat.not_lt.mpr pos)
  | succ count => exact Nat.length_toDigits_le_iff (by decide) count.succ_pos

theorem exists_length {number : Nat} (pos : 0 < number) :
    ∃ length, (Nat.toDigits 10 number).length = length + 1 ∧ 10 ^ length ≤ number ∧
      number < 10 ^ (length + 1) := by
  obtain ⟨length, width⟩ : ∃ length, (Nat.toDigits 10 number).length = length + 1 :=
    Nat.exists_eq_add_one_of_ne_zero Nat.length_toDigits_pos.ne'
  refine ⟨length, width, ?_, (length_toDigits_le pos).mp width.le⟩
  by_contra below
  have fewer := (length_toDigits_le pos).mpr (Nat.not_le.mp below)
  omega

section Least

variable {units count digits zeros behind length : Nat}

/-- A decimal may have digits behind the last place of the format; the least place of both counts
them. -/
theorem nearest_common (f : Format) (digits zeros behind : Nat) :
    f.nearest (digits * 10 ^ (zeros + f.scale)) (10 ^ behind * 5 ^ f.scale) =
      f.nearest (digits * 10 ^ zeros * 2 ^ f.scale) (10 ^ behind) := by
  have parts : digits * 10 ^ (zeros + f.scale) =
      5 ^ f.scale * (digits * 10 ^ zeros * 2 ^ f.scale) := by
    rw [Nat.pow_add, show 10 = 2 * 5 from rfl, Nat.mul_pow _ _ f.scale]
    ring
  rw [parts, Nat.mul_comm (10 ^ behind), f.nearest_mul_left (Nat.pow_pos (by decide))]

/-- A decimal of few figures that rounds to a value leaves one on a coarse grid that does. -/
theorem exists_contains (precise : 1 < f.precision) (holds : f.spacing units ∣ units)
    (low : 10 ^ length ≤ units * 5 ^ f.scale) (high : units * 5 ^ f.scale < 10 ^ (length + 1))
    (some : 0 < count) (short : digits < 10 ^ count)
    (back : f.nearest (digits * 10 ^ zeros * 2 ^ f.scale) (10 ^ behind) = units) :
    ∃ decimal, 10 ^ (length + 1 - count) ∣ decimal ∧
      (Reach.ofUnits f units).contains decimal = true := by
  have ten : 0 < 10 ^ behind := Nat.pow_pos (by decide)
  have counted decimal : (Reach.ofUnits f units).contains decimal = true ↔
      f.nearest (10 ^ behind * decimal) (10 ^ behind * 5 ^ f.scale) = units := by
    rw [f.nearest_mul_left ten, Reach.contains_iff_nearest precise holds]
  have itself := (counted _).mp (Reach.contains_exact f units)
  rw [← nearest_common] at back
  have between {number low high : Nat} :=
    @Format.nearest_between f units number _ low high precise
      (Nat.mul_pos ten (Nat.pow_pos (by decide) : 0 < 5 ^ f.scale)) holds
  obtain below | inside := le_total (digits * 10 ^ (zeros + f.scale)) (10 ^ behind * 10 ^ length)
  · refine ⟨10 ^ length, Nat.pow_dvd_pow 10 (by omega), (counted _).mpr ?_⟩
    exact between back itself below (Nat.mul_le_mul_left _ low)
  · obtain above | - :=
      le_total (10 ^ behind * 10 ^ (length + 1)) (digits * 10 ^ (zeros + f.scale))
    · refine ⟨10 ^ (length + 1), Nat.pow_dvd_pow 10 (by omega), (counted _).mpr ?_⟩
      exact between itself back (Nat.mul_le_mul_left _ high.le) above
    · obtain fine | coarse := Nat.lt_or_ge length count
      · rw [Nat.sub_eq_zero_of_le fine]
        exact ⟨units * 5 ^ f.scale, Nat.one_dvd _, Reach.contains_exact f units⟩
      · -- With the leading place of the value, few digits end in many zeros.
        have places : behind + length < count + (zeros + f.scale) := by
          rw [← Nat.pow_lt_pow_iff_right (by decide : 1 < 10), Nat.pow_add, Nat.pow_add]
          exact inside.trans_lt (Nat.mul_lt_mul_of_pos_right short (Nat.pow_pos (by decide)))
        have whole : zeros + f.scale = behind + (zeros + f.scale - behind) := by omega
        refine ⟨digits * 10 ^ (zeros + f.scale - behind),
          Nat.dvd_mul_left_of_dvd (Nat.pow_dvd_pow 10 (by omega)) _, (counted _).mpr ?_⟩
        rwa [Nat.mul_left_comm, ← Nat.pow_add, ← whole]

theorem nearest_zero {denominator : Nat} (pos : 0 < denominator) :
    f.nearest 0 denominator = 0 := by
  have step := Nat.mul_pos pos (f.spacing_pos 0)
  simp [Format.nearest, step]

/-- No decimal that reads back has fewer figures than the shortest one. -/
theorem figures_shortest (precise : 1 < f.precision) (holds : f.spacing units ∣ units)
    (short : digits < 10 ^ count)
    (back : f.nearest (digits * 10 ^ zeros * 2 ^ f.scale) (10 ^ behind) = units) :
    Figures count (shortest f units) := by
  obtain rfl | pos := Nat.eq_zero_or_pos units
  · exact ⟨0, 0, by simp [shortest, Reach.search], Nat.pow_pos (by decide)⟩
  · have some : 0 < count := by
      by_contra none
      rw [Nat.eq_zero_of_not_pos none, Nat.pow_zero, Nat.lt_one_iff] at short
      rw [short, Nat.zero_mul, Nat.zero_mul, nearest_zero (Nat.pow_pos (by decide))] at back
      omega
    obtain ⟨length, width, low, high⟩ :=
      exists_length (Nat.mul_pos pos (Nat.pow_pos (by decide)) : 0 < units * 5 ^ f.scale)
    obtain ⟨decimal, multiple, inside⟩ := exists_contains precise holds low high some short back
    obtain ⟨grid, fits, divides, near, coarsest⟩ :=
      Reach.search_grid (Reach.contains_exact f units) length
    have place := coarsest _ (by omega) decimal multiple inside
    rw [shortest, width]
    exact figures_of_grid some (by omega) divides (near.trans (grid_le (by omega) high))

end Least

end Floating

end Assertions
