import Assertions.Proofs.Rounding
import Mathlib.Data.Nat.Log

/-!
Rounding keeps the order. Between two powers of two the spacing does not change, and rounding to
multiples of one step is monotone; across a power of two both sides are compared with the power
itself, which every spacing in question divides.
-/

namespace Assertions

attribute [local instance (high)] instPowNat

variable {f : Format}

namespace Format

theorem nearestMultiple_mono {x y : Nat} (step : Nat) (h : x ≤ y) :
    nearestMultiple step x ≤ nearestMultiple step y := by
  refine Nat.mul_le_mul_right step ?_
  obtain quotient | quotient := Nat.eq_or_lt_of_le (Nat.div_le_div_right (c := step) h)
  · -- The quotients agree, so the remainders decide.
    have x_split := Nat.div_add_mod x step
    have y_split := Nat.div_add_mod y step
    rw [quotient] at x_split ⊢
    have remainder : x % step ≤ y % step := by omega
    refine Nat.add_le_add_left ?_ _
    split_ifs <;> omega
  · have x_up : (if 2 * (x % step) < step then 0
        else if step < 2 * (x % step) then 1 else x / step % 2) ≤ 1 := by
      split_ifs <;> omega
    omega

/-- Rounding moves a number by half a step at most. -/
theorem nearestMultiple_near {step units : Nat} (pos : 0 < step) :
    2 * nearestMultiple step units ≤ 2 * units + step ∧
      2 * units ≤ 2 * nearestMultiple step units + step := by
  have split := Nat.div_add_mod units step
  have below := Nat.mod_lt units pos
  simp only [nearestMultiple, Nat.add_mul, Nat.mul_comm (units / step) step]
  split_ifs with small large
  · omega
  · omega
  · obtain even | odd := Nat.mod_two_eq_zero_or_one (units / step)
    · rw [even]
      omega
    · rw [odd]
      omega

theorem log2_mono {x y : Nat} (h : x ≤ y) : x.log2 ≤ y.log2 := by
  rw [Nat.log2_eq_log_two, Nat.log2_eq_log_two]
  exact Nat.log_mono_right h

theorem spacing_mono {x y : Nat} (h : x ≤ y) : f.spacing x ≤ f.spacing y := by
  have binades := log2_mono h
  exact Nat.pow_le_pow_right (by decide) (by omega)

theorem spacing_dvd_binade {x y : Nat} (precise : 0 < f.precision) (h : x.log2 ≤ y.log2) :
    f.spacing x ∣ 2 ^ y.log2 :=
  Nat.pow_dvd_pow 2 (by omega)

theorem nearest_mono (precise : 0 < f.precision) {x y : Nat} (h : x ≤ y) :
    f.nearest x 1 ≤ f.nearest y 1 := by
  rw [nearest_one, nearest_one]
  obtain same | below := Nat.eq_or_lt_of_le (log2_mono h)
  · have spacing : f.spacing x = f.spacing y := by rw [Format.spacing, same, Format.spacing]
    rw [spacing]
    exact nearestMultiple_mono _ h
  · have nonzero : y ≠ 0 := by
      rintro rfl
      exact Nat.not_lt_zero _ below
    have x_below : x ≤ 2 ^ y.log2 :=
      Nat.lt_log2_self.le.trans (Nat.pow_le_pow_right (by decide) below)
    have y_above : 2 ^ y.log2 ≤ y := Nat.log2_self_le nonzero
    calc nearestMultiple (f.spacing x) x
        ≤ nearestMultiple (f.spacing x) (2 ^ y.log2) :=
          nearestMultiple_mono _ x_below
      _ = 2 ^ y.log2 :=
          nearestMultiple_of_dvd (f.spacing_pos x) (spacing_dvd_binade precise below.le)
      _ = nearestMultiple (f.spacing y) (2 ^ y.log2) :=
          (nearestMultiple_of_dvd (f.spacing_pos y) (spacing_dvd_binade precise le_rfl)).symm
      _ ≤ nearestMultiple (f.spacing y) y := nearestMultiple_mono _ y_above

/-- A positive number of units is at least the distance to its neighbours. -/
theorem spacing_le (precise : 0 < f.precision) {units : Nat} (pos : 0 < units) :
    f.spacing units ≤ units :=
  (Nat.pow_le_pow_right (by decide) (by omega)).trans (Nat.log2_self_le pos.ne')

theorem nearest_near (f : Format) (units : Nat) :
    2 * f.nearest units 1 ≤ 2 * units + f.spacing units ∧
      2 * units ≤ 2 * f.nearest units 1 + f.spacing units := by
  rw [nearest_one]
  exact nearestMultiple_near (f.spacing_pos units)

theorem binary64_precise : 0 < binary64.precision := by decide

theorem binary64_wide : 1 < binary64.exponentWidth := by decide

end Format

namespace Floating

theorem le_trans {x y z : Floating} (left : x.le y) (right : y.le z) : x.le z := by
  obtain _ | (_ | _) | ⟨s, m⟩ := x <;> obtain _ | (_ | _) | ⟨t, n⟩ := y <;>
    obtain _ | (_ | _) | ⟨u, k⟩ := z <;> simp [le] at left right ⊢
  exact left.trans right

theorem same_of_le {x y : Floating} (left : x.le y) (right : y.le x) : x.same y := by
  rw [← le_and_le, left, right]
  rfl

theorem le_of_same {x y : Floating} (h : x.same y) : x.le y ∧ y.le x := by
  rw [← le_and_le] at h
  exact Bool.and_eq_true_iff.mp h

theorem infinite_le {x y : Floating} (h : x.le y) : (infinite true).le x := by
  cases x with
  | nan => cases h
  | infinite _ | finite _ _ => rfl

theorem le_infinite {x y : Floating} (h : x.le y) : y.le (infinite false) := by
  obtain _ | (_ | _) | ⟨t, n⟩ := y
  · cases x with
    | nan | finite _ _ => cases h
    | infinite negative => cases negative <;> cases h
  · rfl
  · rfl
  · rfl

theorem Tied.symm {x y : Floating} (h : Tied x y) : Tied y x :=
  fun z => ⟨(h z).1.symm, (h z).2.symm⟩

theorem signed_not (negative : Bool) (units : Nat) :
    signed (!negative) units = -signed negative units := by
  cases negative <;> simp [signed]

/-- Both signs turned round, so is the order. -/
theorem neg_le_neg (x y : Floating) : x.neg.le y.neg = y.le x := by
  obtain _ | (_ | _) | ⟨s, m⟩ := x <;> obtain _ | (_ | _) | ⟨t, n⟩ := y <;>
    simp [le, neg, signed_not]

theorem natAbs_signed (negative : Bool) (units : Nat) : (signed negative units).natAbs = units := by
  cases negative <;> simp [signed]

theorem round_not (negative : Bool) (units : Nat) :
    f.round (!negative) units 1 = (f.round negative units 1).neg := by
  simp only [Format.round]
  split <;> rfl

theorem round_mono (precise : 0 < f.precision) {x y : Nat} (h : x ≤ y) :
    (f.round false x 1).le (f.round false y 1) := by
  have nearest := Format.nearest_mono precise h
  simp only [Format.round]
  split_ifs with x_fits y_fits y_fits
  · simpa [le, signed] using nearest
  · rfl
  · omega
  · rfl

theorem round_signs (x y : Nat) : (f.round true x 1).le (f.round false y 1) := by
  simp only [Format.round]
  split_ifs <;> simp [le, signed]

/-- The value nearest to a whole number of units. -/
def rounded (f : Format) (units : Int) : Floating :=
  f.round (decide (units < 0)) units.natAbs 1

theorem rounded_mono (precise : 0 < f.precision) {x y : Int} (h : x ≤ y) :
    (rounded f x).le (rounded f y) := by
  simp only [rounded]
  by_cases x_negative : x < 0 <;> by_cases y_negative : y < 0
  · have sizes := round_mono precise (show y.natAbs ≤ x.natAbs by omega)
    rw [← neg_le_neg, ← round_not, ← round_not] at sizes
    simpa [x_negative, y_negative] using sizes
  · simpa [x_negative, y_negative] using round_signs x.natAbs y.natAbs
  · omega
  · have sizes := round_mono precise (show x.natAbs ≤ y.natAbs by omega)
    simpa [x_negative, y_negative] using sizes

/-- What the format holds rounds to itself. -/
theorem tied_rounded {units : Nat} (h : f.Holds units) (negative : Bool) :
    Tied (rounded f (signed negative units)) (.finite negative units) := by
  rw [rounded, natAbs_signed, h.round]
  refine tied_finite ?_
  by_cases zero : signed negative units = 0
  · have none : units = 0 := by rw [← natAbs_signed negative units, zero, Int.natAbs_zero]
    rw [none, signed_zero, signed_zero]
  · have sign := signed_of_sign zero
    rwa [natAbs_signed] at sign

theorem tied_add (s t : Bool) (x y : Nat) :
    Tied (add f (.finite s x) (.finite t y)) (rounded f (signed s x + signed t y)) := by
  simp only [add]
  split
  · rename_i zero
    have holds : f.Holds 0 := ⟨Nat.dvd_zero _, Nat.two_pow_pos _⟩
    have tied := tied_rounded holds (s && t)
    rw [signed_zero] at tied
    rw [zero]
    exact tied.symm
  · exact fun z => ⟨rfl, rfl⟩

theorem tied_sub (s t : Bool) (x y : Nat) :
    Tied (sub f (.finite s x) (.finite t y)) (rounded f (signed s x - signed t y)) := by
  have tied := tied_add (f := f) s (!t) x y
  rwa [signed_not, ← Int.sub_eq_add_neg] at tied

theorem Tied.le_finite {x : Floating} {units : Int} {r : Bool} {a : Nat} (precise : 0 < f.precision)
    (tied : Tied x (rounded f units)) (holds : f.Holds a) (h : units ≤ signed r a) :
    x.le (.finite r a) := by
  rw [(tied _).1, ← (tied_rounded holds r _).2]
  exact rounded_mono precise h

theorem Tied.finite_le {x : Floating} {units : Int} {r : Bool} {a : Nat} (precise : 0 < f.precision)
    (tied : Tied x (rounded f units)) (holds : f.Holds a) (h : signed r a ≤ units) :
    (finite r a).le x := by
  rw [(tied _).2, ← (tied_rounded holds r _).1]
  exact rounded_mono precise h

theorem Tied.same_eq {x y : Floating} (h : Tied x y) (z : Floating) : x.same z = y.same z := by
  rw [← le_and_le, ← le_and_le, (h z).1, (h z).2]

/-- A number of units is at most half a distance away from what it rounds to. -/
theorem rounded_near {units : Int} {s : Bool} {x : Nat}
    (h : (rounded f units).same (.finite s x)) :
    2 * (units - signed s x).natAbs ≤ f.spacing units.natAbs := by
  obtain ⟨above, below⟩ := f.nearest_near units.natAbs
  simp only [rounded, Format.round] at h
  split at h
  · have nearest : signed (decide (units < 0)) (f.nearest units.natAbs 1) = signed s x := by
      simpa [same] using h
    rw [← nearest]
    by_cases negative : units < 0
    · simp only [signed, negative, decide_true, if_true]
      omega
    · simp only [signed, negative, decide_false, Bool.false_eq_true, if_false]
      omega
  · cases h

end Floating

end Assertions
