import Assertions.Floating.Rounding
import Mathlib.Algebra.Order.Group.Nat

/-!
Rounding keeps what a word can hold. The units of a finite word are a multiple of the distance to
their neighbours and stay below the bound of the format, so they round to themselves; adding or
taking away a zero therefore changes a word at most in the sign of a zero, which no order sees.
-/

namespace Assertions

attribute [local instance (high)] instPowNat

variable {f : Format}

namespace Format

theorem spacing_pos (f : Format) (units : Nat) : 0 < f.spacing units :=
  Nat.two_pow_pos _

/-- The multiple of `step` nearest to `units`, ties to the even multiple. -/
def nearestMultiple (step units : Nat) : Nat :=
  let excess := units % step
  let up := if 2 * excess < step then 0 else if step < 2 * excess then 1 else units / step % 2
  (units / step + up) * step

theorem nearest_one (f : Format) (units : Nat) :
    f.nearest units 1 = nearestMultiple (f.spacing units) units := by
  simp only [nearest, nearestMultiple, Nat.div_one, Nat.one_mul]

theorem nearestMultiple_of_dvd {step units : Nat} (pos : 0 < step)
    (h : step ∣ units) :
    nearestMultiple step units = units := by
  simp only [nearestMultiple, Nat.mod_eq_zero_of_dvd h]
  rw [Nat.mul_zero, if_pos pos, Nat.add_zero, Nat.div_mul_cancel h]

/-- The units of a value: a multiple of the distance to its neighbours, below the bound. -/
structure Holds (f : Format) (units : Nat) : Prop where
  dvd : f.spacing units ∣ units
  lt : units < f.bound

theorem nearest_of_dvd {units : Nat} (h : f.spacing units ∣ units) : f.nearest units 1 = units := by
  rw [nearest_one, nearestMultiple_of_dvd (f.spacing_pos units) h]

theorem Holds.round {units : Nat} (h : f.Holds units) (negative : Bool) :
    f.round negative units 1 = .finite negative units := by
  rw [Format.round, nearest_of_dvd h.dvd, if_pos h.lt]

/-- Without the leading bit the values are the whole numbers of units. -/
theorem spacing_dvd_small {units : Nat} (h : units < 2 ^ (f.precision - 1)) :
    f.spacing units ∣ units := by
  by_cases zero : units = 0
  · rw [zero]
    exact Nat.dvd_zero _
  · have short : units.log2 < f.precision - 1 := (Nat.log2_lt zero).mpr h
    have whole : units.log2 + 1 - f.precision = 0 := by omega
    rw [spacing, whole]
    exact Nat.one_dvd _

theorem log2_normal {significand shift : Nat} (precise : 0 < f.precision)
    (low : 2 ^ (f.precision - 1) ≤ significand) (high : significand < 2 ^ f.precision) :
    (significand * 2 ^ shift).log2 + 1 = f.precision + shift := by
  have pos : 0 < significand := Nat.lt_of_lt_of_le (Nat.two_pow_pos _) low
  have above : significand * 2 ^ shift ≠ 0 :=
    Nat.ne_of_gt (Nat.mul_pos pos (Nat.two_pow_pos _))
  have same : (significand * 2 ^ shift).log2 = f.precision - 1 + shift := by
    rw [Nat.log2_eq_iff above]
    constructor
    · rw [Nat.pow_add]
      exact Nat.mul_le_mul_right _ low
    · have length : f.precision - 1 + shift + 1 = f.precision + shift := by omega
      rw [length, Nat.pow_add]
      exact Nat.mul_lt_mul_of_pos_right high (Nat.two_pow_pos _)
  omega

theorem spacing_dvd_normal {significand shift : Nat} (precise : 0 < f.precision)
    (low : 2 ^ (f.precision - 1) ≤ significand) (high : significand < 2 ^ f.precision) :
    f.spacing (significand * 2 ^ shift) ∣ significand * 2 ^ shift := by
  rw [spacing, log2_normal precise low high, Nat.add_sub_cancel_left]
  exact Nat.dvd_mul_left _ _

end Format

/-- What a finite word counts is a value of its format. -/
theorem Binary.holds_value {x : Binary f} {negative : Bool} {units : Nat}
    (precise : 0 < f.precision) (wide : 1 < f.exponentWidth)
    (h : x.value = .finite negative units) : f.Holds units := by
  have fraction : x.fraction < 2 ^ (f.precision - 1) := Nat.mod_lt _ (Nat.two_pow_pos _)
  have exponent : x.exponent < 2 ^ f.exponentWidth := Nat.mod_lt _ (Nat.two_pow_pos _)
  have double : 2 ^ (f.precision - 1) + 2 ^ (f.precision - 1) = 2 ^ f.precision :=
    Nat.two_pow_pred_add_two_pow_pred precise
  have range : 2 ^ 2 ≤ 2 ^ f.exponentWidth := Nat.pow_le_pow_right (by decide) wide
  rw [value] at h
  split at h
  · split at h <;> cases h
  · rename_i finite
    split at h
    · cases h
      refine ⟨Format.spacing_dvd_small fraction, ?_⟩
      refine Nat.lt_of_lt_of_le fraction (Nat.pow_le_pow_right (by decide) ?_)
      omega
    · cases h
      have low : 2 ^ (f.precision - 1) ≤ 2 ^ (f.precision - 1) + x.fraction := Nat.le_add_right _ _
      have high : 2 ^ (f.precision - 1) + x.fraction < 2 ^ f.precision := by omega
      refine ⟨Format.spacing_dvd_normal precise low high, ?_⟩
      have top : f.precision + 2 ^ f.exponentWidth - 3 =
          f.precision + (2 ^ f.exponentWidth - 3) := by omega
      rw [Format.bound, top, Nat.pow_add]
      refine Nat.lt_of_lt_of_le (Nat.mul_lt_mul_of_pos_right high (Nat.two_pow_pos _)) ?_
      exact Nat.mul_le_mul_left _ (Nat.pow_le_pow_right (by decide) (by omega))

namespace Floating

theorem signed_zero (negative : Bool) : signed negative 0 = 0 := by
  cases negative <;> rfl

theorem signed_of_sign {negative : Bool} {units : Nat} (h : signed negative units ≠ 0) :
    signed (decide (signed negative units < 0)) (signed negative units).natAbs =
      signed negative units := by
  cases negative with
  | true =>
      have below : signed true units < 0 := by
        change -(units : Int) < 0
        change -(units : Int) ≠ 0 at h
        omega
      rw [decide_eq_true below]
      change -((-(units : Int)).natAbs : Int) = -(units : Int)
      rw [Int.natAbs_neg, Int.natAbs_natCast]
  | false =>
      have above : ¬ signed false units < 0 := Int.not_lt.mpr (Int.natCast_nonneg units)
      rw [decide_eq_false above]
      rfl

/-- Values that no order tells apart. -/
def Tied (x y : Floating) : Prop :=
  ∀ z, x.le z = y.le z ∧ z.le x = z.le y

theorem tied_finite {s t : Bool} {x y : Nat} (h : signed s x = signed t y) :
    Tied (.finite s x) (.finite t y) := by
  intro z
  cases z with
  | nan => exact ⟨rfl, rfl⟩
  | infinite negative => cases negative <;> exact ⟨rfl, rfl⟩
  | finite negative units => simp only [le, h, and_self]

/-- Adding a zero of either sign gives the value itself, up to the sign of a zero. -/
theorem tied_add_zero {x : Binary f} (precise : 0 < f.precision) (wide : 1 < f.exponentWidth)
    (negative : Bool) : Tied (add f x.value (.finite negative 0)) x.value := by
  cases value : x.value with
  | nan | infinite _ => exact fun _ => ⟨rfl, rfl⟩
  | finite sign units =>
      have holds := x.holds_value precise wide value
      have size : (signed sign units).natAbs = units := by
        cases sign <;> simp [signed]
      simp only [add, signed_zero, Int.add_zero]
      split
      · rename_i zero
        refine tied_finite ?_
        rw [signed_zero, zero]
      · rename_i nonzero
        rw [size, holds.round]
        refine tied_finite ?_
        have sign := signed_of_sign nonzero
        rw [size] at sign
        exact sign

/-- Each of two values is at most the other exactly when they are the same number. -/
theorem le_and_le (x y : Floating) : (x.le y && y.le x) = x.same y := by
  cases x with
  | nan => rfl
  | infinite s =>
      cases y with
      | nan => cases s <;> rfl
      | infinite t => cases s <;> cases t <;> rfl
      | finite t n => cases s <;> rfl
  | finite s m =>
      cases y with
      | nan => rfl
      | infinite t => cases t <;> rfl
      | finite t n =>
          simp only [le, same, ← Bool.decide_and]
          rw [Bool.eq_iff_iff, decide_eq_true_iff, beq_iff_eq]
          exact Int.le_antisymm_iff.symm

end Floating

end Assertions
