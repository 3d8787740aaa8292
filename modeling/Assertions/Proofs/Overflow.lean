import Assertions.Proofs.ToleranceLaws
import Mathlib.Tactic.Ring

/-!
Where rounding leaves the finite values. A number rounds to an infinity exactly when it is at least
half a distance beyond the greatest finite value, so an end of a band with a finite middle and a
finite margin can be infinite; an infinite value is within such a band exactly then.
-/

namespace Assertions

attribute [local instance (high)] instPowNat

variable {f : Format}

namespace Format

/-- Half the distance between the greatest finite values. -/
def halfTop (f : Format) : Nat :=
  2 ^ (2 ^ f.exponentWidth - 4)

/-- The least number of units that rounds to the bound. -/
def limit (f : Format) : Nat :=
  f.bound - f.halfTop

theorem halfTop_pos (f : Format) : 0 < f.halfTop :=
  Nat.two_pow_pos _

theorem bound_eq (wide : 1 < f.exponentWidth) : f.bound = 2 ^ f.precision * (2 * f.halfTop) := by
  have range : 2 ^ 2 ≤ 2 ^ f.exponentWidth := Nat.pow_le_pow_right (by decide) wide
  have top : f.precision + 2 ^ f.exponentWidth - 3 =
      f.precision + (2 ^ f.exponentWidth - 4 + 1) := by omega
  rw [bound, top, Nat.pow_add, Nat.pow_succ', halfTop]

theorem spacing_of_lt_bound {units : Nat} (wide : 1 < f.exponentWidth) (h : units < f.bound) :
    f.spacing units ≤ 2 * f.halfTop := by
  have range : 2 ^ 2 ≤ 2 ^ f.exponentWidth := Nat.pow_le_pow_right (by decide) wide
  obtain rfl | nonzero := Nat.eq_zero_or_pos units
  · have least : f.spacing 0 ≤ 2 ^ 1 := by
      refine Nat.pow_le_pow_right (by decide) ?_
      rw [show Nat.log2 0 = 0 from rfl]
      omega
    have pos := f.halfTop_pos
    omega
  · have short : units.log2 < f.precision + 2 ^ f.exponentWidth - 3 :=
      (Nat.log2_lt nonzero.ne').mpr h
    rw [halfTop, ← Nat.pow_succ']
    exact Nat.pow_le_pow_right (by decide) (by omega)

/-- The limit lies in the middle between the greatest value, which is odd, and the bound. -/
theorem limit_eq (wide : 1 < f.exponentWidth) :
    f.limit = (2 ^ f.precision - 1) * (2 * f.halfTop) + f.halfTop ∧
      f.limit + f.halfTop = f.bound := by
  obtain ⟨pred, even⟩ : ∃ pred, 2 ^ f.precision = pred + 1 :=
    ⟨2 ^ f.precision - 1, (Nat.sub_add_cancel Nat.one_le_two_pow).symm⟩
  have bound := bound_eq wide
  rw [limit, bound, even, Nat.add_sub_cancel, Nat.succ_mul]
  omega

theorem spacing_limit (precise : 0 < f.precision) (wide : 1 < f.exponentWidth) :
    f.spacing f.limit = 2 * f.halfTop := by
  have range : 2 ^ 2 ≤ 2 ^ f.exponentWidth := Nat.pow_le_pow_right (by decide) wide
  have pos := f.halfTop_pos
  obtain ⟨_, middle⟩ := limit_eq wide
  have leading : f.limit.log2 = f.precision + 2 ^ f.exponentWidth - 4 := by
    have bound := bound_eq wide
    have double : 2 ^ (f.precision - 1) + 2 ^ (f.precision - 1) = 2 ^ f.precision :=
      Nat.two_pow_pred_add_two_pow_pred precise
    have low : f.halfTop ≤ 2 ^ (f.precision - 1) * (2 * f.halfTop) := by
      have whole := Nat.mul_le_mul_right (2 * f.halfTop) (Nat.two_pow_pos (f.precision - 1))
      omega
    rw [← double, Nat.add_mul] at bound
    rw [Nat.log2_eq_iff (by omega)]
    constructor
    · have power : f.precision + 2 ^ f.exponentWidth - 4 =
          f.precision - 1 + (2 ^ f.exponentWidth - 4 + 1) := by omega
      rw [power, Nat.pow_add, Nat.pow_succ', ← halfTop]
      omega
    · have power : f.precision + 2 ^ f.exponentWidth - 4 + 1 =
          f.precision + 2 ^ f.exponentWidth - 3 := by omega
      rw [power, ← Format.bound]
      omega
  rw [spacing, leading, halfTop, ← Nat.pow_succ']
  congr 1
  omega

/-- A tie, and the greatest value is odd. -/
theorem nearest_limit (precise : 0 < f.precision) (wide : 1 < f.exponentWidth) :
    f.nearest f.limit 1 = f.bound := by
  have pos := f.halfTop_pos
  have odd : (2 ^ f.precision - 1) % 2 = 1 :=
    Nat.two_pow_sub_one_mod_two.trans (Nat.mod_eq_of_lt (Nat.one_lt_two_pow precise.ne'))
  have quotient : f.limit / (2 * f.halfTop) = 2 ^ f.precision - 1 := by
    rw [(limit_eq wide).1, Nat.mul_comm, Nat.mul_add_div (by omega), Nat.div_eq_of_lt (by omega),
      Nat.add_zero]
  have excess : f.limit % (2 * f.halfTop) = f.halfTop := by
    rw [(limit_eq wide).1, Nat.mul_comm, Nat.mul_add_mod, Nat.mod_eq_of_lt (by omega)]
  rw [nearest_one, spacing_limit precise wide, nearestMultiple, quotient, excess,
    if_neg (Nat.lt_irrefl _), if_neg (Nat.lt_irrefl _), odd,
    Nat.sub_add_cancel Nat.one_le_two_pow, bound_eq wide]

theorem nearest_lt_bound_iff (precise : 0 < f.precision) (wide : 1 < f.exponentWidth)
    (units : Nat) : f.nearest units 1 < f.bound ↔ units < f.limit := by
  obtain ⟨_, middle⟩ := limit_eq wide
  constructor
  · intro fits
    by_contra beyond
    have reached := nearest_mono precise (Nat.not_lt.mp beyond)
    rw [nearest_limit precise wide] at reached
    omega
  · intro below
    have near := (f.nearest_near units).1
    have step := spacing_of_lt_bound wide (show units < f.bound by omega)
    omega

end Format

namespace Floating

theorem infinite_le_rounded (precise : 0 < f.precision) (wide : 1 < f.exponentWidth) (units : Int) :
    (infinite false).le (rounded f units) = true ↔ (f.limit : Int) ≤ units := by
  have fits := Format.nearest_lt_bound_iff precise wide units.natAbs
  simp only [rounded, Format.round]
  split_ifs with finite
  · rw [fits] at finite
    simp only [le, Bool.false_eq_true, false_iff]
    omega
  · rw [fits] at finite
    by_cases negative : units < 0
    · simp only [negative, decide_true, le, Bool.false_eq_true, false_iff]
      omega
    · simp only [negative, decide_false, le, true_iff]
      omega

theorem rounded_ne_nan (units : Int) : rounded f units ≠ .nan := by
  simp only [rounded, Format.round]
  split_ifs <;> simp

theorem le_infinite_of_ne_nan {x : Floating} (defined : x ≠ .nan) : x.le (infinite false) := by
  obtain _ | (_ | _) | _ := x
  · exact absurd rfl defined
  · rfl
  · rfl
  · rfl

theorem number?_neg {x : Floating} {q : ℚ} (h : x.number? f = some q) :
    x.neg.number? f = some (-q) := by
  obtain ⟨negative, units, rfl, rfl⟩ := number?_eq_some h
  rw [neg, number?, signed_not, Int.cast_neg, neg_div]

end Floating

namespace Comparison

open Floating

open Format (binary64_precise binary64_wide)

variable {expected actual tolerance : Binary64} {e t : ℚ}

/-- In units of the least value these are powers of two that a word cannot count. -/
theorem limit_units :
    ((Format.binary64.limit : Int) : ℚ) / 2 ^ Format.binary64.scale = 2 ^ 1024 - 2 ^ 970 := by
  have units : Format.binary64.limit + 2 ^ 970 * 2 ^ 1074 = 2 ^ 1024 * 2 ^ 1074 := by
    decide +kernel
  have exact := congrArg (Nat.cast : ℕ → ℚ) units
  rw [Nat.cast_add, Nat.cast_mul, Nat.cast_mul, Nat.cast_pow, Nat.cast_pow, Nat.cast_pow,
    Nat.cast_ofNat] at exact
  have scale : Format.binary64.scale = 1074 := by decide
  rw [Int.cast_natCast, scale, div_eq_iff (by positivity), sub_mul, ← exact, add_sub_cancel_right]

theorem limit_le_iff (x y : Int) :
    2 ^ 1024 - 2 ^ 970 ≤
        (x : ℚ) / 2 ^ Format.binary64.scale + (y : ℚ) / 2 ^ Format.binary64.scale ↔
      (Format.binary64.limit : Int) ≤ x + y := by
  rw [← limit_units, ← add_div, div_le_div_iff_of_pos_right (by positivity), ← Int.cast_add,
    Int.cast_le]

theorem check_of_within (h : withinTolerance expected actual tolerance = true) (label : String) :
    Effect.check label (.tolerance expected actual tolerance) = pure () := by
  refine Effect.compare_of_equal label ?_
  rw [Assertion.comparison, Comparison.tolerance, h]
  rfl

theorem check_of_outside (h : withinTolerance expected actual tolerance = false) (label : String) :
    Effect.check label (.tolerance expected actual tolerance) =
      Effect.fail ⟨label, display .binary64 expected.value, display .binary64 actual.value⟩ := by
  refine Effect.compare_of_different label ?_
  rw [Assertion.comparison, Comparison.tolerance, h]
  rfl

theorem withinTolerance_above (expected_exact : expected.value.number? .binary64 = some e)
    (tolerance_exact : tolerance.value.number? .binary64 = some t)
    (above : actual.value = .infinite false) :
    withinTolerance expected actual tolerance = true ↔ 2 ^ 1024 - 2 ^ 970 ≤ e + t := by
  obtain ⟨s, x, expected_value, rfl⟩ := number?_eq_some expected_exact
  obtain ⟨u, y, tolerance_value, rfl⟩ := number?_eq_some tolerance_exact
  have low : (sub .binary64 (.finite s x) (.finite u y)).le (infinite false) = true := by
    rw [(tied_sub s u x y _).1]
    exact le_infinite_of_ne_nan (rounded_ne_nan _)
  rw [withinTolerance_iff, expected_value, tolerance_value, above, (tied_add s u x y _).2,
    infinite_le_rounded binary64_precise binary64_wide, limit_le_iff]
  exact and_iff_right low

/-- An infinite value passes only where the sum that makes the end of the band rounds to it. -/
theorem withinTolerance_infinite_iff {negative : Bool}
    (expected_exact : expected.value.number? .binary64 = some e)
    (tolerance_exact : tolerance.value.number? .binary64 = some t)
    (infinite : actual.value = .infinite negative) :
    withinTolerance expected actual tolerance = true ↔
      2 ^ 1024 - 2 ^ 970 ≤ (if negative then -e else e) + t := by
  cases negative with
  | false => exact withinTolerance_above expected_exact tolerance_exact infinite
  | true =>
      have mirrored : expected.neg.value.number? .binary64 = some (-e) := by
        rw [Binary.value_neg _ binary64_precise binary64_wide]
        exact number?_neg expected_exact
      have above : actual.neg.value = .infinite false := by
        rw [Binary.value_neg _ binary64_precise binary64_wide, infinite]
        rfl
      rw [← withinTolerance_neg]
      exact withinTolerance_above mirrored tolerance_exact above

/-- With a finite expected value and a finite margin, an infinite value passes where the end of the
band overflows, and every other check of one fails. -/
theorem check_of_infinite {negative : Bool}
    (expected_exact : expected.value.number? .binary64 = some e)
    (tolerance_exact : tolerance.value.number? .binary64 = some t)
    (infinite : actual.value = .infinite negative) :
    (withinTolerance expected actual tolerance = true ↔
        2 ^ 1024 - 2 ^ 970 ≤ (if negative then -e else e) + t) ∧
      ∀ label, Effect.check label (.tolerance expected actual tolerance) =
        if 2 ^ 1024 - 2 ^ 970 ≤ (if negative then -e else e) + t then pure ()
        else Effect.fail ⟨label, display .binary64 expected.value,
          if negative then "-inf" else "inf"⟩ := by
  have reached := withinTolerance_infinite_iff expected_exact tolerance_exact infinite
  refine ⟨reached, fun label => ?_⟩
  have shown : display .binary64 actual.value = if negative then "-inf" else "inf" := by
    rw [infinite]
    cases negative <;> rfl
  by_cases overflows : 2 ^ 1024 - 2 ^ 970 ≤ (if negative then -e else e) + t
  · rw [if_pos overflows, check_of_within (reached.mpr overflows)]
  · have outside := Bool.eq_false_iff.mpr fun within => overflows (reached.mp within)
    rw [if_neg overflows, check_of_outside outside, shown]

/-- The greatest finite value plus itself is too large for a word, and so is its mirror image. -/
theorem withinTolerance_of_overflow :
    let greatest := Binary.ofNat .binary64 0x7fefffffffffffff
    greatest.value = .finite false ((2 ^ 53 - 1) * 2 ^ 2045) ∧
      withinTolerance greatest (.ofValue _ (.infinite false)) greatest = true ∧
      withinTolerance greatest.neg (.ofValue _ (.infinite true)) greatest = true := by
  decide +kernel

/-- Half a spacing is the least margin with which the band around the greatest value overflows. -/
theorem check_of_infinite_greatest :
    let greatest := Binary.ofNat .binary64 0x7fefffffffffffff
    let infinity := Binary.ofNat .binary64 0x7ff0000000000000
    let half := Binary.ofNat .binary64 0x7c90000000000000
    let less := Binary.ofNat .binary64 0x7c8fffffffffffff
    withinTolerance greatest infinity half = true ∧
      ∀ label, Effect.check label (.tolerance greatest infinity less) =
        Effect.fail ⟨label, display .binary64 greatest.value, "inf"⟩ := by
  intro greatest infinity half less
  have greatest_value : greatest.value = .finite false ((2 ^ 53 - 1) * 2 ^ 2045) := by
    decide +kernel
  have half_value : half.value = .finite false (2 ^ 52 * 2 ^ 1992) := by decide +kernel
  have less_value : less.value = .finite false ((2 ^ 53 - 1) * 2 ^ 1991) := by decide +kernel
  have infinite : infinity.value = .infinite false := by decide +kernel
  have greatest_exact := congrArg (number? .binary64) greatest_value
  have half_exact := congrArg (number? .binary64) half_value
  have less_exact := congrArg (number? .binary64) less_value
  constructor
  · refine (check_of_infinite greatest_exact half_exact infinite).1.mpr ?_
    rw [if_neg Bool.false_ne_true, limit_le_iff]
    decide +kernel
  · intro label
    rw [(check_of_infinite greatest_exact less_exact infinite).2 label, if_neg, if_neg]
    · exact Bool.false_ne_true
    · rw [if_neg Bool.false_ne_true, limit_le_iff]
      decide +kernel

end Comparison

end Assertions
