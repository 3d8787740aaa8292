import Assertions.Proofs.AssertionContract
import Assertions.Proofs.RoundingOrder
import Mathlib.Algebra.Order.Field.Basic
import Mathlib.Data.Rat.Cast.Order
import Mathlib.Tactic.NormNum
import Mathlib.Tactic.Positivity

/-!
The band of the tolerance rule against the numbers that its three words stand for. Both ends are
rounded, so the rule admits at most an end itself where the exact band ends before it, and never
loses a value of the exact band; and where rounding takes a negative tolerance back to the expected
value, the band that should be empty holds that value.
-/

namespace Assertions

attribute [local instance (high)] instPowNat

variable {f : Format}

namespace Floating

/-- The number that a finite value stands for. -/
def number? (f : Format) : Floating → Option ℚ
  | .finite negative units => some (signed negative units / 2 ^ f.scale)
  | .nan | .infinite _ => none

def zero : Floating := .finite false 0

/-- Strictly below, as numbers. -/
def lt (x y : Floating) : Bool :=
  x.le y && !y.le x

/-- Adding the second value to the first and taking it away both round back to the first. -/
structure Absorbs (f : Format) (x y : Floating) : Prop where
  above : (add f x y).same x
  below : (sub f x y).same x

theorem number?_eq_some {x : Floating} {q : ℚ} (h : x.number? f = some q) :
    ∃ negative units, x = .finite negative units ∧ q = signed negative units / 2 ^ f.scale := by
  cases x with
  | nan | infinite _ => cases h
  | finite negative units => exact ⟨negative, units, rfl, (Option.some.inj h).symm⟩

/-- Distances of exact values are distances of their units. -/
theorem abs_sub_le_units (f : Format) (a e t : Int) :
    |(a : ℚ) / 2 ^ f.scale - e / 2 ^ f.scale| ≤ t / 2 ^ f.scale ↔ e - t ≤ a ∧ a ≤ e + t := by
  have pos : (0 : ℚ) < 2 ^ f.scale := by positivity
  rw [← sub_div, abs_div, abs_of_pos pos, div_le_div_iff_of_pos_right pos, abs_le]
  norm_cast
  omega

end Floating

namespace Comparison

open Floating

open Format (binary64_precise binary64_wide)

theorem withinTolerance_iff (expected actual tolerance : Binary64) :
    withinTolerance expected actual tolerance = true ↔
      (sub .binary64 expected.value tolerance.value).le actual.value ∧
        actual.value.le (add .binary64 expected.value tolerance.value) := by
  rw [withinTolerance, Bool.and_eq_true_iff]

variable {expected actual tolerance : Binary64} {e t a : ℚ}

/-- Rounding loses no value of the exact band. -/
theorem withinTolerance_of_exact (expected_exact : expected.value.number? .binary64 = some e)
    (tolerance_exact : tolerance.value.number? .binary64 = some t)
    (actual_exact : actual.value.number? .binary64 = some a) (within : |a - e| ≤ t) :
    withinTolerance expected actual tolerance = true := by
  obtain ⟨s, x, expected_value, rfl⟩ := number?_eq_some expected_exact
  obtain ⟨u, y, tolerance_value, rfl⟩ := number?_eq_some tolerance_exact
  obtain ⟨r, z, actual_value, rfl⟩ := number?_eq_some actual_exact
  have holds := actual.holds_value binary64_precise binary64_wide actual_value
  obtain ⟨above, below⟩ := (abs_sub_le_units _ _ _ _).mp within
  rw [withinTolerance_iff, expected_value, tolerance_value, actual_value]
  exact ⟨(tied_sub s u x y).le_finite binary64_precise holds above,
    (tied_add s u x y).finite_le binary64_precise holds below⟩

/-- What the rule admits beyond the exact band is an end of the rounded one. -/
theorem end_of_withinTolerance (expected_exact : expected.value.number? .binary64 = some e)
    (tolerance_exact : tolerance.value.number? .binary64 = some t)
    (beyond : ∀ a, actual.value.number? .binary64 = some a → t < |a - e|)
    (within : withinTolerance expected actual tolerance = true) :
    actual.value.same (sub .binary64 expected.value tolerance.value) ∨
      actual.value.same (add .binary64 expected.value tolerance.value) := by
  obtain ⟨low, high⟩ := (withinTolerance_iff _ _ _).mp within
  cases actual_value : actual.value with
  | nan =>
      rw [actual_value] at high
      cases high
  | infinite negative =>
      rw [actual_value] at low high
      cases negative with
      | true => exact .inl (same_of_le (infinite_le low) low)
      | false => exact .inr (same_of_le high (le_infinite high))
  | finite r z =>
      obtain ⟨s, x, expected_value, rfl⟩ := number?_eq_some expected_exact
      obtain ⟨u, y, tolerance_value, rfl⟩ := number?_eq_some tolerance_exact
      rw [expected_value, tolerance_value, actual_value] at low high
      rw [expected_value, tolerance_value]
      have holds := actual.holds_value binary64_precise binary64_wide actual_value
      have outside := beyond _ (by rw [actual_value]; rfl)
      rw [← not_le, abs_sub_le_units, not_and_or, not_le, not_le] at outside
      obtain before | behind := outside
      · exact .inl (same_of_le ((tied_sub s u x y).finite_le binary64_precise holds before.le) low)
      · exact .inr (same_of_le high ((tied_add s u x y).le_finite binary64_precise holds behind.le))

/-- The rule against exact arithmetic, for a finite expected value and a tolerance from zero on. -/
theorem withinTolerance_exact (expected_exact : expected.value.number? .binary64 = some e)
    (tolerance_exact : tolerance.value.number? .binary64 = some t) (nonnegative : 0 ≤ t) :
    withinTolerance expected expected tolerance = true ∧
      (∀ a, actual.value.number? .binary64 = some a → |a - e| ≤ t →
        withinTolerance expected actual tolerance = true) ∧
      (withinTolerance expected actual tolerance = true →
        (∀ a, actual.value.number? .binary64 = some a → t < |a - e|) →
        actual.value.same (sub .binary64 expected.value tolerance.value) = true ∨
          actual.value.same (add .binary64 expected.value tolerance.value) = true) := by
  refine ⟨?_, ?_, ?_⟩
  · refine withinTolerance_of_exact expected_exact tolerance_exact expected_exact ?_
    rwa [sub_self, abs_zero]
  · intro a actual_exact within
    exact withinTolerance_of_exact expected_exact tolerance_exact actual_exact within
  · intro within beyond
    exact end_of_withinTolerance expected_exact tolerance_exact beyond within

/-- 1.05 is an end of the band of 0.05 around 1.0, and not in the exact band. -/
theorem withinTolerance_exact_upperEnd :
    let expected := Binary.ofNat .binary64 0x3ff0000000000000
    let actual := Binary.ofNat .binary64 0x3ff0cccccccccccd
    let tolerance := Binary.ofNat .binary64 0x3fa999999999999a
    withinTolerance expected expected tolerance = true ∧
      (actual.value.same (sub .binary64 expected.value tolerance.value) = true ∨
        actual.value.same (add .binary64 expected.value tolerance.value) = true) := by
  intro expected actual tolerance
  have expected_value : expected.value = .finite false (0x10000000000000 * 2 ^ 1022) := by
    decide +kernel
  have actual_value : actual.value = .finite false (0x10cccccccccccd * 2 ^ 1022) := by
    decide +kernel
  have tolerance_value : tolerance.value = .finite false (0x1999999999999a * 2 ^ 1017) := by
    decide +kernel
  have expected_exact := congrArg (number? .binary64) expected_value
  have tolerance_exact := congrArg (number? .binary64) tolerance_value
  have nonnegative : (0 : ℚ) ≤ signed false (0x1999999999999a * 2 ^ 1017) :=
    Int.cast_nonneg (Int.natCast_nonneg _)
  obtain ⟨itself, inside, outside⟩ := @withinTolerance_exact expected actual tolerance _ _
    expected_exact tolerance_exact (div_nonneg nonnegative (by positivity))
  refine ⟨itself, outside (by decide +kernel) ?_⟩
  intro a actual_exact
  rw [actual_value] at actual_exact
  cases actual_exact
  rw [← not_le, abs_sub_le_units]
  decide +kernel

end Comparison

namespace Floating

/-- Only a finite value is absorbed: an infinite one and its opposite cannot both be added. -/
theorem Absorbs.finite {x t : Floating} (h : Absorbs f x t) : ∃ u y, t = .finite u y := by
  obtain ⟨above, below⟩ := h
  cases t with
  | finite u y => exact ⟨u, y, rfl⟩
  | nan => cases x <;> cases above
  | infinite u =>
      cases x with
      | nan | finite _ _ => cases above
      | infinite s =>
          cases s <;> cases u <;> simp [add, sub, neg, same] at above below

/-- What is absorbed is half the distance to the neighbours at most. -/
theorem Absorbs.le_spacing (precise : 0 < f.precision) {s t : Bool} {x y : Nat}
    (h : Absorbs f (.finite s x) (.finite t y)) : 2 * y ≤ f.spacing x := by
  have above := h.above
  have below := h.below
  rw [(tied_add s t x y).same_eq] at above
  rw [(tied_sub s t x y).same_eq] at below
  have near_above := rounded_near above
  have near_below := rounded_near below
  rw [add_sub_cancel_left, natAbs_signed] at near_above
  rw [sub_sub_cancel_left, Int.natAbs_neg, natAbs_signed] at near_below
  -- One of the two moves towards zero, where the spacing is at most that of `x`.
  obtain ⟨n, near, size⟩ : ∃ n, 2 * y ≤ f.spacing n ∧ (n + y = x ∨ n + x = y) := by
    by_cases signs : s = t
    · refine ⟨_, near_below, ?_⟩
      rw [signs]
      cases t <;> simp only [signed, Bool.false_eq_true, if_true, if_false] <;> omega
    · refine ⟨_, near_above, ?_⟩
      rw [Bool.eq_not.mpr signs, signed_not]
      cases t <;> simp only [signed, Bool.false_eq_true, if_true, if_false] <;> omega
  obtain inside | across := size
  · exact near.trans (Format.spacing_mono (by omega))
  · obtain rfl | pos := Nat.eq_zero_or_pos n
    · exact near.trans (Format.spacing_mono (Nat.zero_le x))
    · have short := Format.spacing_le precise pos
      omega

theorem neg_of_lt_zero {negative : Bool} {units : Nat} (h : (finite negative units).lt zero) :
    signed negative units < 0 := by
  rw [lt, Bool.and_eq_true_iff] at h
  simpa [zero, le, signed_zero] using h.2

/-- A negative margin turns the band round: the upper end of a band that is not empty is at most
the value in the middle, and the lower end at least that value. -/
theorem le_sub_and_add_le {x t a : Floating} (precise : 0 < f.precision)
    (holds : ∀ s units, x = .finite s units → f.Holds units) (negative : t.lt zero)
    (low : (sub f x t).le a) (high : a.le (add f x t)) :
    x.le (sub f x t) ∧ (add f x t).le x := by
  cases x with
  | nan => cases low
  | infinite s =>
      cases t with
      | nan => cases low
      | finite u y => cases s <;> exact ⟨rfl, rfl⟩
      | infinite u =>
          cases u with
          | false => cases negative
          | true =>
              -- One end of the band is undefined.
              cases s with
              | false =>
                  obtain _ | (_ | _) | _ := a <;> cases high
              | true => cases low
  | finite s e =>
      cases t with
      | nan => cases low
      | infinite u =>
          cases u with
          | false => cases negative
          | true => cases le_trans low high
      | finite u y =>
          have below := neg_of_lt_zero negative
          have holds := holds s e rfl
          exact ⟨(tied_sub s u e y).finite_le precise holds (by omega),
            (tied_add s u e y).le_finite precise holds (by omega)⟩

theorem same_and_absorbs {x t a : Floating} (low : (sub f x t).le a) (high : a.le (add f x t))
    (lower : x.le (sub f x t)) (upper : (add f x t).le x) : a.same x ∧ Absorbs f x t := by
  have down := le_trans high upper
  have up := le_trans lower low
  exact ⟨same_of_le down up, same_of_le upper (le_trans up high),
    same_of_le (le_trans low down) lower⟩

end Floating

namespace Comparison

open Floating

open Format (binary64_precise binary64_wide)

/-- With a negative tolerance nothing passes but the expected value itself, and that only where
rounding absorbs the tolerance; every other check fails. -/
theorem withinTolerance_of_negative {expected actual tolerance : Binary64}
    (negative : tolerance.value.lt zero) :
    (withinTolerance expected actual tolerance = true ↔
        actual.value.same expected.value = true ∧
          Absorbs .binary64 expected.value tolerance.value) ∧
      (withinTolerance expected actual tolerance = true →
        ∃ t y, tolerance.value = .finite t y ∧
          ∀ s x, expected.value = .finite s x → 2 * y ≤ Format.binary64.spacing x) ∧
      ∀ label, withinTolerance expected actual tolerance = false →
        Effect.check label (.tolerance expected actual tolerance) =
          Effect.fail ⟨label, display .binary64 expected.value,
            display .binary64 actual.value⟩ := by
  have absorbed : withinTolerance expected actual tolerance = true ↔
      actual.value.same expected.value = true ∧
        Absorbs .binary64 expected.value tolerance.value := by
    rw [withinTolerance_iff]
    constructor
    · rintro ⟨low, high⟩
      have holds s units (value : expected.value = .finite s units) :=
        expected.holds_value binary64_precise binary64_wide value
      obtain ⟨lower, upper⟩ := le_sub_and_add_le binary64_precise holds negative low high
      exact same_and_absorbs low high lower upper
    · rintro ⟨same, above, below⟩
      have middle := le_of_same same
      exact ⟨le_trans (le_of_same below).1 middle.2, le_trans middle.1 (le_of_same above).2⟩
  refine ⟨absorbed, ?_, ?_⟩
  · intro within
    have absorbs := (absorbed.mp within).2
    obtain ⟨u, y, tolerance_value⟩ := absorbs.finite
    refine ⟨u, y, tolerance_value, ?_⟩
    intro s x expected_value
    rw [tolerance_value, expected_value] at absorbs
    exact absorbs.le_spacing binary64_precise
  · intro label outside
    have differs : (Comparison.tolerance expected actual tolerance).verdict = .different := by
      rw [Comparison.tolerance, outside]
      rfl
    exact Effect.compare_of_different label differs

/-- The least negative tolerance is absorbed by 1.0, which is then within it of itself. -/
theorem withinTolerance_of_leastNegative :
    let one := Binary.ofNat .binary64 0x3ff0000000000000
    let tolerance := Binary.ofNat .binary64 0x8000000000000001
    tolerance.value.lt zero = true ∧ withinTolerance one one tolerance = true := by
  decide +kernel

theorem withinTolerance_of_negative_one :
    let one := Binary.ofNat .binary64 0x3ff0000000000000
    let tolerance := Binary.ofNat .binary64 0xbff0000000000000
    ∀ label, Effect.check label (.tolerance one one tolerance) =
      Effect.fail ⟨label, "1", "1"⟩ := by
  intro one tolerance label
  have negative : tolerance.value.lt zero := by decide +kernel
  have shown : display .binary64 one.value = "1" := by decide +kernel
  have outside := (@withinTolerance_of_negative one one tolerance negative).2.2 label
    (by decide +kernel)
  rwa [shown] at outside

end Comparison

end Assertions
