import Assertions.Proofs.Tolerance

/-!
Two runs of the tolerance rule. Turning both signs round turns the band round and changes nothing
else; a wider margin moves the lower end down and the upper end up, rounding and overflow included;
and an undefined value on any side is outside of every band.
-/

namespace Assertions

attribute [local instance (high)] instPowNat

variable {f : Format}

namespace Binary

theorem toNat_neg (x : Binary f) :
    x.neg.bits.toNat = x.bits.toNat ^^^ 2 ^ (f.width - 1) % 2 ^ f.width := by
  rw [neg, BitVec.toNat_xor, BitVec.toNat_ofNat]

/-- The sign bit stands above the fraction and above the exponent. -/
theorem sign_bit (precise : 0 < f.precision) (wide : 1 < f.exponentWidth) :
    2 ^ (f.width - 1) % 2 ^ f.width = 2 ^ f.exponentWidth * 2 ^ (f.precision - 1) := by
  have top : f.width - 1 < f.width := by
    rw [Format.width]
    omega
  have parts : f.width - 1 = f.exponentWidth + (f.precision - 1) := by
    rw [Format.width]
    omega
  rw [Nat.mod_eq_of_lt (Nat.pow_lt_pow_right (by decide) top), parts, Nat.pow_add]

theorem fraction_neg (x : Binary f) (precise : 0 < f.precision) (wide : 1 < f.exponentWidth) :
    x.neg.fraction = x.fraction := by
  rw [fraction, fraction, toNat_neg, sign_bit precise wide, Nat.xor_mod_two_pow, Nat.mul_mod_left,
    Nat.xor_zero]

theorem exponent_neg (x : Binary f) (precise : 0 < f.precision) (wide : 1 < f.exponentWidth) :
    x.neg.exponent = x.exponent := by
  rw [exponent, exponent, toNat_neg, sign_bit precise wide, Nat.xor_div_two_pow,
    Nat.mul_div_cancel _ (Nat.two_pow_pos _), Nat.xor_mod_two_pow, Nat.mod_self, Nat.xor_zero]

theorem negative_neg (x : Binary f) (wide : 1 < f.exponentWidth) :
    x.neg.negative = !x.negative := by
  have word : 0 < f.width := by
    rw [Format.width]
    omega
  have msb (y : Binary f) : y.negative = y.bits.msb := (BitVec.msb_eq_decide y.bits).symm
  have top : (BitVec.ofNat f.width (2 ^ (f.width - 1))).msb = true := by
    rw [BitVec.msb_eq_decide, decide_eq_true_iff, BitVec.toNat_ofNat,
      Nat.mod_eq_of_lt (Nat.pow_lt_pow_right (by decide) (by omega))]
  rw [msb, msb, neg, BitVec.msb_xor, top, Bool.xor_true]

theorem value_neg (x : Binary f) (precise : 0 < f.precision) (wide : 1 < f.exponentWidth) :
    x.neg.value = x.value.neg := by
  rw [value, value, fraction_neg x precise wide, exponent_neg x precise wide, negative_neg x wide]
  split_ifs <;> rfl

end Binary

namespace Floating

theorem neg_neg (x : Floating) : x.neg.neg = x := by
  cases x <;> simp [neg]

/-- Rounding does not see the sign, but a sum that is zero has a sign of its own. -/
theorem tied_add_neg (x y : Floating) : Tied (add f x.neg y.neg) (add f x y).neg := by
  cases x with
  | nan => exact fun _ => ⟨rfl, rfl⟩
  | infinite s =>
      cases y with
      | nan | finite _ _ => exact fun _ => ⟨rfl, rfl⟩
      | infinite t => cases s <;> cases t <;> exact fun _ => ⟨rfl, rfl⟩
  | finite s m =>
      cases y with
      | nan | infinite _ => exact fun _ => ⟨rfl, rfl⟩
      | finite t n =>
          simp only [neg, add, signed_not, ← Int.neg_add, Int.neg_eq_zero, Int.natAbs_neg]
          split
          · refine tied_finite ?_
            rw [signed_zero, signed_zero]
          · rename_i nonzero
            have sign : decide (-(signed s m + signed t n) < 0) =
                !decide (signed s m + signed t n < 0) := by
              rw [← decide_not, decide_eq_decide]
              omega
            rw [sign, round_not]
            exact fun _ => ⟨rfl, rfl⟩

theorem add_mono (precise : 0 < f.precision) {x : Floating} (defined : x ≠ .nan) {t u : Bool}
    {m n : Nat} (h : signed t m ≤ signed u n) :
    (add f x (.finite t m)).le (add f x (.finite u n)) := by
  cases x with
  | nan => exact absurd rfl defined
  | infinite s => cases s <;> rfl
  | finite s k =>
      rw [(tied_add s t k m _).1, (tied_add s u k n _).2]
      exact rounded_mono precise (by omega)

end Floating

namespace Comparison

open Floating

open Format (binary64_precise binary64_wide)

theorem withinTolerance_neg (expected actual tolerance : Binary64) :
    withinTolerance expected.neg actual.neg tolerance =
      withinTolerance expected actual tolerance := by
  have low := tied_add_neg (f := .binary64) expected.value tolerance.value actual.value.neg
  have high := tied_add_neg (f := .binary64) expected.value tolerance.value.neg actual.value.neg
  rw [neg_neg] at high
  simp only [withinTolerance, sub, Binary.value_neg _ binary64_precise binary64_wide]
  rw [low.1, high.2, neg_le_neg, neg_le_neg, Bool.and_comm]

theorem withinTolerance_mono {expected actual narrow wide : Binary64} {t u : ℚ}
    (narrow_exact : narrow.value.number? .binary64 = some t)
    (wide_exact : wide.value.number? .binary64 = some u) (h : t ≤ u)
    (within : withinTolerance expected actual narrow = true) :
    withinTolerance expected actual wide = true := by
  obtain ⟨s, m, narrow_value, rfl⟩ := number?_eq_some narrow_exact
  obtain ⟨r, n, wide_value, rfl⟩ := number?_eq_some wide_exact
  have units : signed s m ≤ signed r n := by
    rw [div_le_div_iff_of_pos_right (by positivity)] at h
    exact_mod_cast h
  rw [withinTolerance_iff, narrow_value] at within
  rw [withinTolerance_iff, wide_value]
  obtain ⟨low, high⟩ := within
  have defined : expected.value ≠ .nan := by
    intro undefined
    rw [undefined] at low
    cases low
  have down : signed (!r) n ≤ signed (!s) m := by
    rw [signed_not, signed_not]
    omega
  exact ⟨le_trans (add_mono binary64_precise defined down) low,
    le_trans high (add_mono binary64_precise defined units)⟩

theorem withinTolerance_nan {expected actual tolerance : Binary64}
    (undefined : expected.value = .nan ∨ actual.value = .nan ∨ tolerance.value = .nan) :
    withinTolerance expected actual tolerance = false := by
  rw [withinTolerance]
  obtain undefined | undefined | undefined := undefined
  · rw [undefined]
    rfl
  · rw [undefined]
    cases sub .binary64 expected.value tolerance.value <;> simp [le]
  · rw [undefined]
    cases expected.value <;> simp [sub, add, neg, le]

/-- How the rule answers other questions once it answered one. -/
theorem withinTolerance_relational (expected actual : Binary64) :
    (∀ tolerance, withinTolerance expected.neg actual.neg tolerance =
        withinTolerance expected actual tolerance) ∧
      (∀ narrow wide t u, narrow.value.number? .binary64 = some t →
        wide.value.number? .binary64 = some u → t ≤ u →
        withinTolerance expected actual narrow = true →
        withinTolerance expected actual wide = true) ∧
      ∀ tolerance, expected.value = .nan ∨ actual.value = .nan ∨ tolerance.value = .nan →
        withinTolerance expected actual tolerance = false := by
  refine ⟨withinTolerance_neg expected actual, ?_, fun _ => withinTolerance_nan⟩
  intro narrow wide t u narrow_exact wide_exact h
  exact withinTolerance_mono narrow_exact wide_exact h

/-- 1.0 is within the least negative margin of itself, which rounding absorbs, and so within every
wider one. -/
theorem withinTolerance_relational_one :
    let one := Binary.ofNat .binary64 0x3ff0000000000000
    let least := Binary.ofNat .binary64 0x8000000000000001
    let tenth := Binary.ofNat .binary64 0x3fb999999999999a
    withinTolerance one.neg one.neg least = true ∧ withinTolerance one one tenth = true ∧
      withinTolerance one one (.ofValue _ .nan) = false := by
  intro one least tenth
  obtain ⟨mirrored, wider, undefined⟩ := withinTolerance_relational one one
  have within : withinTolerance one one least = true := by decide +kernel
  have least_value : least.value = .finite true 1 := by decide +kernel
  have tenth_value : tenth.value = .finite false (0x1999999999999a * 2 ^ 1018) := by
    decide +kernel
  refine ⟨(mirrored least).trans within, ?_, undefined _ (.inr (.inr (by decide +kernel)))⟩
  refine wider least tenth _ _ (congrArg (number? .binary64) least_value)
    (congrArg (number? .binary64) tenth_value) ?_ within
  rw [div_le_div_iff_of_pos_right (by positivity), Int.cast_le]
  decide +kernel

end Comparison

end Assertions
