import Assertions.Proofs.Displayed
import Assertions.Proofs.Tolerance

/-!
A failure tells its sides apart. What is written for a value of a primitive type says that value
and no other one of its type, and each rule accepts a value that equals itself. So the two texts of
a failure are one text only for undefined numbers, which equal nothing, and for an absent side that
is compared with the very text that is written for it.
-/

namespace Assertions

open Floating

/-- Two values of one primitive type. -/
inductive Operand.Alike : Operand → Operand → Prop
  | bool (x y : Bool) : Alike (.bool x) (.bool y)
  | char (x y : Char) : Alike (.char x) (.char y)
  | integer (kind : IntKind) (x y : Int) : Alike (.integer kind x) (.integer kind y)
  | float32 (x y : Binary32) : Alike (.float32 x) (.float32 y)
  | float64 (x y : Binary64) : Alike (.float64 x) (.float64 y)
  | text (owned owned' : Bool) (x y : String) : Alike (.text owned x) (.text owned' y)

theorem Operand.Alike.symm {x y : Operand} (h : Alike x y) : Alike y x := by
  cases h <;> constructor

/-- The assertion compares the two values, each of which may be absent where the rule is that of
texts; a tolerance is a finite number from zero on. -/
inductive Assertion.Compares : Assertion → Option Operand → Option Operand → Prop
  | int (x y : Int) :
      Compares (.int x y) (some (.integer .i32 x)) (some (.integer .i32 y))
  | long (x y : Int) :
      Compares (.long x y) (some (.integer .i64 x)) (some (.integer .i64 y))
  | generic {x y} (alike : Operand.Alike x y) : Compares (.generic x y) (some x) (some y)
  | short {x y} (alike : Operand.Alike x y) : Compares (.short x y) (some x) (some y)
  | text (owned : Bool) (x? y? : Option String) :
      Compares (.text x? (y?.map (.text owned))) (x?.map (.text false)) (y?.map (.text owned))
  | tolerance {x y margin : Binary64} {t} (exact : margin.value.number? .binary64 = some t)
      (nonnegative : 0 ≤ t) :
      Compares (.tolerance x y margin) (some (.float64 x)) (some (.float64 y))
  | shortTolerance {x y margin : Binary64} {t} (exact : margin.value.number? .binary64 = some t)
      (nonnegative : 0 ≤ t) :
      Compares (.shortTolerance x y margin) (some (.float64 x)) (some (.float64 y))

/-- How a value of a primitive type is written: an integer in decimal digits, a floating-point
number as a text that says it. -/
inductive Written : Option Operand → String → Prop
  | absent : Written none "null"
  | bool (x : Bool) : Written (some (.bool x)) (toString x)
  | char (x : Char) : Written (some (.char x)) (String.singleton x)
  | integer (kind : IntKind) (x : Int) :
      Written (some (.integer kind x)) (withSign (x < 0) (Nat.toDigits 10 x.natAbs))
  | float32 {x : Binary32} {text} (shows : Shows .binary32 x.value text) :
      Written (some (.float32 x)) text
  | float64 {x : Binary64} {text} (shows : Shows .binary64 x.value text) :
      Written (some (.float64 x)) text
  | text (owned : Bool) (x : String) : Written (some (.text owned x)) x

/-- The pairs that are written alike although they differ. -/
inductive Blurred : Option Operand → Option Operand → Prop
  | undefined32 {x y : Binary32} (left : x.value = .nan) (right : y.value = .nan) :
      Blurred (some (.float32 x)) (some (.float32 y))
  | undefined64 {x y : Binary64} (left : x.value = .nan) (right : y.value = .nan) :
      Blurred (some (.float64 x)) (some (.float64 y))
  | expectedAbsent (owned : Bool) : Blurred none (some (.text owned "null"))
  | actualAbsent (owned : Bool) : Blurred (some (.text owned "null")) none

namespace Floating

variable {f : Format} {x y : Floating}

theorem same_or_nan (equal : x = y) : x.same y = true ∨ x = .nan ∧ y = .nan := by
  subst equal
  cases x with
  | nan => exact .inr ⟨rfl, rfl⟩
  | infinite negative => exact .inl (beq_self_eq_true negative)
  | finite negative units => exact .inl (beq_self_eq_true (signed negative units))

theorem Shows.eq_of_nan {text text' : String} (left : Shows f x text) (right : Shows f y text')
    (x_nan : x = .nan) (y_nan : y = .nan) : text = text' := by
  subst x_nan y_nan
  cases left
  cases right
  rfl

end Floating

theorem decimal_eq (x : Int) :
    withSign (x < 0) (Nat.toDigits 10 x.natAbs) = toString x := by
  cases x with
  | ofNat number => exact Nat.toString_eq_ofList_toDigits.symm
  | negSucc number =>
      rw [decide_eq_true (Int.negSucc_lt_zero number)]
      exact String.ofList_cons.trans (congrArg ("-" ++ ·) Nat.repr_eq_ofList_toDigits.symm)

theorem decimal_inj {x y : Int} (h : withSign (x < 0) (Nat.toDigits 10 x.natAbs) =
    withSign (y < 0) (Nat.toDigits 10 y.natAbs)) : x = y := by
  have unsigned (number : Nat) (rest : List Char) : Nat.toDigits 10 number ≠ '-' :: rest := by
    intro equal
    have digit := @Nat.isDigit_of_mem_toDigits 10 number '-' (by decide) (by decide)
    rw [equal] at digit
    exact absurd (digit List.mem_cons_self) (by decide)
  obtain ⟨signs, digits⟩ := withSign_inj (unsigned _) (unsigned _) h
  have sizes := congrArg (Nat.ofDigitChars 10 · 0) digits
  simp only [Nat.ofDigitChars_ten_toDigits] at sizes
  have sides := decide_eq_decide.mp signs
  omega

namespace Written

variable {x y : Operand} {x? y? : Option Operand} {expected actual : String}

theorem eq_of_blurred (h : Blurred x? y?) (left : Written x? expected)
    (right : Written y? actual) : expected = actual := by
  cases h with
  | undefined32 x_nan y_nan =>
      cases left with
      | float32 left =>
          cases right with
          | float32 right => exact left.eq_of_nan right x_nan y_nan
  | undefined64 x_nan y_nan =>
      cases left with
      | float64 left =>
          cases right with
          | float64 right => exact left.eq_of_nan right x_nan y_nan
  | expectedAbsent owned | actualAbsent owned =>
      cases left
      cases right
      rfl

theorem value_eq {x y : Binary64} (left : Written (some (.float64 x)) expected)
    (right : Written (some (.float64 y)) actual) (same : expected = actual) :
    x.value = y.value := by
  cases left with
  | float64 left =>
      cases right with
      | float64 right => exact left.unique right same

/-- One text for two values of one type: they are equal, or undefined. -/
theorem compare_eq (alike : x.Alike y) (left : Written (some x) expected)
    (right : Written (some y) actual) (same : expected = actual) :
    x.compare y = .equal ∨ Blurred (some x) (some y) := by
  cases alike with
  | bool x y =>
      cases left
      cases right
      have equal : ∀ x y : Bool, toString x = toString y → x = y := by decide
      simp [Operand.compare, Verdict.ofBool, equal x y same]
  | char x y =>
      cases left
      cases right
      simp [Operand.compare, Verdict.ofBool, String.singleton_inj.mp same]
  | integer kind x y =>
      cases left
      cases right
      simp [Operand.compare, Verdict.ofBool, decimal_inj same]
  | float32 x y =>
      cases left with
      | float32 left =>
          cases right with
          | float32 right =>
              obtain equal | ⟨x_nan, y_nan⟩ := same_or_nan (left.unique right same)
              · exact .inl ((Verdict.ofBool_eq_equal _).mpr equal)
              · exact .inr (.undefined32 x_nan y_nan)
  | float64 x y =>
      obtain equal | ⟨x_nan, y_nan⟩ := same_or_nan (value_eq left right same)
      · exact .inl ((Verdict.ofBool_eq_equal _).mpr equal)
      · exact .inr (.undefined64 x_nan y_nan)
  | text owned owned' x y =>
      cases left
      cases right
      simp [Operand.compare, Verdict.ofBool, same]

theorem of_integer (kind : IntKind) (x : Int) :
    Written (some (.integer kind x)) (toString x) :=
  decimal_eq x ▸ .integer kind x

theorem of_alike (alike : x.Alike y) :
    ∃ text, x.shown = .text text ∧ Written (some x) text := by
  cases alike with
  | bool x y => exact ⟨_, rfl, by cases x <;> exact .bool _⟩
  | char x y => exact ⟨_, rfl, .char x⟩
  | integer kind x y => exact ⟨_, rfl, .of_integer kind x⟩
  | float32 x y => exact ⟨_, rfl, .float32 (x.shows_display (by decide) (by decide))⟩
  | float64 x y => exact ⟨_, rfl, .float64 (x.shows_display (by decide) (by decide))⟩
  | text owned owned' x y => exact ⟨_, rfl, .text owned x⟩

theorem of_text? (owned : Bool) (x? : Option String) :
    Written (x?.map (.text owned)) (x?.getD "null") := by
  cases x? with
  | none => exact .absent
  | some x => exact .text owned x

end Written

namespace Comparison

/-- A value is within every tolerance of itself, unless it is undefined. -/
theorem withinTolerance_self {x y margin : Binary64} {t : ℚ}
    (exact : margin.value.number? .binary64 = some t) (nonnegative : 0 ≤ t)
    (equal : x.value = y.value) : withinTolerance x y margin = true ∨ x.value = .nan := by
  cases x_value : x.value with
  | nan => exact .inr rfl
  | infinite negative =>
      obtain ⟨u, units, margin_value, -⟩ := number?_eq_some exact
      rw [withinTolerance_iff, margin_value, ← equal, x_value]
      cases negative <;> exact .inl ⟨rfl, rfl⟩
  | finite negative units =>
      have x_exact := congrArg (number? .binary64) x_value
      have y_exact := congrArg (number? .binary64) (equal.symm.trans x_value)
      refine .inl (withinTolerance_of_exact x_exact exact y_exact ?_)
      rwa [sub_self, abs_zero]

end Comparison

namespace Assertion.Compares

variable {assertion : Assertion} {x? y? : Option Operand}

theorem not_refuses (h : assertion.Compares x? y?) (message : String) :
    ¬ assertion.Refuses message := by
  cases h with
  | int x y | long x y | tolerance exact nonnegative | shortTolerance exact nonnegative => exact id
  | generic alike | short alike =>
      cases alike <;> exact Verdict.ofBool_ne_panics _ message
  | text owned x? y? =>
      cases x? with
      | none => exact id
      | some x =>
          cases y? with
          | none => exact id
          | some y => exact Verdict.ofBool_ne_panics _ message

theorem written (h : assertion.Compares x? y?) : ∃ expected actual,
    assertion.expected = .text expected ∧ assertion.actual = .text actual ∧
      Written x? expected ∧ Written y? actual := by
  cases h with
  | int x y | long x y => exact ⟨_, _, rfl, rfl, .of_integer _ x, .of_integer _ y⟩
  | generic alike | short alike =>
      obtain ⟨expected, x_shown, x_written⟩ := Written.of_alike alike
      obtain ⟨actual, y_shown, y_written⟩ := Written.of_alike alike.symm
      exact ⟨expected, actual, x_shown, y_shown, x_written, y_written⟩
  | text owned x? y? =>
      have shown : (Assertion.text x? (y?.map (.text owned))).actual = .text (y?.getD "null") := by
        cases y? <;> rfl
      exact ⟨_, _, rfl, shown, .of_text? false x?, .of_text? owned y?⟩
  | @tolerance x y | @shortTolerance x y =>
      exact ⟨_, _, rfl, rfl, .float64 (x.shows_display (by decide) (by decide)),
        .float64 (y.shows_display (by decide) (by decide))⟩

/-- A failure writes one text for both sides only where they are blurred. -/
theorem eq_iff (h : assertion.Compares x? y?) (fails : ¬ assertion.Holds)
    {expected actual : String} (left : Written x? expected) (right : Written y? actual) :
    expected = actual ↔ Blurred x? y? := by
  refine ⟨fun same => ?_, fun blurred => Written.eq_of_blurred blurred left right⟩
  cases h with
  | int x y | long x y =>
      cases left
      cases right
      exact absurd (decimal_inj same) fails
  | generic alike | short alike =>
      exact (Written.compare_eq alike left right same).resolve_left fails
  | text owned x? y? =>
      cases x? with
      | none =>
          cases y? with
          | none => exact absurd trivial fails
          | some y =>
              cases left
              cases right
              exact same ▸ .expectedAbsent owned
      | some x =>
          cases y? with
          | none =>
              cases left
              cases right
              exact same ▸ .actualAbsent false
          | some y =>
              -- The actual side decides, so the rule holds of the two in the other order.
              obtain equal | blurred :=
                Written.compare_eq (.text owned false y x) right left same.symm
              · exact absurd equal fails
              · cases blurred
  | tolerance exact nonnegative | shortTolerance exact nonnegative =>
      have equal := Written.value_eq left right same
      obtain within | undefined := Comparison.withinTolerance_self exact nonnegative equal
      · exact absurd ((Comparison.withinTolerance_iff _ _ _).mp within) fails
      · exact .undefined64 undefined (equal.symm.trans undefined)

end Assertion.Compares

namespace Effect

theorem check_of_shown {assertion : Assertion} {expected actual : String}
    (differs : assertion.Differs) (left : assertion.expected = .text expected)
    (right : assertion.actual = .text actual) (label : String) :
    check label assertion = (do
      emit (label ++ ": expected [" ++ expected ++ "] actual [" ++ actual ++ "]")
      log (.mismatch Component.assertion ⟨label, expected, actual⟩)
      unwind (.mismatch ⟨label, expected, actual⟩)) := by
  rw [check, compare_of_different label (assertion.verdict_eq_different.mpr differs),
    assertion.comparison_expected, assertion.comparison_actual, left, right]
  rfl

/-- A check of two values of one primitive type passes where its rule holds; otherwise it fails
with the two values as they are written, and the texts differ unless the sides are blurred. -/
theorem check_tells_apart {assertion : Assertion} {x? y? : Option Operand}
    (compares : assertion.Compares x? y?) :
    (assertion.Holds → ∀ label, check label assertion = pure ()) ∧
      (¬ assertion.Holds → ∃ expected actual,
        Written x? expected ∧ Written y? actual ∧ (expected = actual ↔ Blurred x? y?) ∧
          ∀ label, check label assertion = (do
            emit (label ++ ": expected [" ++ expected ++ "] actual [" ++ actual ++ "]")
            log (.mismatch Component.assertion ⟨label, expected, actual⟩)
            unwind (.mismatch ⟨label, expected, actual⟩))) := by
  constructor
  · intro holds label
    exact compare_of_equal label (assertion.verdict_eq_equal.mpr holds)
  · intro fails
    obtain ⟨expected, actual, left, right, x_written, y_written⟩ := compares.written
    refine ⟨expected, actual, x_written, y_written, compares.eq_iff fails x_written y_written, ?_⟩
    exact check_of_shown ⟨fails, compares.not_refuses⟩ left right

/-- The least number above one is told apart from it. -/
theorem check_tells_apart_neighbours :
    let one := Binary.ofNat .binary64 0x3ff0000000000000
    let next := Binary.ofNat .binary64 0x3ff0000000000001
    let margin := Binary.ofNat .binary64 0
    ∃ expected actual, expected ≠ actual ∧ ∀ label,
      check label (.tolerance one next margin) = (do
        emit (label ++ ": expected [" ++ expected ++ "] actual [" ++ actual ++ "]")
        log (.mismatch Component.assertion ⟨label, expected, actual⟩)
        unwind (.mismatch ⟨label, expected, actual⟩)) := by
  intro one next margin
  have margin_value : margin.value = .finite false 0 := by decide +kernel
  have exact := congrArg (number? .binary64) margin_value
  have compares : (Assertion.tolerance one next margin).Compares _ _ :=
    .tolerance exact (by rw [signed_zero, Int.cast_zero, zero_div])
  have fails : ¬ (Assertion.tolerance one next margin).Holds := by
    rintro ⟨low, high⟩
    have below : next.value.le (add .binary64 one.value margin.value) = false := by decide +kernel
    exact Bool.false_ne_true (below.symm.trans high)
  obtain ⟨expected, actual, -, -, alike, checks⟩ := (check_tells_apart compares).2 fails
  refine ⟨expected, actual, fun same => ?_, checks⟩
  have defined : one.value ≠ .nan := by decide +kernel
  cases alike.mp same with
  | undefined64 undefined => exact defined undefined

end Effect

end Assertions
