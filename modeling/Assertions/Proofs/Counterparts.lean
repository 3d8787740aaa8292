import Assertions.Proofs.Rounding
import Assertions.Proofs.Utf8
import Assertions.Script.Run
import Mathlib.Logic.Relation

/-!
Calls that can stand for each other. Where the domain of a special rule meets the generic one, both
compare and show the same; the short forms are the long ones. A check does nothing but what its
comparison says, so a script in which any of its checks are replaced by counterparts runs as before
in every context.
-/

namespace Assertions

/-- Two calls, the second of which says the same as the first, where both can be made. -/
inductive Counterpart : Assertion → Assertion → Prop
  | short (expected actual : Operand) :
      Counterpart (.short expected actual) (.generic expected actual)
  | shortTolerance (expected actual margin : Binary64) :
      Counterpart (.shortTolerance expected actual margin) (.tolerance expected actual margin)
  | int (expected actual : Int) :
      Counterpart (.int expected actual) (.generic (.integer .i32 expected) (.integer .i32 actual))
  | long (expected actual : Int) :
      Counterpart (.long expected actual) (.generic (.integer .i64 expected) (.integer .i64 actual))
  | text (expected : String) (owned : Bool) (actual : String) :
      Counterpart (.text (some expected) (some (.text owned actual)))
        (.generic (.text false expected) (.text owned actual))
  | pointer (expected actual : Pointer) :
      Counterpart (.pointer expected actual) (.cstring expected.target? actual.target?)
  | cstring {x y : CString} {expected actual : String} (left : x.contents = Text.bytes expected)
      (right : y.contents = Text.bytes actual) :
      Counterpart (.cstring (some x) (some y))
        (.generic (.text false expected) (.text false actual))
  | tolerance (expected actual : Binary64) {margin : Binary64} {negative : Bool}
      (zero : margin.value = .finite negative 0) :
      Counterpart (.tolerance expected actual margin)
        (.generic (.float64 expected) (.float64 actual))

theorem CString.text_of_contents {s : CString} {text : String} (h : s.contents = Text.bytes text) :
    s.text = text := by
  rw [CString.text, h, Text.ofBytesLossy_bytes]

/-- A band of no width is equality, zeros of both signs and undefined values included. -/
theorem Comparison.withinTolerance_zero {expected actual margin : Binary64} {negative : Bool}
    (zero : margin.value = .finite negative 0) :
    withinTolerance expected actual margin = expected.value.same actual.value := by
  have wide : 1 < Format.binary64.exponentWidth := by decide
  have below := Floating.tied_add_zero (x := expected) (by decide) wide (!negative) actual.value
  have above := Floating.tied_add_zero (x := expected) (by decide) wide negative actual.value
  rw [withinTolerance, Floating.sub, zero, Floating.neg, below.1, above.2, Floating.le_and_le]

namespace Counterpart

variable {first second : Assertion}

theorem comparison_eq (h : Counterpart first second) : first.comparison = second.comparison := by
  cases h with
  | short _ _ | shortTolerance _ _ _ | pointer _ _ => rfl
  | int expected actual | long expected actual =>
      simp [Assertion.comparison, Comparison.exact, Comparison.generic, Comparison.exactEqual,
        Operand.compare]
  | text expected owned actual =>
      have sides : (expected == actual) = (actual == expected) := BEq.comm
      simp [Assertion.comparison, Comparison.text, Comparison.generic, Comparison.textEqual,
        Comparison.shownOrNull, Operand.compare, Operand.shown, sides]
  | @cstring _ _ expected actual left right =>
      have same : (Text.bytes expected == Text.bytes actual) = (expected == actual) := by
        rw [Bool.eq_iff_iff, beq_iff_eq, beq_iff_eq, Text.bytes_inj]
      simp [Assertion.comparison, Comparison.contents, Comparison.generic, Comparison.contentsEqual,
        Comparison.textOrNull, Operand.compare, Operand.shown, CString.text_of_contents left,
        CString.text_of_contents right, left, right, same]
  | tolerance expected actual zero =>
      simp [Assertion.comparison, Comparison.tolerance, Comparison.generic, Operand.compare,
        Comparison.withinTolerance_zero zero]

end Counterpart

/-- Calls that are connected by counterparts, in either direction. -/
abbrev Interchangeable : Assertion → Assertion → Prop :=
  Relation.EqvGen Counterpart

theorem Interchangeable.check_eq {first second : Assertion} (h : Interchangeable first second)
    (label : String) : Effect.check label first = Effect.check label second := by
  have same : first.comparison = second.comparison := by
    induction h with
    | rel _ _ pair => exact pair.comparison_eq
    | refl _ => rfl
    | symm _ _ _ ih => exact ih.symm
    | trans _ _ _ _ _ ih ih' => exact ih.trans ih'
  rw [Effect.check, Effect.check, same]

/-- The second script has other calls in some places of the first one; what a replaced call is
called in the script is free. -/
inductive Script.Replaced : Script → Script → Prop
  | done : Replaced .done .done
  | check {word word' label first second next next'} (calls : Interchangeable first second)
      (rest : Replaced next next') :
      Replaced (.simple word (.check label first) next) (.simple word' (.check label second) next')
  | simple {word step next next'} (rest : Replaced next next') :
      Replaced (.simple word step next) (.simple word step next')
  | guarded {word line next next'} (rest : Replaced next next') :
      Replaced (.guarded word line next) (.guarded word line next')
  | framed {word frame body body' next next'} (inner : Replaced body body')
      (rest : Replaced next next') :
      Replaced (.framed word frame body next) (.framed word frame body' next')

/-- A step of the trace without the word for it. -/
def Entry.unnamed (entry : Entry) : List Nat × Option Result :=
  (entry.path, entry.result)

/-- The runs end in the same way and in the same state, and their steps had the same results. -/
structure Run.Same (a b : Run) : Prop where
  ending : b.ending = a.ending
  steps : b.trace.map Entry.unnamed = a.trace.map Entry.unnamed
  state : b.state = a.state
  guards : b.guards = a.guards

theorem Run.Same.released {a b : Run} (h : a.Same b) : a.released.Same b.released := by
  obtain ⟨ending, trace, s, guards⟩ := a
  obtain ⟨ending', trace', s', guards'⟩ := b
  obtain ⟨rfl, steps, rfl, rfl⟩ := h
  exact ⟨rfl, steps, rfl, rfl⟩

namespace Script

theorem followed_same {ending : Ending Result} {trace trace' : List Entry} {s : State}
    {next next' : State → Run} (steps : trace'.map Entry.unnamed = trace.map Entry.unnamed)
    (rest : (next s).Same (next' s)) :
    (followed ending trace s next).Same (followed ending trace' s next') := by
  cases ending with
  | returned result =>
      refine ⟨rest.ending, ?_, rest.state, rest.guards⟩
      simp only [followed, List.map_append, steps, rest.steps]
  | unwound payload | halted cause => exact ⟨rfl, steps, rfl, rfl⟩

theorem Replaced.run_same {a b : Script} (replaced : Replaced a b) (path : List Nat) (index : Nat)
    (s : State) : (a.run path index s).Same (b.run path index s) := by
  induction replaced generalizing path index s with
  | done => exact ⟨rfl, rfl, rfl, rfl⟩
  | check calls _ ih =>
      simp only [run, Step.perform, calls.check_eq]
      exact followed_same rfl (ih path (index + 1) _)
  | simple _ ih => exact followed_same rfl (ih path (index + 1) _)
  | guarded _ ih =>
      have rest := ih path (index + 1) s
      refine ⟨rest.ending, ?_, rest.state, ?_⟩
      · simp only [run, List.map_cons, rest.steps]
      · simp only [run, rest.guards]
  | @framed word frame body body' next next' _ _ ihBody ihRest =>
      rw [run, run]
      generalize frame.enter s = entry
      obtain ⟨ending, entered⟩ := entry
      cases ending with
      | returned _ =>
          have inner := (ihBody (path ++ [index]) 0 entered).released
          simp only [inner.ending, inner.state]
          refine followed_same ?_ (ihRest path (index + 1) _)
          simp only [List.map_cons, inner.steps]
      | unwound payload | halted cause => exact ⟨rfl, rfl, rfl, rfl⟩

end Script

/-- Replacing any checks of a script by counterparts changes nothing in its run, from any state. -/
theorem run_of_replaced {a b : Script} (replaced : a.Replaced b) (s : State) :
    (a.runFrom s).Same (b.runFrom s) :=
  (replaced.run_same [] 0 s).released

/-- Every call in a case of its own. -/
def inCases : List (String × Assertion) → Script
  | [] => .done
  | (word, call) :: calls =>
      .framed "case" (.case "single" .report) (.simple word (.check "value" call) .done)
        (inCases calls)

/-- A band of the negative zero, and one buffer with bytes behind its terminator. -/
def specialCalls : Script :=
  inCases
    [("int", .int 5 6), ("long", .long 7 7),
      ("text", .text (some "null") (some (.text true "NULL"))),
      ("cstr", .cstring (some ⟨[0xC3, 0xA9, 0, 0xFF]⟩) (some ⟨[0x65, 0]⟩)),
      ("c_ptr", .pointer (.to 1 ⟨[0x61, 0]⟩) .null),
      ("delta", .tolerance (.ofValue _ .nan) (.ofValue _ .nan) (.ofValue _ (.finite true 0))),
      ("macro3", .short (.atMost 3) (.atMost 2)),
      ("macro4", .shortTolerance (.ofValue _ .nan) (.ofValue _ .nan) (.ofValue _ .nan))]

def plainCalls : Script :=
  inCases
    [("equals", .generic (.integer .i32 5) (.integer .i32 6)),
      ("equals", .generic (.integer .i64 7) (.integer .i64 7)),
      ("equals", .generic (.text false "null") (.text true "NULL")),
      ("equals", .generic (.text false "é") (.text false "e")),
      ("cstr", .cstring (some ⟨[0x61, 0]⟩) none),
      ("equals", .generic (.float64 (.ofValue _ .nan)) (.float64 (.ofValue _ .nan))),
      ("equals", .generic (.atMost 3) (.atMost 2)),
      ("delta", .tolerance (.ofValue _ .nan) (.ofValue _ .nan) (.ofValue _ .nan))]

theorem Script.Replaced.inCases {word word' : String} {first second : Assertion}
    {calls calls' : List (String × Assertion)} (call : Counterpart first second)
    (rest : (Assertions.inCases calls).Replaced (Assertions.inCases calls')) :
    (Assertions.inCases ((word, first) :: calls)).Replaced
      (Assertions.inCases ((word', second) :: calls')) :=
  .framed (.check (.rel _ _ call) .done) rest

theorem run_of_replaced_specialCalls :
    specialCalls.Replaced plainCalls ∧
      (specialCalls.runFrom .capturing).Same (plainCalls.runFrom .capturing) := by
  have zero : (Binary.ofValue .binary64 (.finite true 0)).value = .finite true 0 := by
    decide +kernel
  have left : CString.contents ⟨[0xC3, 0xA9, 0, 0xFF]⟩ = Text.bytes "é" := by decide +kernel
  have right : CString.contents ⟨[0x65, 0]⟩ = Text.bytes "e" := by decide +kernel
  have replaced : specialCalls.Replaced plainCalls :=
    .inCases (.int _ _) <| .inCases (.long _ _) <| .inCases (.text _ _ _) <|
      .inCases (.cstring left right) <| .inCases (.pointer _ _) <| .inCases (.tolerance _ _ zero) <|
        .inCases (.short _ _) <| .inCases (.shortTolerance _ _ _) .done
  exact ⟨replaced, run_of_replaced replaced .capturing⟩

end Assertions
