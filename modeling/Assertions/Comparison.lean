import Assertions.CString
import Assertions.Operand

/-!
The comparison rules. Each rule says whether the actual value agrees with the expected one and
how both sides are shown when it does not; an absent side is shown as `null`.
-/

namespace Assertions

/-- The text of an absent value. -/
def nullText : String := "null"

/-- What a rule says about a pair. -/
structure Comparison where
  verdict : Verdict
  expected : Shown
  actual : Shown
  deriving DecidableEq, Repr

namespace Comparison

def exactEqual (expected actual : Int) : Bool :=
  expected == actual

/-- Contents count, and two absent texts agree. -/
def contentsEqual : Option CString → Option CString → Bool
  | none, none => true
  | some expected, some actual => expected.contents == actual.contents
  | _, _ => false

/-- The actual side decides whether it equals the expected text. -/
def textEqual : Option String → Option Operand → Verdict
  | none, none => .equal
  | some expected, some actual => actual.compare (.text false expected)
  | _, _ => .different

/-- Both ends of the band belong to it, and both are rounded. -/
def withinTolerance (expected actual tolerance : Binary64) : Bool :=
  (Floating.sub .binary64 expected.value tolerance.value).le actual.value &&
    actual.value.le (Floating.add .binary64 expected.value tolerance.value)

def shownOrNull (operand? : Option Operand) : Shown :=
  operand?.elim (.text nullText) Operand.shown

def textOrNull (text? : Option CString) : String :=
  text?.elim nullText CString.text

def exact (kind : IntKind) (expected actual : Int) : Comparison :=
  ⟨.ofBool (exactEqual expected actual), (Operand.integer kind expected).shown,
    (Operand.integer kind actual).shown⟩

def generic (expected actual : Operand) : Comparison :=
  ⟨expected.compare actual, expected.shown, actual.shown⟩

def text (expected : Option String) (actual : Option Operand) : Comparison :=
  ⟨textEqual expected actual, shownOrNull (expected.map (Operand.text false)),
    shownOrNull actual⟩

def contents (expected actual : Option CString) : Comparison :=
  ⟨.ofBool (contentsEqual expected actual), .text (textOrNull expected),
    .text (textOrNull actual)⟩

def tolerance (expected actual tolerance : Binary64) : Comparison :=
  ⟨.ofBool (withinTolerance expected actual tolerance), (Operand.float64 expected).shown,
    (Operand.float64 actual).shown⟩

end Comparison

end Assertions
