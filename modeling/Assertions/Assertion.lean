import Assertions.Comparison
import Assertions.Logging
import Assertions.Routing

/-!
Assertions. One that holds changes nothing. One that fails shows both sides, the expected one
first, sends its line to the routed sink, logs the mismatch and unwinds with it; where one of
these steps unwinds itself, the later ones do not happen.
-/

namespace Assertions

inductive Assertion where
  | int (expected actual : Int)
  | long (expected actual : Int)
  | generic (expected actual : Operand)
  | text (expected : Option String) (actual : Option Operand)
  | cstring (expected actual : Option CString)
  | pointer (expected actual : Pointer)
  | tolerance (expected actual tolerance : Binary64)
  /-- The short form with a label and two values. -/
  | short (expected actual : Operand)
  /-- The short form with a third value. -/
  | shortTolerance (expected actual tolerance : Binary64)
  deriving DecidableEq, Repr

def Assertion.comparison : Assertion → Comparison
  | .int expected actual => .exact .i32 expected actual
  | .long expected actual => .exact .i64 expected actual
  | .generic expected actual | .short expected actual => .generic expected actual
  | .text expected actual => .text expected actual
  | .cstring expected actual => .contents expected actual
  | .pointer expected actual => .contents expected.target? actual.target?
  | .tolerance expected actual margin | .shortTolerance expected actual margin =>
      .tolerance expected actual margin

namespace Effect

variable {α : Type}

def fail (m : Mismatch) : Effect α := do
  emit m.line
  log (.mismatch Component.assertion m)
  unwind (.mismatch m)

def render : Shown → Effect String
  | .text text => return text
  | .panics message => panicWith message
  | .fails label => fail ⟨label, "1", "2"⟩

def judge (verdict : Verdict) : Effect Bool :=
  match verdict with
  | .equal => return true
  | .different => return false
  | .panics message => panicWith message

def compare (label : String) (c : Comparison) : Effect Unit := do
  if ← judge c.verdict then return ()
  let expected ← render c.expected
  let actual ← render c.actual
  fail ⟨label, expected, actual⟩

def check (label : String) (assertion : Assertion) : Effect Unit :=
  compare label assertion.comparison

end Effect

end Assertions
