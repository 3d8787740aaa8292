import Assertions.Text.Quoted

/-!
What an unwind carries and what becomes of it. A failed assertion carries a mismatch; anything
else that unwinds is foreign, and a test case reports it by its text if it has one.
-/

namespace Assertions

/-- The two sides of a failed assertion, as they are shown. -/
structure Mismatch where
  label : String
  expected : String
  actual : String
  deriving DecidableEq, Repr

namespace Mismatch

def line (m : Mismatch) : String :=
  m.label ++ ": expected [" ++ m.expected ++ "] actual [" ++ m.actual ++ "]"

def debug (m : Mismatch) : String :=
  "AssertionMismatch \x7b label: " ++ Text.quote m.label ++ ", expected: " ++
    Text.quote m.expected ++ ", actual: " ++ Text.quote m.actual ++ " \x7d"

/-- The debug text with every field on a line of its own. -/
def pretty (m : Mismatch) : String :=
  "AssertionMismatch \x7b\n    label: " ++ Text.quote m.label ++ ",\n    expected: " ++
    Text.quote m.expected ++ ",\n    actual: " ++ Text.quote m.actual ++ ",\n\x7d"

end Mismatch

/-- Why a test case failed, in one word. -/
inductive FailureKind where
  | assertionMismatch
  | panicked
  deriving DecidableEq, Repr

namespace FailureKind

def name : FailureKind → String
  | .assertionMismatch => "AssertionMismatch"
  | .panicked => "Panicked"

def code : FailureKind → String
  | .assertionMismatch => "ERR_ASSERTION_MISMATCH"
  | .panicked => "ERR_PANICKED"

end FailureKind

/-- The value that an unwind carries from where it is raised to where it is caught. -/
inductive Payload where
  | mismatch (m : Mismatch)
  /-- A text that is part of the program. -/
  | literal (text : String)
  /-- A text made while the program ran. -/
  | text (text : String)
  | number (value : Int)
  /-- A failure wrapped up as a value of its own: a foreign payload without a text. -/
  | wrapped (m : Mismatch)
  deriving DecidableEq, Repr

inductive CaseError where
  | mismatch (m : Mismatch)
  | panicked (message : String)
  deriving DecidableEq, Repr

namespace Payload

def text? : Payload → Option String
  | .literal words | .text words => some words
  | _ => none

/-- The mismatch that a failed assertion carries; every other payload is handed back. -/
def mismatch? : Payload → Except Payload Mismatch
  | .mismatch m => .ok m
  | foreign => .error foreign

end Payload

namespace CaseError

/-- The message of a panic that carries no text. -/
def textless : String := "non-string panic payload"

def ofPayload (payload : Payload) : CaseError :=
  match payload.mismatch? with
  | .ok m => .mismatch m
  | .error foreign => .panicked (foreign.text?.getD textless)

def kind : CaseError → FailureKind
  | .mismatch _ => .assertionMismatch
  | .panicked _ => .panicked

def message : CaseError → String
  | .mismatch m => m.line
  | .panicked message => "test body panicked: " ++ message

def debug : CaseError → String
  | .mismatch m => "Mismatch(" ++ m.debug ++ ")"
  | .panicked message => "Panicked \x7b message: " ++ Text.quote message ++ " \x7d"

def mismatch? : CaseError → Option Mismatch
  | .mismatch m => some m
  | .panicked _ => none

end CaseError

end Assertions
