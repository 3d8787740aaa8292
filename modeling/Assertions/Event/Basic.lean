import Assertions.Failure
import Assertions.Floating.Notation

/-!
Log events. An event has a severity, the component that logged it, and fields in the order in which
they were recorded, where one name may come twice; a field keeps the kind of its value, as every
kind is written in its own way. There are four kinds of event: an operation starts, ends, or ends
with an error, and an assertion fails.
-/

namespace Assertions

/-- Severities from the highest to the lowest. -/
inductive Level where
  | error
  | warn
  | info
  | debug
  | trace
  deriving DecidableEq, Repr

namespace Level

def name : Level → String
  | .error => "ERROR"
  | .warn => "WARN"
  | .info => "INFO"
  | .debug => "DEBUG"
  | .trace => "TRACE"

/-- Lower ranks are more severe. -/
def rank : Level → Nat
  | .error => 1
  | .warn => 2
  | .info => 3
  | .debug => 4
  | .trace => 5

end Level

inductive FieldValue where
  | text (value : String)
  | integer (value : Int)
  | float (value : Binary64)
  | flag (value : Bool)
  /-- A text that stands without quotes. -/
  | bare (value : String)
  /-- A text from outside that stands without quotes; a terminal is not to obey it. -/
  | foreign (value : String)
  deriving DecidableEq, Repr

namespace FieldValue

/-- What a field holds, as text: texts are kept as they are, numbers are decimal. -/
def toText : FieldValue → String
  | .text value => value
  | .integer value => toString value
  | .float value => Floating.debug .binary64 value.value
  | .flag value => if value then "true" else "false"
  | .bare value | .foreign value => value

end FieldValue

namespace FieldName

def component : String := "component"
def op : String := "op"
def event : String := "event"
def durationMs : String := "duration_ms"
def case : String := "case"
def label : String := "label"
def expected : String := "expected"
def actual : String := "actual"
def errKind : String := "err_kind"
def errCode : String := "err_code"

/-- The free text of an event. -/
def message : String := "message"

end FieldName

namespace EventName

def start : String := "start"
def finish : String := "end"
def failure : String := "end_error"
def mismatch : String := "mismatch"

end EventName

namespace OpName

def runCase : String := "run_case"
def assertEquals : String := "assert_equals"

end OpName

namespace Component

/-- Logs failed assertions. -/
def assertion : String := "comtest_core::engine"

/-- Logs where test cases begin and end. -/
def boundary : String := "comtest_core::boundary"

/-- Logs what a script says. -/
def script : String := "driver"

end Component

structure Event where
  level : Level
  target : String
  fields : List (String × FieldValue)
  /-- The fields for which nothing was recorded. -/
  silent : List String
  deriving DecidableEq, Repr

namespace Event

def opening (component op event : String) : List (String × FieldValue) :=
  [(FieldName.component, .text component), (FieldName.op, .text op),
    (FieldName.event, .text event)]

/-- An absent case leaves no field. -/
def caseField : Option String → List (String × FieldValue)
  | none => []
  | some case => [(FieldName.case, .text case)]

def start (component op : String) (case? : Option String) : Event :=
  ⟨.info, component, opening component op EventName.start ++ caseField case?, []⟩

def finish (component op : String) (duration : FieldValue) (case? : Option String) : Event :=
  ⟨.info, component,
    opening component op EventName.finish ++ (FieldName.durationMs, duration) :: caseField case?,
    []⟩

def failure (component op : String) (error : CaseError) (duration : FieldValue)
    (case? : Option String) : Event :=
  ⟨.error, component,
    opening component op EventName.failure ++
      (FieldName.durationMs, duration) :: (FieldName.errKind, .bare error.kind.name) ::
      (FieldName.errCode, .text error.kind.code) :: caseField case?,
    []⟩

def mismatch (component : String) (m : Mismatch) : Event :=
  ⟨.warn, component,
    opening component OpName.assertEquals EventName.mismatch ++
      [(FieldName.label, .text m.label), (FieldName.expected, .text m.expected),
        (FieldName.actual, .text m.actual),
        (FieldName.errCode, .text FailureKind.assertionMismatch.code)],
    []⟩

/-- The fields that an event has, whether or not something was recorded for them. -/
def names (event : Event) : List String :=
  event.fields.map (·.1) ++ event.silent

/-- Events that one place in a program logs agree in this. -/
def site (event : Event) : String × List String :=
  (event.target, event.names)

/-- Stands for a measured duration. -/
def measured : FieldValue := .bare "<ms>"

end Event

end Assertions
