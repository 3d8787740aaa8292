import Assertions.Event.Basic
import Assertions.Text.Terminal

/-!
How an event is printed: as a line of text with its fields in the order of recording, or as a
record that keeps the kind of every field.
-/

namespace Assertions

namespace FieldValue

/-- In a line texts are quoted, and those that stand without quotes cannot control a terminal if
they came from outside. -/
def inLine : FieldValue → String
  | .text value => Text.quote value
  | .foreign value => Text.disarmed value
  | value => value.toText

end FieldValue

namespace Event

/-- The free text of an event stands without its name. -/
def fieldInLine (field : String × FieldValue) : String :=
  if field.1 = FieldName.message then field.2.inLine else field.1 ++ "=" ++ field.2.inLine

def line (event : Event) : String :=
  event.level.name ++ " " ++ event.target ++ ": " ++
    " ".intercalate (event.fields.map fieldInLine)

end Event

/-- What is printed to standard output: a line of text, or an event as a record. -/
inductive Printed where
  | line (text : String)
  | record (level : Level) (target : String) (fields : List (String × FieldValue))
  deriving DecidableEq, Repr

/-- A record is not a line. -/
def Printed.line? : Printed → Option String
  | .line text => some text
  | .record _ _ _ => none

def Event.record (event : Event) : Printed :=
  .record event.level event.target event.fields

end Assertions
