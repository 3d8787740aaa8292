import Assertions.Event.Basic
import Assertions.Table

/-!
Events as a capture keeps them: every field as text under its name, the last one if the name was
recorded twice, and five of the fields again for themselves. The queries of a capture select among
them.
-/

namespace Assertions

structure Captured where
  level : Level
  component : Option String
  op : Option String
  event : Option String
  label : Option String
  case : Option String
  fields : List (String × String)
  deriving DecidableEq, Repr

namespace Captured

def ofEvent (event : Event) : Captured :=
  let fields := Table.ofList (event.fields.map fun field => (field.1, field.2.toText))
  { level := event.level
    component := fields.lookup FieldName.component
    op := fields.lookup FieldName.op
    event := fields.lookup FieldName.event
    label := fields.lookup FieldName.label
    case := fields.lookup FieldName.case
    fields := fields }

def field? (c : Captured) (name : String) : Option String :=
  c.fields.lookup name

def isMismatch (c : Captured) : Bool :=
  c.event == some EventName.mismatch

def mismatchesForLabel (label : String) (events : List Captured) : List Captured :=
  events.filter fun c => c.isMismatch && c.label == some label

def eventsForCase (case : String) (events : List Captured) : List Captured :=
  events.filter fun c => c.case == some case

def hasEvent (op event : String) (events : List Captured) : Bool :=
  events.any fun c => c.op == some op && c.event == some event

/-- An absent condition holds of every event. -/
def count (level? event? : Option String) (events : List Captured) : Nat :=
  events.countP fun c =>
    level?.all (· == c.level.name) && event?.all (fun event => c.event == some event)

/-- What the search for a missing event panics with. -/
def missing (op event : String) (events : List Captured) : String :=
  "Expected event op=" ++ op ++ " event=" ++ event ++ " not found in " ++
    toString events.length ++ " captured events"

end Captured

end Assertions
