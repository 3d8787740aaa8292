import Assertions.Event.Basic

/-!
Fields of every kind that an event can record. An operation that starts can be logged together
with one value of each kind; only the label may be missing.
-/

namespace Assertions

/-- One value of every kind, in the order in which the values are recorded; `debug` is shown in
quotes, `display` as it is, and `error` as the actual side of a mismatch. -/
structure Assortment where
  signed : Int
  unsigned : Int
  wideSigned : Int
  wideUnsigned : Int
  float : Binary64
  flag : Bool
  debug : String
  display : String
  error : String
  message : String
  label : Option String
  deriving DecidableEq, Repr

namespace Assortment

/-- Numbers of double width have a text only. -/
def fields (a : Assortment) : List (String × FieldValue) :=
  [("i64", .integer a.signed), ("u64", .integer a.unsigned),
    ("i128", .bare (toString a.wideSigned)), ("u128", .bare (toString a.wideUnsigned)),
    ("f64", .float a.float), ("bool", .flag a.flag), ("debug", .bare (Text.quote a.debug)),
    ("display", .bare a.display), ("error", .foreign (Mismatch.line ⟨"l", "e", a.error⟩))]

def labelField : Option String → List (String × FieldValue)
  | none => []
  | some label => [(FieldName.label, .text label)]

/-- A missing label is silent and not absent. -/
def silent : Option String → List String
  | none => [FieldName.label]
  | some _ => []

/-- The free text comes first. -/
def event (component op : String) (a : Assortment) : Event :=
  ⟨.info, component,
    (FieldName.message, .foreign ("msg <" ++ a.message ++ ">")) ::
      Event.opening component op EventName.start ++ a.fields ++ labelField a.label,
    silent a.label⟩

end Assortment

end Assertions
