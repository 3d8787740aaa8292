import Assertions.Event.Directive

/-!
Which events are printed. A filter is a list of directives. The most specific one that covers an
event decides about it, and no directive lets nothing through.
-/

namespace Assertions

abbrev Filter := List Directive

namespace Filter

/-- Empty parts do not count; the first directive that cannot be read spoils the whole text. -/
def read (text : String) : Except Refusal Filter :=
  ((text.toList.splitOn ',').filter (· ≠ [])).mapM Directive.read

/-- The later of two directives that are equally specific. -/
def moreSpecific (best : Option Directive) (d : Directive) : Option Directive :=
  match best with
  | none => some d
  | some b => if b.atLeast d then some d else some b

def deciding (filter : Filter) (event : Event) : Option Directive :=
  (filter.filter (·.covers event)).foldl moreSpecific none

def passes (filter : Filter) (event : Event) : Bool :=
  match deciding filter event with
  | none => false
  | some d => event.level.rank ≤ d.ceiling

end Filter

end Assertions
