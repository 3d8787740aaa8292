import Assertions.Floating.Notation
import Assertions.Integer

/-!
The values that an assertion compares. An operand brings its own equality and its own text, and
either may refuse: comparing may panic, and so may showing, which may even fail an assertion of
its own.
-/

namespace Assertions

/-- What comparing two operands gives. -/
inductive Verdict where
  | equal
  | different
  | panics (message : String)
  deriving DecidableEq, Repr

def Verdict.ofBool (equal : Bool) : Verdict :=
  if equal then .equal else .different

/-- What showing an operand gives: its text, a panic, or the failure of a nested assertion that
compares the integers 1 and 2 under a label of its own. -/
inductive Shown where
  | text (text : String)
  | panics (message : String)
  | fails (label : String)
  deriving DecidableEq, Repr

inductive Operand where
  | bool (value : Bool)
  | char (value : Char)
  | integer (kind : IntKind) (value : Int)
  | float32 (value : Binary32)
  | float64 (value : Binary64)
  | text (owned : Bool) (value : String)
  | point (x y : Int)
  /-- A number whose fraction does not count. -/
  | coarse (value : Binary64)
  /-- A number that also goes by the name `#n`. -/
  | token (value : Nat)
  /-- Equal to everything that is not below it. -/
  | atMost (value : Int)
  /-- A text whose letter case does not count. -/
  | folded (value : String)
  | panicsOnEq (message : String)
  | panicsOnShow (message : String)
  | refusesShow (text : String)
  | assertsOnShow (label : String)
  deriving DecidableEq, Repr

namespace Operand

/-- The number that a text names: `#` and then a decimal number of 32 bits. -/
def tokenOf? (text : String) : Option Nat :=
  match text.toList with
  | '#' :: number => (IntKind.u32.read? (String.ofList number)).map Int.toNat
  | _ => none

/-- Only the letters of ASCII have a case here. -/
def fold (text : String) : List Char :=
  text.toList.map Char.toLower

/-- The left operand decides, so this need not be symmetric. -/
def compare : Operand → Operand → Verdict
  | .bool x, .bool y => .ofBool (x == y)
  | .char x, .char y => .ofBool (x == y)
  | .integer j x, .integer k y => .ofBool (j == k && x == y)
  | .float32 x, .float32 y => .ofBool (x.value.same y.value)
  | .float64 x, .float64 y => .ofBool (x.value.same y.value)
  | .text _ x, .text _ y => .ofBool (x == y)
  | .point x y, .point z w => .ofBool (x == z && y == w)
  | .coarse x, .coarse y =>
      .ofBool ((x.value.truncate .binary64).same (y.value.truncate .binary64))
  | .token x, .token y => .ofBool (x == y)
  | .token x, .text _ y => .ofBool (tokenOf? y == some x)
  | .atMost x, .atMost y => .ofBool (x ≤ y)
  | .folded x, .folded y => .ofBool (fold x == fold y)
  | .folded x, .text _ y => .ofBool (fold x == fold y)
  | .panicsOnEq message, .panicsOnEq _ => .panics message
  | .panicsOnEq message, .text _ _ => .panics message
  | _, _ => .different

/-- Which pairs can be compared at all: both of one type, two texts, or a token or a folded text
with a borrowed text. -/
def comparable : Operand → Operand → Bool
  | .bool _, .bool _ => true
  | .char _, .char _ => true
  | .integer j _, .integer k _ => j == k
  | .float32 _, .float32 _ => true
  | .float64 _, .float64 _ => true
  | .text _ _, .text _ _ => true
  | .point _ _, .point _ _ => true
  | .coarse _, .coarse _ => true
  | .token _, .token _ => true
  | .token _, .text owned _ => !owned
  | .atMost _, .atMost _ => true
  | .folded _, .folded _ => true
  | .folded _, .text owned _ => !owned
  | .panicsOnEq _, .panicsOnEq _ => true
  | .panicsOnShow _, .panicsOnShow _ => true
  | .refusesShow _, .refusesShow _ => true
  | .assertsOnShow _, .assertsOnShow _ => true
  | _, _ => false

/-- Which operands can be compared with a plain text. -/
def comparesToText : Operand → Bool
  | .text _ _ | .token _ | .folded _ => true
  | .panicsOnEq _ | .panicsOnShow _ | .refusesShow _ | .assertsOnShow _ => true
  | _ => false

/-- A text with a refused display ends in this panic. -/
def refusal : String :=
  "a Display implementation returned an error unexpectedly: Error"

def shown : Operand → Shown
  | .bool value => .text (if value then "true" else "false")
  | .char value => .text (String.singleton value)
  | .integer _ value => .text (toString value)
  | .float32 value => .text (Floating.display .binary32 value.value)
  | .float64 value => .text (Floating.display .binary64 value.value)
  | .text _ value => .text value
  | .point x y => .text ("(" ++ toString x ++ ", " ++ toString y ++ ")")
  | .coarse value => .text ("~" ++ Floating.display .binary64 value.value)
  | .token value => .text ("#" ++ toString value)
  | .atMost value => .text ("<=" ++ toString value)
  | .folded value => .text value
  | .panicsOnEq message => .text message
  | .panicsOnShow message => .panics message
  | .refusesShow _ => .panics refusal
  | .assertsOnShow label => .fails label

end Operand

end Assertions
