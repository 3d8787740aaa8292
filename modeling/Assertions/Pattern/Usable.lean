import Assertions.Pattern.Bracket
import Assertions.Text.Alphanumeric

/-!
Which texts are patterns that can be used: every group and class is closed, every repetition has
something to repeat, every part is allowed where it stands, and nothing is nested too deeply.
-/

namespace Assertions.Pattern

/-- A part of a pattern; a change of switches cannot be repeated. -/
structure Part where
  depth : Nat
  repeatable : Bool
  deriving DecidableEq, Repr

/-- What is read of a group: the depths of its finished alternatives and the parts of the current
one, the latest first. -/
structure Level where
  finished : List Nat
  parts : List Part
  deriving DecidableEq, Repr

namespace Level

def empty : Level := ⟨[], []⟩

def push (l : Level) (part : Part) : Level :=
  { l with parts := part :: l.parts }

def alternative (l : Level) : Level :=
  ⟨gather (l.parts.map Part.depth) :: l.finished, []⟩

def depth (l : Level) : Nat :=
  gather l.alternative.finished

/-- A repetition goes around the part before it. -/
def repeated? (l : Level) : Option Level :=
  match l.parts with
  | [] => none
  | part :: parts =>
      if part.repeatable then some { l with parts := ⟨1 + part.depth, true⟩ :: parts } else none

end Level

/-- A group that is still open: what was read before it, and the switches that hold again behind
it. -/
structure Group where
  level : Level
  switches : Switches
  deriving DecidableEq, Repr

structure Reader where
  switches : Switches
  level : Level
  groups : List Group
  names : List (List Char)
  deriving DecidableEq, Repr

namespace Switches

/-- Some switches do not matter for what can be used. -/
def turn? (s : Switches) (letter : Char) (on : Bool) : Option Switches :=
  match letter with
  | 'u' => some { s with unicode := on }
  | 'i' => some { s with anyCase := on }
  | 'x' => some { s with spaced := on }
  | 'm' | 's' | 'U' | 'R' => some s
  | _ => none

/-- Reads switches up to the colon or bracket behind them, which comes with the rest; `seen` are the
letters and the hyphen before, the latest first. None stands twice, and the hyphen, which turns the
switches behind it off, is not the last. -/
def turned? (s : Switches) (seen : List Char) : List Char → Option (Switches × List Char)
  | [] => none
  | c :: rest =>
      if c = ':' || c = ')' then if seen.head? = some '-' then none else some (s, c :: rest)
      else if seen.contains c then none
      else if c = '-' then turned? s ('-' :: seen) rest
      else (s.turn? c (!seen.contains '-')).bind fun s => turned? s (c :: seen) rest

end Switches

def isNameStart (c : Char) : Bool :=
  c = '_' || Text.isAlphabetic c

def isNameChar (c : Char) : Bool :=
  c = '_' || c = '.' || c = '[' || c = ']' || Text.isAlphanumeric c

def isName : List Char → Bool
  | [] => false
  | first :: more => isNameStart first && more.all isNameChar

namespace Reader

def initial : Reader := ⟨.initial, .empty, [], []⟩

def push (r : Reader) (part : Part) : Reader :=
  { r with level := r.level.push part }

/-- Goes on inside a group. -/
def enter (r : Reader) (inside : Switches) : Reader :=
  { r with
    switches := inside
    level := .empty
    groups := ⟨r.level, r.switches⟩ :: r.groups }

def leave? (r : Reader) : Option Reader :=
  match r.groups with
  | [] => none
  | group :: groups =>
      some
        { r with
          switches := group.switches
          level := group.level.push ⟨1 + r.level.depth, true⟩
          groups := groups }

/-- Reads the name of a group and the angle behind it; two groups have different names. -/
def named? (r : Reader) (text : List Char) : Option (Reader × List Char) :=
  let name := text.takeWhile (· ≠ '>')
  match text.dropWhile (· ≠ '>') with
  | [] => none
  | _ :: rest =>
      if isName name && !r.names.contains name then
        some ({ r.enter r.switches with names := name :: r.names }, rest)
      else none

/-- Reads switches; they hold inside the group, or for the rest of the current one. -/
def switched? (r : Reader) (text : List Char) : Option (Reader × List Char) :=
  match r.switches.turned? [] text with
  | some (inside, ':' :: rest) => some (r.enter inside, rest)
  | some (ahead, ')' :: rest) =>
      if text.head? = some ')' then none
      else some ({ r.push ⟨0, false⟩ with switches := ahead }, rest)
  | _ => none

/-- Reads what stands behind an opening bracket. Nothing looks ahead or behind. -/
def opened? (r : Reader) (text : List Char) : Option (Reader × List Char) :=
  match r.switches.next text with
  | '?' :: 'P' :: '<' :: rest => r.named? rest
  | '?' :: '<' :: rest => r.named? rest
  | '?' :: rest => r.switched? rest
  | rest => some (r.enter r.switches, rest)

def atom? (r : Reader) (atom : Atom) (rest : List Char) : Option (Reader × List Char) :=
  if r.switches.allows atom then some (r.push ⟨0, true⟩, rest) else none

def repeated? (r : Reader) (text : List Char) : Option (Reader × List Char) :=
  r.level.repeated?.map fun level =>
    ({ r with level := level }, if text.head? = some '?' then text.tail else text)

def bracketed? (r : Reader) (text : List Char) : Option (Reader × List Char) := do
  let rest ← openBracket? r.switches text
  let (depth, rest) ← bracket? r.switches (text.length + 1) .empty [] rest
  return (r.push ⟨depth, true⟩, rest)

/-- Reads one part, whose first character is `c`. A repetition that is counted in braces has no
place in a pattern that stands in braces itself. -/
def step? (r : Reader) (c : Char) (rest : List Char) : Option (Reader × List Char) :=
  match c with
  | '(' => r.opened? rest
  | ')' => r.leave?.map fun r => (r, rest)
  | '|' => some ({ r with level := r.level.alternative }, rest)
  | '[' => r.bracketed? rest
  | '?' | '*' | '+' => r.repeated? rest
  | '{' => none
  | '.' => r.atom? .anything rest
  | '^' | '$' => r.atom? .edge rest
  | '\\' => (escape? r.switches rest).bind fun read => r.atom? read.1 read.2
  | c => r.atom? (.literal c false) rest

/-- Depth of a whole pattern. Every step reads a character, so that as many steps as characters are
enough. -/
def depth? : (steps : Nat) → Reader → List Char → Option Nat
  | 0, _, _ => none
  | steps + 1, r, text =>
      match r.switches.next text with
      | [] => if r.groups.isEmpty then some r.level.depth else none
      | c :: rest => (r.step? c rest).bind fun read => depth? steps read.1 read.2

end Reader

def greatestDepth : Nat := 250

def isUsable (text : List Char) : Bool :=
  (Reader.initial.depth? (text.length + 1) text).any (· ≤ greatestDepth)

end Assertions.Pattern
