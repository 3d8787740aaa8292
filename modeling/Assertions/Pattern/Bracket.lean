import Assertions.Pattern.Basic

/-!
Classes in brackets. A class holds characters, ranges of them, classes with a name and classes in
brackets of their own; two marks between what it holds intersect or subtract. Only the depth of a
class is kept, besides whether it can be read at all.
-/

namespace Assertions.Pattern

/-- What is read of a class: the depth of the left side of an operation, the depths of the items
behind it, the latest first, and whether nothing but hyphens was read yet. -/
structure Bracket where
  left : Option Nat
  items : List Nat
  fresh : Bool
  deriving DecidableEq, Repr

namespace Bracket

def empty : Bracket := ⟨none, [], true⟩

def depth (b : Bracket) : Nat :=
  match b.left with
  | none => gather b.items
  | some left => 1 + max left (gather b.items)

def push (b : Bracket) (depth : Nat) : Bracket :=
  { b with items := depth :: b.items, fresh := false }

/-- What was read becomes the left side. -/
def operate (b : Bracket) : Bracket :=
  ⟨some b.depth, [], false⟩

end Bracket

def classNames : List String :=
  ["alnum", "alpha", "ascii", "blank", "cntrl", "digit", "graph", "lower", "print", "punct",
    "space", "upper", "word", "xdigit"]

/-- Reads `:name:]` behind the bracket; whether the class is negated comes with the rest. -/
def named? (text : List Char) : Option (Bool × List Char) :=
  match text with
  | ':' :: rest =>
      let (negated, rest) :=
        match rest with
        | '^' :: rest => (true, rest)
        | rest => (false, rest)
      match rest.dropWhile (· ≠ ':') with
      | ':' :: ']' :: behind =>
          if classNames.contains (String.ofList (rest.takeWhile (· ≠ ':'))) then
            some (negated, behind)
          else none
      | _ => none
  | _ => none

/-- A named class of bytes cannot be negated, as no class of bytes can. -/
def Switches.allowsNamed (s : Switches) (negated : Bool) : Bool :=
  if s.unicode then !s.anyCase else !negated

/-- What stands behind a hyphen, blanks left out. A comment is taken for its first character. -/
def behindHyphen (s : Switches) (text : List Char) : Option Char :=
  if s.spaced then
    match text.dropWhile Text.isBlank with
    | '#' :: comment => (comment.dropWhile Text.isBlank).head?
    | rest => rest.head?
  else text.head?

/-- Reads one character or escape of a class. -/
def classAtom? (s : Switches) : List Char → Option (Atom × List Char)
  | [] => none
  | '\\' :: rest => escape? s rest
  | c :: rest => some (.literal c false, rest)

/-- Reads an item of a class, which can be a range between two characters; a hyphen before the end
or before another hyphen makes no range. -/
def classItem? (s : Switches) (text : List Char) : Option (List Char) := do
  let (low, rest) ← classAtom? s text
  if !s.allowsInClass low then none
  else
    match s.next rest with
    | '-' :: behind =>
        if behindHyphen s behind = some ']' || behindHyphen s behind = some '-' then
          some ('-' :: behind)
        else
          let (high, rest) ← classAtom? s (s.next behind)
          match low, high with
          | .literal least _, .literal greatest _ =>
              if s.allowsInClass high && least ≤ greatest then some rest else none
          | _, _ => none
    | rest => some rest

/-- Reads what a class begins with behind its bracket; a class of bytes cannot be negated. -/
def openBracket? (s : Switches) (text : List Char) : Option (List Char) :=
  match s.next text with
  | '^' :: rest => if s.unicode then some rest else none
  | rest => some rest

/-- Reads a class to the end of its outermost bracket and evaluates to its depth and the rest;
`outer` are the classes around the current one. Every step reads a character, so that as many steps
as characters are enough. -/
def bracket? (s : Switches) : (steps : Nat) → (current : Bracket) → (outer : List Bracket) →
    List Char → Option (Nat × List Char)
  | 0, _, _, _ => none
  | steps + 1, current, outer, text =>
      match s.next text with
      | [] => none
      | '-' :: rest =>
          if current.fresh then
            if s.allowsInClass (.literal '-' false) then
              bracket? s steps { current with items := 0 :: current.items } outer rest
            else none
          else if rest.head? = some '-' then bracket? s steps current.operate outer rest.tail
          else (classItem? s ('-' :: rest)).bind (bracket? s steps (current.push 0) outer)
      | ']' :: rest =>
          if current.fresh && current.items.isEmpty then
            if s.allowsInClass (.literal ']' false) then
              bracket? s steps (current.push 0) outer rest
            else none
          else
            match outer with
            | [] => some (1 + current.depth, rest)
            | around :: outer => bracket? s steps (around.push (1 + current.depth)) outer rest
      | '[' :: rest =>
          match named? rest with
          | some (negated, rest) =>
              if s.allowsNamed negated then bracket? s steps (current.push 0) outer rest else none
          | none => (openBracket? s rest).bind (bracket? s steps .empty (current :: outer))
      | '&' :: '&' :: rest => bracket? s steps current.operate outer rest
      | '~' :: '~' :: rest => bracket? s steps current.operate outer rest
      | text => (classItem? s text).bind (bracket? s steps (current.push 0) outer)

end Assertions.Pattern
