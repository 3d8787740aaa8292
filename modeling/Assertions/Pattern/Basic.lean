import Assertions.Text.Blank

/-!
Patterns for texts. A pattern is made of single characters, classes of characters and places in the
text, put side by side, repeated and grouped. Switches say how its parts are read. Nothing is known
here about the letters of other scripts than the Latin one: while patterns speak of all characters,
no class by meaning, no word boundary and no letter case can be used; while they speak of bytes,
nothing that could match half a character.
-/

namespace Assertions.Pattern

/-- How the parts of a pattern are read: for all characters or for bytes, in any letter case, and
with blanks and comments between them. -/
structure Switches where
  unicode : Bool
  anyCase : Bool
  spaced : Bool
  deriving DecidableEq, Repr

/-- A text without the blanks and comments at its front; a comment runs to the end of a line. -/
def withoutBlanks (inComment : Bool) : List Char → List Char
  | [] => []
  | c :: rest =>
      if inComment then withoutBlanks (c ≠ '\n') rest
      else if Text.isBlank c then withoutBlanks false rest
      else if c = '#' then withoutBlanks true rest
      else c :: rest

/-- The simplest parts of a pattern. -/
inductive Atom where
  /-- A character; it can be written as a byte. -/
  | literal (char : Char) (asByte : Bool)
  | anything
  /-- Digits, blanks or letters of words, or all the others. -/
  | meaning (negated : Bool)
  /-- Where the text or a line begins or ends. -/
  | edge
  /-- Where a word begins or ends, or does not. -/
  | wordEdge
  deriving DecidableEq, Repr

namespace Switches

/-- How a pattern starts. -/
def initial : Switches := ⟨true, false, false⟩

/-- What is read next. -/
def next (s : Switches) (text : List Char) : List Char :=
  if s.spaced then withoutBlanks false text else text

/-- Whether a part can be used outside a class. -/
def allows (s : Switches) : Atom → Bool
  | .literal c asByte => if s.unicode then !s.anyCase else !asByte || c.toNat < 0x80
  | .anything => s.unicode
  | .meaning negated => !s.unicode && !negated
  | .edge => true
  | .wordEdge => !s.unicode

/-- A class has no places in it, and a class of bytes has ASCII characters only. -/
def allowsInClass (s : Switches) : Atom → Bool
  | .literal c _ => if s.unicode then !s.anyCase else c.toNat < 0x80
  | .meaning negated => !s.unicode && !negated
  | _ => false

end Switches

/-- Depth of parts that stand side by side; one alone is not put together with anything. -/
def gather : List Nat → Nat
  | [] => 0
  | [depth] => depth
  | depths => 1 + depths.foldl max 0

def hexDigit? (c : Char) : Option Nat :=
  if c.isDigit then some (c.toNat - '0'.toNat)
  else if 'a' ≤ c && c ≤ 'f' then some (c.toNat - 'a'.toNat + 10)
  else if 'A' ≤ c && c ≤ 'F' then some (c.toNat - 'A'.toNat + 10)
  else none

/-- Reads so many digits. -/
def codePoint? (s : Switches) : (digits : Nat) → (value : Nat) → List Char →
    Option (Nat × List Char)
  | 0, value, text => some (value, text)
  | digits + 1, value, text =>
      match s.next text with
      | [] => none
      | c :: rest => (hexDigit? c).bind fun digit => codePoint? s digits (16 * value + digit) rest

def hexadecimal? (s : Switches) (digits : Nat) (asByte : Bool) (text : List Char) :
    Option (Atom × List Char) := do
  let (value, rest) ← codePoint? s digits 0 text
  if value.isValidChar then some (.literal (Char.ofNat value) asByte, rest) else none

/-- ASCII characters that are not alphanumeric stand for themselves behind a backslash, except the
angles of word boundaries. -/
def isPlain (c : Char) : Bool :=
  c.toNat < 0x80 && !c.isAlphanum && c ≠ '<' && c ≠ '>'

/-- Reads what stands behind a backslash. There are no references to groups, and no class is known
by a property of its characters. -/
def escape? (s : Switches) : List Char → Option (Atom × List Char)
  | [] => none
  | 'x' :: rest => hexadecimal? s 2 true rest
  | 'u' :: rest => hexadecimal? s 4 false rest
  | 'U' :: rest => hexadecimal? s 8 false rest
  | c :: rest =>
      if isPlain c then some (.literal c false, rest)
      else
        match c with
        | 'd' | 's' | 'w' => some (.meaning false, rest)
        | 'D' | 'S' | 'W' => some (.meaning true, rest)
        | 'a' => some (.literal '\x07' false, rest)
        | 'f' => some (.literal '\x0c' false, rest)
        | 't' => some (.literal '\t' false, rest)
        | 'n' => some (.literal '\n' false, rest)
        | 'r' => some (.literal '\r' false, rest)
        | 'v' => some (.literal '\x0b' false, rest)
        | 'A' | 'z' => some (.edge, rest)
        | 'b' | 'B' | '<' | '>' => some (.wordEdge, rest)
        | _ => none

end Assertions.Pattern
