import Assertions.Text.Quoted

/-!
Pieces of a text between two offsets, which are counted in bytes of UTF-8. There is no piece that
begins or ends inside a character.
-/

namespace Assertions.Text

/-- An offset inside a character, which begins at `first`. -/
structure Cut where
  /-- Whether the piece would begin there; otherwise it would end there. -/
  atStart : Bool
  offset : Nat
  char : Char
  first : Nat
  deriving DecidableEq, Repr

def Cut.message (cut : Cut) : String :=
  (if cut.atStart then "start" else "end") ++ " byte index " ++ toString cut.offset ++
    " is not a char boundary; it is inside '" ++ String.ofList (escape cut.char) ++ "' (bytes " ++
    toString cut.first ++ ".." ++ toString (cut.first + cut.char.utf8Size) ++ " of string)"

/-- The characters from an offset on; `first` is the offset of the first character of the text. -/
def fromOffset (atStart : Bool) (offset : Nat) : (first : Nat) → List Char → Except Cut (List Char)
  | _, [] => .ok []
  | first, c :: rest =>
      if offset ≤ first then .ok (c :: rest)
      else if offset < first + c.utf8Size then .error ⟨atStart, offset, c, first⟩
      else fromOffset atStart offset (first + c.utf8Size) rest

/-- A start inside a character is reported before an end inside one. -/
def slice (text : List Char) (start stop : Nat) : Except Cut (List Char) := do
  let piece ← fromOffset true start 0 text
  let behind ← fromOffset false stop 0 text
  return piece.take (piece.length - behind.length)

def sliceFrom (text : List Char) (start : Nat) : Except Cut (List Char) :=
  fromOffset true start 0 text

/-- Every character with its offset. -/
def withOffsets (first : Nat) : List Char → List (Nat × Char)
  | [] => []
  | c :: rest => (first, c) :: withOffsets (first + c.utf8Size) rest

end Assertions.Text
