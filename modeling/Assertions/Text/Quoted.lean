import Assertions.Text.Unprinted

/-!
Quoted text: a text between double quotes in which every character that would end the quotes or
would not show is written as an escape. `quote` is what a reader sees of a text in a log line.
-/

namespace Assertions.Text

/-- The code point in lower-case hexadecimal, without leading zeros. -/
def hexadecimal (n : Nat) : List Char :=
  Nat.toDigits 16 n

/-- A single quote stands for itself, as the surrounding quotes are double ones. -/
def escape : Char → List Char
  | '"' => ['\\', '"']
  | '\\' => ['\\', '\\']
  | '\t' => ['\\', 't']
  | '\r' => ['\\', 'r']
  | '\n' => ['\\', 'n']
  | '\x00' => ['\\', '0']
  | c =>
      if isUnprinted c then
        '\\' :: 'u' :: '\x7b' :: hexadecimal c.toNat ++ ['\x7d']
      else [c]

def quote (text : String) : String :=
  String.ofList ('"' :: text.toList.flatMap escape ++ ['"'])

end Assertions.Text
