import Assertions.Text.Quoted

/-!
Texts that a terminal shows and does not obey: the controls that start a control sequence or move
the cursor back are written as escapes. Tabs and line breaks stay, as does everything printed.
-/

namespace Assertions.Text

/-- The escape has two digits below U+0080 and stands in braces from there on. -/
def disarm : Char → List Char
  | '\x07' => ['\\', 'x', '0', '7']
  | '\x08' => ['\\', 'x', '0', '8']
  | '\x0c' => ['\\', 'x', '0', 'c']
  | '\x1b' => ['\\', 'x', '1', 'b']
  | '\x7f' => ['\\', 'x', '7', 'f']
  | c =>
      if 0x80 ≤ c.toNat && c.toNat ≤ 0x9f then
        '\\' :: 'u' :: '\x7b' :: hexadecimal c.toNat ++ ['\x7d']
      else [c]

def disarmed (text : String) : String :=
  String.ofList (text.toList.flatMap disarm)

end Assertions.Text
