import Assertions.Text.Utf8

/-!
Texts that end at their first NUL byte, and pointers to them that may be null. What is behind the
NUL, and where the buffer lies, is never part of the text.
-/

namespace Assertions

structure CString where
  buffer : List UInt8
  deriving DecidableEq, Repr

namespace CString

def contents (s : CString) : List UInt8 :=
  s.buffer.takeWhile (· ≠ 0)

/-- All of `bytes`, or the place of the first NUL among them. -/
def ofBytes? (bytes : List UInt8) : Except Nat CString :=
  match bytes.findIdx? (· = 0) with
  | some position => .error position
  | none => .ok ⟨bytes⟩

def text (s : CString) : String :=
  Text.ofBytesLossy s.contents

end CString

inductive Pointer where
  | null
  | to (address : Nat) (target : CString)
  deriving DecidableEq, Repr

def Pointer.target? : Pointer → Option CString
  | .null => none
  | .to _ target => some target

end Assertions
