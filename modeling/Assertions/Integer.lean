/-!
Whole numbers of a fixed width. A value is kept as an integer; the kind says which integers there
are and how one is read from its decimal text.
-/

namespace Assertions

attribute [local instance (high)] instPowNat

structure IntKind where
  signed : Bool
  bits : Nat
  deriving DecidableEq, Repr

namespace IntKind

def i8 : IntKind := ⟨true, 8⟩
def i16 : IntKind := ⟨true, 16⟩
def i32 : IntKind := ⟨true, 32⟩
def i64 : IntKind := ⟨true, 64⟩
def i128 : IntKind := ⟨true, 128⟩
def u8 : IntKind := ⟨false, 8⟩
def u16 : IntKind := ⟨false, 16⟩
def u32 : IntKind := ⟨false, 32⟩
def u64 : IntKind := ⟨false, 64⟩
def u128 : IntKind := ⟨false, 128⟩

def least (kind : IntKind) : Int :=
  if kind.signed then -(2 ^ (kind.bits - 1)) else 0

def greatest (kind : IntKind) : Int :=
  if kind.signed then 2 ^ (kind.bits - 1) - 1 else 2 ^ kind.bits - 1

def contains (kind : IntKind) (n : Int) : Bool :=
  kind.least ≤ n && n ≤ kind.greatest

def digit? (c : Char) : Option Nat :=
  if '0' ≤ c ∧ c ≤ '9' then some (c.toNat - '0'.toNat) else none

/-- At least one digit, and nothing but digits; leading zeros are allowed. -/
def digits? : List Char → Option Nat
  | [] => none
  | digits =>
      digits.foldl (fun value? c => do return 10 * (← value?) + (← digit? c)) (some 0)

/-- One sign may stand in front; an unsigned kind has no minus, not even before zero. -/
def signed? (kind : IntKind) : List Char → Option Int
  | '+' :: digits => (digits? digits).map Int.ofNat
  | '-' :: digits => if kind.signed then (digits? digits).map fun n => -(n : Int) else none
  | digits => (digits? digits).map Int.ofNat

def read? (kind : IntKind) (text : String) : Option Int :=
  (kind.signed? text.toList).filter kind.contains

end IntKind

end Assertions
