/-!
Binary floating point as fixed point. Every finite value of a format is a sign and a whole number
of the format's least positive value, so sums, differences and comparisons are exact arithmetic
on integers, and rounding is the only place where a value is lost.
-/

namespace Assertions

attribute [local instance (high)] instPowNat

/-- `precision` counts the leading bit that normal values leave out. -/
structure Format where
  precision : Nat
  exponentWidth : Nat
  deriving DecidableEq, Repr

namespace Format

def binary32 : Format := ⟨24, 8⟩

def binary64 : Format := ⟨53, 11⟩

/-- A sign bit takes the place of the bit that `precision` counts but a word leaves out. -/
def width (f : Format) : Nat :=
  f.precision + f.exponentWidth

/-- The least positive value is `2 ^ -scale`. -/
def scale (f : Format) : Nat :=
  2 ^ (f.exponentWidth - 1) + f.precision - 3

/-- The first multiple of the least value that is too large for the format. -/
def bound (f : Format) : Nat :=
  2 ^ (f.precision + 2 ^ f.exponentWidth - 3)

end Format

/-- The value of a word. A finite value is counted in units of its format's least one. -/
inductive Floating where
  | nan
  | infinite (negative : Bool)
  | finite (negative : Bool) (units : Nat)
  deriving DecidableEq, Repr

/-- A word of a format: sign, biased exponent and fraction, from the highest bit down. -/
structure Binary (f : Format) where
  bits : BitVec f.width
  deriving DecidableEq, Repr

abbrev Binary32 := Binary .binary32

abbrev Binary64 := Binary .binary64

namespace Binary

variable {f : Format}

def ofNat (f : Format) (bits : Nat) : Binary f :=
  ⟨BitVec.ofNat f.width bits⟩

def fraction (x : Binary f) : Nat :=
  x.bits.toNat % 2 ^ (f.precision - 1)

def exponent (x : Binary f) : Nat :=
  x.bits.toNat / 2 ^ (f.precision - 1) % 2 ^ f.exponentWidth

def negative (x : Binary f) : Bool :=
  2 ^ (f.width - 1) ≤ x.bits.toNat

/-- The lowest exponent marks values without the leading bit, the highest one infinities and
undefined values. -/
def value (x : Binary f) : Floating :=
  if x.exponent = 2 ^ f.exponentWidth - 1 then
    if x.fraction = 0 then .infinite x.negative else .nan
  else if x.exponent = 0 then .finite x.negative x.fraction
  else .finite x.negative ((2 ^ (f.precision - 1) + x.fraction) * 2 ^ (x.exponent - 1))

/-- The word of a value, when `f` has one; every undefined value gets the same word. -/
def ofValue (f : Format) (x : Floating) : Binary f :=
  let sign (negative : Bool) := if negative then 2 ^ (f.width - 1) else 0
  let top := (2 ^ f.exponentWidth - 1) * 2 ^ (f.precision - 1)
  match x with
  | .nan => ofNat f (top + 1)
  | .infinite negative => ofNat f (sign negative + top)
  | .finite negative units =>
      let shift := units.log2 + 1 - f.precision
      ofNat f (sign negative + shift * 2 ^ (f.precision - 1) + units / 2 ^ shift)

def neg (x : Binary f) : Binary f :=
  ⟨x.bits ^^^ BitVec.ofNat f.width (2 ^ (f.width - 1))⟩

end Binary

namespace Floating

def signed (negative : Bool) (units : Nat) : Int :=
  if negative then -(units : Int) else units

def neg : Floating → Floating
  | .nan => .nan
  | .infinite negative => .infinite (!negative)
  | .finite negative units => .finite (!negative) units

/-- Numeric order: both zeros are one number, and an undefined value compares with nothing. -/
def le : Floating → Floating → Bool
  | .nan, _ => false
  | _, .nan => false
  | .infinite true, _ => true
  | _, .infinite false => true
  | .infinite false, _ => false
  | _, .infinite true => false
  | .finite s x, .finite t y => signed s x ≤ signed t y

/-- Numeric equality: both zeros are one number, and an undefined value equals nothing. -/
def same : Floating → Floating → Bool
  | .infinite s, .infinite t => s == t
  | .finite s x, .finite t y => signed s x == signed t y
  | _, _ => false

/-- The whole part of a value of format `f`, toward zero. -/
def truncate (f : Format) : Floating → Floating
  | .finite negative units => .finite negative (units / 2 ^ f.scale * 2 ^ f.scale)
  | x => x

end Floating

end Assertions
