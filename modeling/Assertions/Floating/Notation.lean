import Assertions.Floating.Shortest

/-!
How a floating-point value is written. `display` is always positional; `debug` always shows that
the number is a floating-point one, and goes to an exponent for very large and very small values.
-/

namespace Assertions.Floating

attribute [local instance (high)] instPowNat

/-- The digits behind the point: the last zero is never one of them. -/
def trimZeros (digits : List Char) : List Char :=
  (digits.reverse.dropWhile (· = '0')).reverse

def padLeft (width : Nat) (digits : List Char) : List Char :=
  List.replicate (width - digits.length) '0' ++ digits

def wholeDigits (f : Format) (decimal : Nat) : List Char :=
  Nat.toDigits 10 (decimal / 10 ^ f.scale)

def fractionDigits (f : Format) (decimal : Nat) : List Char :=
  trimZeros (padLeft f.scale (Nat.toDigits 10 (decimal % 10 ^ f.scale)))

/-- A whole number has no point. -/
def positional (f : Format) (decimal : Nat) : List Char :=
  match fractionDigits f decimal with
  | [] => wholeDigits f decimal
  | digits => wholeDigits f decimal ++ '.' :: digits

/-- One digit before the point, and the point only when more digits follow. -/
def scientific (f : Format) (decimal : Nat) : List Char :=
  let digits := Nat.toDigits 10 decimal
  let exponent : Int := (digits.length : Int) - 1 - f.scale
  let significand :=
    match trimZeros digits with
    | first :: second :: more => first :: '.' :: second :: more
    | short => short
  significand ++ 'e' :: (toString exponent).toList

def withSign (negative : Bool) (digits : List Char) : String :=
  String.ofList (if negative then '-' :: digits else digits)

/-- The sign of an undefined value is never written. -/
def display (f : Format) : Floating → String
  | .nan => "NaN"
  | .infinite negative => withSign negative "inf".toList
  | .finite negative units => withSign negative (positional f (shortest f units))

/-- Whole numbers keep one digit behind the point. -/
def withPoint (f : Format) (decimal : Nat) : List Char :=
  match fractionDigits f decimal with
  | [] => wholeDigits f decimal ++ ['.', '0']
  | digits => wholeDigits f decimal ++ '.' :: digits

/-- Positional from `10 ^ -4` up to `10 ^ 16`, and for zero. -/
def needsExponent (f : Format) (units : Nat) : Bool :=
  units ≠ 0 && (units * 10 ^ (4 : Nat) < 2 ^ f.scale || 10 ^ (16 : Nat) * 2 ^ f.scale ≤ units)

def debug (f : Format) : Floating → String
  | .finite negative units =>
      let decimal := shortest f units
      withSign negative
        (if needsExponent f units then scientific f decimal else withPoint f decimal)
  | x => display f x

end Assertions.Floating
