import Assertions.Floating.Basic

/-!
Rounding to the nearest value of a format, ties to the even significand, and the sum and the
difference of two values, which are the rounded exact ones.
-/

namespace Assertions

attribute [local instance (high)] instPowNat

namespace Format

/-- The distance of the values next to `units`, in units of the least value. -/
def spacing (f : Format) (units : Nat) : Nat :=
  2 ^ (units.log2 + 1 - f.precision)

/-- The multiple of the spacing nearest to `numerator / denominator` units. -/
def nearest (f : Format) (numerator denominator : Nat) : Nat :=
  let step := f.spacing (numerator / denominator)
  let divisor := denominator * step
  let below := numerator / divisor
  let excess := numerator % divisor
  let up := if 2 * excess < divisor then 0 else if divisor < 2 * excess then 1 else below % 2
  (below + up) * step

/-- Values from the bound on have no finite neighbour to round to. -/
def round (f : Format) (negative : Bool) (numerator denominator : Nat) : Floating :=
  let units := f.nearest numerator denominator
  if units < f.bound then .finite negative units else .infinite negative

def ofRatio (f : Format) (numerator denominator : Nat) : Floating :=
  f.round false (numerator * 2 ^ f.scale) denominator

end Format

namespace Floating

/-- A sum that is exactly zero is negative only when both terms are. -/
def add (f : Format) : Floating → Floating → Floating
  | .nan, _ => .nan
  | _, .nan => .nan
  | .infinite s, .infinite t => if s = t then .infinite s else .nan
  | .infinite s, _ => .infinite s
  | _, .infinite t => .infinite t
  | .finite s x, .finite t y =>
      let sum := signed s x + signed t y
      if sum = 0 then .finite (s && t) 0
      else f.round (decide (sum < 0)) sum.natAbs 1

def sub (f : Format) (x y : Floating) : Floating :=
  add f x y.neg

/-- The quotient by a positive whole number. -/
def divideBy (f : Format) (divisor : Nat) : Floating → Floating
  | .finite negative units => f.round negative units divisor
  | x => x

end Floating

end Assertions
