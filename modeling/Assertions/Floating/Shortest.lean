import Assertions.Floating.Rounding

/-!
The shortest decimal that reads back. A finite value of a format is a whole number of
`10 ^ -scale`, and so is every decimal considered for it: among the powers of ten from the
leading digit down, the first one with a multiple that rounds to the value gives the text, and of
two such multiples the nearer one.
-/

namespace Assertions.Floating

attribute [local instance (high)] instPowNat

/-- The reals that round to a finite value, in quarters of `10 ^ -scale`: `exact` is the value
itself, and the ends belong to it when its significand is even. -/
structure Reach where
  exact : Nat
  below : Nat
  above : Nat
  closed : Bool
  deriving DecidableEq, Repr

namespace Reach

/-- Below a power of two the values are twice as close, unless they are the least ones. -/
def ofUnits (f : Format) (units : Nat) : Reach :=
  let step := f.spacing units
  let half := 2 * step * 5 ^ f.scale
  let narrow := units = 2 ^ (f.precision - 1) * step && 1 < step
  { exact := 4 * (units * 5 ^ f.scale)
    below := if narrow then half / 2 else half
    above := half
    closed := units / step % 2 = 0 }

/-- Whether a whole number of `10 ^ -scale` rounds to the value. -/
def contains (r : Reach) (decimal : Nat) : Bool :=
  if r.closed then r.exact ≤ 4 * decimal + r.below && 4 * decimal ≤ r.exact + r.above
  else r.exact < 4 * decimal + r.below && 4 * decimal < r.exact + r.above

/-- The two multiples of `10 ^ places` around the value; a tie between two that read back goes
to the larger. -/
def onGrid (r : Reach) (exact places : Nat) : Option Nat :=
  let low := exact / 10 ^ places * 10 ^ places
  let high := low + 10 ^ places
  match r.contains low, r.contains high with
  | true, true => if exact - low < high - exact then some low else some high
  | true, false => some low
  | false, true => some high
  | false, false => none

/-- The coarsest grid of at most `places` places below the leading one that has a decimal for
the value; the finest has the value itself. -/
def search (r : Reach) (exact : Nat) : Nat → Nat
  | 0 => exact
  | places + 1 =>
      match r.onGrid exact (places + 1) with
      | some decimal => decimal
      | none => search r exact places

end Reach

/-- Counted in `10 ^ -scale`. -/
def shortest (f : Format) (units : Nat) : Nat :=
  let exact := units * 5 ^ f.scale
  (Reach.ofUnits f units).search exact ((Nat.toDigits 10 exact).length - 1)

end Assertions.Floating
