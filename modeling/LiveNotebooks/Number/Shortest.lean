import LiveNotebooks.Number.Double

/-!
# The shortest decimal that reads back

Every double has a closest interval of reals that round to it, ends included exactly
when its significand is even.  Among the decimals in this interval those with the
fewest digits are wanted, and of these the nearest one.

**Algorithm.**  Grids of step `10 ^ p` are tried from coarse to fine.  A grid meets the
interval only if one of the two grid points around the number lies in it.
-/

namespace LiveNotebooks
namespace Shortest

/-- A decimal `digits * 10 ^ exponent`. -/
structure Decimal where
  digits : Nat
  exponent : Int
  deriving DecidableEq

/-- The interval of reals that round to a double, and the double itself.  All four
numbers are counted in quarters of the unit of `Double.units`. -/
structure Interval where
  low : Nat
  value : Nat
  high : Nat
  /-- Do the ends round to the double as well? -/
  closed : Bool

/-- The interval of a double.  Below a power of two the doubles are twice as dense. -/
def Interval.ofDouble (x : Double) : Interval where
  low := 4 * x.units -
    (if x.fraction = 0 && 1 < x.exponentField then x.step else 2 * x.step)
  value := 4 * x.units
  high := 4 * x.units + 2 * x.step
  closed := x.significand % 2 = 0

/-- Does the point `n / d` of the scaled line lie in the interval? -/
def Interval.contains (i : Interval) (n d : Nat) : Bool :=
  if i.closed then i.low * d ≤ n && n ≤ i.high * d
  else i.low * d < n && n < i.high * d

/-- The point of the grid of step `step / scale` that lies in the interval, the nearer
one if both neighbours do, and the even one at an exact tie. -/
def gridPoint? (i : Interval) (step scale : Nat) : Option Nat :=
  let below := i.value * scale / step
  let hasBelow := 0 < below && i.contains (below * step) scale
  let hasAbove := i.contains ((below + 1) * step) scale
  if hasBelow && hasAbove then
    some (Double.roundDiv (i.value * scale) step)
  else if hasBelow then some below
  else if hasAbove then some (below + 1)
  else none

/-- One quarter unit is the reciprocal of this number. -/
def quartersPerOne : Nat := 4 * Double.unitsPerOne

/-- The grid of step `10 ^ p`. -/
def grid? (i : Interval) : Int → Option Nat
  | .ofNat p => gridPoint? i (quartersPerOne * Nat.pow 10 p) 1
  | .negSucc p => gridPoint? i quartersPerOne (Nat.pow 10 (p + 1))

/-- Tries the grids `p`, `p - 1`, … -/
def search (i : Interval) : Nat → Int → Decimal
  | 0, p => ⟨0, p⟩
  | tries + 1, p =>
      match grid? i p with
      | some digits => ⟨digits, p⟩
      | none => search i tries (p - 1)

/-- An exponent of ten above every grid that can meet the interval. -/
def startExponent (x : Double) : Int :=
  ((x.units.log2 : Int) - 1073) * 30103 / 100000 + 2

/-- The shortest decimal of a positive double. -/
def ofDouble (x : Double) : Decimal :=
  search (Interval.ofDouble x) 24 (startExponent x)

end Shortest
end LiveNotebooks
