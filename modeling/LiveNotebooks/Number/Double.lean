/-!
# Double-precision numbers

A finite double is its bit pattern.  Arithmetic is exact on natural numbers: the
magnitude is counted in units of `2 ^ -1074`, the least positive double, and a ratio is
rounded once, to the nearest double, ties to the even significand.
-/

namespace LiveNotebooks

/-- A finite double-precision number. -/
structure Double where
  /-- Sign, eleven bits of exponent, fifty-two bits of fraction. -/
  bits : UInt64
  deriving DecidableEq

namespace Double

/-- The number of units of `2 ^ -1074` in one. -/
def unitsPerOne : Nat := Nat.pow 2 1074

/-- Is the sign bit set? -/
def isNegative (x : Double) : Bool := Nat.pow 2 63 ≤ x.bits.toNat

/-- The bit pattern without the sign. -/
def magnitudeBits (x : Double) : Nat := x.bits.toNat % Nat.pow 2 63

def exponentField (x : Double) : Nat := x.magnitudeBits / Nat.pow 2 52

/-- The fraction field. -/
def fraction (x : Double) : Nat := x.magnitudeBits % Nat.pow 2 52

/-- The significand as a natural number. -/
def significand (x : Double) : Nat :=
  if x.exponentField = 0 then x.fraction else Nat.pow 2 52 + x.fraction

/-- The distance to the next double of larger magnitude, in units. -/
def step (x : Double) : Nat := Nat.pow 2 (x.exponentField - 1)

/-- The magnitude in units. -/
def units (x : Double) : Nat := x.significand * x.step

def isZero (x : Double) : Bool := x.magnitudeBits = 0

/-- The least bit pattern that is not finite. -/
def infinityBits : Nat := 0x7FF * Nat.pow 2 52

/-- Rounds `n / d` to the nearest natural number, ties to the even one. -/
def roundDiv (n d : Nat) : Nat :=
  if 2 * (n % d) < d then n / d
  else if d < 2 * (n % d) then n / d + 1
  else n / d + n / d % 2

/-- The bit pattern of the double nearest to `n / d` units; not bounded above. -/
def nearestBits (n d : Nat) : Nat :=
  let exponent := (n / d).log2 - 52
  exponent * Nat.pow 2 52 + roundDiv n (d * Nat.pow 2 exponent)

/-- The nonnegative double nearest to `n / d`, unless that is infinite. -/
def ofRatio? (n d : Nat) : Option Double :=
  let bits := nearestBits (n * unitsPerOne) d
  if bits < infinityBits then some ⟨bits.toUInt64⟩ else none

/-- The same number with the sign bit set. -/
def negate (x : Double) : Double := ⟨(x.magnitudeBits + Nat.pow 2 63).toUInt64⟩

/-- The product of two magnitudes, unless it is infinite. -/
def mul? (x y : Double) : Option Double :=
  ofRatio? (x.units * y.units) (unitsPerOne * unitsPerOne)

/-- The quotient of two magnitudes, unless it is infinite. -/
def div? (x y : Double) : Option Double :=
  ofRatio? x.units y.units

/-- The double nearest to a power of ten, unless it is infinite. -/
def powerOfTen? (n : Nat) : Option Double := ofRatio? (Nat.pow 10 n) 1

end Double
end LiveNotebooks
