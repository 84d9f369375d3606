/-!
# Numerals

Decimal and hexadecimal numerals as lists of characters, with or without a fixed
width.
-/

namespace LiveNotebooks
namespace Digits

/-- The decimal numeral of a natural number. -/
def decimal (n : Nat) : String :=
  String.ofList (Nat.toDigits 10 n)

/-- The decimal numeral of an integer, with a minus sign where it is negative. -/
def signed : Int → String
  | .ofNat n => decimal n
  | .negSucc n => "-" ++ decimal (n + 1)

/-- The last `width` digits of `n` in the given base, with leading zeros. -/
def fixed (base : Nat) : Nat → Nat → List Char → List Char
  | 0, _, acc => acc
  | width + 1, n, acc => fixed base width (n / base) (Nat.digitChar (n % base) :: acc)

@[simp] theorem length_fixed
    (base width n : Nat)
    (acc : List Char) :
    (fixed base width n acc).length = width + acc.length := by
  induction width generalizing n acc with
  | zero =>
      simp [fixed]
  | succ width ih =>
      simp [fixed, ih]
      omega

/-- A decimal numeral filled with zeros on the left up to `width`. -/
def padded (width n : Nat) : String :=
  if n < Nat.pow 10 width then String.ofList (fixed 10 width n []) else decimal n

/-- A hexadecimal numeral of exactly `width` lower-case digits. -/
def hex (width n : Nat) : String :=
  String.ofList (fixed 16 width n [])

/-- A hexadecimal numeral of exactly `width` upper-case digits. -/
def hexUpper (width n : Nat) : String :=
  (hex width n).toUpper

/-- The shortest lower-case hexadecimal numeral. -/
def hexShort (n : Nat) : String :=
  String.ofList (Nat.toDigits 16 n)

/-- The value of a decimal digit. -/
def value? (b : UInt8) : Option Nat :=
  if 0x30 ≤ b && b ≤ 0x39 then some (b.toNat - 0x30) else none

/-- The value of a hexadecimal digit of either case. -/
def hexValue? (b : UInt8) : Option Nat :=
  if 0x30 ≤ b && b ≤ 0x39 then some (b.toNat - 0x30)
  else if 0x41 ≤ b && b ≤ 0x46 then some (b.toNat - 0x37)
  else if 0x61 ≤ b && b ≤ 0x66 then some (b.toNat - 0x57)
  else none

end Digits
end LiveNotebooks
