import LiveNotebooks.Number.Shortest
import LiveNotebooks.Json.Fault

/-!
# JSON numerals

**Reading.**  The digits are collected into a 64-bit significand for as long as it fits;
later digits only count.  An integer that fits stays an integer, and minus zero is a
double.  Everything else is the significand as a double, times or divided by one
power of ten: two roundings, and not always the nearest double.

**Writing.**  The shortest decimal that reads back, positional between `1e-5` and
`1e16`, and with at least one digit after the point.
-/

namespace LiveNotebooks
namespace Json

def startsWithDigit : Bytes → Bool
  | b :: _ => (Digits.value? b).isSome
  | [] => false

/-- Is the next byte the mark of an exponent? -/
def startsWithExponent : Bytes → Bool
  | b :: _ => b = 0x65 || b = 0x45
  | [] => false

def dropDigits : Bytes → Nat → Nat × Bytes
  | [], count => (count, [])
  | b :: rest, count =>
      if (Digits.value? b).isSome then dropDigits rest (count + 1) else (count, b :: rest)

/-- Reads digits behind the significand `n` for as long as it stays below `2 ^ 64`, and
counts them. -/
def significand : Bytes → Nat → Nat → Nat × Nat × Bytes
  | [], n, count => (n, count, [])
  | b :: rest, n, count =>
      match Digits.value? b with
      | some d =>
          if 10 * n + d < Nat.pow 2 64 then significand rest (10 * n + d) (count + 1)
          else (n, count, b :: rest)
      | none => (n, count, b :: rest)

/-- The number with an integer numeral. -/
def ofSignificand (negative : Bool) (n : Nat) : Number :=
  if negative then
    if 0 < n && n ≤ Nat.pow 2 63 then .integer (-n)
    else .double ((Double.ofRatio? n 1).getD ⟨0⟩).negate
  else .integer n

/-- Divides a magnitude by `10 ^ e`, at most by `10 ^ 308` at a time.  The significand is
below `2 ^ 64`, so nothing is left of it after three steps. -/
def scaleDown : Nat → Double → Nat → Double
  | 0, x, _ => x
  | tries + 1, x, e =>
      if x.isZero then x
      else if e ≤ 308 then
        ((Double.powerOfTen? e).bind x.div?).getD x
      else
        scaleDown tries (((Double.powerOfTen? 308).bind x.div?).getD x) (e - 308)

/-- The magnitude `n * 10 ^ e` for a significand `n`, unless it is infinite. -/
def scale? (n : Nat) (e : Int) : Option Double :=
  (Double.ofRatio? n 1).bind fun x =>
    match e with
    | .ofNat e =>
        if x.isZero then some x
        else if e ≤ 308 then (Double.powerOfTen? e).bind x.mul?
        else none
    | .negSucc e => some (scaleDown 5 x (e + 1))

def signedDouble (negative : Bool) (x : Double) : Number :=
  .double (if negative then x.negate else x)

/-- The double with a sign and a magnitude in front of `rest`, unless it is infinite. -/
def orTooLarge (negative : Bool) (rest : Bytes) : Option Double → Reading Number
  | some x => .ok (signedDouble negative x, rest)
  | none => .error (.before .numberTooLarge rest)

/-- The number `n * 10 ^ e` in front of `rest`. -/
def readScaled (negative : Bool) (n : Nat) (e : Int) (rest : Bytes) : Reading Number :=
  orTooLarge negative rest (scale? n e)

/-- The digits of an exponent behind the value `e`.  Without a value the exponent has
31 bits or more. -/
def exponentDigits : Bytes → Nat → Option Nat × Bytes
  | [], e => (some e, [])
  | b :: rest, e =>
      match Digits.value? b with
      | some d =>
          if 10 * e + d < Nat.pow 2 31 then exponentDigits rest (10 * e + d) else (none, rest)
      | none => (some e, b :: rest)

def exponentSign : Bytes → Bool × Bytes
  | [] => (false, [])
  | b :: rest =>
      if b = 0x2B then (false, rest) else if b = 0x2D then (true, rest) else (false, b :: rest)

/-- The part of a numeral behind the mark of the exponent. -/
def readExponent (negative : Bool) (n : Nat) (start : Int) (rest : Bytes) : Reading Number :=
  let (down, rest) := exponentSign rest
  match rest with
  | [] => .error (.before .valueMissing [])
  | b :: rest =>
      match Digits.value? b with
      | none => .error (.before .badNumber rest)
      | some d =>
          match exponentDigits rest d with
          | (some e, rest) => readScaled negative n (if down then start - e else start + e) rest
          | (none, rest) =>
              if n ≠ 0 && !down then .error (.before .numberTooLarge rest)
              else .ok (signedDouble negative ⟨0⟩, (dropDigits rest 0).2)

/-- The part of a numeral behind its mantissa. -/
def readTail (negative : Bool) (n : Nat) (e : Int) (rest : Bytes) : Reading Number :=
  if startsWithExponent rest then readExponent negative n e rest.tail
  else readScaled negative n e rest

/-- The part of a numeral behind the point.  `shift` digits before the point were only
counted. -/
def readFraction (negative : Bool) (n shift : Nat) (rest : Bytes) : Reading Number :=
  match significand rest n 0 with
  | (n, count, rest) =>
      let e : Int := (shift : Int) - count
      if startsWithDigit rest then readTail negative n e (dropDigits rest 0).2
      else if count = 0 then
        .error (.ofNext (if rest.isEmpty then .valueMissing else .badNumber) rest)
      else readTail negative n e rest

/-- The part of a numeral behind its integer digits. -/
def readAfterInteger (negative : Bool) (n : Nat) (rest : Bytes) : Reading Number :=
  match rest with
  | b :: after =>
      if b = 0x2E then readFraction negative n 0 after
      else if startsWithExponent rest then readExponent negative n 0 after
      else .ok (ofSignificand negative n, rest)
  | [] => .ok (ofSignificand negative n, [])

/-- A numeral behind its sign. -/
def readUnsigned (negative : Bool) : Bytes → Reading Number
  | [] => .error (.before .valueMissing [])
  | b :: rest =>
      match Digits.value? b with
      | none => .error (.before .badNumber rest)
      | some 0 =>
          if startsWithDigit rest then .error (.ofNext .badNumber rest)
          else readAfterInteger negative 0 rest
      | some d =>
          match significand rest d 0 with
          | (n, _, rest) =>
              if startsWithDigit rest then
                let (shift, rest) := dropDigits rest 0
                match rest with
                | c :: after =>
                    if c = 0x2E then readFraction negative n shift after
                    else readTail negative n shift rest
                | [] => readScaled negative n shift []
              else readAfterInteger negative n rest

/-- A numeral, which is known to start with a minus sign or a digit. -/
def readNumber (text : Bytes) : Reading Number :=
  match text with
  | b :: rest => if b = 0x2D then readUnsigned true rest else readUnsigned false text
  | [] => .error (.before .valueMissing [])

/-- A decimal in the form in which numbers are written. -/
def decimalText (d : Shortest.Decimal) : String :=
  let digits := Nat.toDigits 10 d.digits
  let point : Int := d.exponent + digits.length
  if 0 ≤ d.exponent && point ≤ 16 then
    String.ofList (digits ++ List.replicate d.exponent.toNat '0') ++ ".0"
  else if 0 < point && point ≤ 16 then
    String.ofList (digits.take point.toNat) ++ "." ++ String.ofList (digits.drop point.toNat)
  else if -5 < point && point ≤ 0 then
    "0." ++ String.ofList (List.replicate (-point).toNat '0' ++ digits)
  else
    let e := point - 1
    let mark := if e < 0 then "e-" else "e+"
    String.ofList (digits.take 1) ++ (if digits.length = 1 then "" else ".")
      ++ String.ofList (digits.drop 1) ++ mark ++ Digits.decimal e.natAbs

def doubleText (x : Double) : String :=
  (if x.isNegative then "-" else "")
    ++ (if x.isZero then "0.0" else decimalText (Shortest.ofDouble x))

def Number.render : Number → String
  | .integer n => Digits.signed n
  | .double x => doubleText x

/-- What a number is called in place of another value. -/
def Number.found : Number → Found
  | .integer n => .integer n
  | .double x => .float (doubleText x)

end Json
end LiveNotebooks
