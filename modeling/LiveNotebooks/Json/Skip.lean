import LiveNotebooks.Json.Reader

/-!
# Passing over a value

A value that nobody asks for is passed over.  Its nesting is not bounded, its strings
need not be UTF-8 and its numbers may be out of range, but its brackets must match.
-/

namespace LiveNotebooks
namespace Json

inductive Bracket where
  | list
  | object
  deriving DecidableEq

namespace Bracket

def closing : Bracket → UInt8
  | .list => 0x5D
  | .object => 0x7D

/-- The cause when the text ends inside the bracket. -/
def notClosed : Bracket → Cause
  | .list => .listNotClosed
  | .object => .objectNotClosed

/-- The cause when neither a comma nor the closing byte follows a value. -/
def noSeparator : Bracket → Cause
  | .list => .expectedListSeparator
  | .object => .expectedObjectSeparator

end Bracket

/-- An exponent behind its mark. -/
def skipExponent (text : Bytes) : Except Fault Bytes :=
  match (exponentSign text).2 with
  | [] => .error ⟨.badNumber, 0⟩
  | b :: rest =>
      if (Digits.value? b).isSome then .ok (dropDigits rest 0).2
      else .error (.before .badNumber rest)

/-- The part of a numeral behind its mantissa. -/
def skipTail (text : Bytes) : Except Fault Bytes :=
  if startsWithExponent text then skipExponent text.tail else .ok text

/-- The part of a numeral behind its integer digits. -/
def skipAfterInteger (text : Bytes) : Except Fault Bytes :=
  match text with
  | b :: rest =>
      if b = 0x2E then
        match dropDigits rest 0 with
        | (0, rest) => .error (.ofNext .badNumber rest)
        | (_ + 1, rest) => skipTail rest
      else skipTail text
  | [] => .ok []

/-- A numeral behind its sign. -/
def skipUnsigned : Bytes → Except Fault Bytes
  | [] => .error ⟨.badNumber, 0⟩
  | b :: rest =>
      match Digits.value? b with
      | none => .error (.before .badNumber rest)
      | some 0 =>
          if startsWithDigit rest then .error (.ofNext .badNumber rest)
          else skipAfterInteger rest
      | some _ => skipAfterInteger (dropDigits rest 0).2

/-- A key behind the comma or the brace before it, and the colon. -/
def skipKey (fuel : Nat) (text : Bytes) : Except Fault Bytes :=
  match skipBlanks text with
  | [] => .error ⟨.objectNotClosed, 0⟩
  | b :: rest =>
      if b = 0x22 then (skipText fuel rest).bind readColon
      else .error (.ofNext .keyNotString (b :: rest))

/-- The key before the next value, where the innermost bracket has keys. -/
def skipKeyIn (fuel : Nat) : Bracket → Bytes → Except Fault Bytes
  | .list, text => .ok text
  | .object, text => skipKey fuel text

/-- A value without brackets, or `none` and the text behind an opening bracket. -/
def skipScalar (fuel : Nat) (text : Bytes) : Except Fault (Option Bracket × Bytes) :=
  match skipBlanks text with
  | [] => .error ⟨.valueMissing, 0⟩
  | b :: rest =>
      if b = 0x6E then (readWord nullTail rest).map (none, ·)
      else if b = 0x74 then (readWord trueTail rest).map (none, ·)
      else if b = 0x66 then (readWord falseTail rest).map (none, ·)
      else if b = 0x2D then (skipUnsigned rest).map (none, ·)
      else if (Digits.value? b).isSome then (skipUnsigned (b :: rest)).map (none, ·)
      else if b = 0x22 then (skipText fuel rest).map (none, ·)
      else if b = 0x5B then .ok (some .list, rest)
      else if b = 0x7B then .ok (some .object, rest)
      else .error (.ofNext .expectedValue (b :: rest))

/-- What the passage stands in front of. -/
inductive Position where
  /-- A value. -/
  | value
  /-- The first part of the innermost bracket, or its end. -/
  | opened
  /-- A comma, or the end of the innermost bracket. -/
  | behindValue

/-- The passage, with the open brackets innermost first.  Two rounds read at least one
byte. -/
def skipLoop (keyFuel : Nat) : Nat → Position → List Bracket → Bytes → Except Fault Bytes
  | 0, _, _, text => .error (.before .valueMissing text)
  | fuel + 1, .value, stack, text =>
      match skipScalar keyFuel text with
      | .error fault => .error fault
      | .ok (none, rest) => skipLoop keyFuel fuel .behindValue stack rest
      | .ok (some bracket, rest) => skipLoop keyFuel fuel .opened (bracket :: stack) rest
  | _ + 1, _, [], text => .ok text
  | fuel + 1, .opened, bracket :: stack, text =>
      match skipBlanks text with
      | [] => .error ⟨bracket.notClosed, 0⟩
      | b :: rest =>
          if b = bracket.closing then skipLoop keyFuel fuel .behindValue stack rest
          else
            match skipKeyIn keyFuel bracket (b :: rest) with
            | .error fault => .error fault
            | .ok rest => skipLoop keyFuel fuel .value (bracket :: stack) rest
  | fuel + 1, .behindValue, bracket :: stack, text =>
      match skipBlanks text with
      | [] => .error ⟨bracket.notClosed, 0⟩
      | b :: rest =>
          if b = 0x2C then
            match skipKeyIn keyFuel bracket rest with
            | .error fault => .error fault
            | .ok rest => skipLoop keyFuel fuel .value (bracket :: stack) rest
          else if b = bracket.closing then skipLoop keyFuel fuel .behindValue stack rest
          else .error (.ofNext bracket.noSeparator (b :: rest))

/-- The text behind a value. -/
def skipValue (fuel : Nat) (text : Bytes) : Except Fault Bytes :=
  skipLoop fuel (2 * fuel) .value [] text

end Json
end LiveNotebooks
