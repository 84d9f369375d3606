import LiveNotebooks.Json.Number
import LiveNotebooks.Json.Punctuation
import LiveNotebooks.Json.Text

/-!
# Values of the wrong type

Where a value of one type is wanted and another one stands, the fault tells both.  A word,
a number or a string is read first, so the fault is noticed behind it, and a fault inside it
comes first.  A list or an object is refused at its opening bracket.
-/

namespace LiveNotebooks
namespace Json

/-- The fault of a value that is not of the wanted type. -/
def mismatch (wanted : String) (fuel : Nat) (text : Bytes) : Fault :=
  let found (f : Found) (rest : Bytes) : Fault := .before (.typeMismatch f wanted) rest
  let behindWord (f : Found) : Except Fault Bytes → Fault
    | .ok rest => found f rest
    | .error fault => fault
  match text with
  | [] => ⟨.expectedValue, 0⟩
  | b :: rest =>
      if b = 0x6E then behindWord .null (readWord nullTail rest)
      else if b = 0x74 then behindWord (.boolean true) (readWord trueTail rest)
      else if b = 0x66 then behindWord (.boolean false) (readWord falseTail rest)
      else if b = 0x2D || (Digits.value? b).isSome then
        match readNumber (b :: rest) with
        | .ok (n, rest) => found n.found rest
        | .error fault => fault
      else if b = 0x22 then
        match readText fuel rest with
        | .ok (s, rest) => found (.text s) rest
        | .error fault => fault
      else if b = 0x5B then found .sequence (b :: rest)
      else if b = 0x7B then found .map (b :: rest)
      else .ofNext .expectedValue (b :: rest)

/-- A string, which is called `wanted` in faults. -/
def readStringValue (wanted : String) (fuel : Nat) (text : Bytes) : Reading String :=
  match skipBlanks text with
  | [] => .error ⟨.valueMissing, 0⟩
  | b :: rest =>
      if b = 0x22 then readText fuel rest else .error (mismatch wanted fuel (b :: rest))

end Json
end LiveNotebooks
