import LiveNotebooks.Text.Digits

/-!
# Identifiers of requests

Every request gets an identifier of its own: 122 random bits, written as 32 hexadecimal
digits in five groups, in which one digit tells that the bits are random and another one
the layout.
-/

namespace LiveNotebooks
namespace Http
namespace RequestId

def layoutDigit (bits : Nat) : String :=
  match bits % 4 with
  | 0 => "8"
  | 1 => "9"
  | 2 => "a"
  | _ => "b"

/-- Some hexadecimal digits of a number, from the bit `low` on. -/
def group (width low bits : Nat) : String := Digits.hex width (bits / Nat.pow 2 low)

/-- The identifier with the given bits. -/
def ofRandom (bits : Nat) : String :=
  group 8 90 bits ++ "-" ++ group 4 74 bits ++ "-4" ++ group 3 62 bits
    ++ "-" ++ layoutDigit (bits / Nat.pow 2 60) ++ group 3 48 bits ++ "-" ++ group 12 0 bits

end RequestId
end Http
end LiveNotebooks
