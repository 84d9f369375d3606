import LiveNotebooks.Number.Double

/-!
# JSON values

A value keeps the members of an object in order of first appearance.  A number is an
integer of 64 bits, signed or unsigned, or else a finite double.
-/

namespace LiveNotebooks
namespace Json

/-- A JSON number. -/
inductive Number where
  /-- A number between `-2 ^ 63` and `2 ^ 64 - 1`. -/
  | integer (value : Int)
  | double (value : Double)
  deriving DecidableEq

/-- A JSON value. -/
inductive Value where
  | null
  | boolean (value : Bool)
  | number (value : Number)
  | text (value : String)
  | array (items : List Value)
  | object (members : List (String × Value))

abbrev Members := List (String × Value)

/-- Adds a member to a list that holds the latest first.  A repeated key keeps its place
and takes the new value. -/
def addMember (members : Members) (key : String) (value : Value) : Members :=
  if members.any (fun m => m.1 == key) then
    members.map (fun m => if m.1 == key then (m.1, value) else m)
  else (key, value) :: members

namespace Value

def isObject : Value → Bool
  | .object _ => true
  | _ => false

def member? (key : String) : Value → Option Value
  | .object members => members.lookup key
  | _ => none

end Value
end Json
end LiveNotebooks
