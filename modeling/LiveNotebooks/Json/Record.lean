import LiveNotebooks.Json.Skip

/-!
# Reading records

A record is read from an object, whose members may come in any order and among others,
or from a list, which holds the fields in their order.  Fields that have a default may
be absent; every other field must be given once.

A fault of a field is noticed where it stands.  A missing or repeated field is noticed
behind the closing bracket of the record.
-/

namespace LiveNotebooks
namespace Json

/-- A reader of a part of a record, given the fuel and the levels it may open. -/
abbrev PartReader (α : Type) := Nat → Nat → Bytes → Reading α

/-- A string, which is called `wanted` in faults, and what it denotes. -/
def readDenoting {α : Type} (wanted : String) (denote : String → Except String α) :
    PartReader α :=
  fun fuel _ text =>
    match readStringValue wanted fuel text with
    | .error fault => .error fault
    | .ok (s, rest) =>
        match denote s with
        | .ok a => .ok (a, rest)
        | .error reason => .error (.before (.unreadable reason) rest)

def readString (wanted : String) : PartReader String :=
  readDenoting wanted .ok

/-- A natural number below `bound`, of a type called `wanted`. -/
def readNatural (wanted : String) (bound : Nat) : PartReader Nat :=
  fun fuel _ text =>
    match skipBlanks text with
    | [] => .error ⟨.valueMissing, 0⟩
    | b :: rest =>
        if b = 0x2D || (Digits.value? b).isSome then
          match readNumber (b :: rest) with
          | .error fault => .error fault
          | .ok (.integer n, rest) =>
              if 0 ≤ n && n < bound then .ok (n.toNat, rest)
              else .error (.before (.valueMismatch (.integer n) wanted) rest)
          | .ok (.double x, rest) =>
              .error (.before (.typeMismatch (Number.double x).found wanted) rest)
        else .error (mismatch wanted fuel (b :: rest))

/-- A value or `null`. -/
def readOptional {α : Type} (reader : PartReader α) : PartReader (Option α) :=
  fun fuel levels text =>
    match skipBlanks text with
    | b :: rest =>
        if b = 0x6E then (readWord nullTail rest).map (none, ·)
        else (reader fuel levels (b :: rest)).map fun r => (some r.1, r.2)
    | [] => (reader fuel levels []).map fun r => (some r.1, r.2)

/-- A value of any shape. -/
def readAny : PartReader Value := readValue

/-- A field of a record that is under construction. -/
structure Field (ρ : Type) where
  name : String
  /-- Has the field been read? -/
  isGiven : ρ → Bool
  /-- Reads the field. -/
  read : ρ → PartReader ρ

/-- The items of a list, one for each of the given fields as long as there are any. -/
def readFields {ρ : Type} (fuel levels : Nat) :
    List (Field ρ) → Bool → ρ → Bytes → Except Fault (ρ × Bytes)
  | [], _, record, text => .ok (record, text)
  | field :: fields, first, record, text =>
      match nextItem first text with
      | .error fault => .error fault
      | .ok (false, rest) => .ok (record, rest)
      | .ok (true, rest) =>
          match field.read record fuel levels rest with
          | .error fault => .error fault
          | .ok (record, rest) => readFields fuel levels fields false record rest

/-- Closes a record.  A cause found in it is noticed behind the closing bracket, or where
the search for the bracket ends. -/
def closeRecord {α : Type} (closer : Bytes → Except Fault Bytes) (stop : Bytes → Bytes)
    (result : Except Cause α) (text : Bytes) : Reading α :=
  match result, closer text with
  | .ok a, .ok rest => .ok (a, rest)
  | .ok _, .error fault => .error fault
  | .error cause, .ok rest => .error (.before cause rest)
  | .error cause, .error _ => .error (.before cause (stop text))

/-- Where the search for the end of a list stops in vain. -/
def stopInList (text : Bytes) : Bytes :=
  match skipBlanks text with
  | b :: rest => if b = 0x2C then skipBlanks rest else b :: rest
  | [] => []

/-- How a record is read: from `blank`, field by field. -/
structure Schema (ρ α : Type) where
  title : String
  fields : List (Field ρ)
  blank : ρ
  /-- The finished record, or the index of the first field that is missing. -/
  finish : ρ → Except Nat α

namespace Schema

variable {ρ α : Type} (schema : Schema ρ α)

/-- The cause of a missing field in an object. -/
def missing (index : Nat) : Cause :=
  .missingField ((schema.fields[index]?.map Field.name).getD "")

/-- The cause of a missing field in a list. -/
def lengthCause (index : Nat) : Cause :=
  .tooShort index
    (schema.title ++ " with " ++ Digits.decimal schema.fields.length ++ " elements")

/-- The members of an object.  A cause that concerns the whole record comes with the text
where the reading stopped. -/
def readMembers (fuel levels : Nat) :
    Nat → Bool → ρ → Bytes → Except Fault (Except Cause ρ × Bytes)
  | 0, _, _, text => .error (.before .objectNotClosed text)
  | rounds + 1, first, record, text =>
      match nextKey first text with
      | .error fault => .error fault
      | .ok (false, rest) => .ok (.ok record, rest)
      | .ok (true, rest) =>
          match readText fuel rest with
          | .error fault => .error fault
          | .ok (key, rest) =>
              match schema.fields.find? (fun f => f.name == key) with
              | some field =>
                  if field.isGiven record then .ok (.error (.repeatedField key), rest)
                  else
                    match readColon rest with
                    | .error fault => .error fault
                    | .ok rest =>
                        match field.read record fuel levels rest with
                        | .error fault => .error fault
                        | .ok (record, rest) =>
                            readMembers fuel levels rounds false record rest
              | none =>
                  match (readColon rest).bind (skipValue fuel) with
                  | .error fault => .error fault
                  | .ok rest => readMembers fuel levels rounds false record rest

/-- The finished record or the cause for which it is none. -/
def finished (cause : Nat → Cause) : Except Cause ρ → Except Cause α
  | .error c => .error c
  | .ok record =>
      match schema.finish record with
      | .ok a => .ok a
      | .error index => .error (cause index)

/-- Reads a record. -/
def read (fuel levels : Nat) (text : Bytes) : Reading α :=
  match skipBlanks text with
  | [] => .error ⟨.valueMissing, 0⟩
  | b :: rest =>
      if b = 0x5B then
        match levels with
        | 0 => .error (.ofNext .tooDeep (b :: rest))
        | levels + 1 =>
            match readFields fuel levels schema.fields true schema.blank rest with
            | .error fault => .error fault
            | .ok (record, rest) =>
                closeRecord closeList stopInList
                  (schema.finished schema.lengthCause (.ok record)) rest
      else if b = 0x7B then
        match levels with
        | 0 => .error (.ofNext .tooDeep (b :: rest))
        | levels + 1 =>
            match schema.readMembers fuel levels fuel true schema.blank rest with
            | .error fault => .error fault
            | .ok (record, rest) =>
                closeRecord closeObject skipBlanks (schema.finished schema.missing record) rest
      else .error (mismatch schema.title fuel (b :: rest))

/-- Reads a text that holds one record. -/
def parse (text : Bytes) : Except Error α :=
  parseWith (fun fuel => schema.read fuel maxLevels) text

end Schema
end Json
end LiveNotebooks
