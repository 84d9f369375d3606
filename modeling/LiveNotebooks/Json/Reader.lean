import LiveNotebooks.Json.Mismatch

/-!
# Reading JSON values

**Input.**  A byte list that starts with a value, blanks before it allowed.

**Algorithm.**  One reader per shape, each returning the unread bytes.  Lists and objects
read their parts by a reader that may open one level less, so the nesting is bounded
and the recursion follows the number of levels.  The loops over items, members and
characters read at least one byte a round, so a `fuel` above the length of the
whole text never runs out.

**Embedded texts.**  An object whose first key is `embeddingKey` stands for another value:
the string behind the key is a whole text of its own, with levels of its own, and the value
is the one that this text holds.  An embedded text is shorter than the text around it, so
it is read with one unit of `fuel` less.

**Results.**
* `parseWith` runs a reader on a whole text and locates its fault.
* `parse` reads one value.
-/

namespace LiveNotebooks
namespace Json

/-- The first key of an object that stands for the value of an embedded text. -/
def embeddingKey : String := "$serde_json::private::RawValue"

/-- Runs a reader on a whole text and locates its fault. -/
def readWhole {α : Type} (reader : Bytes → Reading α) (text : Bytes) : Except Error α :=
  match reader text with
  | .error fault => .error (fault.locate text)
  | .ok (a, rest) =>
      match skipBlanks rest with
      | [] => .ok a
      | b :: rest => .error (Fault.locate text (.ofNext .trailingText (b :: rest)))

/-- The items of a list, in front of which `items` stand, newest first. -/
def readItems (item : Bytes → Reading Value) :
    Nat → Bool → List Value → Bytes → Reading Value
  | 0, _, _, text => .error (.before .listNotClosed text)
  | fuel + 1, first, items, text =>
      match nextItem first text with
      | .error fault => .error fault
      | .ok (false, rest) => (closeList rest).map (.array items.reverse, ·)
      | .ok (true, rest) =>
          match item rest with
          | .error fault => .error fault
          | .ok (v, rest) => readItems item fuel false (v :: items) rest

/-- The colon and the value behind a key. -/
def readMemberValue (value : Bytes → Reading Value) (text : Bytes) : Reading Value :=
  (readColon text).bind value

/-- The further members of an object, in front of which `members` stand, newest first. -/
def readMembers (value : Bytes → Reading Value) (keyFuel : Nat) :
    Nat → Members → Bytes → Reading Value
  | 0, _, text => .error (.before .objectNotClosed text)
  | fuel + 1, members, text =>
      match nextKey false text with
      | .error fault => .error fault
      | .ok (false, rest) => (closeObject rest).map (.object members.reverse, ·)
      | .ok (true, rest) =>
          match readText keyFuel rest with
          | .error fault => .error fault
          | .ok (key, rest) =>
              match readMemberValue value rest with
              | .error fault => .error fault
              | .ok (v, rest) =>
                  readMembers value keyFuel fuel (addMember members key v) rest

/-- The value of the text that is embedded behind `embeddingKey`, and the end of the object
around it. -/
def readEmbedded (whole : Bytes → Except Error Value) (fuel : Nat) (text : Bytes) :
    Reading Value :=
  match (readColon text).bind (readStringValue "raw value" fuel) with
  | .error fault => .error fault
  | .ok (s, rest) =>
      match whole (Utf8.encode s) with
      | .error e => .error (.embedded e)
      | .ok v => (closeObject rest).map (v, ·)

/-- How the parts of a value are read. -/
structure PartReaders where
  /-- Reads an item of a list or a member of an object. -/
  part : Bytes → Reading Value
  /-- Reads an embedded text. -/
  embedded : Bytes → Except Error Value

/-- An object behind its opening brace. -/
def readObject (readers : PartReaders) (fuel : Nat) (text : Bytes) : Reading Value :=
  match nextKey true text with
  | .error fault => .error fault
  | .ok (false, rest) => (closeObject rest).map (.object [], ·)
  | .ok (true, rest) =>
      match readText fuel rest with
      | .error fault => .error fault
      | .ok (key, rest) =>
          if key = embeddingKey then readEmbedded readers.embedded fuel rest
          else
            match readMemberValue readers.part rest with
            | .error fault => .error fault
            | .ok (v, rest) => readMembers readers.part fuel fuel [(key, v)] rest

/-- A value whose parts are read by `readers`; without them no level may be opened. -/
def readValueWith (fuel : Nat) (readers : Option PartReaders) (text : Bytes) :
    Reading Value :=
  match skipBlanks text with
  | [] => .error ⟨.valueMissing, 0⟩
  | b :: rest =>
      if b = 0x6E then (readWord nullTail rest).map (.null, ·)
      else if b = 0x74 then (readWord trueTail rest).map (.boolean true, ·)
      else if b = 0x66 then (readWord falseTail rest).map (.boolean false, ·)
      else if b = 0x2D || (Digits.value? b).isSome then
        (readNumber (b :: rest)).map fun r => (.number r.1, r.2)
      else if b = 0x22 then (readText fuel rest).map fun r => (.text r.1, r.2)
      else if b = 0x5B then
        match readers with
        | none => .error (.ofNext .tooDeep (b :: rest))
        | some readers => readItems readers.part fuel true [] rest
      else if b = 0x7B then
        match readers with
        | none => .error (.ofNext .tooDeep (b :: rest))
        | some readers => readObject readers fuel rest
      else .error (.ofNext .expectedValue (b :: rest))

/-- A value that opens at most the given number of levels, and whose embedded texts are read
by `embedded`. -/
def readLevels (embedded : Bytes → Except Error Value) (fuel : Nat) :
    Nat → Bytes → Reading Value
  | 0 => readValueWith fuel none
  | levels + 1 => readValueWith fuel (some ⟨readLevels embedded fuel levels, embedded⟩)

/-- The number of levels that a whole text may open. -/
def maxLevels : Nat := 127

/-- A value that opens at most the given number of levels. -/
def readValue : Nat → Nat → Bytes → Reading Value
  | 0, _ => fun text => .error (.before .valueMissing text)
  | fuel + 1, levels => readLevels (readWhole (readValue fuel maxLevels)) (fuel + 1) levels

/-- Runs a reader, which is given its fuel, on a whole text. -/
def parseWith {α : Type} (reader : Nat → Bytes → Reading α) (text : Bytes) : Except Error α :=
  readWhole (reader (text.length + 1)) text

/-- Reads a text that holds one value. -/
def parse (text : Bytes) : Except Error Value :=
  parseWith (readValue · maxLevels) text

end Json
end LiveNotebooks
