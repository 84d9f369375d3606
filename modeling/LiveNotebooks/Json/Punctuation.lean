import LiveNotebooks.Json.Fault

/-!
# Blanks, words and marks of a JSON text

The readers of what stands between the values: blanks, the marks of lists and objects, and
the colon; and of the three words.  Each returns the unread bytes.

`nextItem` and `nextKey` only look at a closing bracket, which `closeList` and `closeObject`
read.
-/

namespace LiveNotebooks
namespace Json

/-- A byte that may stand between the parts of a text. -/
def isBlankByte (b : UInt8) : Bool := b = 0x20 || b = 0x0A || b = 0x09 || b = 0x0D

/-- The text without its leading blanks. -/
def skipBlanks (text : Bytes) : Bytes := text.dropWhile isBlankByte

def readWord : Bytes → Bytes → Except Fault Bytes
  | [], text => .ok text
  | _ :: _, [] => .error ⟨.valueMissing, 0⟩
  | w :: word, b :: rest =>
      if w = b then readWord word rest else .error (.before .expectedWord rest)

/-- The bytes of `null` behind the first. -/
def nullTail : Bytes := [0x75, 0x6C, 0x6C]

/-- The bytes of `true` behind the first. -/
def trueTail : Bytes := [0x72, 0x75, 0x65]

/-- The bytes of `false` behind the first. -/
def falseTail : Bytes := [0x61, 0x6C, 0x73, 0x65]

/-- Goes to the next item of a list.  `true` if there is one; otherwise the closing bracket
comes next. -/
def nextItem (first : Bool) (text : Bytes) : Except Fault (Bool × Bytes) :=
  match skipBlanks text with
  | [] => .error ⟨.listNotClosed, 0⟩
  | b :: rest =>
      if b = 0x5D then .ok (false, b :: rest)
      else if first then .ok (true, b :: rest)
      else if b = 0x2C then
        match skipBlanks rest with
        | [] => .error ⟨.valueMissing, 0⟩
        | c :: after =>
            if c = 0x5D then .error (.ofNext .trailingComma (c :: after))
            else .ok (true, c :: after)
      else .error (.ofNext .expectedListSeparator (b :: rest))

def closeList (text : Bytes) : Except Fault Bytes :=
  match skipBlanks text with
  | [] => .error ⟨.listNotClosed, 0⟩
  | b :: rest =>
      if b = 0x5D then .ok rest
      else if b = 0x2C then
        match skipBlanks rest with
        | c :: after =>
            .error (.ofNext (if c = 0x5D then .trailingComma else .trailingText) (c :: after))
        | [] => .error ⟨.trailingText, 0⟩
      else .error (.ofNext .trailingText (b :: rest))

/-- Goes to the next key of an object.  `true` if there is one, and its opening quote has
been read; otherwise the closing brace comes next. -/
def nextKey (first : Bool) (text : Bytes) : Except Fault (Bool × Bytes) :=
  match skipBlanks text with
  | [] => .error ⟨.objectNotClosed, 0⟩
  | b :: rest =>
      if b = 0x7D then .ok (false, b :: rest)
      else if b = 0x2C && !first then
        match skipBlanks rest with
        | [] => .error ⟨.valueMissing, 0⟩
        | c :: after =>
            if c = 0x22 then .ok (true, after)
            else if c = 0x7D then .error (.ofNext .trailingComma (c :: after))
            else .error (.ofNext .keyNotString (c :: after))
      else if !first then .error (.ofNext .expectedObjectSeparator (b :: rest))
      else if b = 0x22 then .ok (true, rest)
      else .error (.ofNext .keyNotString (b :: rest))

def closeObject (text : Bytes) : Except Fault Bytes :=
  match skipBlanks text with
  | [] => .error ⟨.objectNotClosed, 0⟩
  | b :: rest =>
      if b = 0x7D then .ok rest
      else
        .error (.ofNext (if b = 0x2C then .trailingComma else .trailingText) (b :: rest))

/-- The colon between a key and its value. -/
def readColon (text : Bytes) : Except Fault Bytes :=
  match skipBlanks text with
  | [] => .error ⟨.objectNotClosed, 0⟩
  | b :: rest =>
      if b = 0x3A then .ok rest else .error (.ofNext .expectedColon (b :: rest))

end Json
end LiveNotebooks
