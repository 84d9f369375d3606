import LiveNotebooks.Text.Digits
import LiveNotebooks.Text.Quoted
import LiveNotebooks.Json.Value

/-!
# Why a JSON text is refused

A fault names its cause and how many bytes were still unread when it was noticed.  The
line and the column of an `Error` are computed from that number and the whole text.
-/

namespace LiveNotebooks
namespace Json

/-- What stands in a text in place of the value that is wanted. -/
inductive Found where
  | null
  | boolean (value : Bool)
  | integer (value : Int)
  | float (numeral : String)
  | text (value : String)
  | sequence
  | map

/-- The reason for which a text is refused. -/
inductive Cause where
  | listNotClosed
  | objectNotClosed
  | stringNotClosed
  | valueMissing
  | expectedColon
  | expectedListSeparator
  | expectedObjectSeparator
  | expectedWord
  | expectedValue
  | badEscape
  | badNumber
  | numberTooLarge
  | badCodePoint
  | controlInString
  | keyNotString
  | loneSurrogate
  | trailingComma
  | trailingText
  | escapeTooShort
  | tooDeep
  /-- A value of another type than the wanted one. -/
  | typeMismatch (found : Found) (wanted : String)
  /-- A value of the right type that is out of range. -/
  | valueMismatch (found : Found) (wanted : String)
  | tooShort (length : Nat) (wanted : String)
  | missingField (name : String)
  | repeatedField (name : String)
  /-- A text of the right type that does not denote a value. -/
  | unreadable (reason : String)
  /-- A text inside a string is refused, at a place that is counted in that text. -/
  | embedded (reason : String) (line column : Nat)

/-- The four kinds of errors. -/
inductive Category where
  | grammar
  | data
  | ended
  deriving DecidableEq

def Found.describe : Found → String
  | .null => "null"
  | .boolean b => "boolean `" ++ (if b then "true" else "false") ++ "`"
  | .integer n => "integer `" ++ Digits.signed n ++ "`"
  | .float numeral => "floating point `" ++ numeral ++ "`"
  | .text s => "string " ++ Quoted.text s
  | .sequence => "sequence"
  | .map => "map"

def Cause.message : Cause → String
  | .listNotClosed => "EOF while parsing a list"
  | .objectNotClosed => "EOF while parsing an object"
  | .stringNotClosed => "EOF while parsing a string"
  | .valueMissing => "EOF while parsing a value"
  | .expectedColon => "expected `:`"
  | .expectedListSeparator => "expected `,` or `]`"
  | .expectedObjectSeparator => "expected `,` or `\x7d`"
  | .expectedWord => "expected ident"
  | .expectedValue => "expected value"
  | .badEscape => "invalid escape"
  | .badNumber => "invalid number"
  | .numberTooLarge => "number out of range"
  | .badCodePoint => "invalid unicode code point"
  | .controlInString =>
      "control character (\\u0000-\\u001F) found while parsing a string"
  | .keyNotString => "key must be a string"
  | .loneSurrogate => "lone leading surrogate in hex escape"
  | .trailingComma => "trailing comma"
  | .trailingText => "trailing characters"
  | .escapeTooShort => "unexpected end of hex escape"
  | .tooDeep => "recursion limit exceeded"
  | .typeMismatch found wanted => "invalid type: " ++ found.describe ++ ", expected " ++ wanted
  | .valueMismatch found wanted => "invalid value: " ++ found.describe ++ ", expected " ++ wanted
  | .tooShort length wanted =>
      "invalid length " ++ Digits.decimal length ++ ", expected " ++ wanted
  | .missingField name => "missing field `" ++ name ++ "`"
  | .repeatedField name => "duplicate field `" ++ name ++ "`"
  | .unreadable reason => reason
  | .embedded reason .. => reason

def Cause.category : Cause → Category
  | .listNotClosed | .objectNotClosed | .stringNotClosed | .valueMissing => .ended
  | .typeMismatch .. | .valueMismatch .. | .tooShort .. | .missingField _
  | .repeatedField _ | .unreadable _ | .embedded .. => .data
  | _ => .grammar

/-- A cause and the number of bytes unread when it was noticed. -/
structure Fault where
  cause : Cause
  unread : Nat

/-- A fault noticed right before `rest`. -/
def Fault.before (cause : Cause) (rest : Bytes) : Fault := ⟨cause, rest.length⟩

def Fault.ofNext (cause : Cause) (rest : Bytes) : Fault := ⟨cause, rest.length - 1⟩

/-- What a reader returns: a value and the unread bytes, or a fault. -/
abbrev Reading (α : Type) := Except Fault (α × Bytes)

/-- A fault with its place in the text. -/
structure Error where
  cause : Cause
  /-- Lines are counted from one. -/
  line : Nat
  /-- The number of bytes between the start of the line and the place. -/
  column : Nat

/-- The line and the column behind `text`, which follows `line` lines that end and
`column` bytes. -/
def placeAfter : Bytes → Nat → Nat → Nat × Nat
  | [], line, column => (line, column)
  | b :: rest, line, column =>
      if b = 0x0A then placeAfter rest (line + 1) 0
      else placeAfter rest line (column + 1)

/-- The fault of a text inside a string. -/
def Fault.embedded (e : Error) : Fault := ⟨.embedded e.cause.message e.line e.column, 0⟩

def Fault.locate (text : Bytes) (fault : Fault) : Error :=
  match fault.cause with
  | .embedded _ line column => ⟨fault.cause, line, column⟩
  | cause =>
      let place := placeAfter (text.take (text.length - fault.unread)) 1 0
      ⟨cause, place.1, place.2⟩

def Error.message (e : Error) : String :=
  e.cause.message ++ " at line " ++ Digits.decimal e.line ++ " column "
    ++ Digits.decimal e.column

def Error.category (e : Error) : Category := e.cause.category

end Json
end LiveNotebooks
