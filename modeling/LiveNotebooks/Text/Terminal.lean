import LiveNotebooks.Text.Utf8

/-!
# Texts for a terminal

A text for a terminal may hold control sequences, which set a style, a title or the like.
Where the text does not go to a terminal it is written without them, and without any other
control characters than white space.

**Algorithm.**  The sequences are recognised byte by byte.  White space inside an
unfinished sequence of the short kinds (`escape`, `designation`, `control`) is written, and
with it the printable bytes behind it; the sequence goes on at the next control character,
or is forgotten at a character outside ASCII.  A sequence may also be cut off by the start
of the next one.
-/

namespace LiveNotebooks
namespace Terminal

/-- What the bytes so far have opened. -/
inductive State where
  /-- Nothing. -/
  | ground
  /-- A sequence of which only the escape byte is there. -/
  | escape
  /-- A sequence with a designating byte. -/
  | designation
  /-- A control sequence, as for a style. -/
  | control
  /-- The head of a device string: its start, its parameters, its designating bytes. -/
  | deviceStart
  | deviceParameters
  | deviceDesignation
  /-- A string that ends at a string terminator. -/
  | string
  /-- An operating system command, which ends at a bell. -/
  | command
  deriving DecidableEq

/-- White space among the controls. -/
def isWhitespace (b : UInt8) : Bool :=
  b = 0x09 || b = 0x0A || b = 0x0C || b = 0x0D

/-- Is the byte in the range, ends included? -/
def within (low high b : UInt8) : Bool := low ≤ b && b ≤ high

/-- The first byte of a character of several bytes. -/
def isLeading (b : UInt8) : Bool := within 0xC2 0xF4 b

/-- A byte that is written outside of sequences: a printable one, white space, or the first
of a longer character. -/
def isPrintable (b : UInt8) : Bool :=
  within 0x20 0x7E b || isLeading b || isWhitespace b

/-- Is the byte written?  In a run of written bytes what is open does not count. -/
def writes : State → Bool → UInt8 → Bool
  | _, true, b => isPrintable b || within 0x80 0xBF b
  | .ground, false, b => isPrintable b
  | .escape, false, b | .designation, false, b | .control, false, b => isWhitespace b
  | _, false, _ => false

/-- What a byte behind the escape byte opens. -/
def afterEscape (b : UInt8) : State :=
  if b = 0x5B then .control
  else if b = 0x5D then .command
  else if b = 0x50 then .deviceStart
  else if b = 0x58 || b = 0x5E || b = 0x5F then .string
  else if within 0x20 0x2F b then .designation
  else if within 0x30 0x7E b then .ground
  else .escape

/-- What is open after a byte that is not written. -/
def next (s : State) (b : UInt8) : State :=
  if b = 0x1B then .escape
  else if b = 0x18 || b = 0x1A then .ground
  else match s with
  | .ground => .ground
  | .escape => afterEscape b
  | .designation => if within 0x30 0x7E b then .ground else s
  | .control => if within 0x40 0x7E b then .ground else s
  | .deviceStart =>
      if within 0x20 0x2F b then .deviceDesignation
      else if within 0x30 0x3F b then .deviceParameters
      else if within 0x40 0x7E b then .string
      else s
  | .deviceParameters =>
      if within 0x20 0x2F b then .deviceDesignation
      else if within 0x3C 0x7E b then .string
      else s
  | .deviceDesignation => if within 0x30 0x7E b then .string else s
  | .string => if b = 0x9C then .ground else s
  | .command => if b = 0x07 then .ground else s

/-- The bytes that are written, last byte first, in front of `acc`; `inRun` says whether the
byte before is written too. -/
def visibleOnto : State → Bool → Bytes → Bytes → Bytes
  | _, _, [], acc => acc
  | s, inRun, b :: rest, acc =>
      if writes s inRun b then
        visibleOnto (if isLeading b then .ground else s) true rest (b :: acc)
      else visibleOnto (next s b) false rest acc

/-- The bytes that are written of a text. -/
def visibleBytes (bytes : Bytes) : Bytes := (visibleOnto .ground false bytes []).reverse

/-- The text without its sequences and controls. -/
def visible (s : String) : String := Utf8.decodeLossy (visibleBytes (Utf8.encode s))

/-- The sequence that starts bold text. -/
def bold : String := "\x1b[1m"

/-- The sequence that starts underlined text. -/
def underline : String := "\x1b[4m"

/-- The sequence that ends all styles. -/
def plain : String := "\x1b[0m"

end Terminal
end LiveNotebooks
