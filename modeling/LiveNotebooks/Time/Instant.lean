import LiveNotebooks.Text.Digits
import LiveNotebooks.Text.Blank
import LiveNotebooks.Time.Calendar

/-!
# Instants and their texts

An instant is a second of universal time and a fraction in nanoseconds.  A fraction of a
second or more belongs to the leap second behind that second.

**Writing.**  Date and time with as many groups of three fraction digits as are needed.

**Reading.**  The same form with some freedom: blanks before the parts, one digit where
two are usual, a sign before the year, and any offset from universal time.
-/

namespace LiveNotebooks

/-- A moment of universal time. -/
structure Instant where
  /-- Seconds since 1970-01-01T00:00:00. -/
  second : Int
  /-- Below `2 * 10 ^ 9`. -/
  nano : Nat
  deriving DecidableEq

namespace Instant

/-- The year, with a sign where it has not four digits. -/
def yearText (year : Int) : String :=
  if 0 ≤ year && year ≤ 9999 then Digits.padded 4 year.toNat
  else (if year < 0 then "-" else "+") ++ Digits.padded 4 year.natAbs

/-- The fraction of a second, by groups of three digits. -/
def fractionText (nano : Nat) : String :=
  if nano = 0 then ""
  else if nano % 1000000 = 0 then "." ++ Digits.padded 3 (nano / 1000000)
  else if nano % 1000 = 0 then "." ++ Digits.padded 6 (nano / 1000)
  else "." ++ Digits.padded 9 nano

/-- The text of an instant without the mark of its offset. -/
def text (t : Instant) : String :=
  let date := Calendar.Date.ofDays (t.second / 86400)
  let clock := (t.second % 86400).toNat
  let leap := t.nano / 1000000000
  yearText date.year ++ "-" ++ Digits.padded 2 date.month ++ "-" ++ Digits.padded 2 date.day
    ++ "T" ++ Digits.padded 2 (clock / 3600) ++ ":" ++ Digits.padded 2 (clock / 60 % 60)
    ++ ":" ++ Digits.padded 2 (clock % 60 + leap) ++ fractionText (t.nano % 1000000000)

/-- The text with `Z` for universal time. -/
def zuluText (t : Instant) : String := t.text ++ "Z"

def offsetText (t : Instant) : String := t.text ++ "+00:00"

/-- Why a text denotes no instant. -/
inductive Fault where
  | outOfRange
  | impossible
  | invalid
  | tooShort
  | tooLong
  deriving DecidableEq

def Fault.message : Fault → String
  | .outOfRange => "input is out of range"
  | .impossible => "no possible date and time matching input"
  | .invalid => "input contains invalid characters"
  | .tooShort => "premature end of input"
  | .tooLong => "trailing input"

/-- What a reader of a part returns. -/
abbrev Reading (α : Type) := Except Fault (α × List Char)

/-- The text without its leading blanks. -/
def skipBlanks (text : List Char) : List Char := text.dropWhile Blank.isBlank

def digit? (c : Char) : Option Nat :=
  if '0' ≤ c && c ≤ '9' then some (c.toNat - '0'.toNat) else none

/-- Digits behind the value `n`, at most `limit` of them.  Values stay below `2 ^ 63`. -/
def digits : Nat → List Char → Nat → Reading Nat
  | 0, text, n => .ok (n, text)
  | _, [], n => .ok (n, [])
  | limit + 1, c :: rest, n =>
      match digit? c with
      | none => .ok (n, c :: rest)
      | some d =>
          if 10 * n + d < Nat.pow 2 63 then digits limit rest (10 * n + d) else .error .outOfRange

/-- A numeral of one digit or more, at most `limit`. -/
def numeral (limit : Nat) (text : List Char) : Reading Nat :=
  match text with
  | [] => .error .tooShort
  | c :: _ => if (digit? c).isSome then digits limit text 0 else .error .invalid

/-- A part of at most two digits between two bounds, blanks before it allowed. -/
def part (low high : Nat) (text : List Char) : Reading Nat :=
  match numeral 2 (skipBlanks text) with
  | .error fault => .error fault
  | .ok (n, rest) => if low ≤ n && n ≤ high then .ok (n, rest) else .error .outOfRange

/-- A mark between two parts, blanks before it allowed. -/
def mark (c : Char) (text : List Char) : Except Fault (List Char) :=
  match skipBlanks text with
  | [] => .error .tooShort
  | d :: rest => if d = c then .ok rest else .error .invalid

/-- The year: up to four digits, or any number of them behind a sign. -/
def year (text : List Char) : Reading Int :=
  match skipBlanks text with
  | '-' :: rest => (numeral rest.length rest).map fun r => (-(r.1 : Int), r.2)
  | '+' :: rest => (numeral rest.length rest).map fun r => ((r.1 : Int), r.2)
  | rest => (numeral 4 rest).map fun r => ((r.1 : Int), r.2)

/-- The year, where 32 bits hold it. -/
def boundedYear (text : List Char) : Reading Int :=
  match year text with
  | .error fault => .error fault
  | .ok (y, rest) =>
      if -2147483648 ≤ y && y < 2147483648 then .ok (y, rest) else .error .outOfRange

/-- An optional fraction in nanoseconds; digits behind the ninth are dropped. -/
def fraction (text : List Char) : Reading Nat :=
  match text with
  | '.' :: rest =>
      match numeral 9 rest with
      | .error fault => .error fault
      | .ok (n, after) =>
          .ok (n * Nat.pow 10 (9 - (rest.length - after.length)),
            after.dropWhile fun c => (digit? c).isSome)
  | _ => .ok (0, text)

/-- Two digits, the first of them at most `high`. -/
def twoDigits (high : Nat) (text : List Char) : Reading Nat :=
  match text with
  | [] => .error .tooShort
  | [c] => .error (if c.utf8Size = 1 then .tooShort else .invalid)
  | c :: d :: rest =>
      match digit? c, digit? d with
      | some c, some d => if c ≤ high then .ok (10 * c + d, rest) else .error .outOfRange
      | _, _ => .error .invalid

/-- Hours and minutes of an offset behind its sign, in seconds. -/
def offsetSize (text : List Char) : Reading Nat :=
  match twoDigits 9 text with
  | .error fault => .error fault
  | .ok (hours, rest) =>
      match twoDigits 5 (rest.dropWhile fun c => c = ':' || Blank.isBlank c) with
      | .error fault => .error fault
      | .ok (minutes, rest) => .ok (hours * 3600 + minutes * 60, rest)

/-- The offset from universal time in seconds. -/
def offset (text : List Char) : Reading Int :=
  match skipBlanks text with
  | [] => .error .tooShort
  | c :: rest =>
      if (c :: rest).take 3 |>.map Char.toUpper |> (· = ['U', 'T', 'C']) then
        .ok (0, rest.drop 2)
      else if c = 'Z' || c = 'z' then .ok (0, rest)
      else if c = '+' then (offsetSize rest).map fun r => ((r.1 : Int), r.2)
      else if c = '-' || c = '\u2212' then
        (offsetSize rest).map fun r => (-(r.1 : Int), r.2)
      else .error .invalid

/-- The letter or the blank between date and time. -/
def separator (text : List Char) : Except Fault (List Char) :=
  match text with
  | [] => .error .tooShort
  | c :: rest => if c = 'T' || c = 't' || c = ' ' then .ok rest else .error .invalid

/-- The years of which instants are known. -/
def yearKnown (year : Int) : Bool := -262143 ≤ year && year ≤ 262142

/-- The first second of the year -262143. -/
def firstSecond : Int := (Calendar.Date.mk (-262143) 1 1).toDays * 86400

/-- The last second of the year 262142. -/
def lastSecond : Int := (Calendar.Date.mk 262143 1 1).toDays * 86400 - 1

/-- The instant of a local date and time with an offset. -/
def ofLocal (date : Calendar.Date) (hour minute second nano : Nat) (offset : Int) :
    Except Fault Instant :=
  if !(yearKnown date.year && date.isValid) then .error .outOfRange
  else if offset ≤ -86400 || 86400 ≤ offset then .error .outOfRange
  else
    let leap := if second = 60 then 1 else 0
    let t := date.toDays * 86400 + (hour * 3600 + minute * 60 + (second - leap) : Nat) - offset
    if firstSecond ≤ t && t ≤ lastSecond then .ok ⟨t, nano + leap * 1000000000⟩
    else .error .impossible

def read (text : List Char) : Except Fault (Instant × List Char) := do
  let (y, text) ← boundedYear text
  let text ← mark '-' text
  let (month, text) ← part 1 12 text
  let text ← mark '-' text
  let (day, text) ← part 1 31 text
  let text ← separator text
  let (hour, text) ← part 0 23 text
  let text ← mark ':' text
  let (minute, text) ← part 0 59 text
  let text ← mark ':' text
  let (second, text) ← part 0 60 text
  let (nano, text) ← fraction text
  let (shift, text) ← offset text
  if skipBlanks text ≠ [] then throw .tooLong
  let t ← ofLocal ⟨y, month, day⟩ hour minute second nano shift
  pure (t, text)

/-- Reads a text that holds one instant. -/
def parse (text : String) : Except Fault Instant :=
  (read text.toList).map Prod.fst

end Instant
end LiveNotebooks
