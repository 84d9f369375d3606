import LiveNotebooks.Text.Digits
import LiveNotebooks.Time.Calendar

/-!
# Dates in HTTP headers

A date is written in one of three forms, all in universal time.  It counts only if the
calendar has it and its weekday is right.
-/

namespace LiveNotebooks
namespace Http

/-- A date and time as it is written. -/
structure HeaderDate where
  weekday : Nat
  year : Nat
  month : Nat
  day : Nat
  hour : Nat
  minute : Nat
  second : Nat

namespace HeaderDate

/-- The short names of the days from Sunday on. -/
def weekdays : List String := ["Sun", "Mon", "Tue", "Wed", "Thu", "Fri", "Sat"]

/-- The long names of the days from Sunday on. -/
def longWeekdays : List String :=
  ["Sunday", "Monday", "Tuesday", "Wednesday", "Thursday", "Friday", "Saturday"]

def months : List String :=
  ["Jan", "Feb", "Mar", "Apr", "May", "Jun", "Jul", "Aug", "Sep", "Oct", "Nov", "Dec"]

/-- The index of a name in a list. -/
def index? (names : List String) (name : List Char) : Option Nat :=
  names.findIdx? fun n => n.toList = name

/-- The characters from a position on, up to a number of them. -/
def piece (s : List Char) (start count : Nat) : List Char := (s.drop start).take count

def number? (s : List Char) : Option Nat :=
  s.foldlM (fun n c =>
    if '0' ≤ c && c ≤ '9' then some (10 * n + (c.toNat - '0'.toNat)) else none) 0

/-- Does a text stand at a position? -/
def hasAt (s : List Char) (start : Nat) (text : String) : Bool :=
  piece s start text.length = text.toList

/-- The time of day at a position, with colons between its parts. -/
def clock? (s : List Char) (start : Nat) : Option (Nat × Nat × Nat) := do
  guard (hasAt s (start + 2) ":" && hasAt s (start + 5) ":")
  let hour ← number? (piece s start 2)
  let minute ← number? (piece s (start + 3) 2)
  let second ← number? (piece s (start + 6) 2)
  pure (hour, minute, second)

/-- The form `Sun, 06 Nov 1994 08:49:37 GMT`. -/
def fixed? (s : List Char) : Option HeaderDate := do
  guard (s.length = 29 && hasAt s 25 " GMT" && hasAt s 16 " " && hasAt s 3 ", "
    && hasAt s 7 " " && hasAt s 11 " ")
  let (hour, minute, second) ← clock? s 17
  let weekday ← index? weekdays (piece s 0 3)
  let month ← index? months (piece s 8 3)
  let day ← number? (piece s 5 2)
  let year ← number? (piece s 12 4)
  pure ⟨weekday, year, month + 1, day, hour, minute, second⟩

/-- The form `Sunday, 06-Nov-94 08:49:37 GMT`. -/
def dashed? (s : List Char) : Option HeaderDate := do
  let name := s.takeWhile (· ≠ ',')
  let weekday ← index? longWeekdays name
  let rest := s.drop (name.length + 2)
  guard (hasAt s name.length ", " && rest.length = 22 && hasAt rest 18 " GMT"
    && hasAt rest 2 "-" && hasAt rest 6 "-")
  let (hour, minute, second) ← clock? rest 10
  let month ← index? months (piece rest 3 3)
  let day ← number? (piece rest 0 2)
  let year ← number? (piece rest 7 2)
  pure ⟨weekday, if year < 70 then 2000 + year else 1900 + year, month + 1, day, hour, minute,
    second⟩

/-- The form `Sun Nov  6 08:49:37 1994`. -/
def spaced? (s : List Char) : Option HeaderDate := do
  guard (s.length = 24 && hasAt s 3 " " && hasAt s 7 " " && hasAt s 10 " " && hasAt s 19 " ")
  let (hour, minute, second) ← clock? s 11
  let weekday ← index? weekdays (piece s 0 3)
  let month ← index? months (piece s 4 3)
  let day ← number? (if hasAt s 8 " " then piece s 9 1 else piece s 8 2)
  let year ← number? (piece s 20 4)
  pure ⟨weekday, year, month + 1, day, hour, minute, second⟩

def seconds? (d : HeaderDate) : Option Int :=
  let date : Calendar.Date := ⟨d.year, d.month, d.day⟩
  if d.second < 60 && d.minute < 60 && d.hour < 24 && 1970 ≤ d.year && d.year ≤ 9999
      && date.isValid && Calendar.weekday date.toDays = d.weekday then
    some (date.toDays * 86400 + (d.hour * 3600 + d.minute * 60 + d.second : Nat))
  else none

/-- An ASCII blank around a date. -/
def isPadding (c : Char) : Bool := c = ' ' || c = '\t'

/-- Reads a header value. -/
def parse? (value : List UInt8) : Option Int :=
  if value.all (· < 0x80) then
    let s := (value.map fun b => Char.ofNat b.toNat).dropWhile isPadding
    let s := (s.reverse.dropWhile isPadding).reverse
    ((fixed? s).orElse fun _ => (dashed? s).orElse fun _ => spaced? s).bind seconds?
  else none

/-- The text of a moment in the first form. -/
def text (seconds : Int) : String :=
  let days := seconds / 86400
  let date := Calendar.Date.ofDays days
  let clock := (seconds % 86400).toNat
  (weekdays[Calendar.weekday days]?).getD "" ++ ", " ++ Digits.padded 2 date.day ++ " "
    ++ (months[date.month - 1]?).getD "" ++ " " ++ Digits.padded 4 date.year.toNat ++ " "
    ++ Digits.padded 2 (clock / 3600) ++ ":" ++ Digits.padded 2 (clock / 60 % 60) ++ ":"
    ++ Digits.padded 2 (clock % 60) ++ " GMT"

end HeaderDate
end Http
end LiveNotebooks
