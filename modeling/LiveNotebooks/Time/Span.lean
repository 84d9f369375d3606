import LiveNotebooks.Text.Digits

/-!
# Spans of time

A span is a number of nanoseconds.  Its text uses the largest unit that does not make it
smaller than one, and as many fraction digits as are needed.
-/

namespace LiveNotebooks

/-- A span of time. -/
structure Span where
  nanos : Nat
  deriving DecidableEq

namespace Span

def ofMillis (n : Nat) : Span := ⟨n * 1000000⟩

def ofSeconds (n : Nat) : Span := ⟨n * 1000000000⟩

/-- A span of seconds and nanoseconds; the number of the latter is a word of 32 bits. -/
def ofParts (seconds nanos : Nat) : Span := ⟨seconds * 1000000000 + nanos % Nat.pow 2 32⟩

/-- A number with `places` fraction digits, less the zeros at its end. -/
def fixedPoint (places n : Nat) : String :=
  let digits := Digits.fixed 10 places n []
  let fraction := (digits.reverse.dropWhile (· = '0')).reverse
  Digits.decimal (n / Nat.pow 10 places)
    ++ (if fraction = [] then "" else "." ++ String.ofList fraction)

def text (s : Span) : String :=
  if 1000000000 ≤ s.nanos then fixedPoint 9 s.nanos ++ "s"
  else if 1000000 ≤ s.nanos then fixedPoint 6 s.nanos ++ "ms"
  else if 1000 ≤ s.nanos then fixedPoint 3 s.nanos ++ "µs"
  else Digits.decimal s.nanos ++ "ns"

end Span
end LiveNotebooks
