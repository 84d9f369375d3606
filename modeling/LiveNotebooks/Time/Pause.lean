import LiveNotebooks.Time.Span

/-!
# Pauses and limits

A pause is asked for in milliseconds.  No pause lasts longer than thirty years.

A limit on the time of some work is kept as a moment of a clock that counts seconds in 63
bits.  A limit that the clock never reaches is none.

**Results.**
* `Pause.length` is how long a pause lasts.
* `Span.limit?` is the limit that a span sets.
-/

namespace LiveNotebooks
namespace Pause

/-- The length of the longest pause in milliseconds: thirty years of 365 days. -/
def longest : Nat := 30 * 365 * 86400 * 1000

/-- How long a pause lasts. -/
def length (asked : Nat) : Nat := min asked longest

end Pause

namespace Span

/-- The last second that the clock counts. -/
def lastSecond : Nat := Nat.pow 2 63 - 1

/-- The limit that a span sets, if the clock reaches it. -/
def limit? (s : Span) : Option Span :=
  if s.nanos / 1000000000 < lastSecond then some s else none

end Span
end LiveNotebooks
