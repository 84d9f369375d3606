import LiveNotebooks.Store.Event

/-!
# Traces

What an operation of the service lets others see: the events of its committed writes and
its log lines, each in their order.
-/

namespace LiveNotebooks

/-- The events and the log lines of an operation. -/
structure Trace where
  events : List Store.Event := []
  log : List LogLine := []

namespace Trace

def append (t u : Trace) : Trace := ⟨t.events ++ u.events, t.log ++ u.log⟩

/-- A trace of log lines only. -/
def ofLog (lines : List LogLine) : Trace := { log := lines }

end Trace
end LiveNotebooks
