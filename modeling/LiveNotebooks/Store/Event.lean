import LiveNotebooks.Json.Printer
import LiveNotebooks.Log

/-!
# Events of the store

Every committed write is announced by one event, which tells the document and the kind
of the write.
-/

namespace LiveNotebooks
namespace Store

/-- The kinds of committed writes. -/
inductive Change where
  /-- A document that was not there. -/
  | created
  /-- A document in place of an older one. -/
  | updated
  /-- New contents of a document. -/
  | contentSet
  deriving DecidableEq

def Change.name : Change → String
  | .created => "Created"
  | .updated => "Updated"
  | .contentSet => "ContentSet"

/-- The announcement of a committed write. -/
structure Event where
  change : Change
  identifier : String
  deriving DecidableEq

namespace Event

/-- The value that stands for an event. -/
def toJson (e : Event) : Json.Value :=
  .object [("type", .text e.change.name), ("identifier", .text e.identifier)]

def describe (e : Event) : String :=
  e.change.name ++ " \x7b identifier: " ++ Quoted.text e.identifier ++ " \x7d"

def logLine (e : Event) : LogLine :=
  .debug ("store change for " ++ e.identifier ++ ": " ++ e.describe)

end Event
end Store
end LiveNotebooks
