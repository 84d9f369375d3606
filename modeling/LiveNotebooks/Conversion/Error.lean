import LiveNotebooks.Json.Fault
import LiveNotebooks.System.ExitStatus
import LiveNotebooks.System.Files
import LiveNotebooks.Time.Span

/-!
# Why a conversion fails

A converter may not start, end badly, write something that is no JSON object, or take too
long.
-/

namespace LiveNotebooks

/-- Why a conversion has no result. -/
inductive ConversionError where
  /-- The converter could not be run. -/
  | spawn (reason : FileError)
  | exit (status : ExitStatus) (output : String)
  /-- The converter wrote no JSON. -/
  | malformed (reason : Json.Error) (output : String)
  /-- The converter wrote JSON, but no object. -/
  | notObject (output : String)
  | timedOut (limit : Span)

namespace ConversionError

def message : ConversionError → String
  | .spawn reason => "failed to run converter: " ++ reason.describe
  | .exit status output => "converter failed (" ++ status.describe ++ "):\n" ++ output
  | .malformed reason output =>
      "converter produced invalid JSON (" ++ reason.message ++ "):\n" ++ output
  | .notObject output => "converter output is not a JSON object:\n" ++ output
  | .timedOut limit => "converter did not finish within " ++ limit.text

/-- What the converter wrote, if it ran to its end. -/
def output? : ConversionError → Option String
  | .exit _ output | .malformed _ output | .notObject output => some output
  | .spawn _ | .timedOut _ => none

/-- The text of the error behind this one. -/
def reason? : ConversionError → Option String
  | .spawn reason => some reason.describe
  | .malformed reason _ => some reason.message
  | .exit .. | .notObject _ | .timedOut _ => none

end ConversionError
end LiveNotebooks
