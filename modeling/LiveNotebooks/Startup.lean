import LiveNotebooks.Configuration
import LiveNotebooks.Scan
import LiveNotebooks.System.Programs
import LiveNotebooks.Watch

/-!
# Starting the service

The start finds the interpreter, scans the notebook directory and begins to watch it.  A
directory that cannot be read or watched does not stop the start; an interpreter that is
not found does.

This module holds what is reported on the way.
-/

namespace LiveNotebooks
namespace Startup

def converterLine (interpreter : Path) : LogLine :=
  .info ("converter: " ++ Path.display interpreter)

def scannedLine (r : Scan.Report) : LogLine :=
  .info ("loaded " ++ Digits.decimal r.total ++ " notebooks ("
    ++ Digits.decimal r.failed.length ++ " failed to convert)")

/-- The line on a document that shows an error. -/
def fallbackLine (identifier : String) : LogLine :=
  .warning (identifier ++ " is being served with a conversion error")

/-- The line on a directory that cannot be watched. -/
def unwatchedLine (directory : Path) (e : Watch.StartError) : LogLine :=
  .error ("cannot watch " ++ Path.display directory ++ ": " ++ e.message
    ++ "; live reload disabled")

def reportLines (r : Scan.Report) : List LogLine :=
  scannedLine r :: r.failed.map fallbackLine

def failureText (e : InterpreterNotFound) : String :=
  "Error: " ++ e.message ++ "\n\nCaused by:\n    " ++ e.reason.describe ++ "\n"

end Startup
end LiveNotebooks
