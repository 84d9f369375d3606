/-!
# Log lines

What the service reports while it works.
-/

namespace LiveNotebooks

/-- The weight of a log line. -/
inductive Level where
  | error
  | warning
  | info
  | debug
  deriving DecidableEq

/-- A message of the service. -/
structure LogLine where
  level : Level
  message : String
  deriving DecidableEq

namespace LogLine

def error (message : String) : LogLine := ⟨.error, message⟩

def warning (message : String) : LogLine := ⟨.warning, message⟩

def info (message : String) : LogLine := ⟨.info, message⟩

def debug (message : String) : LogLine := ⟨.debug, message⟩

end LogLine
end LiveNotebooks
