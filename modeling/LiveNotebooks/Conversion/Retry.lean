import LiveNotebooks.Conversion.Output
import LiveNotebooks.Log

/-!
# Repeated attempts

A failed attempt is repeated as often as the settings allow, after a pause that doubles
from attempt to attempt.  Every failure that is followed by another attempt is logged.

**Results.**
* `Retry.judge` says what follows an attempt.
* `Retry.run` plays a conversion to its end, which is a panic if a pause becomes too long.
-/

namespace LiveNotebooks

/-- A conversion between two attempts. -/
structure Retry where
  /-- The number of attempts that have failed. -/
  failures : Nat
  /-- The pause after the next failure, in milliseconds. -/
  pause : Nat
  deriving DecidableEq

namespace Retry

/-- The pause after the first failure. -/
def basePause : Nat := 200

/-- A conversion before its first attempt. -/
def start : Retry := ⟨0, basePause⟩

/-- The number of attempts as it is written in messages, where it has 32 bits. -/
def shownAttempts (retries : Nat) : Nat := (retries + 1) % Nat.pow 2 32

/-- The log line for the failure with the given number. -/
def warning (path : Path) (number retries : Nat) (e : ConversionError) : LogLine :=
  .warning
    ("conversion of " ++ Path.display path ++ " failed (attempt " ++ Digits.decimal number
      ++ "/" ++ Digits.decimal (shownAttempts retries) ++ "): " ++ e.message)

/-- What follows an attempt. -/
inductive Verdict where
  | settled (result : ConversionResult)
  /-- Another attempt after a pause in milliseconds. -/
  | again (line : LogLine) (pause : Nat) (next : Retry)

/-- Judges the result of an attempt when `retries` attempts may be repeated. -/
def judge (retries : Nat) (path : Path) (r : Retry) (result : ConversionResult) : Verdict :=
  match result with
  | .ok v => .settled (.ok v)
  | .error e =>
      if r.failures < retries then
        .again (warning path (r.failures + 1) retries e) r.pause ⟨r.failures + 1, r.pause * 2⟩
      else .settled (.error e)

/-- How a conversion ends. -/
inductive Ending where
  | finished (result : ConversionResult)
  /-- The arithmetic of the pauses gives up, with this message. -/
  | panicked (message : String)

/-- A conversion that has come to its end, and what it has done up to there. -/
structure Run where
  ending : Ending
  attempts : Nat
  log : List LogLine
  /-- The pauses that were asked for, in milliseconds. -/
  pauses : List Nat

/-- The run in front of which an attempt has failed. -/
def Run.behind (line : LogLine) (pause : Nat) (run : Run) : Run :=
  { run with
    attempts := run.attempts + 1
    log := line :: run.log
    pauses := pause :: run.pauses }

/-- Pauses are below this number of milliseconds: their seconds have 64 bits. -/
def pauseBound : Nat := 1000 * Nat.pow 2 64

/-- The message when a pause becomes too long. -/
def overflowMessage : String := "overflow when multiplying duration by scalar"

/-- Plays a conversion from the state `r` on.  At most `left` attempts are repeated;
`attempt k` is the result of the attempt after `k` failures.  Each pause is doubled as soon as
it is over, even if there will be no other one. -/
def runFrom (retries : Nat) (path : Path) (attempt : Nat → ConversionResult) :
    Nat → Retry → Run
  | 0, r => ⟨.finished (attempt r.failures), 1, [], []⟩
  | left + 1, r =>
      match judge retries path r (attempt r.failures) with
      | .settled result => ⟨.finished result, 1, [], []⟩
      | .again line pause next =>
          if next.pause < pauseBound then
            (runFrom retries path attempt left next).behind line pause
          else ⟨.panicked overflowMessage, 1, [line], [pause]⟩

/-- Plays a conversion. -/
def run (retries : Nat) (path : Path) (attempt : Nat → ConversionResult) : Run :=
  runFrom retries path attempt retries start

end Retry
end LiveNotebooks
