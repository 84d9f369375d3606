import LiveNotebooks.Conversion.Retry
import LiveNotebooks.System.Programs

/-!
# Attempts to run a converter

A file is converted by a command: an interpreter is called with a script and the file.  The
system may refuse to start it; else a process writes something and ends, if it is not stopped
because it takes too long.  What a process does is not said here.

**Results.**
* `Command.attempt` is what becomes of one call, and `Attempt.result` what that comes to.
* `Command.convert` plays a whole conversion.
-/

namespace LiveNotebooks

/-- What a process does. -/
structure ProcessRun where
  output : ProcessOutput
  /-- How long it takes. -/
  length : Span

/-- What the system makes of programs that can be started, each time with another number. -/
abbrev Processes := Files → StartedProgram → Nat → Except FileError ProcessRun

/-- What becomes of one run of a converter process. -/
inductive Attempt where
  /-- The process could not be started. -/
  | unstarted (reason : FileError)
  /-- The process was not done in time. -/
  | late (limit : Span)
  | ended (o : ProcessOutput)

/-- What an attempt comes to. -/
def Attempt.result : Attempt → ConversionResult
  | .unstarted reason => .error (.spawn reason)
  | .late limit => .error (.timedOut limit)
  | .ended o => o.contents

/-- What becomes of the run of a process when it may take a limited time. -/
def ProcessRun.within (r : ProcessRun) : Option Span → Attempt
  | none => .ended r.output
  | some limit => if r.length.nanos < limit.nanos then .ended r.output else .late limit

/-- The command that converts files. -/
structure Command where
  /-- Where an interpreter that is only a name is looked up. -/
  searchPath : Bytes
  interpreter : Path
  script : Path

def fileArgument (path : Path) : Bytes := Utf8.encode "--infile=" ++ path

namespace Command

/-- The program that runs for a file. -/
def start (c : Command) (files : Files) (path : Path) : Except FileError StartedProgram :=
  files.start c.searchPath c.interpreter [c.script, fileArgument path]

/-- What becomes of the call with a number. -/
def attempt (c : Command) (files : Files) (processes : Processes) (limit : Option Span)
    (path : Path) (number : Nat) : Attempt :=
  match c.start files path with
  | .error e => .unstarted e
  | .ok program =>
      match processes files program number with
      | .error e => .unstarted e
      | .ok run => run.within limit

/-- Plays the conversion of a file. -/
def convert (c : Command) (files : Files) (processes : Processes) (retries : Nat)
    (limit : Option Span) (path : Path) : Retry.Run :=
  Retry.run retries path fun number => (c.attempt files processes limit path number).result

end Command
end LiveNotebooks
