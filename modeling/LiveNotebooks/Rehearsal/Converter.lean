import LiveNotebooks.Conversion.Attempt
import LiveNotebooks.Time.Pause

/-!
# Converters of a rehearsal

A planned converter answers as it is told for each document: with an error, with a given
text, or with the text of the file, at once or after a while.  A process converter calls its
command and repeats failed attempts.

A conversion goes from pause to pause; `Resumption` says how it goes on.  The clock of a
rehearsal does not wait for processes: a process that is done within its limit takes no time,
and at any other one the limit is waited for.
-/

namespace LiveNotebooks
namespace Rehearsal

inductive PlannedResult where
  | failure (e : ConversionError)
  | text (bytes : Bytes)
  /-- The text of the file. -/
  | file

/-- A planned conversion. -/
structure PlanItem where
  result : PlannedResult := .file
  /-- How long the result is held back, in milliseconds, if it is. -/
  delay : Option Nat := none

/-- The value that a text holds. -/
def parseText (text : Bytes) : ConversionResult :=
  match Json.parse text with
  | .ok v => .ok v
  | .error e => .error (.malformed e (Utf8.decodeLossy text))

/-- The value that a file holds. -/
def parseFile (files : Files) (path : Path) : ConversionResult :=
  match files.read path with
  | .error e => .error (.spawn e)
  | .ok content =>
      match Utf8.decode? content with
      | some _ => parseText content
      | none => .error (.spawn .notText)

/-- The result of a planned conversion that starts now. -/
def PlannedResult.evaluate (r : PlannedResult) (files : Files) (path : Path) : ConversionResult :=
  match r with
  | .failure e => .error e
  | .text bytes => parseText bytes
  | .file => parseFile files path

/-- A converter that calls a command. -/
structure ProcessConverter where
  command : Command
  processes : Processes
  /-- The number of calls that have been made. -/
  called : Nat
  retries : Nat
  limit : Option Span

/-- A converter. -/
inductive Converter where
  /-- The items that are left for each document; the last one stays. -/
  | planned (plan : List (String × List PlanItem))
  | process (p : ProcessConverter)

/-- How a conversion goes on after a pause. -/
inductive Resumption where
  | deliver (result : ConversionResult)
  | attempt (r : Retry)
  /-- The time of an attempt is over. -/
  | expire (r : Retry) (limit : Span)

/-- What a conversion does next. -/
inductive Progress where
  | done (result : ConversionResult)
  /-- Pauses for some milliseconds. -/
  | pause (length : Nat) (next : Resumption)

/-- The next item for a document, and the plan behind it. -/
def takeItem (plan : List (String × List PlanItem)) (identifier : String) :
    PlanItem × List (String × List PlanItem) :=
  match plan.lookup identifier with
  | none | some [] => ({}, plan)
  | some [item] => (item, plan)
  | some (item :: items) =>
      (item, plan.map fun entry => if entry.1 = identifier then (entry.1, items) else entry)

namespace ProcessConverter

/-- What follows an attempt with some result. -/
def follow (p : ProcessConverter) (path : Path) (r : Retry) (result : ConversionResult) :
    List LogLine × Progress :=
  match r.judge p.retries path result with
  | .settled result => ([], .done result)
  | .again line length next => ([line], .pause length (.attempt next))

/-- What becomes of the next call.  A limit that the clock never reaches is none. -/
def next (p : ProcessConverter) (files : Files) (path : Path) : Attempt :=
  p.command.attempt files p.processes (p.limit.bind Span.limit?) path p.called

/-- What follows a call. -/
def begin (p : ProcessConverter) (files : Files) (path : Path) (r : Retry) :
    List LogLine × Progress :=
  match p.next files path with
  | .late limit =>
      if limit.nanos = 0 then p.follow path r (.error (.timedOut limit))
      else ([], .pause (limit.nanos / 1000000) (.expire r limit))
  | other => p.follow path r other.result

/-- Makes the next call. -/
def attempt (p : ProcessConverter) (files : Files) (path : Path) (r : Retry) :
    ProcessConverter × List LogLine × Progress :=
  ({ p with called := p.called + 1 }, p.begin files path r)

end ProcessConverter

namespace Converter

def start (c : Converter) (files : Files) (path : Path) : Converter × List LogLine × Progress :=
  match c with
  | .planned plan =>
      let (item, plan) := takeItem plan ((Path.name path).getD "")
      let result := item.result.evaluate files path
      (.planned plan, [],
        match item.delay with
        | none => .done result
        | some length => .pause length (.deliver result))
  | .process p =>
      let (p, lines, progress) := p.attempt files path .start
      (.process p, lines, progress)

/-- Goes on with a conversion after a pause. -/
def resume (c : Converter) (files : Files) (path : Path) (next : Resumption) :
    Converter × List LogLine × Progress :=
  match next, c with
  | .deliver result, c => (c, [], .done result)
  | .attempt r, .process p =>
      let (p, lines, progress) := p.attempt files path r
      (.process p, lines, progress)
  | .expire r limit, .process p => (.process p, p.follow path r (.error (.timedOut limit)))
  | .attempt _, .planned plan | .expire .., .planned plan =>
      (.planned plan, [], .done (parseFile files path))

end Converter
end Rehearsal
end LiveNotebooks
