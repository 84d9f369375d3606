import LiveNotebooks.Rehearsal.Activity

/-!
# How a rehearsal opens

A rehearsal is of a store with everything around it, or of the whole service.  The service
scans its directory and begins to watch it before the script takes its first step.
-/

namespace LiveNotebooks
namespace Rehearsal

/-- What surrounds a store that is used without the service. -/
structure Setting where
  files : Files
  plan : List (String × List PlanItem) := []
  author : String := "ann"
  /-- The quiet time before a reload, in milliseconds. -/
  debounce : Nat := 100
  /-- Does the store announce its writes? -/
  announces : Bool := true
  staticDirectory : Option Path := none

/-- The world of a store without the service. -/
def Setting.world (s : Setting) : World :=
  let (bus, recorder) := Bus.new.subscribe
  { World.initial s.files (.planned s.plan) with
    author := s.author
    debounce := s.debounce
    staticDirectory := s.staticDirectory
    bus := if s.announces then some bus else none
    recorder := if s.announces then some recorder else none }

/-- Lets the script receive the events from now on. -/
def listen : Act Unit :=
  modify fun w =>
    match w.bus with
    | some bus =>
        let (bus, recorder) := bus.subscribe
        { w with bus := some bus, recorder := some recorder }
    | none => w

/-- Begins to watch the notebook directory.  `false` if that is not possible. -/
def beginWatch (directory : Path) : Act Bool := do
  match ← watch directory with
  | .ok _ => pure true
  | .error e =>
      writeLog [Startup.unwatchedLine directory e]
      pure false

/-- Starts the service with the converter that is there.  The static files are those of
the rehearsal. -/
def startService (c : Configuration) : Act Unit := do
  let (bus, log) := Bus.new.subscribe
  modify fun w =>
    { w with
      author := c.author
      debounce := c.reloadDebounce
      bus := some bus
      eventLog := some log }
  let report ← scan c.notebookDirectory c.scanConcurrency
  writeLog (Startup.reportLines report)
  let watching ← beginWatch c.notebookDirectory
  modify fun w => { w with started := (report, watching) }
  settle
  listen

/-- Starts the service with a converter that calls a command. -/
def startWithProcess (c : Configuration) (searchPath : Bytes) (processes : Processes) :
    Act (Except InterpreterNotFound Unit) := do
  match (← get).files.locate (some searchPath) c.interpreter with
  | .error e => pure (.error e)
  | .ok interpreter =>
      writeLog [Files.usingLine interpreter, Startup.converterLine interpreter]
      let converter : ProcessConverter :=
        { command := ⟨searchPath, interpreter, c.converterScript⟩
          processes := processes
          called := 0
          retries := c.convertRetries
          limit := c.timeoutSpan }
      modify fun w => { w with converter := .process converter }
      startService c
      pure (.ok ())

end Rehearsal
end LiveNotebooks
