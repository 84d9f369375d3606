import LiveNotebooks.Rehearsal.World

/-!
# What a script waits for

A script does one thing at a time.  While it waits, the jobs of the service run, and time
goes on when there are none.  At one moment the script comes first, then the jobs, and the
script again after a number of jobs.

No activity keeps the jobs waiting for long: in one turn it passes only so many pauses that
are over.  Behind these it puts off whatever meets a pause, lets the jobs run, and takes up
first what it has put off last.

**Results.**
* `attend` waits for the end of an activity.
* `sleep`, `convert`, `load`, `scan` and `awaitEvent` are the activities.
-/

namespace LiveNotebooks
namespace Rehearsal

/-- The wakes that have come, each once. -/
def takeWakes : Act (List Wake) := do
  let w ← get
  set { w with wakes := [] }
  pure w.wakes

/-- Where an activity stands. -/
inductive Standing (σ α : Type) where
  /-- It waits. -/
  | waiting (s : σ)
  /-- It has more to do, but lets the jobs run before. -/
  | yielding (s : σ)
  /-- It has come to its end. -/
  | over (a : α)

/-- How many jobs run before the script is looked after again. -/
def jobsAtOnce : Nat := 61

/-- Waits for the end of an activity.  `step` goes on with it after some wakes.  Nothing
comes of an activity that nothing can wake. -/
def attend {σ α : Type} (step : σ → List Wake → Act (Standing σ α)) :
    Nat → σ → Act (Option α)
  | 0, _ => pure none
  | rounds + 1, s => do
      match ← step s (← takeWakes) with
      | .over a => pure (some a)
      | .yielding s => do
          runJobs jobsAtOnce
          attend step rounds s
      | .waiting s => do
          if (← get).jobs.isEmpty then
            if ← jump then attend step rounds s else pure none
          else
            runJobs jobsAtOnce
            attend step rounds s

def Wake.isPauseOver : Wake → Bool
  | .pauseOver => true
  | .conversion .. => false

/-- Sleeps for some milliseconds. -/
def sleep (length : Nat) : Act Unit := do
  if length ≠ 0 then
    setTimer length (.wake .pauseOver)
    let step (_ : Unit) (wakes : List Wake) : Act (Standing Unit Unit) :=
      pure (if wakes.any Wake.isPauseOver then .over () else .waiting ())
    let _ ← attend step manyRounds ()

/-! ## Conversions -/

/-- The result of a conversion that is done, or the timer for the one that pauses. -/
def follow (path : Path) : Progress → Act (Option ConversionResult)
  | .done result => pure (some result)
  | .pause length next => do
      setTimer length (.wake (.conversion path next))
      pure none

/-- Goes on with a conversion after some wakes. -/
def resumeOwn : List Wake → Act (Option ConversionResult)
  | [] => pure none
  | .pauseOver :: wakes => resumeOwn wakes
  | .conversion path next :: _ => do follow path (← resumeConversion path next)

/-- Waits for the result of a conversion. -/
def awaitResult (_ : Unit) (wakes : List Wake) : Act (Standing Unit ConversionResult) := do
  match ← resumeOwn wakes with
  | some result => pure (.over result)
  | none => pure (.waiting ())

def convertFile (path : Path) : Act (Option ConversionResult) := do
  match ← follow path (← runConversion path) with
  | some result => pure (some result)
  | none => attend awaitResult manyRounds ()

/-- Converts the file at a path, if the path has a name, and does not store the result. -/
def convert (path : Path) : Act (Option Conversion) := do
  match Path.name path with
  | none => pure none
  | some identifier =>
      match ← convertFile path with
      | none => pure none
      | some result =>
          writeLog (Conversion.lines path result)
          pure (some ⟨identifier, result⟩)

/-- Converts the file at a path, if the path has a name, and stores the result. -/
def load (path : Path) : Act (Option Conversion.Outcome) := do
  match ← convert path with
  | none => pure none
  | some conversion => pure (some (← commit conversion))

/-! ## Scans -/

/-- What a scan can do next with a file. -/
inductive ScanMove where
  | start (path : Path)
  /-- Pauses for some milliseconds. -/
  | rest (path : Path) (length : Nat) (next : Resumption)
  /-- Goes on behind a pause. -/
  | resume (path : Path) (next : Resumption)

def ScanMove.path : ScanMove → Path
  | .start path | .rest path _ _ | .resume path _ => path

/-- A scan under way. -/
structure ScanRun where
  pool : Scan.Pool
  /-- The moves that can be made now, in order. -/
  ready : List ScanMove
  /-- The moves that are put off, the last one first. -/
  putOff : List ScanMove
  /-- What has been loaded, in the order of the commits. -/
  outcomes : List Conversion.Outcome

namespace ScanRun

/-- The scan of some files before the first move. -/
def begin (files : List Path) (concurrency : Nat) : ScanRun where
  pool := .start files concurrency
  ready := []
  putOff := []
  outcomes := []

/-- How many pauses a turn passes that are over. -/
def turnLength : Nat := 128

/-- Hands out files as long as there is room; at most `rounds`. -/
def refill : Nat → ScanRun → ScanRun
  | 0, run => run
  | rounds + 1, run =>
      match run.pool.next? with
      | none => run
      | some (path, pool) =>
          refill rounds { run with pool := pool, ready := run.ready ++ [.start path] }

/-- What comes of a move. -/
inductive Effect where
  | finished (result : ConversionResult)
  /-- A timer is set. -/
  | resting
  | putOff (move : ScanMove)

/-- What comes of a conversion that pauses or is done, and what is left of the turn. -/
def rest (left : Nat) (path : Path) : Progress → Act (Effect × Nat)
  | .done result => pure (.finished result, left)
  | .pause length next =>
      match left, length with
      | 0, _ => pure (.putOff (.rest path length next), 0)
      | left + 1, 0 => do
          match ← resumeConversion path next with
          | .done result => pure (.finished result, left)
          | .pause length next => pure (.putOff (.rest path length next), left)
      | left + 1, length + 1 => do
          setTimer (length + 1) (.wake (.conversion path next))
          pure (.resting, left + 1)

/-- Makes a move with what is left of the turn. -/
def move (left : Nat) : ScanMove → Act (Effect × Nat)
  | .start path => do rest left path (← startConversion path)
  | .rest path length next => rest left path (.pause length next)
  | .resume path next =>
      match left with
      | 0 => pure (.putOff (.resume path next), 0)
      | left + 1 => do rest left path (← resumeConversion path next)

/-- Stores the result of the file at a path. -/
def store (path : Path) (result : ConversionResult) : Act (List Conversion.Outcome) := do
  writeLog (Conversion.lines path result)
  match Path.name path with
  | none => pure []
  | some identifier => do pure [← commit ⟨identifier, result⟩]

/-- Makes moves until there is none, with what is left of the turn; at most `rounds`. -/
def proceed : Nat → Nat → ScanRun → Act ScanRun
  | 0, _, run => pure run
  | rounds + 1, left, run => do
      let run := run.refill run.pool.waiting.length
      match run.ready with
      | [] => pure run
      | next :: ready =>
          let run := { run with ready := ready }
          let (effect, left) ← move left next
          match effect with
          | .resting => proceed rounds left run
          | .putOff again => proceed rounds left { run with putOff := again :: run.putOff }
          | .finished result =>
              let outcomes ← store next.path result
              proceed rounds left
                { run with pool := run.pool.finish next.path, outcomes := run.outcomes ++ outcomes }

/-- The moves that wakes make possible. -/
def movesOf (wakes : List Wake) : List ScanMove :=
  wakes.filterMap fun wake =>
    match wake with
    | .conversion path next => some (.resume path next)
    | .pauseOver => none

/-- Takes a turn of a scan after some wakes. -/
def step (run : ScanRun) (wakes : List Wake) :
    Act (Standing ScanRun (List Conversion.Outcome)) := do
  let run ← proceed manyRounds turnLength { run with ready := run.ready ++ movesOf wakes }
  if run.pool.isDone then pure (.over run.outcomes)
  else if run.putOff.isEmpty then pure (.waiting run)
  else pure (.yielding { run with ready := run.putOff, putOff := [] })

end ScanRun

/-- Loads the files of a directory, some at a time. -/
def scan (directory : Path) (concurrency : Nat) : Act Scan.Report := do
  modify fun w => { w with mostConverting := 0 }
  match Scan.visibleFiles (← get).files directory with
  | .error e =>
      writeLog [Scan.unreadableLine directory e]
      pure .empty
  | .ok (files, lines) =>
      writeLog (lines ++ [Scan.startLine directory files.length])
      match ← attend ScanRun.step manyRounds (.begin files concurrency) with
      | some outcomes => pure (.ofOutcomes outcomes)
      | none => pure .empty

/-! ## Events -/

/-- The next event that the script receives.  News of a gap are told and passed over. -/
def hear (rounds : Nat) : Act (Option Store.Event) :=
  match rounds with
  | 0 => pure none
  | rounds + 1 => do
      let w ← get
      match w.bus, w.recorder with
      | some bus, some receiver =>
          let (receipt, bus) := bus.receive receiver
          match receipt with
          | .event e =>
              set { w with bus := some bus, heard := w.heard ++ [Receipt.event e] }
              pure (some e)
          | .lagged missed =>
              set { w with bus := some bus, heard := w.heard ++ [Receipt.lagged missed] }
              hear rounds
          | .empty | .closed => pure none
      | _, _ => pure none

/-- Waits for the next event of the store. -/
def awaitEvent : Act (Option Store.Event) := do
  let step (_ : Unit) (_ : List Wake) : Act (Standing Unit Store.Event) := do
    match ← hear 2 with
    | some e => pure (.over e)
    | none => pure (.waiting ())
  attend step manyRounds ()

/-- Everything that the script has received since it told last. -/
def takeHeard : Act (List Receipt) := do
  let w ← get
  match w.bus, w.recorder with
  | some bus, some receiver =>
      let (receipts, bus) := bus.drain receiver
      set { w with bus := some bus, heard := [] }
      pure (w.heard ++ receipts)
  | _, _ => pure w.heard

/-! ## Watching -/

/-- Lets no more news come to a watcher. -/
def closeWatcher (number : Nat) : Act Unit := do
  let w ← get
  match w.watchers[number]? with
  | some watcher =>
      set { w with watchers := w.watchers.set number { watcher with isOpen := false } }
      wakeEventLoop number
  | none => pure ()

def closeWatcher? : Option Nat → Act Unit
  | some number => closeWatcher number
  | none => pure ()

/-- Starts to watch a path. -/
def watch (path : Path) : Act (Except Watch.StartError Nat) := do
  let w ← get
  match Watch.start w.files path with
  | .error e =>
      set { w with lastWatcher := none }
      pure (.error e)
  | .ok line =>
      let number := w.watchers.length
      set { w with watchers := w.watchers ++ [Watcher.new], lastWatcher := some number }
      writeLog [line]
      pure (.ok number)

/-- The last watcher, if news can still come to it. -/
def openWatcher? (w : World) : Option Nat :=
  match w.lastWatcher with
  | none => none
  | some number =>
      match w.watchers[number]? with
      | some watcher => if watcher.isOpen then some number else none
      | none => none

/-- Gives news to the last watcher.  `false` if there is none that takes them. -/
def inject (notice : Watch.Notice) : Act Bool := do
  let w ← get
  match openWatcher? w with
  | none => pure false
  | some number =>
      let give (watcher : Watcher) : Watcher := { watcher with inbox := watcher.inbox ++ [notice] }
      set { w with watchers := w.watchers.modify number give }
      wakeEventLoop number
      pure true

/-- Stops the handling of news of a watcher; what is not yet handled is lost. -/
def abortWatcher (number : Nat) : Act Unit :=
  let stop (watcher : Watcher) : Watcher := { watcher with isHandled := false }
  modify fun w => { w with watchers := w.watchers.modify number stop }

end Rehearsal
end LiveNotebooks
