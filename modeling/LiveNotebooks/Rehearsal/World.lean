import LiveNotebooks.Http.Site
import LiveNotebooks.Startup
import LiveNotebooks.Rehearsal.Converter
import LiveNotebooks.Store.Bus

/-!
# The world of a rehearsal

A rehearsal runs the service on one thread and a clock of its own.  Time stands still
while anything can run and then jumps to the next timer; timers that are due at one time
go off in the order in which they were set.

The state holds the service, its surroundings and everything that is under way: the jobs
that can run now, in their order, and the timers.
-/

namespace LiveNotebooks
namespace Rehearsal

/-- A job that can run now. -/
inductive Job where
  /-- A reload task that has just been made. -/
  | newTask (number : Nat)
  /-- The quiet time of a reload task is over. -/
  | quietOver (number : Nat)
  /-- The conversion of a reload task goes on. -/
  | conversion (number : Nat) (next : Resumption)
  /-- The event loop of a watcher has something to do. -/
  | eventLoop (watcher : Nat)
  /-- The log of store events has something to read. -/
  | eventLog

/-- What the script itself waits for. -/
inductive Wake where
  /-- The end of a pause. -/
  | pauseOver
  /-- A conversion of the script's own goes on. -/
  | conversion (path : Path) (next : Resumption)

/-- What a timer sets going. -/
inductive Alarm where
  | job (job : Job)
  | wake (wake : Wake)

structure Timer where
  due : Nat
  alarm : Alarm

/-- A watcher of the notebook directory. -/
structure Watcher where
  /-- The news that are not yet handled. -/
  inbox : List Watch.Notice
  /-- Can news still come? -/
  isOpen : Bool
  /-- Does anybody handle the news? -/
  isHandled : Bool

def Watcher.new : Watcher := ⟨[], true, true⟩

/-- The state of a rehearsal. -/
structure World where
  files : Files
  converter : Converter
  author : String
  /-- The quiet time before a reload, in milliseconds. -/
  debounce : Nat
  staticDirectory : Option Path
  store : Store
  /-- The bus on which the store announces its writes, if it has one. -/
  bus : Option Bus
  /-- The receiver of the log of store events. -/
  eventLog : Option Nat
  /-- The receiver of the script. -/
  recorder : Option Nat
  /-- What the script has received and not yet told. -/
  heard : List Receipt
  reload : Reload.State
  watchers : List Watcher
  /-- The watcher that takes injected news. -/
  lastWatcher : Option Nat
  /-- The watcher that the script has started itself and not yet given up. -/
  ownWatcher : Option Nat
  /-- The time in milliseconds. -/
  now : Nat
  jobs : List Job
  wakes : List Wake
  timers : List Timer
  /-- Log lines, newest first. -/
  log : List LogLine
  /-- Lines of the log of store events, newest first. -/
  eventLines : List LogLine
  /-- The number of moments that have been stamped. -/
  stamps : Nat
  /-- The number of requests that have been answered. -/
  requests : Nat
  /-- The number of conversions under way, and the most since the last scan began. -/
  converting : Nat
  mostConverting : Nat
  /-- Conversions that are kept under a name. -/
  kept : List (String × Conversion)
  /-- For each request of the script for a reload the number of its task. -/
  scheduled : List (Option Nat)
  /-- The scan at the start and whether the directory is watched. -/
  started : Scan.Report × Bool

/-- An activity that changes the world. -/
abbrev Act := StateM World

namespace World

/-- The first moment that is stamped. -/
def epoch : Int := 1767225600

/-- The fraction of every moment that is stamped. -/
def stampNano : Nat := 123456789

/-- A world in which nothing has happened. -/
def initial (files : Files) (converter : Converter) : World where
  files := files
  converter := converter
  author := "ann"
  debounce := 100
  staticDirectory := none
  store := .empty
  bus := none
  eventLog := none
  recorder := none
  heard := []
  reload := .initial
  watchers := []
  lastWatcher := none
  ownWatcher := none
  now := 0
  jobs := []
  wakes := []
  timers := []
  log := []
  eventLines := []
  stamps := 0
  requests := 0
  converting := 0
  mostConverting := 0
  kept := []
  scheduled := []
  started := (.empty, false)

end World

/-! ## Small activities -/

def writeLog (lines : List LogLine) : Act Unit :=
  modify fun w => { w with log := lines.reverse ++ w.log }

/-- A moment later than all others. -/
def stamp : Act Instant := do
  let w ← get
  set { w with stamps := w.stamps + 1 }
  pure ⟨World.epoch + w.stamps, World.stampNano⟩

/-- Makes a job ready to run. -/
def enqueue (job : Job) : Act Unit :=
  modify fun w => { w with jobs := w.jobs ++ [job] }

/-- Is a job of the event log already waiting to run? -/
def Job.isEventLog : Job → Bool
  | .eventLog => true
  | _ => false

/-- Is a job of the event loop of a watcher already waiting to run? -/
def Job.isEventLoop (watcher : Nat) : Job → Bool
  | .eventLoop n => n = watcher
  | _ => false

def setTimer (asked : Nat) (alarm : Alarm) : Act Unit :=
  modify fun w => { w with timers := w.timers ++ [⟨w.now + Pause.length asked, alarm⟩] }

/-- Announces a write, and wakes the event log. -/
def publish (event : Store.Event) : Act Unit := do
  let w ← get
  match w.bus with
  | none => pure ()
  | some bus =>
      set { w with bus := some (bus.send event) }
      if w.eventLog.isSome && !w.jobs.any Job.isEventLog then enqueue .eventLog

/-- Makes the trace of an operation known. -/
def report (trace : Trace) : Act Unit := do
  trace.events.forM publish
  writeLog trace.log

/-- Puts a store in place and makes its trace known. -/
def adopt (store : Store) (trace : Trace) : Act Unit := do
  modify fun w => { w with store := store }
  report trace

/-! ## Conversions -/

/-- Takes note of what a conversion does next. -/
def noteProgress (lines : List LogLine) : Progress → Act Progress
  | .done result => do
      writeLog lines
      modify fun w => { w with converting := w.converting - 1 }
      pure (.done result)
  | .pause length next => do
      writeLog lines
      pure (.pause length next)

def startConversion (path : Path) : Act Progress := do
  let w ← get
  let (converter, lines, progress) := w.converter.start w.files path
  set { w with
    converter := converter, converting := w.converting + 1,
    mostConverting := max w.mostConverting (w.converting + 1) }
  noteProgress lines progress

/-- Goes on with the conversion of a file. -/
def resumeConversion (path : Path) (next : Resumption) : Act Progress := do
  let w ← get
  let (converter, lines, progress) := w.converter.resume w.files path next
  set { w with converter := converter }
  noteProgress lines progress

/-- Starts the conversion of a file, and goes on with it behind a pause of no length. -/
def runConversion (path : Path) : Act Progress := do
  match ← startConversion path with
  | .pause 0 next => resumeConversion path next
  | progress => pure progress

/-- Stores a conversion. -/
def commit (c : Conversion) : Act Conversion.Outcome := do
  let now ← stamp
  let w ← get
  let (store, trace) := c.commit w.author now w.store
  adopt store trace
  pure c.outcome

/-! ## Reloads and news -/

/-- Makes a new reload task ready to run. -/
def launch (task : Reload.Task) : Act Unit := enqueue (.newTask task.number)

/-- Asks for a reload. -/
def schedule (path : Path) : Act (Option Nat) := do
  let w ← get
  match w.reload.schedule path with
  | none => pure none
  | some (reload, task) =>
      set { w with reload := reload }
      launch task
      pure (some task.number)

/-- Goes on with a reload whose conversion has come this far. -/
def followReload (task : Reload.Task) : Progress → Act Unit
  | .pause length next => setTimer length (.job (.conversion task.number next))
  | .done result => do
      writeLog (Conversion.lines task.ticket.path result)
      let w ← get
      let now ← if w.reload.pending.isCurrent task.ticket then stamp else pure ⟨0, 0⟩
      let (reload, store, trace) := Reload.complete w.reload task result w.author now w.store
      modify fun w => { w with reload := reload }
      adopt store trace

/-- Lets a reload task go on whose quiet time is over. -/
def wakeReload (task : Reload.Task) : Act Unit := do
  let w ← get
  let (reload, awakening) := Reload.wake w.reload task (w.files.isFile task.ticket.path)
  set { w with reload := reload }
  writeLog [awakening.line task.ticket]
  if awakening = .convert then
    followReload task (← runConversion task.ticket.path)

/-- Handles one piece of news. -/
def handleNotice (notice : Watch.Notice) : Act Unit := do
  let w ← get
  let (reload, tasks, lines) := Watch.react w.reload notice
  set { w with reload := reload }
  tasks.forM launch
  writeLog lines

/-- Handles the news of a watcher, and its end. -/
def runEventLoop (number : Nat) : Act Unit := do
  let w ← get
  match w.watchers[number]? with
  | some watcher =>
      if watcher.isHandled then
        let ended := { watcher with inbox := [], isHandled := watcher.isOpen }
        set { w with watchers := w.watchers.set number ended }
        watcher.inbox.forM handleNotice
        if !watcher.isOpen then writeLog [Watch.closedLine]
  | none => pure ()

def wakeEventLoop (number : Nat) : Act Unit := do
  let w ← get
  if !w.jobs.any (Job.isEventLoop number) then enqueue (.eventLoop number)

def runEventLog : Act Unit :=
  modify fun w =>
    match w.bus, w.eventLog with
    | some bus, some receiver =>
        let (lines, bus) := bus.logLines receiver
        { w with bus := some bus, eventLines := lines.reverse ++ w.eventLines }
    | _, _ => w

def runJob : Job → Act Unit
  | .newTask number => do
      let w ← get
      match w.reload.task? number with
      | some task =>
          if w.debounce = 0 then wakeReload task
          else
            set { w with reload := w.reload.rest task (w.now + Pause.length w.debounce) }
            setTimer w.debounce (.job (.quietOver number))
      | none => pure ()
  | .quietOver number => do
      match (← get).reload.task? number with
      | some task => wakeReload task
      | none => pure ()
  | .conversion number next => do
      match (← get).reload.task? number with
      | some task => followReload task (← resumeConversion task.ticket.path next)
      | none => pure ()
  | .eventLoop watcher => runEventLoop watcher
  | .eventLog => runEventLog

/-- Runs jobs until none is left; at most `rounds`. -/
def runJobs : Nat → Act Unit
  | 0 => pure ()
  | rounds + 1 => do
      let w ← get
      match w.jobs with
      | [] => pure ()
      | job :: jobs =>
          set { w with jobs := jobs }
          runJob job
          runJobs rounds

/-- Sets off an alarm. -/
def sound : Alarm → Act Unit
  | .job job => enqueue job
  | .wake wake => modify fun w => { w with wakes := w.wakes ++ [wake] }

def nextDue? (timers : List Timer) : Option Nat :=
  (timers.map Timer.due).min?

/-- Lets time jump to the next timer.  `false` if there is none. -/
def jump : Act Bool := do
  let w ← get
  match nextDue? w.timers with
  | none => pure false
  | some due =>
      let ripe := w.timers.filter fun t => t.due ≤ due
      set { w with now := max w.now due, timers := w.timers.filter fun t => !(t.due ≤ due) }
      ripe.forM fun t => sound t.alarm
      pure true

/-- More rounds than a rehearsal takes. -/
def manyRounds : Nat := Nat.pow 2 40

/-- Runs everything that can run now. -/
def settle : Act Unit := runJobs manyRounds

end Rehearsal
end LiveNotebooks
