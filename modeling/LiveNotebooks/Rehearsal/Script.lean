import LiveNotebooks.Http.RequestId
import LiveNotebooks.Rehearsal.Opening

/-!
# Scripts

A script is a list of steps.  Each step has an answer; besides the answer its result tells
the time, the events that the script has received, and the log lines since the step
before.  Before the result is taken, everything runs that can run at that moment.
-/

namespace LiveNotebooks
namespace Rehearsal

/-- A step of a script. -/
inductive Step where
  /-- Stores a document. -/
  | put (identifier title author : String) (contents : Json.Value)
  /-- Replaces the contents of a document. -/
  | setContents (identifier : String) (contents : Json.Value)
  | get (identifier : String)
  /-- Lists the summaries. -/
  | list
  | contains (identifier : String)
  | size
  /-- Reads all documents. -/
  | dump
  /-- Puts an entry into the file tree, with a mode if one is given. -/
  | create (path : Path) (entry : Entry) (mode : Option Nat)
  /-- Removes an entry of the file tree. -/
  | remove (path : Path)
  | load (path : Path)
  /-- Converts a file and keeps the result under a name. -/
  | convert (path : Path) (name : String)
  /-- Stores what is kept under a name. -/
  | commit (name : String)
  | listFiles (directory : Path)
  | scan (directory : Path) (concurrency : Nat)
  /-- Asks for a reload. -/
  | schedule (path : Path)
  /-- Asks which reloads have come to their end. -/
  | handles
  | watch (path : Path)
  /-- Gives news to the last watcher. -/
  | notice (n : Watch.Notice)
  /-- Lets no more news come to the last watcher. -/
  | closeWatch
  /-- Stops the handling of news. -/
  | abortWatch
  /-- Gives up the watch. -/
  | dropWatch
  /-- Lets some milliseconds pass. -/
  | advance (length : Nat)
  /-- Asks how the start of the service went. -/
  | service
  /-- Waits for the next event. -/
  | awaitEvent
  | request (r : Http.Request)

inductive Answer where
  | done
  | flag (value : Bool)
  /-- Was the document new, and has it the moment of this write? -/
  | stored (isNew : Bool) (stamped : Option Bool)
  | contentsSet (outcome : Except StoreError Unit) (stamped : Option Bool)
  | document (outcome : Except StoreError Notebook)
  /-- The summaries, and whether they agree with the documents. -/
  | summaries (rows : List Summary) (consistent : Bool)
  | size (count : Nat) (isEmpty : Bool)
  | documents (all : List Notebook)
  | loaded (outcome : Option Conversion.Outcome)
  | converted (identifier : Option String)
  | files (outcome : Except Scan.WalkError (List Path))
  /-- The report, and the most conversions at a time. -/
  | scanned (report : Scan.Report) (mostConverting : Nat)
  /-- For each request for a reload whether it has come to its end. -/
  | handles (finished : List (Option Bool))
  | watched (outcome : Except Watch.StartError Unit)
  | service (report : Scan.Report) (watching : Bool)
  | heard (event : Option Store.Event)
  | response (r : Http.Response)

structure Result (α : Type) where
  answer : α
  /-- The time in milliseconds. -/
  now : Nat
  heard : List Receipt
  log : List LogLine
  eventLines : List LogLine

/-- Does the document with an identifier have this moment, if there is one? -/
def stampedAt (identifier : String) (moment : Instant) : Act (Option Bool) := do
  pure (((← get).store.find? identifier).map fun n => n.updatedAt = moment)

def adoptWrite (write : Store × Store.Event) : Act Unit := adopt write.1 { events := [write.2] }

/-- Stores a document. -/
def put (identifier title author : String) (contents : Json.Value) : Act Answer := do
  let moment ← stamp
  let write := (← get).store.put ⟨identifier, title, author, contents, moment⟩
  adoptWrite write
  pure (.stored (write.2.change = .created) (← stampedAt identifier moment))

/-- Replaces the contents of a document. -/
def setContents (identifier : String) (contents : Json.Value) : Act Answer := do
  let moment ← stamp
  match (← get).store.setContents identifier contents moment with
  | .error e => pure (.contentsSet (.error e) (← stampedAt identifier moment))
  | .ok write =>
      adoptWrite write
      pure (.contentsSet (.ok ()) (← stampedAt identifier moment))

/-- Do all summaries agree with the documents? -/
def consistent (store : Store) : Bool :=
  store.list.all fun row => (store.find? row.identifier).map Notebook.summary = some row

/-- Converts a file and keeps the result under a name. -/
def keep (path : Path) (name : String) : Act Answer := do
  let conversion ← convert path
  match conversion with
  | some c => modify fun w => { w with kept := (name, c) :: w.kept }
  | none => pure ()
  pure (.converted (conversion.map (·.identifier)))

/-- Stores what is kept under a name. -/
def commitKept (name : String) : Act Answer := do
  match (← get).kept.lookup name with
  | some c => do pure (.loaded (some (← commit c)))
  | none => pure (.loaded none)

def listFiles (directory : Path) : Act Answer := do
  match Scan.visibleFiles (← get).files directory with
  | .error e => pure (.files (.error e))
  | .ok (files, lines) =>
      writeLog lines
      pure (.files (.ok files))

/-- Which of the reloads that the script asked for have come to their end. -/
def finished (w : World) : List (Option Bool) :=
  w.scheduled.map (·.map fun number => (w.reload.task? number).isNone)

/-- Watches a path in place of the one watched so far. -/
def watchInstead (path : Path) : Act Answer := do
  let former := (← get).ownWatcher
  match ← watch path with
  | .error e => pure (.watched (.error e))
  | .ok number =>
      closeWatcher? former
      modify fun w => { w with ownWatcher := some number }
      pure (.watched (.ok ()))

/-- Lets no more news come to the last watcher.  `false` if none could. -/
def closeLast : Act Bool := do
  let last := openWatcher? (← get)
  closeWatcher? last
  pure last.isSome

/-- Gives up the watch that the script has started. -/
def giveUpWatch : Act Unit := do
  closeWatcher? (← get).ownWatcher
  modify fun w => { w with ownWatcher := none }

def answerRequest (r : Http.Request) : Act Http.Response := do
  let moment ← stamp
  let w ← get
  set { w with requests := w.requests + 1 }
  let site : Http.Site := ⟨w.store, w.files, w.staticDirectory⟩
  let answer := Http.respond site (Http.RequestId.ofRandom w.requests) moment r
  answer.write.forM adoptWrite
  writeLog answer.log
  pure answer.response

/-- Takes a step. -/
def perform : Step → Act Answer
  | .put identifier title author contents => put identifier title author contents
  | .setContents identifier contents => setContents identifier contents
  | .get identifier => do pure (.document ((← get).store.get identifier))
  | .list => do
      let store := (← get).store
      pure (.summaries store.list (consistent store))
  | .contains identifier => do pure (.flag ((← get).store.contains identifier))
  | .size => do
      let store := (← get).store
      pure (.size store.size store.isEmpty)
  | .dump => do pure (.documents (← get).store.notebooks)
  | .create path entry mode => do
      let place (files : Files) : Files :=
        match mode with
        | some mode => (files.create path entry).setMode path mode
        | none => files.create path entry
      modify fun w => { w with files := place w.files }
      pure .done
  | .remove path => do
      modify fun w => { w with files := w.files.remove path }
      pure .done
  | .load path => do pure (.loaded (← load path))
  | .convert path name => keep path name
  | .commit name => commitKept name
  | .listFiles directory => listFiles directory
  | .scan directory concurrency => do
      let report ← scan directory concurrency
      pure (.scanned report (← get).mostConverting)
  | .schedule path => do
      let task ← schedule path
      modify fun w => { w with scheduled := w.scheduled ++ [task] }
      pure (.flag task.isSome)
  | .handles => do pure (.handles (finished (← get)))
  | .watch path => watchInstead path
  | .notice n => do pure (.flag (← inject n))
  | .closeWatch => do pure (.flag (← closeLast))
  | .abortWatch => do
      (← get).ownWatcher.forM abortWatcher
      pure .done
  | .dropWatch => do
      giveUpWatch
      pure .done
  | .advance length => do
      sleep length
      pure .done
  | .service => do
      let (report, watching) := (← get).started
      pure (.service report watching)
  | .awaitEvent => do pure (.heard (← awaitEvent))
  | .request r => do pure (.response (← answerRequest r))

/-- Runs what can run now and tells what has come to light. -/
def tell {α : Type} (answer : α) : Act (Result α) := do
  settle
  let heard ← takeHeard
  let w ← get
  set { w with log := [], eventLines := [] }
  pure ⟨answer, w.now, heard, w.log.reverse, w.eventLines.reverse⟩

/-- Takes a step and tells its result. -/
def take (step : Step) : Act (Result Answer) := do tell (← perform step)

/-- Takes the steps of a script, one after another. -/
def play (script : List Step) : Act (List (Result Answer)) := script.mapM take

end Rehearsal
end LiveNotebooks
