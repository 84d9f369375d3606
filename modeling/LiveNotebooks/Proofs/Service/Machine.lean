import LiveNotebooks.Proofs.Http.Writes
import LiveNotebooks.Proofs.Reload.Machine
import LiveNotebooks.Proofs.Store.Announcements
import LiveNotebooks.Scan

/-!
# The service

All that works with one store: reloads, scans of directories, files that are loaded
directly, clients that call the store, and requests.  Each of them goes on step by step
between the steps of the others, and a step calls the store at most once.

**Steps.**  Files and converters are outside: what a step sees of them stands in its action.
A step gives the events that it has sent on the bus.

**Results.**
* `step_of_step?`: everything that can happen is a `Step`, which says all that it does.
* `written?` is the write that a step commits, if it commits one.
* `step_written`: a step changes the store by this write and announces just this write.
-/

namespace LiveNotebooks

/-- A store with all that works with it. -/
structure Service where
  /-- The store, the clock and the reloads. -/
  machine : Reload.Machine
  /-- The bus on which the store announces its writes. -/
  bus : Bus
  /-- The files that are loaded directly, and are being converted. -/
  loads : List Path
  scans : List Scan.Pool

namespace Service

structure Setup where
  reload : Reload.Setup
  staticDirectory : Option Path

/-- What happens. -/
inductive Action where
  /-- Time passes, a reload is asked for or goes on, or a client writes to the store. -/
  | reload (a : Reload.Action)
  /-- A client reads the store. -/
  | read (q : Store.Query)
  /-- A request is answered. -/
  | answer (files : Files) (requestId : String) (moment : Instant) (r : Http.Request)
  /-- A file begins to be loaded directly. -/
  | load (path : Path)
  /-- The conversion of a file that is loaded directly is done. -/
  | loaded (path : Path) (result : ConversionResult) (moment : Instant)
  /-- A scan of a directory begins. -/
  | scan (files : Files) (directory : Path) (concurrency : Nat)
  /-- A scan takes its next file. -/
  | take (number : Nat)
  /-- The conversion of a file of a scan is done. -/
  | scanned (number : Nat) (path : Path) (result : ConversionResult) (moment : Instant)

/-- The service before anything has happened, with somebody who listens to the events. -/
def opened (now : Nat) : Service := ⟨.opened now .empty, Bus.new.subscribe.1, [], []⟩

/-- The documents. -/
def store (s : Service) : Store := s.machine.store

/-- Puts a store in place and announces how it has come about. -/
def adopt (s : Service) (store : Store) (events : List Store.Event) :
    Service × List Store.Event :=
  ({ s with machine := { s.machine with store := store }, bus := events.foldl Bus.send s.bus },
    events)

/-- Takes over what has happened to the reloads. -/
def adoptReload (s : Service) (machine : Reload.Machine) (note : Option Reload.Note) :
    Service × List Store.Event :=
  { s with machine := machine }.adopt machine.store (note.toList.flatMap Reload.Note.events)

/-- Stores what has become of the file at a path, if the path has a name. -/
def commit (c : Setup) (s : Service) (path : Path) (result : ConversionResult)
    (moment : Instant) : Service × List Store.Event :=
  match Path.name path with
  | none => (s, [])
  | some identifier =>
      match (⟨identifier, result⟩ : Conversion).commit c.reload.author moment s.store with
      | (store, trace) => s.adopt store trace.events

/-- The service with a scan that has come further. -/
def withScan (s : Service) (number : Nat) (pool : Scan.Pool) : Service :=
  { s with scans := s.scans.set number pool }

/-- The site from which requests are answered. -/
def site (c : Setup) (s : Service) (files : Files) : Http.Site :=
  ⟨s.store, files, c.staticDirectory⟩

/-- Lets something happen, if it can, and gives the events that are sent. -/
def step? (c : Setup) (s : Service) : Action → Option (Service × List Store.Event)
  | .reload a =>
      (s.machine.step? c.reload a).map fun (machine, note) => s.adoptReload machine note
  | .read _ => some (s, [])
  | .answer files requestId moment r =>
      match (Http.respond (s.site c files) requestId moment r).write with
      | none => some (s, [])
      | some (store, event) => some (s.adopt store [event])
  | .load path =>
      some (if (Path.name path).isSome then { s with loads := s.loads ++ [path] } else s, [])
  | .loaded path result moment =>
      if s.loads.contains path then
        some ({ s with loads := s.loads.erase path }.commit c path result moment)
      else none
  | .scan files directory concurrency =>
      match Scan.visibleFiles files directory with
      | .error _ => some (s, [])
      | .ok (paths, _) => some ({ s with scans := s.scans ++ [.start paths concurrency] }, [])
  | .take number =>
      (s.scans[number]?.bind Scan.Pool.next?).map fun (_, pool) => (s.withScan number pool, [])
  | .scanned number path result moment =>
      match s.scans[number]? with
      | none => none
      | some pool =>
          if pool.running.contains path then
            some ((s.withScan number (pool.finish path)).commit c path result moment)
          else none

/-! ## What a step does -/

/-- Everything that can happen. -/
inductive Step (c : Setup) (s : Service) : Action → Service → List Store.Event → Prop
  | reload
      {a : Reload.Action}
      {machine : Reload.Machine}
      {note : Option Reload.Note}
      (h : Reload.Machine.Step c.reload s.machine a machine note) :
      Step c s (.reload a) (s.adoptReload machine note).1 (s.adoptReload machine note).2
  | read
      (q : Store.Query) :
      Step c s (.read q) s []
  | refuse
      {files : Files}
      {requestId : String}
      {moment : Instant}
      {r : Http.Request}
      (hrefused : Http.isWritten (s.site c files) requestId moment r = false) :
      Step c s (.answer files requestId moment r) s []
  | replace
      {files : Files}
      {requestId identifier : String}
      {moment : Instant}
      {r : Http.Request}
      {contents : Json.Value}
      {w : Store.Write}
      (hw : w = .setContents identifier contents moment)
      (hasked : Http.requestedWrite? (s.site c files) r moment = some w)
      (hwritten : Http.isWritten (s.site c files) requestId moment r = true)
      (hobject : contents.isObject = true)
      (hthere : s.store.contains identifier = true) :
      Step c s (.answer files requestId moment r) (s.adopt (w.apply s.store) [w.event s.store]).1
        (s.adopt (w.apply s.store) [w.event s.store]).2
  | nameless
      {path : Path}
      (hname : Path.name path = none) :
      Step c s (.load path) s []
  | load
      {path : Path}
      {identifier : String}
      (hname : Path.name path = some identifier) :
      Step c s (.load path) { s with loads := s.loads ++ [path] } []
  | loaded
      {path : Path}
      {result : ConversionResult}
      {moment : Instant}
      {s' : Service}
      {events : List Store.Event}
      (hpath : path ∈ s.loads)
      (hcommit : { s with loads := s.loads.erase path }.commit c path result moment
        = (s', events)) :
      Step c s (.loaded path result moment) s' events
  | unreadable
      {files : Files}
      {directory : Path}
      {e : Scan.WalkError}
      (concurrency : Nat)
      (hpaths : Scan.visibleFiles files directory = .error e) :
      Step c s (.scan files directory concurrency) s []
  | scan
      {files : Files}
      {directory : Path}
      {paths : List Path}
      {lines : List LogLine}
      (concurrency : Nat)
      (hpaths : Scan.visibleFiles files directory = .ok (paths, lines)) :
      Step c s (.scan files directory concurrency)
        { s with scans := s.scans ++ [.start paths concurrency] } []
  | take
      {number : Nat}
      {pool rest : Scan.Pool}
      {path : Path}
      (hpool : s.scans[number]? = some pool)
      (hnext : pool.next? = some (path, rest)) :
      Step c s (.take number) (s.withScan number rest) []
  | scanned
      {number : Nat}
      {pool : Scan.Pool}
      {path : Path}
      {result : ConversionResult}
      {moment : Instant}
      {s' : Service}
      {events : List Store.Event}
      (hpool : s.scans[number]? = some pool)
      (hrunning : path ∈ pool.running)
      (hcommit : (s.withScan number (pool.finish path)).commit c path result moment
        = (s', events)) :
      Step c s (.scanned number path result moment) s' events

/-- What the service computes is a step. -/
theorem step_of_step?
    {c : Setup}
    {s s' : Service}
    {a : Action}
    {events : List Store.Event}
    (h : s.step? c a = some (s', events)) :
    Step c s a s' events := by
  cases a with
  | reload a =>
      obtain ⟨⟨machine, note⟩, hstep, he⟩ := Option.map_eq_some_iff.1 h
      cases he
      exact .reload (Reload.Machine.step_of_step? hstep)
  | read q =>
      cases h
      exact .read q
  | answer files requestId moment r =>
      simp only [step?] at h
      rcases Http.respond_written (s.site c files) requestId moment r with
        ⟨hrefused, hwrite⟩ | ⟨identifier, contents, hasked, hwritten, hreplaced⟩
      · simp only [hwrite] at h
        cases h
        exact .refuse hrefused
      · simp only [hreplaced.write] at h
        cases h
        exact .replace rfl hasked hwritten hreplaced.isObject hreplaced.present
  | load path =>
      simp only [step?] at h
      cases h
      cases hname : Path.name path with
      | none => exact .nameless hname
      | some identifier => exact .load hname
  | loaded path result moment =>
      simp only [step?] at h
      split at h
      · next hpath => exact .loaded (List.contains_iff_mem.1 hpath) (Option.some.inj h)
      · cases h
  | scan files directory concurrency =>
      simp only [step?] at h
      split at h
      · next e hpaths =>
          cases h
          exact .unreadable concurrency hpaths
      · next paths lines hpaths =>
          cases h
          exact .scan concurrency hpaths
  | take number =>
      obtain ⟨⟨path, rest⟩, htake, he⟩ := Option.map_eq_some_iff.1 h
      obtain ⟨pool, hpool, hnext⟩ := Option.bind_eq_some_iff.1 htake
      cases he
      exact .take hpool hnext
  | scanned number path result moment =>
      simp only [step?] at h
      split at h
      · cases h
      · next pool hpool =>
          split at h
          · next hrunning =>
              exact .scanned hpool (List.contains_iff_mem.1 hrunning) (Option.some.inj h)
          · cases h

/-! ## What a step commits -/

/-- The document that is stored for the file at a path. -/
def document? (c : Setup) (path : Path) (result : ConversionResult) (moment : Instant) :
    Option Notebook :=
  (Path.name path).map fun identifier =>
    (⟨identifier, result⟩ : Conversion).notebook c.reload.author moment

/-- The write that a reload or a client commits: of a reload, the document of a task whose
conversion is done and that is of the newest generation; of a client, a document, or
contents of a document that is there. -/
def reloadWritten? (c : Setup) (s : Reload.Machine) : Reload.Action → Option Store.Write
  | .pass _ | .request _ => none
  | .move number (.finish result moment) =>
      match s.reload.task? number with
      | some t =>
          if t.phase = .converting ∧ s.reload.pending.isCurrent t.ticket = true then
            some (.put (Reload.Machine.document c.reload t result moment))
          else none
      | none => none
  | .move _ _ => none
  | .put n => some (.put n)
  | .setContents identifier contents moment =>
      if s.store.contains identifier then some (.setContents identifier contents moment) else none

/-- The write that a step commits, if it commits one.  A request commits what it asks for, if
it is told that it has; reading, and what is still under way, commits nothing. -/
def written? (c : Setup) (s : Service) : Action → Option Store.Write
  | .reload a => reloadWritten? c s.machine a
  | .read _ | .load _ | .scan .. | .take _ => none
  | .answer files requestId moment r =>
      if Http.isWritten (s.site c files) requestId moment r then
        Http.requestedWrite? (s.site c files) r moment
      else none
  | .loaded path result moment | .scanned _ path result moment =>
      (document? c path result moment).map Store.Write.put

/-- The service gets from one state to another by some writes, and announces just these. -/
structure Writes (s : Service) (writes : List Store.Write) (s' : Service)
    (events : List Store.Event) : Prop where
  accepted : Store.AllAccepted s.store writes
  store : s'.store = s.store.applyAll writes
  bus : s'.bus = events.foldl Bus.send s.bus
  events : events = Store.announcements s.store writes

section

variable {c : Setup} {s s' : Service} {a : Action} {events : List Store.Event}

theorem writes_nil
    (hstore : s'.store = s.store)
    (hbus : s'.bus = s.bus) :
    Writes s [] s' [] :=
  ⟨trivial, hstore, hbus, rfl⟩

theorem writes_adopt
    {w : Store.Write}
    (haccepted : w.isAccepted s.store = true) :
    Writes s [w] (s.adopt (w.apply s.store) [w.event s.store]).1
      (s.adopt (w.apply s.store) [w.event s.store]).2 :=
  ⟨⟨haccepted, trivial⟩, rfl, rfl, rfl⟩

/-- Writes follow writes, and events events. -/
theorem Writes.trans
    {middle last : Service}
    {first second : List Store.Write}
    {told more : List Store.Event}
    (hfirst : Writes s first middle told)
    (hsecond : Writes middle second last more) :
    Writes s (first ++ second) last (told ++ more) := by
  have haccepted := hsecond.accepted
  have hstore := hsecond.store
  have hevents := hsecond.events
  rw [hfirst.store] at haccepted hstore hevents
  refine ⟨Store.allAccepted_append hfirst.accepted haccepted, ?_, ?_, ?_⟩
  · rw [hstore, Store.applyAll_append]
  · rw [hsecond.bus, hfirst.bus, List.foldl_append]
  · rw [hevents, hfirst.events, Store.announcements_append]

/-- A file with a name is stored under its name, and a file without is not stored. -/
theorem writes_commit
    {before : Service}
    {path : Path}
    {result : ConversionResult}
    {moment : Instant}
    (h : before.commit c path result moment = (s', events))
    (hstore : before.store = s.store)
    (hbus : before.bus = s.bus) :
    Writes s ((document? c path result moment).map Store.Write.put).toList s' events := by
  cases hname : Path.name path with
  | none =>
      simp only [commit, hname] at h
      cases h
      simp only [document?, hname]
      exact writes_nil hstore hbus
  | some identifier =>
      simp only [commit, hname, hstore] at h
      cases h
      simp only [document?, hname]
      refine ⟨⟨rfl, trivial⟩, rfl, ?_, rfl⟩
      rw [← hbus]

/-- A step of the reloads, or a write of a client, is one write if it is any. -/
theorem writes_reload
    {b : Reload.Action}
    {machine : Reload.Machine}
    {note : Option Reload.Note}
    (h : Reload.Machine.Step c.reload s.machine b machine note) :
    Writes s (reloadWritten? c s.machine b).toList (s.adoptReload machine note).1
      (s.adoptReload machine note).2 := by
  cases h with
  | pass span => exact writes_nil rfl rfl
  | nameless hname => exact writes_nil rfl rfl
  | request hname => exact writes_nil rfl rfl
  | advance ht hadvance =>
      cases hadvance <;> exact writes_nil rfl rfl
  | @depart t m deed ht hdepart =>
      cases hdepart with
      | superseded hphase hcurrent => exact writes_nil rfl rfl
      | left hphase => exact writes_nil rfl rfl
      | stale result moment hphase hcurrent =>
          have hnone : reloadWritten? c s.machine (.move t.number (.finish result moment))
              = none := by
            simp [reloadWritten?, Reload.State.task?_of_mem ht, hcurrent]
          rw [hnone]
          exact writes_nil rfl rfl
  | @commit t result moment ht hphase hcurrent =>
      have hsome : reloadWritten? c s.machine (.move t.number (.finish result moment))
          = some (.put (Reload.Machine.document c.reload t result moment)) := by
        simp [reloadWritten?, Reload.State.task?_of_mem ht, hphase, hcurrent]
      rw [hsome]
      exact ⟨⟨rfl, trivial⟩, rfl, rfl, rfl⟩
  | put n => exact ⟨⟨rfl, trivial⟩, rfl, rfl, rfl⟩
  | @setContents identifier contents moment store event hset =>
      cases hthere : s.machine.store.contains identifier with
      | false => simp [Store.setContents_of_not_contains hthere] at hset
      | true =>
          rw [Store.setContents_of_contains hthere] at hset
          cases hset
          simp only [reloadWritten?, hthere, if_true]
          exact ⟨⟨hthere, trivial⟩, rfl, rfl, rfl⟩
  | @refused identifier contents moment e hset =>
      cases hthere : s.machine.store.contains identifier with
      | false =>
          simp only [reloadWritten?, hthere, Bool.false_eq_true, if_false]
          exact writes_nil rfl rfl
      | true => simp [Store.setContents_of_contains hthere] at hset

/-- A step changes the store by the write that it commits, and announces just that. -/
theorem step_written
    (h : s.step? c a = some (s', events)) :
    Writes s (written? c s a).toList s' events := by
  cases step_of_step? h with
  | reload hstep => exact writes_reload hstep
  | refuse hrefused =>
      simp only [written?, hrefused, Bool.false_eq_true, if_false]
      exact writes_nil rfl rfl
  | replace hw hasked hwritten hobject hthere =>
      subst hw
      simp only [written?, hwritten, if_true, hasked]
      exact writes_adopt hthere
  | loaded hpath hcommit => exact writes_commit hcommit rfl rfl
  | scanned hpool hrunning hcommit => exact writes_commit hcommit rfl rfl
  | _ => exact writes_nil rfl rfl

end

end Service
end LiveNotebooks
