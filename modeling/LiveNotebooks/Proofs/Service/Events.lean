import LiveNotebooks.Proofs.Service.Machine
import LiveNotebooks.Proofs.Store.Bus

/-!
# The events of the service

Whatever scans, direct loads, reloads, clients and requests do between each other, the
events that are sent are those of the writes that went through, in their order.

**Results.**
* `events_of_writes`: what the events of a run tell.
-/

namespace LiveNotebooks
namespace Service

open Store (Write eventsOn Told)

/-- The runs from a state, with the writes that are committed and the events that are
sent. -/
inductive Run (c : Setup) (start : Service) : Service → List Write → List Store.Event → Prop
  | refl : Run c start start [] []
  | step
      {s s' : Service}
      {writes : List Write}
      {events sent : List Store.Event}
      {a : Action}
      (run : Run c start s writes events)
      (hstep : s.step? c a = some (s', sent)) :
      Run c start s' (writes ++ (written? c s a).toList) (events ++ sent)

/-- Lets things happen one after another. -/
def run? (c : Setup) :
    Service → List Action → Option (Service × List Write × List Store.Event)
  | s, [] => some (s, [], [])
  | s, a :: rest =>
      match s.step? c a with
      | none => none
      | some (s', sent) =>
          (run? c s' rest).map fun (last, writes, events) =>
            (last, (written? c s a).toList ++ writes, sent ++ events)

section

variable {c : Setup} {start s : Service} {writes : List Write} {events : List Store.Event}

theorem Run.trans
    {last : Service}
    {later : List Write}
    {more : List Store.Event}
    (first : Run c start s writes events)
    (second : Run c s last later more) :
    Run c start last (writes ++ later) (events ++ more) := by
  induction second with
  | refl => simpa using first
  | step _ hstep ih =>
      rw [← List.append_assoc, ← List.append_assoc]
      exact .step ih hstep

/-- What is computed step by step is a run of the service. -/
theorem run_of_run?
    {actions : List Action}
    (h : run? c start actions = some (s, writes, events)) :
    Run c start s writes events := by
  induction actions generalizing start writes events with
  | nil =>
      cases h
      exact .refl
  | cons a rest ih =>
      simp only [run?] at h
      split at h
      · cases h
      · next s' sent hstep =>
          obtain ⟨⟨_, _, _⟩, hrest, he⟩ := Option.map_eq_some_iff.1 h
          cases he
          exact (Run.step .refl hstep).trans (ih hrest)

/-- A run changes the store by the writes that are committed, and announces just these. -/
theorem writes_of_run
    (h : Run c start s writes events) :
    Writes start writes s events := by
  induction h with
  | refl => exact writes_nil rfl rfl
  | step _ hstep ih => exact ih.trans (step_written hstep)

/-- **The events tell the writes.**  The events that are sent in a run announce the writes
that were committed, one for each and in their order, and nothing else, and they are what the bus
has sent since: who has listened at first and was not behind hears just them.  The store is
what these writes have made of it.  Of a document that was not there at first nothing is told, or
once that it was created, and then only that it was changed.  At any time the documents that
are there are those that were there at first and those that were told to be created. -/
theorem events_of_writes
    (h : Run c start s writes events) :
    events = Store.announcements start.store writes
      ∧ Store.AllAccepted start.store writes
      ∧ s.store = start.store.applyAll writes
      ∧ start.bus.Publishes events s.bus
      ∧ (∀ identifier, start.store.contains identifier = false → Told (eventsOn identifier events))
      ∧ (∀ identifier, s.store.contains identifier = true
          ↔ start.store.contains identifier = true ∨ ⟨.created, identifier⟩ ∈ events) := by
  obtain ⟨haccepted, hstore, hbus, hevents⟩ := writes_of_run h
  refine ⟨hevents, haccepted, hstore, ?_, ?_, ?_⟩
  · rw [hbus]
    exact Bus.publishes_foldl start.bus events
  · intro identifier hnot
    rw [hevents]
    exact Store.told_announcements haccepted hnot
  · intro identifier
    rw [hevents, hstore]
    exact Store.contains_applyAll_iff haccepted

end

/-- A directory with one file. -/
def sample : Files := ⟨[([[0x61]], .file [] 0o644)], [], 0⟩

/-- A client sends an object for the document at a path. -/
def post (path : String) (moment : Instant) : Action :=
  .answer sample "1" moment ⟨"POST", Utf8.encode path, [], Utf8.encode "\x7b\x7d"⟩

/-- A scan, a direct load, reloads, clients and requests between each other.  New contents
come before there is a document, a request names a document that is not there, and a reload
is superseded. -/
def bustle : List Action :=
  [.scan sample [0x2F] 4, .load [0x62], .take 0, .reload (.setContents "a" .null ⟨1, 0⟩),
    .scanned 0 [0x2F, 0x61] (.ok .null) ⟨2, 0⟩, .reload (.request [0x61]),
    .reload (.move 0 .rest), .reload (.pass 100), .reload (.move 0 .rouse),
    .reload (.move 0 (.look true)), .reload (.move 0 .start),
    .loaded [0x62] (.error (.timedOut ⟨1⟩)) ⟨3, 0⟩, post "/notebook/a" ⟨4, 0⟩,
    post "/notebook/c" ⟨5, 0⟩, .reload (.move 0 (.finish (.ok .null) ⟨6, 0⟩)), .read .list,
    .reload (.request [0x61]), .reload (.move 1 .rest), .reload (.request [0x61]),
    .reload (.pass 100), .reload (.move 1 .rouse),
    .reload (.put ⟨"b", "b", "zoe", .null, ⟨7, 0⟩⟩)]

def bustleEvents : List Store.Event :=
  [⟨.created, "a"⟩, ⟨.created, "b"⟩, ⟨.contentSet, "a"⟩, ⟨.updated, "a"⟩, ⟨.updated, "b"⟩]

theorem events_of_writes_bustle :
    ∃ s writes,
      Run ⟨⟨"ann", 100⟩, none⟩ (opened 0) s writes bustleEvents
        ∧ bustleEvents = Store.announcements (opened 0).store writes
        ∧ Store.AllAccepted (opened 0).store writes
        ∧ s.store = (opened 0).store.applyAll writes
        ∧ (s.bus.drain 0).1 = bustleEvents.map Receipt.event
        ∧ (∀ identifier, (opened 0).store.contains identifier = false →
            Told (eventsOn identifier bustleEvents))
        ∧ (∀ identifier, s.store.contains identifier = true
            ↔ (opened 0).store.contains identifier = true
              ∨ ⟨.created, identifier⟩ ∈ bustleEvents) := by
  have hrun : (run? ⟨⟨"ann", 100⟩, none⟩ (opened 0) bustle).map (fun r => r.2.2)
      = some bustleEvents := by decide +kernel
  obtain ⟨⟨s, writes, events⟩, h, rfl⟩ := Option.map_eq_some_iff.1 hrun
  obtain ⟨hevents, haccepted, hstore, hbus, htold, hcreated⟩ := events_of_writes (run_of_run? h)
  have hheard := hbus.heard [] 0 ⟨rfl, rfl⟩ rfl (by decide)
  exact ⟨s, writes, run_of_run? h, hevents, haccepted, hstore, hheard, htold, hcreated⟩

end Service
end LiveNotebooks
