import LiveNotebooks.Proofs.Reload.Journal
import LiveNotebooks.Reload

/-!
# Reloads that run side by side

Tasks run on many threads.  Between any two accesses of a task to what it shares with
others, time passes, other tasks take their steps, and clients write.  The files and the
converter are outside: what a task sees of them stands in the step that it takes.

**Results.**
* `step_of_step?`: everything that can happen is a `Step`, which says all that it does.
* `Runs.split`: a run can be split at each of its notes.
-/

namespace LiveNotebooks
namespace Reload

/-- What the reloads are set up with. -/
structure Setup where
  author : String
  /-- How long a file has to be quiet. -/
  quiet : Nat

/-- The service while reloads run. -/
structure Machine where
  now : Nat
  reload : State
  store : Store

/-- The next step of a task, with what it sees. -/
inductive Move where
  | rest
  | rouse
  | look (isFile : Bool)
  | leave
  | start
  | finish (result : ConversionResult) (moment : Instant)

/-- What happens. -/
inductive Action where
  /-- Time passes. -/
  | pass (span : Nat)
  /-- Somebody asks for a reload. -/
  | request (path : Path)
  | move (number : Nat) (m : Move)
  /-- A client stores a document. -/
  | put (n : Notebook)
  /-- A client replaces contents. -/
  | setContents (identifier : String) (contents : Json.Value) (moment : Instant)

namespace Machine

/-- The service before the first request. -/
def opened (now : Nat) (store : Store) : Machine := ⟨now, .initial, store⟩

/-- The documents that tasks are alive for. -/
def documents (s : Machine) : List String := s.reload.tasks.map fun t => t.ticket.identifier

theorem mem_documents
    {s : Machine}
    {identifier : String} :
    identifier ∈ s.documents ↔ ∃ t ∈ s.reload.tasks, t.ticket.identifier = identifier :=
  List.mem_map

theorem identifier_ne_of_not_mem_documents
    {s : Machine}
    {identifier : String}
    (h : identifier ∉ s.documents) :
    ∀ t ∈ s.reload.tasks, t.ticket.identifier ≠ identifier := by
  intro t ht hid
  exact h (mem_documents.2 ⟨t, ht, hid⟩)

def note (s : Machine) (t : Task) (deed : Deed) (events : List Store.Event) : Note :=
  ⟨s.now, t.ticket.identifier, some t.number, deed, events⟩

def requestNote (s : Machine) (path : Path) (identifier : String) : Note :=
  s.note (s.reload.nextTask path identifier) (.requested (s.reload.nextGeneration identifier) path)
    []

theorem requests_requestNote
    (s : Machine)
    (path : Path)
    (identifier : String) :
    (s.requestNote path identifier).requests identifier = true := by
  simp [requestNote, note, Note.requests, State.nextTask, Deed.isRequest]

theorem acts_requestNote
    (s : Machine)
    (path : Path)
    (identifier : String) :
    (s.requestNote path identifier).acts identifier = false := by
  simp [requestNote, note, Note.acts, Deed.isAct]

def writeNote (s : Machine) (event : Store.Event) : Note :=
  ⟨s.now, event.identifier, none, .written, [event]⟩

/-- Lets a task take its next step. -/
def move? (c : Setup) (s : Machine) (t : Task) (m : Move) : Option (Machine × Option Note) :=
  match t.phase, m with
  | .fresh, .rest => some ({ s with reload := s.reload.rest t (s.now + c.quiet) }, none)
  | .waiting due, .rouse =>
      if due ≤ s.now then
        match s.reload.rouse t with
        | (reload, true) => some ({ s with reload := reload }, none)
        | (reload, false) => some ({ s with reload := reload }, some (s.note t .superseded []))
      else none
  | .awake, .look isFile =>
      some
        ({ s with reload := s.reload.look t isFile },
          if isFile then none else some (s.note t .gone []))
  | .leaving, .leave =>
      match s.reload.settle t with
      | (reload, withdrawn) =>
          some ({ s with reload := reload }, some (s.note t (.left withdrawn) []))
  | .ready, .start =>
      some
        ({ s with reload := s.reload.start t }, some (s.note t (.started t.ticket.path) []))
  | .converting, .finish result moment =>
      match complete s.reload t result c.author moment s.store with
      | (reload, store, trace) =>
          let deed : Deed :=
            if s.reload.pending.isCurrent t.ticket then .committed else .stale
          some (⟨s.now, reload, store⟩, some (s.note t deed trace.events))
  | _, _ => none

/-- Lets something happen, if it can. -/
def step? (c : Setup) (s : Machine) : Action → Option (Machine × Option Note)
  | .pass span => some ({ s with now := s.now + span }, none)
  | .request path =>
      match s.reload.schedule path with
      | none => some (s, none)
      | some (reload, t) =>
          some
            ({ s with reload := reload },
              some (s.note t (.requested t.ticket.generation t.ticket.path) []))
  | .move number m =>
      match s.reload.task? number with
      | some t => s.move? c t m
      | none => none
  | .put n =>
      match s.store.put n with
      | (store, event) => some ({ s with store := store }, some (s.writeNote event))
  | .setContents identifier contents moment =>
      match s.store.setContents identifier contents moment with
      | .ok (store, event) => some ({ s with store := store }, some (s.writeNote event))
      | .error _ => some (s, none)

theorem step?_move
    {c : Setup}
    {s : Machine}
    {t : Task}
    (ht : t ∈ s.reload.tasks)
    (m : Move) :
    s.step? c (.move t.number m) = s.move? c t m := by
  simp [step?, State.task?_of_mem ht]

/-! ## What a step does -/

/-- How a task goes on that stays alive: its phase afterwards, and what is noted. -/
inductive Advance (c : Setup) (s : Machine) (t : Task) : Move → Phase → Option Deed → Prop
  | rest
      (hphase : t.phase = .fresh) :
      Advance c s t .rest (.waiting (s.now + c.quiet)) none
  | rouse
      {due : Nat}
      (hphase : t.phase = .waiting due)
      (hdue : due ≤ s.now)
      (hcurrent : s.reload.pending.isCurrent t.ticket = true) :
      Advance c s t .rouse .awake none
  | see
      (hphase : t.phase = .awake) :
      Advance c s t (.look true) .ready none
  | miss
      (hphase : t.phase = .awake) :
      Advance c s t (.look false) .leaving (some .gone)
  | start
      (hphase : t.phase = .ready) :
      Advance c s t .start .converting (some (.started t.ticket.path))

/-- How a task ends that stores nothing, and what is noted. -/
inductive Departure (s : Machine) (t : Task) : Move → Deed → Prop
  | superseded
      {due : Nat}
      (hphase : t.phase = .waiting due)
      (hcurrent : s.reload.pending.isCurrent t.ticket = false) :
      Departure s t .rouse .superseded
  | left
      (hphase : t.phase = .leaving) :
      Departure s t .leave (.left (s.reload.pending.isCurrent t.ticket))
  | stale
      (result : ConversionResult)
      (moment : Instant)
      (hphase : t.phase = .converting)
      (hcurrent : s.reload.pending.isCurrent t.ticket = false) :
      Departure s t (.finish result moment) .stale

def document (c : Setup) (t : Task) (result : ConversionResult) (moment : Instant) : Notebook :=
  (⟨t.ticket.identifier, result⟩ : Conversion).notebook c.author moment

/-- What a step of a task does. -/
inductive Turn (c : Setup) (s : Machine) (t : Task) : Move → Machine → Option Note → Prop
  | advance
      {m : Move}
      {phase : Phase}
      {deed : Option Deed}
      (h : Advance c s t m phase deed) :
      Turn c s t m { s with reload := s.reload.setPhase t phase }
        (deed.map fun d => s.note t d [])
  | depart
      {m : Move}
      {deed : Deed}
      (h : Departure s t m deed) :
      Turn c s t m { s with reload := (s.reload.settle t).1 } (some (s.note t deed []))
  | commit
      (result : ConversionResult)
      (moment : Instant)
      (hphase : t.phase = .converting)
      (hcurrent : s.reload.pending.isCurrent t.ticket = true) :
      Turn c s t (.finish result moment)
        ⟨s.now, (s.reload.settle t).1, (s.store.put (document c t result moment)).1⟩
        (some (s.note t .committed [(s.store.put (document c t result moment)).2]))

/-- Everything that can happen. -/
inductive Step (c : Setup) (s : Machine) : Action → Machine → Option Note → Prop
  | pass
      (span : Nat) :
      Step c s (.pass span) { s with now := s.now + span } none
  | nameless
      {path : Path}
      (hname : Path.name path = none) :
      Step c s (.request path) s none
  | request
      {path : Path}
      {identifier : String}
      (hname : Path.name path = some identifier) :
      Step c s (.request path) { s with reload := s.reload.enlist path identifier }
        (some (s.requestNote path identifier))
  | advance
      {t : Task}
      {m : Move}
      {phase : Phase}
      {deed : Option Deed}
      (ht : t ∈ s.reload.tasks)
      (h : Advance c s t m phase deed) :
      Step c s (.move t.number m) { s with reload := s.reload.setPhase t phase }
        (deed.map fun d => s.note t d [])
  | depart
      {t : Task}
      {m : Move}
      {deed : Deed}
      (ht : t ∈ s.reload.tasks)
      (h : Departure s t m deed) :
      Step c s (.move t.number m) { s with reload := (s.reload.settle t).1 }
        (some (s.note t deed []))
  | commit
      {t : Task}
      (result : ConversionResult)
      (moment : Instant)
      (ht : t ∈ s.reload.tasks)
      (hphase : t.phase = .converting)
      (hcurrent : s.reload.pending.isCurrent t.ticket = true) :
      Step c s (.move t.number (.finish result moment))
        ⟨s.now, (s.reload.settle t).1, (s.store.put (document c t result moment)).1⟩
        (some (s.note t .committed [(s.store.put (document c t result moment)).2]))
  | put
      (n : Notebook) :
      Step c s (.put n) { s with store := (s.store.put n).1 }
        (some (s.writeNote (s.store.put n).2))
  | setContents
      {identifier : String}
      {contents : Json.Value}
      {moment : Instant}
      {store : Store}
      {event : Store.Event}
      (h : s.store.setContents identifier contents moment = .ok (store, event)) :
      Step c s (.setContents identifier contents moment) { s with store := store }
        (some (s.writeNote event))
  | refused
      {identifier : String}
      {contents : Json.Value}
      {moment : Instant}
      {e : StoreError}
      (h : s.store.setContents identifier contents moment = .error e) :
      Step c s (.setContents identifier contents moment) s none

variable {c : Setup} {s s' : Machine} {t : Task} {note : Option Note}

/-- What a task can do is one of its turns. -/
theorem turn_of_move?
    {m : Move}
    (h : s.move? c t m = some (s', note)) :
    Turn c s t m s' note := by
  unfold move? at h
  split at h
  · next hphase =>
      cases h
      exact .advance (.rest hphase)
  · next due hphase =>
      split at h
      · next hdue =>
          cases hcurrent : s.reload.pending.isCurrent t.ticket
          · simp only [State.rouse, hcurrent, Bool.false_eq_true, if_false] at h
            cases h
            have hturn := Turn.depart (c := c) (s := s) (.superseded hphase hcurrent)
            rwa [State.settle_of_not_current hcurrent] at hturn
          · simp only [State.rouse, hcurrent, if_true] at h
            cases h
            exact .advance (.rouse hphase hdue hcurrent)
      · cases h
  · next isFile hphase =>
      cases h
      cases isFile
      · exact .advance (.miss hphase)
      · exact .advance (.see hphase)
  · next hphase =>
      have hturn := Turn.depart (c := c) (s := s) (.left hphase)
      cases hcurrent : s.reload.pending.isCurrent t.ticket
      · simp only [State.settle_of_not_current hcurrent, hcurrent] at h hturn
        cases h
        exact hturn
      · simp only [State.settle_of_current hcurrent, hcurrent] at h hturn
        cases h
        exact hturn
  · next hphase =>
      cases h
      exact .advance (.start hphase)
  · next result moment hphase =>
      cases hcurrent : s.reload.pending.isCurrent t.ticket
      · have hturn := Turn.depart (c := c) (s := s) (.stale result moment hphase hcurrent)
        simp only [complete, State.settle_of_not_current hcurrent, hcurrent] at h hturn
        cases h
        exact hturn
      · have hturn := Turn.commit (c := c) (s := s) result moment hphase hcurrent
        simp only [complete, State.settle_of_current hcurrent, hcurrent, if_true] at h hturn
        cases h
        simpa [Conversion.commit, document, Trace.append, Trace.ofLog] using hturn
  · cases h

/-- A quiet time has to be over before its task goes on. -/
theorem due_of_move?
    {m : Move}
    {due : Nat}
    (h : s.move? c t m = some (s', note))
    (hphase : t.phase = .waiting due) :
    due ≤ s.now := by
  cases m <;> simp only [move?, hphase] at h
  case rouse =>
    split at h
    · next hdue => exact hdue
    · cases h
  all_goals cases h

theorem move?_of_advance
    {m : Move}
    {phase : Phase}
    {deed : Option Deed}
    (h : Advance c s t m phase deed) :
    s.move? c t m
      = some ({ s with reload := s.reload.setPhase t phase }, deed.map fun d => s.note t d []) := by
  cases h with
  | rest hphase => simp [move?, hphase, State.rest]
  | rouse hphase hdue hcurrent => simp [move?, hphase, hdue, State.rouse, hcurrent]
  | see hphase => simp [move?, hphase, State.look]
  | miss hphase => simp [move?, hphase, State.look]
  | start hphase => simp [move?, hphase, State.start]

/-- A task departs by a move, once its quiet time is over. -/
theorem move?_of_departure
    {m : Move}
    {deed : Deed}
    (h : Departure s t m deed)
    (hdue : ∀ due, t.phase = .waiting due → due ≤ s.now) :
    s.move? c t m
      = some ({ s with reload := (s.reload.settle t).1 }, some (s.note t deed [])) := by
  cases h with
  | superseded hphase hcurrent =>
      simp [move?, hphase, hdue _ hphase, State.rouse, State.settle_of_not_current hcurrent,
        hcurrent]
  | left hphase =>
      cases hcurrent : s.reload.pending.isCurrent t.ticket with
      | false => simp [move?, hphase, State.settle_of_not_current hcurrent]
      | true => simp [move?, hphase, State.settle_of_current hcurrent]
  | stale result moment hphase hcurrent =>
      simp [move?, hphase, complete, State.settle_of_not_current hcurrent, hcurrent, Trace.ofLog]

theorem move?_of_commit
    (result : ConversionResult)
    (moment : Instant)
    (hphase : t.phase = .converting)
    (hcurrent : s.reload.pending.isCurrent t.ticket = true) :
    s.move? c t (.finish result moment)
      = some
        (⟨s.now, (s.reload.settle t).1, (s.store.put (document c t result moment)).1⟩,
          some (s.note t .committed [(s.store.put (document c t result moment)).2])) := by
  simp [move?, hphase, complete, State.settle_of_current hcurrent, hcurrent, Conversion.commit,
    document, Trace.append, Trace.ofLog]

theorem step_of_turn
    {m : Move}
    (ht : t ∈ s.reload.tasks)
    (h : Turn c s t m s' note) :
    Step c s (.move t.number m) s' note := by
  cases h with
  | advance hadvance => exact .advance ht hadvance
  | depart hdepart => exact .depart ht hdepart
  | commit result moment hphase hcurrent => exact .commit result moment ht hphase hcurrent

/-- A task that stays alive makes no request and takes none off. -/
theorem not_isRequest_of_advance
    {m : Move}
    {phase : Phase}
    {deed : Option Deed}
    (h : Advance c s t m phase deed) :
    ∀ n ∈ deed.map fun d => s.note t d [], n.deed.isRequest = false := by
  intro n hn
  cases h <;> cases hn <;> rfl

theorem not_isClear_of_advance
    {m : Move}
    {phase : Phase}
    {deed : Option Deed}
    (h : Advance c s t m phase deed) :
    ∀ n ∈ deed.map fun d => s.note t d [], n.deed.isClear = false := by
  intro n hn
  cases h <;> cases hn <;> rfl

theorem not_isRequest_of_departure
    {m : Move}
    {deed : Deed}
    (h : Departure s t m deed) :
    deed.isRequest = false := by
  cases h <;> rfl

/-- Whatever happens is one of the steps. -/
theorem step_of_step?
    {a : Action}
    (h : s.step? c a = some (s', note)) :
    Step c s a s' note := by
  cases a with
  | pass span =>
      cases h
      exact .pass span
  | request path =>
      simp only [step?, State.schedule] at h
      cases hname : Path.name path with
      | none =>
          simp only [hname] at h
          cases h
          exact .nameless hname
      | some identifier =>
          simp only [hname] at h
          cases h
          exact .request hname
  | move number m =>
      simp only [step?] at h
      cases htask : s.reload.task? number with
      | none => simp [htask] at h
      | some t =>
          simp only [htask] at h
          obtain ⟨ht, rfl⟩ := State.mem_of_task? htask
          exact step_of_turn ht (turn_of_move? h)
  | put n =>
      cases h
      exact .put n
  | setContents identifier contents moment =>
      simp only [step?] at h
      split at h
      · next hset =>
          cases h
          exact .setContents hset
      · next hset =>
          cases h
          exact .refused hset

/-- A task afterwards is one from before, maybe in another phase, or it answers a request. -/
theorem mem_of_step
    {a : Action}
    (h : Step c s a s' note) :
    ∀ u ∈ s'.reload.tasks,
      (∃ t ∈ s.reload.tasks, t.number = u.number ∧ t.ticket = u.ticket)
        ∨ ∃ path identifier, a = .request path ∧ Path.name path = some identifier
          ∧ u = s.reload.nextTask path identifier := by
  intro u hu
  cases h with
  | pass span => exact .inl ⟨u, hu, rfl, rfl⟩
  | nameless hname => exact .inl ⟨u, hu, rfl, rfl⟩
  | @request path identifier hname =>
      rcases State.mem_enlist.1 hu with hu | rfl
      · exact .inl ⟨u, hu, rfl, rfl⟩
      · exact .inr ⟨path, identifier, rfl, hname, rfl⟩
  | advance ht hadvance =>
      rcases (State.mem_setPhase ht).1 hu with rfl | ⟨hu, _⟩
      · exact .inl ⟨_, ht, rfl, rfl⟩
      · exact .inl ⟨u, hu, rfl, rfl⟩
  | depart ht hdepart => exact .inl ⟨u, (State.mem_settle.1 hu).1, rfl, rfl⟩
  | commit result moment ht hphase hcurrent =>
      exact .inl ⟨u, (State.mem_settle.1 hu).1, rfl, rfl⟩
  | put n => exact .inl ⟨u, hu, rfl, rfl⟩
  | setContents hset => exact .inl ⟨u, hu, rfl, rfl⟩
  | refused hset => exact .inl ⟨u, hu, rfl, rfl⟩

end Machine

/-! ## Runs -/

section Runs

variable {σ α : Type} (step? : σ → α → Option (σ × Option Note))

/-- The runs from a state, with the notes that are taken. -/
inductive Runs (start : σ) : σ → Journal → Prop
  | refl : Runs start start []
  | step
      {s s' : σ}
      {j : Journal}
      {a : α}
      {note : Option Note}
      (run : Runs start s j)
      (hstep : step? s a = some (s', note)) :
      Runs start s' (j ++ note.toList)

/-- Lets things happen one after another. -/
def run? : σ → List α → Option (σ × Journal)
  | s, [] => some (s, [])
  | s, a :: rest =>
      match step? s a with
      | none => none
      | some (s', note) => (run? s' rest).map fun (s'', j) => (s'', note.toList ++ j)

variable {step?}

theorem Runs.trans
    {start middle last : σ}
    {j k : Journal}
    (first : Runs step? start middle j)
    (second : Runs step? middle last k) :
    Runs step? start last (j ++ k) := by
  induction second with
  | refl => simpa using first
  | step _ hstep ih =>
      rw [← List.append_assoc]
      exact .step ih hstep

/-- A run up to a note, the step that is noted, and the run behind it. -/
theorem Runs.split
    {start last : σ}
    {before after : Journal}
    {n : Note}
    (h : Runs step? start last (before ++ n :: after)) :
    ∃ s s' a,
      Runs step? start s before ∧ step? s a = some (s', some n) ∧ Runs step? s' last after := by
  generalize hj : before ++ n :: after = j at h
  induction h generalizing after with
  | refl => simp at hj
  | @step middle last j a note hrun hstep ih =>
      cases note with
      | none =>
          obtain ⟨s, s', b, hbefore, hnote, hafter⟩ := ih (by simpa using hj)
          have hlast := Runs.step hafter hstep
          simp only [Option.toList_none, List.append_nil] at hlast
          exact ⟨s, s', b, hbefore, hnote, hlast⟩
      | some m =>
          rcases List.eq_nil_or_concat after with rfl | ⟨after, k, rfl⟩
          · obtain ⟨rfl, hm⟩ := List.append_inj' hj rfl
            cases hm
            exact ⟨middle, last, a, hrun, hstep, .refl⟩
          · have hsplit : (before ++ n :: after) ++ [k] = j ++ [m] := by simpa using hj
            obtain ⟨hrest, hk⟩ := List.append_inj' hsplit rfl
            cases hk
            obtain ⟨s, s', b, hbefore, hnote, hafter⟩ := ih hrest
            exact ⟨s, s', b, hbefore, hnote, by simpa using Runs.step hafter hstep⟩

/-- What is computed step by step is a run. -/
theorem runs_of_run?
    {start last : σ}
    {actions : List α}
    {j : Journal}
    (h : run? step? start actions = some (last, j)) :
    Runs step? start last j := by
  induction actions generalizing start j with
  | nil =>
      cases h
      exact .refl
  | cons a rest ih =>
      simp only [run?] at h
      split at h
      · cases h
      · next s' note hstep =>
          obtain ⟨⟨s'', k⟩, hrest, he⟩ := Option.map_eq_some_iff.1 h
          cases he
          have hfirst : Runs step? start s' ([] ++ note.toList) := .step .refl hstep
          exact hfirst.trans (ih hrest)

theorem exists_runs_of_run?
    {β : Type}
    {start : σ}
    {actions : List α}
    {j : Journal}
    {b : β}
    (view : σ → β)
    (h : (run? step? start actions).map (fun r => (view r.1, r.2)) = some (b, j)) :
    ∃ last, Runs step? start last j ∧ view last = b := by
  obtain ⟨⟨last, k⟩, hrun, he⟩ := Option.map_eq_some_iff.1 h
  cases he
  exact ⟨last, runs_of_run? hrun, rfl⟩

end Runs

end Reload
end LiveNotebooks
