import LiveNotebooks.Proofs.Reload.Editing
import LiveNotebooks.Proofs.Store.Calls
import Mathlib.Data.List.Basic

/-!
# Documents by themselves

All documents share the pending requests, the tasks, the clock and the store.  Still each
is served as if it were alone: without what happens to the others, the same happens to it.

**Construction.**  `isolate` goes through a transcript and leaves out what is about other
documents.  Tasks are numbered in the order of all requests, so the tasks that are left get
the numbers that they have among themselves.

**Invariant.**  `Alike` compares the service with one that has only heard of the document.

**Results.**
* `Alike.step_elsewhere`: what is about other documents changes nothing.
* `Alike.step_here`: what is left can happen in both, and is noted in the same way.
* `Alike.replays`: a run without the other documents is a run.
-/

namespace LiveNotebooks
namespace Reload

/-- What has happened, and what was noted of it. -/
abbrev Transcript := List (Action × Option Note)

/-- The service gets from one state to another by what stands in a transcript. -/
inductive Replays (c : Setup) : Machine → Transcript → Machine → Prop
  | nil
      {s : Machine} :
      Replays c s [] s
  | cons
      {s s' last : Machine}
      {a : Action}
      {note : Option Note}
      {t : Transcript}
      (hstep : s.step? c a = some (s', note))
      (rest : Replays c s' t last) :
      Replays c s ((a, note) :: t) last

/-- Lets things happen, and writes a transcript. -/
def transcribe? (c : Setup) : Machine → List Action → Option (Machine × Transcript)
  | s, [] => some (s, [])
  | s, a :: rest =>
      match s.step? c a with
      | none => none
      | some (s', note) =>
          (transcribe? c s' rest).map fun (last, t) => (last, (a, note) :: t)

/-- What is transcribed can be replayed. -/
theorem replays_of_transcribe?
    {c : Setup}
    {s last : Machine}
    {actions : List Action}
    {t : Transcript}
    (h : transcribe? c s actions = some (last, t)) :
    Replays c s t last := by
  induction actions generalizing s t with
  | nil =>
      cases h
      exact .nil
  | cons a rest ih =>
      simp only [transcribe?] at h
      split at h
      · cases h
      · next s' note hstep =>
          obtain ⟨⟨_, _⟩, hrest, he⟩ := Option.map_eq_some_iff.1 h
          cases he
          exact .cons hstep (ih hrest)

/-! ## Leaving out the other documents -/

/-- Is it about another document?  `mine` are the tasks of the document. -/
def Action.isElsewhere (identifier : String) (mine : List Nat) : Action → Bool
  | .pass _ => false
  | .request path =>
      match Path.name path with
      | some about => about ≠ identifier
      | none => false
  | .move number _ => !mine.contains number
  | .put n => n.identifier ≠ identifier
  | .setContents about _ _ => about ≠ identifier

/-- The step of a task under the number that it has among `mine`. -/
def Action.renumber (mine : List Nat) : Action → Action
  | .move number m => .move (mine.idxOf number) m
  | a => a

/-- The note with the number that the task has among `mine`. -/
def Note.renumber (mine : List Nat) (n : Note) : Note := { n with task := n.task.map mine.idxOf }

/-- The task with the number that it has among `mine`. -/
def Task.renumber (mine : List Nat) (t : Task) : Task := { t with number := mine.idxOf t.number }

/-- The tasks of the document when something was noted that is not about others. -/
def enrolled (mine : List Nat) (note : Option Note) : List Nat :=
  mine ++ (note.bind Note.requested?).toList

/-- What is left of a transcript without the other documents. -/
def isolate (identifier : String) : List Nat → Transcript → Transcript
  | _, [] => []
  | mine, (a, note) :: rest =>
      if a.isElsewhere identifier mine then isolate identifier mine rest
      else
        (a.renumber mine, note.map (Note.renumber (enrolled mine note)))
          :: isolate identifier (enrolled mine note) rest

/-! ## The service and one that has only heard of the document -/

/-- The service, and one in which nothing but the document has been asked for. -/
structure Alike (identifier : String) (mine : List Nat) (s alone : Machine) : Prop where
  now : alone.now = s.now
  pending : alone.reload.pending.generation? identifier = s.reload.pending.generation? identifier
  tasks : ∀ u, u ∈ alone.reload.tasks
    ↔ ∃ t ∈ s.reload.tasks, t.ticket.identifier = identifier ∧ u = t.renumber mine
  count : alone.reload.count = mine.length
  listed : ∀ t ∈ s.reload.tasks, t.number ∈ mine ↔ t.ticket.identifier = identifier
  bounded : ∀ number ∈ mine, number < s.reload.count
  store : alone.store.find? identifier = s.store.find? identifier

section

variable {c : Setup} {identifier : String} {mine : List Nat} {s s' alone : Machine}
  {a : Action} {note : Option Note} {t : Task}

theorem alike_opened
    (identifier : String)
    (now : Nat)
    (store : Store) :
    Alike identifier [] (Machine.opened now store) (Machine.opened now store) where
  now := rfl
  pending := rfl
  tasks := by simp [Machine.opened, State.initial]
  count := rfl
  listed := by simp [Machine.opened, State.initial]
  bounded := by simp
  store := rfl

theorem now_of_step
    (h : Machine.Step c s a s' note)
    (hpass : ∀ span, a ≠ .pass span) :
    s'.now = s.now := by
  cases h with
  | pass span => exact absurd rfl (hpass span)
  | _ => rfl

/-! ## What is about other documents -/

/-- What is elsewhere does not concern the document. -/
theorem Alike.not_concerns
    (h : Alike identifier mine s alone)
    (helse : a.isElsewhere identifier mine = true) :
    a.concerns identifier s = false := by
  cases a with
  | pass span => rfl
  | request path =>
      simp only [Action.isElsewhere, Action.concerns] at helse ⊢
      cases hname : Path.name path with
      | none => rfl
      | some about => simpa [hname] using helse
  | move number m =>
      simp only [Action.concerns]
      cases htask : s.reload.task? number with
      | none => rfl
      | some t =>
          obtain ⟨ht, rfl⟩ := State.mem_of_task? htask
          have hnot : t.number ∉ mine := by simpa [Action.isElsewhere] using helse
          have hid : t.ticket.identifier ≠ identifier := fun hid => hnot ((h.listed t ht).2 hid)
          simpa using hid
  | put n => simpa [Action.isElsewhere, Action.concerns] using helse
  | setContents about contents moment =>
      simpa [Action.isElsewhere, Action.concerns] using helse

/-- What is about other documents changes nothing for one that has not heard of them. -/
theorem Alike.step_elsewhere
    (h : Alike identifier mine s alone)
    (hstep : s.step? c a = some (s', note))
    (helse : a.isElsewhere identifier mine = true) :
    Alike identifier mine s' alone := by
  have hstep' := Machine.step_of_step? hstep
  obtain ⟨hframe, hnotes⟩ := elsewhere_of_not_concerns hstep' (h.not_concerns helse)
  have hnow : s'.now = s.now := by
    refine now_of_step hstep' ?_
    rintro span rfl
    cases helse
  refine ⟨?_, ?_, ?_, h.count, ?_, ?_, ?_⟩
  · rw [h.now, hnow]
  · rw [h.pending, hframe.pending]
  · intro u
    rw [h.tasks]
    constructor
    · rintro ⟨t, ht, hid, rfl⟩
      exact ⟨t, (hframe.tasks t hid).2 ht, hid, rfl⟩
    · rintro ⟨t, ht, hid, rfl⟩
      exact ⟨t, (hframe.tasks t hid).1 ht, hid, rfl⟩
  · intro u hu
    by_cases hid : u.ticket.identifier = identifier
    · exact h.listed u ((hframe.tasks u hid).1 hu)
    · have hnot : u.number ∉ mine := by
        rcases Machine.mem_of_step hstep' u hu with
          ⟨t, ht, hnumber, hticket⟩ | ⟨path, about, _, _, rfl⟩
        · rw [← hnumber, h.listed t ht, hticket]
          exact hid
        · intro hmem
          exact Nat.lt_irrefl _ (h.bounded _ hmem)
      simp [hnot, hid]
  · intro number hnumber
    exact Nat.lt_of_lt_of_le (h.bounded number hnumber) hframe.count
  · rw [h.store, hframe.store hnotes]

/-! ## The tasks of the document -/

theorem Alike.mem
    (h : Alike identifier mine s alone)
    (ht : t ∈ s.reload.tasks)
    (hid : t.ticket.identifier = identifier) :
    t.renumber mine ∈ alone.reload.tasks :=
  (h.tasks _).2 ⟨t, ht, hid, rfl⟩

/-- Tasks of the document have one number among themselves just when they have one. -/
theorem Alike.number_renumber_eq_iff
    {u : Task}
    (h : Alike identifier mine s alone)
    (hu : u ∈ s.reload.tasks)
    (huid : u.ticket.identifier = identifier) :
    (u.renumber mine).number = (t.renumber mine).number ↔ u.number = t.number :=
  List.idxOf_inj ((h.listed u hu).2 huid)

theorem Alike.isCurrent_eq
    (h : Alike identifier mine s alone)
    (hid : t.ticket.identifier = identifier) :
    alone.reload.pending.isCurrent t.ticket = s.reload.pending.isCurrent t.ticket := by
  simp only [Pending.isCurrent, hid, h.pending]

/-- A task of the document comes into the same phase in both. -/
theorem Alike.setPhase
    (h : Alike identifier mine s alone)
    (ht : t ∈ s.reload.tasks)
    (hid : t.ticket.identifier = identifier)
    (phase : Phase) :
    Alike identifier mine { s with reload := s.reload.setPhase t phase }
      { alone with reload := alone.reload.setPhase (t.renumber mine) phase } where
  now := h.now
  pending := h.pending
  tasks := by
    intro u
    rw [State.mem_setPhase (h.mem ht hid), h.tasks]
    constructor
    · rintro (rfl | ⟨⟨v, hv, hvid, rfl⟩, hne⟩)
      · exact ⟨_, (State.mem_setPhase ht).2 (.inl rfl), hid, rfl⟩
      · rw [Ne, h.number_renumber_eq_iff hv hvid] at hne
        exact ⟨v, (State.mem_setPhase ht).2 (.inr ⟨hv, hne⟩), hvid, rfl⟩
    · rintro ⟨v, hv, hvid, rfl⟩
      rcases (State.mem_setPhase ht).1 hv with rfl | ⟨hv, hne⟩
      · exact .inl rfl
      · exact .inr ⟨⟨v, hv, hvid, rfl⟩, mt (h.number_renumber_eq_iff hv hvid).1 hne⟩
  count := h.count
  listed := by
    intro u hu
    rcases (State.mem_setPhase ht).1 hu with rfl | ⟨hu, _⟩
    · exact h.listed t ht
    · exact h.listed u hu
  bounded := h.bounded
  store := h.store

/-- A task of the document ends, and both store the same document if any. -/
theorem Alike.settle
    {store store' : Store}
    (h : Alike identifier mine s alone)
    (hid : t.ticket.identifier = identifier)
    (hstore : store'.find? identifier = store.find? identifier) :
    Alike identifier mine ⟨s.now, (s.reload.settle t).1, store⟩
      ⟨alone.now, (alone.reload.settle (t.renumber mine)).1, store'⟩ where
  now := h.now
  pending := by
    have heq := h.isCurrent_eq hid
    subst hid
    cases hcurrent : s.reload.pending.isCurrent t.ticket with
    | false =>
        rw [hcurrent] at heq
        rw [State.generation?_settle_of_not_current hcurrent,
          State.generation?_settle_of_not_current (t := t.renumber mine) heq, h.pending]
    | true =>
        rw [hcurrent] at heq
        rw [State.generation?_settle_self hcurrent]
        exact State.generation?_settle_self (t := t.renumber mine) heq
  tasks := by
    intro u
    rw [State.mem_settle, h.tasks]
    constructor
    · rintro ⟨⟨v, hv, hvid, rfl⟩, hne⟩
      rw [Ne, h.number_renumber_eq_iff hv hvid] at hne
      exact ⟨v, State.mem_settle.2 ⟨hv, hne⟩, hvid, rfl⟩
    · rintro ⟨v, hv, hvid, rfl⟩
      obtain ⟨hv, hne⟩ := State.mem_settle.1 hv
      exact ⟨⟨v, hv, hvid, rfl⟩, mt (h.number_renumber_eq_iff hv hvid).1 hne⟩
  count := by
    simp only [State.count_settle]
    exact h.count
  listed := by
    intro u hu
    exact h.listed u (State.mem_settle.1 hu).1
  bounded := by
    intro number hnumber
    simp only [State.count_settle]
    exact h.bounded number hnumber
  store := hstore

/-- What is noted of a task of the document differs only in the number. -/
theorem Alike.note_eq
    (h : Alike identifier mine s alone)
    (t : Task)
    (deed : Deed)
    (events : List Store.Event) :
    alone.note (t.renumber mine) deed events = (s.note t deed events).renumber mine := by
  simp [Machine.note, Note.renumber, Task.renumber, h.now]

/-- A task of the document goes on alike in both. -/
theorem Alike.advance
    {m : Move}
    {phase : Phase}
    {deed : Option Deed}
    (h : Alike identifier mine s alone)
    (hid : t.ticket.identifier = identifier)
    (hadvance : Machine.Advance c s t m phase deed) :
    Machine.Advance c alone (t.renumber mine) m phase deed := by
  cases hadvance with
  | rest hphase =>
      rw [← h.now]
      exact .rest hphase
  | rouse hphase hdue hcurrent =>
      rw [← h.isCurrent_eq hid] at hcurrent
      rw [← h.now] at hdue
      exact .rouse hphase hdue hcurrent
  | see hphase => exact .see hphase
  | miss hphase => exact .miss hphase
  | start hphase => exact .start hphase

/-- A task of the document ends alike in both. -/
theorem Alike.departure
    {m : Move}
    {deed : Deed}
    (h : Alike identifier mine s alone)
    (hid : t.ticket.identifier = identifier)
    (hdepart : Machine.Departure s t m deed) :
    Machine.Departure alone (t.renumber mine) m deed := by
  have heq := h.isCurrent_eq hid
  cases hdepart with
  | superseded hphase hcurrent => exact .superseded hphase (heq.trans hcurrent)
  | left hphase =>
      rw [← heq]
      exact .left hphase
  | stale result moment hphase hcurrent =>
      exact .stale result moment hphase (heq.trans hcurrent)

theorem Alike.contains_eq
    (h : Alike identifier mine s alone) :
    alone.store.contains identifier = s.store.contains identifier := by
  rw [← Store.find?_isSome, ← Store.find?_isSome, h.store]

/-- Both tell the same of a document that is stored. -/
theorem Alike.put_eq
    {n : Notebook}
    (h : Alike identifier mine s alone)
    (hid : n.identifier = identifier) :
    (alone.store.put n).2 = (s.store.put n).2
      ∧ (alone.store.put n).1.find? identifier = (s.store.put n).1.find? identifier := by
  constructor
  · simp [Store.put, hid, h.contains_eq]
  · rw [Store.find?_put, Store.find?_put, h.store]

/-- A step of a task of the document can be taken in both. -/
theorem Alike.move
    {m : Move}
    (h : Alike identifier mine s alone)
    (ht : t ∈ s.reload.tasks)
    (hid : t.ticket.identifier = identifier)
    (hmove : s.move? c t m = some (s', note)) :
    ∃ alone', alone.move? c (t.renumber mine) m = some (alone', note.map (Note.renumber mine))
      ∧ Alike identifier mine s' alone' := by
  cases Machine.turn_of_move? hmove with
  | @advance m phase deed hadvance =>
      refine ⟨_, ?_, h.setPhase ht hid phase⟩
      rw [Machine.move?_of_advance (h.advance hid hadvance)]
      cases deed with
      | none => rfl
      | some deed => simp [h.note_eq]
  | depart hdepart =>
      have hdue : ∀ due, (t.renumber mine).phase = .waiting due → due ≤ alone.now := by
        intro due hphase
        rw [h.now]
        exact Machine.due_of_move? hmove hphase
      refine ⟨_, ?_, h.settle hid h.store⟩
      rw [Machine.move?_of_departure (h.departure hid hdepart) hdue, h.note_eq]
      rfl
  | commit result moment hphase hcurrent =>
      have hcurrent' := (h.isCurrent_eq hid).trans hcurrent
      obtain ⟨hevent, hfind⟩ := h.put_eq (n := Machine.document c t result moment) hid
      refine ⟨_, ?_, h.settle hid hfind⟩
      rw [Machine.move?_of_commit (t := t.renumber mine) result moment hphase hcurrent', h.note_eq]
      have hdocument : Machine.document c (t.renumber mine) result moment
          = Machine.document c t result moment := rfl
      rw [hdocument, hevent]
      rfl

/-! ## What is about the document -/

theorem Alike.nextGeneration_eq
    (h : Alike identifier mine s alone) :
    alone.reload.nextGeneration identifier = s.reload.nextGeneration identifier := by
  rw [State.nextGeneration, State.nextGeneration, h.pending]

/-- The task that answers the next request is the next one of the document. -/
theorem Alike.nextTask_eq
    (h : Alike identifier mine s alone)
    (path : Path) :
    alone.reload.nextTask path identifier
      = (s.reload.nextTask path identifier).renumber (mine ++ [s.reload.count]) := by
  have hnew : s.reload.count ∉ mine := by
    intro hmem
    exact Nat.lt_irrefl _ (h.bounded _ hmem)
  simp [Task.renumber, State.nextTask, h.nextGeneration_eq, h.count,
    List.idxOf_append_of_notMem hnew]

/-- Both answer a request for the document with their next task.  The new task is the last one
of the document, so the others keep their numbers. -/
theorem Alike.enlist
    (h : Alike identifier mine s alone)
    (path : Path) :
    Alike identifier (mine ++ [s.reload.count])
      { s with reload := s.reload.enlist path identifier }
      { alone with reload := alone.reload.enlist path identifier } := by
  have hgeneration := h.nextGeneration_eq
  have htask := h.nextTask_eq path
  have hkept : ∀ t ∈ s.reload.tasks, t.ticket.identifier = identifier →
      t.renumber (mine ++ [s.reload.count]) = t.renumber mine := by
    intro t ht hid
    rw [Task.renumber, List.idxOf_append_of_mem ((h.listed t ht).2 hid)]
    rfl
  refine ⟨h.now, ?_, ?_, ?_, ?_, ?_, h.store⟩
  · rw [State.generation?_enlist_self, State.generation?_enlist_self, hgeneration]
  · intro u
    rw [State.mem_enlist, h.tasks]
    constructor
    · rintro (⟨t, ht, hid, rfl⟩ | rfl)
      · exact ⟨t, State.mem_enlist.2 (.inl ht), hid, (hkept t ht hid).symm⟩
      · exact ⟨_, State.mem_enlist.2 (.inr rfl), rfl, htask⟩
    · rintro ⟨t, ht, hid, rfl⟩
      rcases State.mem_enlist.1 ht with ht | rfl
      · exact .inl ⟨t, ht, hid, hkept t ht hid⟩
      · exact .inr htask.symm
  · simp [State.enlist, h.count]
  · intro t ht
    rcases State.mem_enlist.1 ht with ht | rfl
    · have hlt : t.number ≠ s.reload.count := Nat.ne_of_lt (s.reload.bounded t ht)
      simpa [hlt] using h.listed t ht
    · simp [State.nextTask]
  · intro number hnumber
    rcases List.mem_append.1 hnumber with hnumber | hnumber
    · exact Nat.lt_succ_of_lt (h.bounded number hnumber)
    · obtain rfl := List.mem_singleton.1 hnumber
      exact Nat.lt_succ_self s.reload.count

theorem enrolled_of_not_isRequest
    (h : ∀ n ∈ note, n.deed.isRequest = false)
    (mine : List Nat) :
    enrolled mine note = mine := by
  cases note with
  | none => simp [enrolled]
  | some n => simp [enrolled, Note.requested?, h n rfl]

/-- A task that goes on makes no request. -/
theorem not_isRequest_of_turn
    {m : Move}
    (h : Machine.Turn c s t m s' note) :
    ∀ n ∈ note, n.deed.isRequest = false := by
  cases h with
  | advance hadvance => exact Machine.not_isRequest_of_advance hadvance
  | depart hdepart =>
      rintro n ⟨⟩
      exact Machine.not_isRequest_of_departure hdepart
  | commit result moment hphase hcurrent =>
      rintro n ⟨⟩
      rfl

theorem Alike.withStore
    {store store' : Store}
    (h : Alike identifier mine s alone)
    (hfind : store'.find? identifier = store.find? identifier) :
    Alike identifier mine { s with store := store } { alone with store := store' } :=
  ⟨h.now, h.pending, h.tasks, h.count, h.listed, h.bounded, hfind⟩

theorem step?_request
    {path : Path}
    (hname : Path.name path = some identifier) :
    s.step? c (.request path)
      = some
        ({ s with reload := s.reload.enlist path identifier },
          some (s.requestNote path identifier)) := by
  simp only [Machine.step?, State.schedule, hname]
  rfl

/-- What is not about other documents can happen in both, and is noted in the same way. -/
theorem Alike.step_here
    (h : Alike identifier mine s alone)
    (hstep : s.step? c a = some (s', note))
    (hhere : a.isElsewhere identifier mine = false) :
    ∃ alone',
      alone.step? c (a.renumber mine)
          = some (alone', note.map (Note.renumber (enrolled mine note)))
        ∧ Alike identifier (enrolled mine note) s' alone' := by
  have hnow := h.now
  cases a with
  | pass span =>
      cases hstep
      refine ⟨{ alone with now := alone.now + span }, rfl, ?_⟩
      rw [enrolled_of_not_isRequest (by simp)]
      exact ⟨by rw [hnow], h.pending, h.tasks, h.count, h.listed, h.bounded, h.store⟩
  | request path =>
      cases Machine.step_of_step? hstep with
      | nameless hname =>
          rw [enrolled_of_not_isRequest (by simp)]
          refine ⟨alone, ?_, h⟩
          simp [Action.renumber, Machine.step?, State.schedule, hname]
      | @request _ about hname =>
          obtain rfl : about = identifier := by simpa [Action.isElsewhere, hname] using hhere
          have henrolled : enrolled mine (some (s.requestNote path about))
              = mine ++ [s.reload.count] := rfl
          have hnote : alone.requestNote path about
              = (s.requestNote path about).renumber (mine ++ [s.reload.count]) := by
            rw [Machine.requestNote, h.nextTask_eq, h.nextGeneration_eq]
            simp [Machine.requestNote, Machine.note, Note.renumber, Task.renumber, hnow]
          rw [henrolled]
          refine ⟨_, ?_, h.enlist path⟩
          exact (step?_request hname).trans (by rw [hnote]; rfl)
  | move number m =>
      have hmem : number ∈ mine := by simpa [Action.isElsewhere] using hhere
      simp only [Machine.step?] at hstep
      cases htask : s.reload.task? number with
      | none => simp [htask] at hstep
      | some t =>
          obtain ⟨ht, rfl⟩ := State.mem_of_task? htask
          have hid := (h.listed t ht).1 hmem
          simp only [htask] at hstep
          obtain ⟨alone', hmove, halike⟩ := h.move ht hid hstep
          rw [enrolled_of_not_isRequest (not_isRequest_of_turn (Machine.turn_of_move? hstep))]
          refine ⟨alone', ?_, halike⟩
          exact (Machine.step?_move (h.mem ht hid) m).trans hmove
  | put n =>
      have hid : n.identifier = identifier := by simpa [Action.isElsewhere] using hhere
      obtain ⟨hevent, hfind⟩ := h.put_eq hid
      cases Machine.step_of_step? hstep
      rw [enrolled_of_not_isRequest (by rintro n ⟨⟩; rfl)]
      refine ⟨_, ?_, h.withStore hfind⟩
      simp only [Action.renumber, Machine.step?, hevent]
      simp [Machine.writeNote, Note.renumber, hnow]
  | setContents about contents moment =>
      obtain rfl : about = identifier := by simpa [Action.isElsewhere] using hhere
      have hcontains := h.contains_eq
      cases hthere : s.store.contains about with
      | false =>
          rw [hthere] at hcontains
          simp only [Machine.step?, Store.setContents_of_not_contains hthere] at hstep
          cases hstep
          rw [enrolled_of_not_isRequest (by simp)]
          refine ⟨alone, ?_, h⟩
          simp [Action.renumber, Machine.step?, Store.setContents_of_not_contains hcontains]
      | true =>
          rw [hthere] at hcontains
          simp only [Machine.step?, Store.setContents_of_contains hthere] at hstep
          cases hstep
          have hfind : ∀ w : Store.Write,
              (w.apply alone.store).find? about = (w.apply s.store).find? about := by
            intro w
            rw [Store.find?_apply, Store.find?_apply, h.store]
          rw [enrolled_of_not_isRequest (by rintro n ⟨⟩; rfl)]
          refine ⟨_, ?_, h.withStore (hfind _)⟩
          simp only [Action.renumber, Machine.step?, Store.setContents_of_contains hcontains]
          simp [Machine.writeNote, Note.renumber, hnow]

/-! ## Runs -/

/-- What becomes of a step, whatever the number of its task. -/
def Note.outcome (n : Note) : Nat × Deed × List Store.Event := (n.time, n.deed, n.events)

/-- What becomes of the steps in a transcript. -/
def Transcript.outcomes (transcript : Transcript) : List (Nat × Deed × List Store.Event) :=
  (transcript.filterMap Prod.snd).map Note.outcome

/-- What becomes of the steps that are noted on a document. -/
def Transcript.outcomesOf (identifier : String) (transcript : Transcript) :
    List (Nat × Deed × List Store.Event) :=
  ((transcript.filterMap Prod.snd).filter fun n => n.identifier = identifier).map Note.outcome

theorem outcomes_cons
    (a : Action)
    (note : Option Note)
    (t : Transcript) :
    Transcript.outcomes ((a, note) :: t) = (note.map Note.outcome).toList ++ t.outcomes := by
  cases note <;> simp [Transcript.outcomes]

theorem outcomesOf_cons_of_eq
    (h : ∀ n ∈ note, n.identifier = identifier)
    (a : Action)
    (t : Transcript) :
    Transcript.outcomesOf identifier ((a, note) :: t)
      = (note.map Note.outcome).toList ++ t.outcomesOf identifier := by
  cases note with
  | none => simp [Transcript.outcomesOf]
  | some n => simp [Transcript.outcomesOf, h n rfl]

theorem outcomesOf_cons_of_ne
    (h : ∀ n ∈ note, n.identifier ≠ identifier)
    (a : Action)
    (t : Transcript) :
    Transcript.outcomesOf identifier ((a, note) :: t) = t.outcomesOf identifier := by
  cases note with
  | none => simp [Transcript.outcomesOf]
  | some n => simp [Transcript.outcomesOf, h n rfl]

/-- What is not elsewhere is noted on the document. -/
theorem Alike.identifier_of_here
    (h : Alike identifier mine s alone)
    (hstep : Machine.Step c s a s' note)
    (hhere : a.isElsewhere identifier mine = false) :
    ∀ n ∈ note, n.identifier = identifier := by
  have hmine : ∀ t ∈ s.reload.tasks, ∀ m,
      (Action.move t.number m).isElsewhere identifier mine = false →
        t.ticket.identifier = identifier := by
    intro t ht m hmove
    exact (h.listed t ht).1 (by simpa [Action.isElsewhere] using hmove)
  intro n hn
  cases hstep with
  | pass span => cases hn
  | nameless hname => cases hn
  | @request path about hname =>
      cases hn
      have hid : about = identifier := by simpa [Action.isElsewhere, hname] using hhere
      exact hid
  | advance ht hadvance =>
      obtain ⟨deed, _, rfl⟩ := Option.map_eq_some_iff.1 hn
      exact hmine _ ht _ hhere
  | depart ht hdepart =>
      cases hn
      exact hmine _ ht _ hhere
  | commit result moment ht hphase hcurrent =>
      cases hn
      exact hmine _ ht _ hhere
  | put notebook =>
      cases hn
      have hid : notebook.identifier = identifier := by simpa [Action.isElsewhere] using hhere
      exact hid
  | setContents hset =>
      cases hn
      rw [Machine.writeNote, Store.identifier_setContents hset]
      simpa [Action.isElsewhere] using hhere
  | refused hset => cases hn

/-- What is left of a run without the other documents is a run. -/
theorem Alike.replays
    {last : Machine}
    {transcript : Transcript}
    (halike : Alike identifier mine s alone)
    (h : Replays c s transcript last) :
    ∃ alone' mine',
      Replays c alone (isolate identifier mine transcript) alone'
        ∧ Alike identifier mine' last alone'
        ∧ (isolate identifier mine transcript).outcomes = transcript.outcomesOf identifier := by
  induction h generalizing mine alone with
  | nil => exact ⟨alone, mine, .nil, halike, rfl⟩
  | @cons s s' last a note transcript hstep rest ih =>
      have hstep' := Machine.step_of_step? hstep
      cases helse : a.isElsewhere identifier mine with
      | true =>
          obtain ⟨alone', mine', hreplays, hlast, houtcomes⟩ :=
            ih (halike.step_elsewhere hstep helse)
          have hleft : isolate identifier mine ((a, note) :: transcript)
              = isolate identifier mine transcript := by simp [isolate, helse]
          have hnotes := (elsewhere_of_not_concerns hstep' (halike.not_concerns helse)).2
          rw [hleft]
          exact ⟨alone', mine', hreplays, hlast,
            houtcomes.trans (outcomesOf_cons_of_ne hnotes a transcript).symm⟩
      | false =>
          obtain ⟨next, hnext, halike'⟩ := halike.step_here hstep helse
          obtain ⟨alone', mine', hreplays, hlast, houtcomes⟩ := ih halike'
          have hleft : isolate identifier mine ((a, note) :: transcript)
              = (a.renumber mine, note.map (Note.renumber (enrolled mine note)))
                :: isolate identifier (enrolled mine note) transcript := by simp [isolate, helse]
          have hnotes := halike.identifier_of_here hstep' helse
          rw [hleft, outcomes_cons, houtcomes, outcomesOf_cons_of_eq hnotes, Option.map_map]
          exact ⟨alone', mine', .cons hnext hreplays, hlast, rfl⟩

/-- **A document is served as if it were alone.**  Without everything that is about other
documents, a run is a run again.  What is left comes to the same: each request is answered
with the same generation, each task goes on, is superseded, finds no file, is stale or
commits as before, and each write of a client is told in the same way.  In the end the same
is stored of the document, and the same is pending for it. -/
theorem replays_without_others
    {now : Nat}
    {store : Store}
    {transcript : Transcript}
    (h : Replays c (Machine.opened now store) transcript s)
    (identifier : String) :
    ∃ alone,
      Replays c (Machine.opened now store) (isolate identifier [] transcript) alone
        ∧ (isolate identifier [] transcript).outcomes = transcript.outcomesOf identifier
        ∧ alone.now = s.now
        ∧ alone.store.find? identifier = s.store.find? identifier
        ∧ alone.reload.pending.generation? identifier
          = s.reload.pending.generation? identifier := by
  obtain ⟨alone, mine, hreplays, halike, houtcomes⟩ :=
    (alike_opened identifier now store).replays h
  exact ⟨alone, hreplays, houtcomes, halike.now, halike.store, halike.pending⟩

end

/-- Reloads of two documents mingled with each other and with writes of clients. -/
def mingled : List Action :=
  [.request [0x62], .request [0x61], .move 0 .rest, .move 1 .rest,
    .put ⟨"b", "b", "zoe", .null, ⟨1, 0⟩⟩, .pass 50, .request [0x61], .move 2 .rest, .pass 50,
    .move 0 .rouse, .move 1 .rouse, .move 0 (.look false), .pass 50, .move 2 .rouse,
    .move 0 .leave, .move 2 (.look true), .move 2 .start, .setContents "b" .null ⟨2, 0⟩,
    .move 2 (.finish (.ok .null) ⟨3, 0⟩)]

/-- What is left of the notes on the second of them. -/
def unmingledNotes : Journal :=
  [⟨0, "a", some 0, .requested 1 [0x61], []⟩, ⟨50, "a", some 1, .requested 2 [0x61], []⟩,
    ⟨100, "a", some 0, .superseded, []⟩, ⟨150, "a", some 1, .started [0x61], []⟩,
    ⟨150, "a", some 1, .committed, [⟨.created, "a"⟩]⟩]

theorem replays_without_others_mingled :
    ∃ s t alone,
      Replays ⟨"ann", 100⟩ (Machine.opened 0 .empty) t s
        ∧ t.map Prod.fst = mingled
        ∧ (isolate "a" [] t).filterMap Prod.snd = unmingledNotes
        ∧ Replays ⟨"ann", 100⟩ (Machine.opened 0 .empty) (isolate "a" [] t) alone
        ∧ (isolate "a" [] t).outcomes = t.outcomesOf "a"
        ∧ alone.now = s.now
        ∧ alone.store.find? "a" = s.store.find? "a"
        ∧ alone.reload.pending.generation? "a" = s.reload.pending.generation? "a" := by
  obtain ⟨s, t, hrun, hactions, hnotes⟩ : ∃ s t,
      transcribe? ⟨"ann", 100⟩ (Machine.opened 0 .empty) mingled = some (s, t)
        ∧ t.map Prod.fst = mingled ∧ (isolate "a" [] t).filterMap Prod.snd = unmingledNotes :=
    ⟨_, _, rfl, rfl, by decide⟩
  have hreplays := replays_of_transcribe? hrun
  obtain ⟨alone, halone⟩ := replays_without_others hreplays "a"
  exact ⟨s, t, alone, hreplays, hactions, hnotes, halone⟩

end Reload
end LiveNotebooks
