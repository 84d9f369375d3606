import LiveNotebooks.Proofs.Reload.Document

/-!
# Bursts of requests

A burst is a row of requests for one document, each before the quiet time of the one before
is over.  Until the last quiet time is over all tasks of the document wait, and then only
the newest of them goes on.

**Invariant.**  `Burst` says how far the newest task has come, and that the others wait
with older generations.  It starts with a request for a document without live tasks, and
every step keeps it but a file that is gone or a request that comes too late.

**Results.**
* `Burst.elsewhere`: what happens to other documents is nothing to a burst.
* `Burst.advance_other`, `Burst.depart_other`: an older task rests, and ends as superseded.
* `Burst.advance_newest`, `Burst.commit`: the newest task goes on to its commit.
* `Burst.next`: a request in time makes its task the newest one.
-/

namespace LiveNotebooks
namespace Reload

open Journal

/-- Has the task not yet passed its quiet time? -/
def Task.Waits (t : Task) : Prop :=
  match t.phase with
  | .fresh | .waiting _ => True
  | _ => False

/-- The note on the beginning of the conversion that a request has asked for. -/
structure StartOf (c : Setup) (t : Task) (r n : Note) : Prop where
  task : n.task = some t.number
  deed : n.deed = .started t.ticket.path
  events : n.events = []
  time : r.time + c.quiet ≤ n.time

/-- The note on the commit of a task, with its event. -/
structure CommitOf (t : Task) (n : Note) : Prop where
  task : n.task = some t.number
  deed : n.deed = .committed
  events : ∃ event, n.events = [event] ∧ event.identifier = t.ticket.identifier

/-- How far the newest task has come, which answers a request. -/
inductive Stage (c : Setup) (s : Machine) (j : Journal) (t : Task) (r : Note) : Prop
  | quiet
      (alive : t ∈ s.reload.tasks)
      (pending : s.reload.pending.isCurrent t.ticket = true)
      (phase : t.phase = .fresh ∨ ∃ due, t.phase = .waiting due ∧ r.time + c.quiet ≤ due)
      (effects : effects t.ticket.identifier j = [])
  | awake
      (alive : t ∈ s.reload.tasks)
      (pending : s.reload.pending.isCurrent t.ticket = true)
      (phase : t.phase = .awake ∨ t.phase = .ready)
      (due : r.time + c.quiet ≤ s.now)
      (effects : effects t.ticket.identifier j = [])
  | converting
      {first : Note}
      (alive : t ∈ s.reload.tasks)
      (pending : s.reload.pending.isCurrent t.ticket = true)
      (phase : t.phase = .converting)
      (due : r.time + c.quiet ≤ s.now)
      (effects : effects t.ticket.identifier j = [first])
      (start : StartOf c t r first)
  | done
      {first second : Note}
      (ended : ∀ u ∈ s.reload.tasks, u.ticket.identifier = t.ticket.identifier →
        u.number ≠ t.number)
      (pending : s.reload.pending.generation? t.ticket.identifier = none)
      (due : r.time + c.quiet ≤ s.now)
      (effects : effects t.ticket.identifier j = [first, second])
      (start : StartOf c t r first)
      (commit : CommitOf t second)

/-- A burst of requests, of which `r` is the last. -/
structure Burst (c : Setup) (s : Machine) (j : Journal) (t : Task) (r : Note) : Prop where
  request : RequestOf t r
  time : r.time ≤ s.now
  stage : Stage c s j t r
  others : ∀ u ∈ s.reload.tasks, u.ticket.identifier = t.ticket.identifier →
    u.number ≠ t.number → u.Waits ∧ u.ticket.generation < t.ticket.generation

section

variable {c : Setup} {s s' : Machine} {a : Action} {note : Option Note} {j : Journal}
  {t u : Task} {r : Note}

/-- What is pending in a burst is the generation of the newest task, if anything. -/
theorem Stage.pending_eq
    {generation : Nat}
    (h : Stage c s j t r)
    (hpending : s.reload.pending.generation? t.ticket.identifier = some generation) :
    generation = t.ticket.generation := by
  cases h with
  | quiet alive pending phase effects =>
      rw [Pending.isCurrent_iff.1 pending] at hpending
      exact (Option.some.inj hpending).symm
  | awake alive pending phase due effects =>
      rw [Pending.isCurrent_iff.1 pending] at hpending
      exact (Option.some.inj hpending).symm
  | converting alive pending phase due effects start =>
      rw [Pending.isCurrent_iff.1 pending] at hpending
      exact (Option.some.inj hpending).symm
  | done ended pending due effects start commit =>
      rw [pending] at hpending
      cases hpending

/-- No older task of the document is current. -/
theorem Burst.not_current
    (h : Burst c s j t r)
    (hu : u ∈ s.reload.tasks)
    (hid : u.ticket.identifier = t.ticket.identifier)
    (hne : u.number ≠ t.number) :
    s.reload.pending.isCurrent u.ticket = false := by
  obtain ⟨_, hlt⟩ := h.others u hu hid hne
  cases hcurrent : s.reload.pending.isCurrent u.ticket
  · rfl
  · exfalso
    rw [Pending.isCurrent_iff, hid] at hcurrent
    have := h.stage.pending_eq hcurrent
    omega

/-- A stage is kept while nothing happens to the document. -/
theorem Stage.frame
    {k : Journal}
    (h : Stage c s j t r)
    (hnow : s.now ≤ s'.now)
    (htasks : ∀ u : Task, u.ticket.identifier = t.ticket.identifier → u.number = t.number →
      (u ∈ s'.reload.tasks ↔ u ∈ s.reload.tasks))
    (hpending : s'.reload.pending.generation? t.ticket.identifier
      = s.reload.pending.generation? t.ticket.identifier)
    (heffects : effects t.ticket.identifier k = effects t.ticket.identifier j) :
    Stage c s' k t r := by
  have hcurrent : s.reload.pending.isCurrent t.ticket = true →
      s'.reload.pending.isCurrent t.ticket = true := by
    intro hcurrent
    rw [Pending.isCurrent_iff] at hcurrent ⊢
    rw [hpending]
    exact hcurrent
  cases h with
  | quiet alive pending phase effects =>
      exact .quiet ((htasks t rfl rfl).2 alive) (hcurrent pending) phase (heffects.trans effects)
  | awake alive pending phase due effects =>
      exact .awake ((htasks t rfl rfl).2 alive) (hcurrent pending) phase
        (Nat.le_trans due hnow) (heffects.trans effects)
  | converting alive pending phase due effects start =>
      exact .converting ((htasks t rfl rfl).2 alive) (hcurrent pending) phase
        (Nat.le_trans due hnow) (heffects.trans effects) start
  | done ended pending due effects start commit =>
      refine .done ?_ (hpending.trans pending) (Nat.le_trans due hnow) (heffects.trans effects)
        start commit
      intro u hu hid hnumber
      exact ended u ((htasks u hid hnumber).1 hu) hid hnumber

/-! ## What happens to other documents -/

theorem Elsewhere.not_requests
    {identifier : String}
    {n : Note}
    (h : Elsewhere identifier s s' (some n)) :
    n.requests identifier = false := by
  by_cases hid : n.identifier = identifier
  · obtain ⟨_, hdeed⟩ := h.notes n rfl hid
    exact not_requests_of_deed (by rw [hdeed]; rfl) identifier
  · simp [Note.requests, hid]

/-- What happens elsewhere is no act for the document. -/
theorem Elsewhere.not_acts
    {identifier : String}
    {n : Note}
    (h : Elsewhere identifier s s' (some n)) :
    n.acts identifier = false := by
  cases htask : n.task with
  | none => simp [Note.acts, htask]
  | some number =>
      have hid : n.identifier ≠ identifier := by
        intro hid
        rw [(h.notes n rfl hid).1] at htask
        cases htask
      have hevents := h.events n rfl (by simp [htask])
      simpa [Note.acts, htask, hid] using hevents

theorem Elsewhere.requests_eq
    {identifier : String}
    (h : Elsewhere identifier s s' note) :
    requests identifier (j ++ note.toList) = requests identifier j := by
  refine requests_append_of_not ?_ j
  rintro n rfl
  exact h.not_requests

theorem Elsewhere.effects_eq
    {identifier : String}
    (h : Elsewhere identifier s s' note) :
    effects identifier (j ++ note.toList) = effects identifier j := by
  cases note with
  | none => simp
  | some n => exact effects_concat_of_not h.not_acts j

theorem Burst.elsewhere
    (h : Burst c s j t r)
    (helse : Elsewhere t.ticket.identifier s s' note) :
    Burst c s' (j ++ note.toList) t r where
  request := h.request
  time := Nat.le_trans h.time helse.now
  stage := h.stage.frame helse.now (fun u hid _ => helse.tasks u hid) helse.pending
    helse.effects_eq
  others := by
    intro u hu hid hne
    exact h.others u ((helse.tasks u hid).1 hu) hid hne

/-! ## What the older tasks do -/

/-- An older task does nothing but to rest. -/
theorem Burst.advance_other
    {m : Move}
    {phase : Phase}
    {deed : Option Deed}
    (h : Burst c s j t r)
    (hu : u ∈ s.reload.tasks)
    (hid : u.ticket.identifier = t.ticket.identifier)
    (hne : u.number ≠ t.number)
    (hadvance : Machine.Advance c s u m phase deed) :
    Burst c { s with reload := s.reload.setPhase u phase }
      (j ++ (deed.map fun d => s.note u d []).toList) t r := by
  obtain ⟨hwaits, hlt⟩ := h.others u hu hid hne
  cases hadvance with
  | rest hphase =>
      refine ⟨h.request, h.time, ?_, ?_⟩
      · refine h.stage.frame (Nat.le_refl s.now) ?_ rfl (by simp)
        intro v _ hv
        rw [State.mem_setPhase hu]
        constructor
        · rintro (rfl | ⟨hmem, _⟩)
          · exact absurd hv hne
          · exact hmem
        · intro hmem
          refine .inr ⟨hmem, ?_⟩
          rw [hv]
          exact Ne.symm hne
      · intro v hv hvid hvne
        rcases (State.mem_setPhase hu).1 hv with rfl | ⟨hv, _⟩
        · exact ⟨trivial, hlt⟩
        · exact h.others v hv hvid hvne
  | rouse hphase hdue hcurrent =>
      rw [h.not_current hu hid hne] at hcurrent
      cases hcurrent
  | see hphase => simp [Task.Waits, hphase] at hwaits
  | miss hphase => simp [Task.Waits, hphase] at hwaits
  | start hphase => simp [Task.Waits, hphase] at hwaits

/-- An older task ends as superseded. -/
theorem Burst.depart_other
    {m : Move}
    {deed : Deed}
    (h : Burst c s j t r)
    (hu : u ∈ s.reload.tasks)
    (hid : u.ticket.identifier = t.ticket.identifier)
    (hne : u.number ≠ t.number)
    (hdepart : Machine.Departure s u m deed) :
    Burst c { s with reload := (s.reload.settle u).1 } (j ++ [s.note u deed []]) t r := by
  obtain ⟨hwaits, _⟩ := h.others u hu hid hne
  cases hdepart with
  | superseded hphase hcurrent =>
      refine ⟨h.request, h.time, ?_, ?_⟩
      · have hnote : effects t.ticket.identifier (j ++ [s.note u .superseded []])
            = effects t.ticket.identifier j :=
          effects_concat_of_not (by simp [Note.acts, Machine.note, Deed.isAct]) j
        refine h.stage.frame (Nat.le_refl s.now) ?_ ?_ hnote
        · intro v _ hv
          rw [State.mem_settle]
          constructor
          · exact fun hmem => hmem.1
          · intro hmem
            refine ⟨hmem, ?_⟩
            rw [hv]
            exact Ne.symm hne
        · exact State.generation?_settle_of_not_current hcurrent t.ticket.identifier
      · intro v hv hvid hvne
        exact h.others v (State.mem_settle.1 hv).1 hvid hvne
  | left hphase => simp [Task.Waits, hphase] at hwaits
  | stale result moment hphase hcurrent => simp [Task.Waits, hphase] at hwaits

/-! ## What the newest task does -/

/-- The newest task is alive unless it has committed. -/
theorem Burst.eq_newest
    (h : Burst c s j t r)
    (hu : u ∈ s.reload.tasks)
    (hid : u.ticket.identifier = t.ticket.identifier)
    (hnumber : u.number = t.number) :
    u = t := by
  cases h.stage with
  | quiet alive pending phase effects => exact State.eq_of_number_eq hu alive hnumber
  | awake alive pending phase due effects => exact State.eq_of_number_eq hu alive hnumber
  | converting alive pending phase due effects start =>
      exact State.eq_of_number_eq hu alive hnumber
  | done ended pending due effects start commit => exact absurd hnumber (ended u hu hid)

theorem Burst.others_setPhase
    {phase : Phase}
    (h : Burst c s j t r)
    (ht : t ∈ s.reload.tasks) :
    ∀ u ∈ (s.reload.setPhase t phase).tasks, u.ticket.identifier = t.ticket.identifier →
      u.number ≠ t.number → u.Waits ∧ u.ticket.generation < t.ticket.generation := by
  intro u hu hid hne
  rcases (State.mem_setPhase ht).1 hu with rfl | ⟨hu, _⟩
  · exact absurd rfl hne
  · exact h.others u hu hid hne

/-- The newest task goes on, if a file is there. -/
theorem Burst.advance_newest
    {m : Move}
    {phase : Phase}
    {deed : Option Deed}
    (h : Burst c s j t r)
    (ht : t ∈ s.reload.tasks)
    (hadvance : Machine.Advance c s t m phase deed)
    (hfile : deed ≠ some .gone) :
    Burst c { s with reload := s.reload.setPhase t phase }
      (j ++ (deed.map fun d => s.note t d []).toList) { t with phase := phase } r := by
  have hrequest : RequestOf { t with phase := phase } r :=
    ⟨h.request.task, h.request.identifier, h.request.deed⟩
  have halive : { t with phase := phase } ∈ (s.reload.setPhase t phase).tasks :=
    (State.mem_setPhase ht).2 (.inl rfl)
  refine ⟨hrequest, h.time, ?_, h.others_setPhase ht⟩
  have htime := h.time
  cases h.stage with
  | quiet alive pending phase effects =>
      cases hadvance with
      | rest hphase =>
          refine .quiet halive pending (.inr ⟨_, rfl, ?_⟩) (by simpa using effects)
          omega
      | @rouse due hphase hdue hcurrent =>
          refine .awake halive pending (.inl rfl) ?_ (by simpa using effects)
          rcases phase with hfresh | ⟨_, hwaiting, hquiet⟩
          · rw [hphase] at hfresh
            cases hfresh
          · rw [hphase] at hwaiting
            cases hwaiting
            exact Nat.le_trans hquiet hdue
      | see hphase => simp [hphase] at phase
      | miss hphase => simp [hphase] at phase
      | start hphase => simp [hphase] at phase
  | awake alive pending phase due effects =>
      cases hadvance with
      | rest hphase => simp [hphase] at phase
      | rouse hphase hdue hcurrent => simp [hphase] at phase
      | see hphase => exact .awake halive pending (.inr rfl) due (by simpa using effects)
      | miss hphase => exact absurd rfl hfile
      | start hphase =>
          have hstart : StartOf c { t with phase := .converting } r
              (s.note t (.started t.ticket.path) []) := ⟨rfl, rfl, rfl, due⟩
          refine .converting halive pending rfl due ?_ hstart
          refine (effects_concat ?_ j).trans ?_
          · simp [Note.acts, Machine.note, Deed.isAct]
          · rw [effects]
            rfl
  | converting alive pending phase due effects start =>
      cases hadvance <;> simp_all
  | done ended pending due effects start commit => exact absurd rfl (ended t ht rfl)

/-- The newest task does not end without a commit, if a file is there. -/
theorem Burst.not_depart_newest
    {m : Move}
    {deed : Deed}
    (h : Burst c s j t r)
    (ht : t ∈ s.reload.tasks)
    (hdepart : Machine.Departure s t m deed) :
    False := by
  cases h.stage with
  | quiet alive pending phase effects =>
      cases hdepart with
      | superseded hphase hcurrent => simp [hcurrent] at pending
      | left hphase => simp [hphase] at phase
      | stale result moment hphase hcurrent => simp [hcurrent] at pending
  | awake alive pending phase due effects =>
      cases hdepart with
      | superseded hphase hcurrent => simp [hcurrent] at pending
      | left hphase => simp [hphase] at phase
      | stale result moment hphase hcurrent => simp [hcurrent] at pending
  | converting alive pending phase due effects start =>
      cases hdepart with
      | superseded hphase hcurrent => simp [hcurrent] at pending
      | left hphase => simp [hphase] at phase
      | stale result moment hphase hcurrent => simp [hcurrent] at pending
  | done ended pending due effects start commit => exact ended t ht rfl rfl

/-- The commit of a burst is that of its newest task. -/
theorem Burst.commit
    {result : ConversionResult}
    {moment : Instant}
    (h : Burst c s j t r)
    (hu : u ∈ s.reload.tasks)
    (hid : u.ticket.identifier = t.ticket.identifier)
    (hphase : u.phase = .converting)
    (hcurrent : s.reload.pending.isCurrent u.ticket = true) :
    Burst c ⟨s.now, (s.reload.settle u).1, (s.store.put (Machine.document c u result moment)).1⟩
      (j ++ [s.note u .committed [(s.store.put (Machine.document c u result moment)).2]]) t r := by
  have hnumber : u.number = t.number := by
    by_cases hne : u.number = t.number
    · exact hne
    · obtain ⟨hwaits, _⟩ := h.others u hu hid hne
      simp [Task.Waits, hphase] at hwaits
  obtain rfl := h.eq_newest hu hid hnumber
  refine ⟨h.request, h.time, ?_, ?_⟩
  · cases h.stage with
    | quiet alive pending phase effects => simp [hphase] at phase
    | awake alive pending phase due effects => simp [hphase] at phase
    | converting alive pending phase due effects start =>
        have hcommit : CommitOf u
            (s.note u .committed [(s.store.put (Machine.document c u result moment)).2]) :=
          ⟨rfl, rfl, _, rfl, rfl⟩
        refine .done ?_ (State.generation?_settle_self hcurrent) due ?_ start hcommit
        · intro v hv _
          exact (State.mem_settle.1 hv).2
        · rw [effects_concat (by simp [Note.acts, Machine.note, Deed.isAct]), effects]
          rfl
    | done ended pending due effects start commit => exact absurd rfl (ended u hu rfl)
  · intro v hv hvid hvne
    exact h.others v (State.mem_settle.1 hv).1 hvid hvne

/-! ## What a request does -/

/-- The first request for a document begins a burst. -/
theorem burst_first
    {path : Path}
    {identifier : String}
    (hidle : ∀ u ∈ s.reload.tasks, u.ticket.identifier ≠ identifier)
    (heffects : effects identifier j = []) :
    Burst c { s with reload := s.reload.enlist path identifier }
      (j ++ [s.requestNote path identifier]) (s.reload.nextTask path identifier)
      (s.requestNote path identifier) where
  request := requestOf_requestNote s path identifier
  time := Nat.le_refl s.now
  stage := by
    refine .quiet (by simp) ?_ (.inl rfl) ?_
    · exact Pending.isCurrent_iff.2 (State.generation?_enlist_self s.reload path identifier)
    · have hnote := effects_concat_of_not (s.acts_requestNote path identifier) j
      exact hnote.trans heffects
  others := by
    intro u hu hid hne
    rcases State.mem_enlist.1 hu with hu | rfl
    · exact absurd hid (hidle u hu)
    · exact absurd rfl hne

/-- A request in time makes its task the newest of the burst. -/
theorem Burst.next
    {path : Path}
    (h : Burst c s j t r)
    (hgap : s.now < r.time + c.quiet) :
    Burst c { s with reload := s.reload.enlist path t.ticket.identifier }
      (j ++ [s.requestNote path t.ticket.identifier])
      (s.reload.nextTask path t.ticket.identifier)
      (s.requestNote path t.ticket.identifier) := by
  cases h.stage with
  | quiet alive pending phase effects =>
      have hgeneration : (s.reload.nextTask path t.ticket.identifier).ticket.generation
          = t.ticket.generation + 1 := by
        simp [State.nextTask, State.nextGeneration, Pending.isCurrent_iff.1 pending]
      refine ⟨requestOf_requestNote s path _, Nat.le_refl s.now, ?_, ?_⟩
      · refine .quiet (by simp) ?_ (.inl rfl) ?_
        · exact Pending.isCurrent_iff.2
            (State.generation?_enlist_self s.reload path t.ticket.identifier)
        · have hnote := effects_concat_of_not (s.acts_requestNote path t.ticket.identifier) j
          exact hnote.trans effects
      · intro u hu hid hne
        rw [hgeneration]
        rcases State.mem_enlist.1 hu with hu | rfl
        · by_cases hnumber : u.number = t.number
          · obtain rfl := State.eq_of_number_eq hu alive hnumber
            refine ⟨?_, Nat.lt_succ_self _⟩
            rcases phase with hfresh | ⟨_, hwaiting, _⟩
            · simp [Task.Waits, hfresh]
            · simp [Task.Waits, hwaiting]
          · obtain ⟨hwaits, hlt⟩ := h.others u hu hid hnumber
            exact ⟨hwaits, Nat.lt_succ_of_lt hlt⟩
        · exact absurd rfl hne
  | awake alive pending phase due effects => exact absurd due (Nat.not_le.2 hgap)
  | converting alive pending phase due effects start => exact absurd due (Nat.not_le.2 hgap)
  | done ended pending due effects start commit => exact absurd due (Nat.not_le.2 hgap)

end

end Reload
end LiveNotebooks
