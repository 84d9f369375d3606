import LiveNotebooks.Proofs.Reload.Pending

/-!
# What a step does to one document

All documents share the pending requests, the tasks and the store.  A step is about one
document, and for every other it leaves what is pending, the tasks and the stored document
as they were.

**Results.**
* `step_about`: a step is about a document, or changes nothing for it.
-/

namespace LiveNotebooks
namespace Reload

open Journal

/-- A step that changes nothing for a document, but that a client may have written it. -/
structure Elsewhere (identifier : String) (s s' : Machine) (note : Option Note) : Prop where
  now : s.now ≤ s'.now
  count : s.reload.count ≤ s'.reload.count
  tasks : ∀ u : Task, u.ticket.identifier = identifier →
    (u ∈ s'.reload.tasks ↔ u ∈ s.reload.tasks)
  pending : s'.reload.pending.generation? identifier
    = s.reload.pending.generation? identifier
  notes : ∀ n ∈ note, n.identifier = identifier → n.task = none ∧ n.deed = .written
  events : ∀ n ∈ note, n.task ≠ none → ∀ event ∈ n.events, event.identifier ≠ identifier
  store : (∀ n ∈ note, n.identifier ≠ identifier) →
    s'.store.find? identifier = s.store.find? identifier

/-- A step as a document sees it. -/
inductive StepAbout (c : Setup) (identifier : String) (s : Machine) :
    Action → Machine → Option Note → Prop
  | elsewhere
      {a : Action}
      {s' : Machine}
      {note : Option Note}
      (h : Elsewhere identifier s s' note) :
      StepAbout c identifier s a s' note
  | request
      {path : Path}
      (hname : Path.name path = some identifier) :
      StepAbout c identifier s (.request path)
        { s with reload := s.reload.enlist path identifier } (some (s.requestNote path identifier))
  | advance
      {t : Task}
      {m : Move}
      {phase : Phase}
      {deed : Option Deed}
      (ht : t ∈ s.reload.tasks)
      (hid : t.ticket.identifier = identifier)
      (h : Machine.Advance c s t m phase deed) :
      StepAbout c identifier s (.move t.number m) { s with reload := s.reload.setPhase t phase }
        (deed.map fun d => s.note t d [])
  | depart
      {t : Task}
      {m : Move}
      {deed : Deed}
      (ht : t ∈ s.reload.tasks)
      (hid : t.ticket.identifier = identifier)
      (h : Machine.Departure s t m deed) :
      StepAbout c identifier s (.move t.number m) { s with reload := (s.reload.settle t).1 }
        (some (s.note t deed []))
  | commit
      {t : Task}
      (result : ConversionResult)
      (moment : Instant)
      (ht : t ∈ s.reload.tasks)
      (hid : t.ticket.identifier = identifier)
      (hphase : t.phase = .converting)
      (hcurrent : s.reload.pending.isCurrent t.ticket = true) :
      StepAbout c identifier s (.move t.number (.finish result moment))
        ⟨s.now, (s.reload.settle t).1, (s.store.put (Machine.document c t result moment)).1⟩
        (some (s.note t .committed
          [(s.store.put (Machine.document c t result moment)).2]))

section

variable {c : Setup} {s s' : Machine} {a : Action} {note : Option Note} {t : Task}
  {identifier : String}

/-- A step of a task that stays alive is none for another document. -/
theorem elsewhere_setPhase
    {phase : Phase}
    {deed : Option Deed}
    (ht : t ∈ s.reload.tasks)
    (hid : t.ticket.identifier ≠ identifier) :
    Elsewhere identifier s { s with reload := s.reload.setPhase t phase }
      (deed.map fun d => s.note t d []) where
  now := Nat.le_refl s.now
  count := Nat.le_refl s.reload.count
  tasks := by
    intro u hu
    rw [State.mem_setPhase ht]
    constructor
    · rintro (rfl | ⟨hmem, _⟩)
      · exact absurd hu hid
      · exact hmem
    · intro hmem
      refine .inr ⟨hmem, fun hnumber => hid ?_⟩
      rw [← State.eq_of_number_eq hmem ht hnumber, hu]
  pending := rfl
  notes := by
    intro n hn hnid
    obtain ⟨d, _, rfl⟩ := Option.map_eq_some_iff.1 hn
    exact absurd hnid hid
  events := by
    intro n hn _ event hevent
    obtain ⟨d, _, rfl⟩ := Option.map_eq_some_iff.1 hn
    cases hevent
  store := fun _ => rfl

/-- The end of a task is nothing to another document, and stores nothing for it. -/
theorem elsewhere_settle
    {deed : Deed}
    {events : List Store.Event}
    {store : Store}
    (ht : t ∈ s.reload.tasks)
    (hid : t.ticket.identifier ≠ identifier)
    (hevents : ∀ event ∈ events, event.identifier ≠ identifier)
    (hstore : store.find? identifier = s.store.find? identifier) :
    Elsewhere identifier s ⟨s.now, (s.reload.settle t).1, store⟩
      (some (s.note t deed events)) where
  now := Nat.le_refl s.now
  count := Nat.le_of_eq (State.count_settle s.reload t).symm
  tasks := by
    intro u hu
    rw [State.mem_settle]
    constructor
    · exact fun hmem => hmem.1
    · intro hmem
      refine ⟨hmem, fun hnumber => hid ?_⟩
      rw [← State.eq_of_number_eq hmem ht hnumber, hu]
  pending := State.generation?_settle_of_ne (Ne.symm hid)
  notes := by
    intro n hn hnid
    cases hn
    exact absurd hnid hid
  events := by
    intro n hn _ event hevent
    cases hn
    exact hevents event hevent
  store := fun _ => hstore

/-- A write of a client is no step of a reload. -/
theorem elsewhere_write
    {store : Store}
    {event : Store.Event}
    (hstore : event.identifier ≠ identifier →
      store.find? identifier = s.store.find? identifier) :
    Elsewhere identifier s { s with store := store } (some (s.writeNote event)) where
  now := Nat.le_refl s.now
  count := Nat.le_refl s.reload.count
  tasks := fun _ _ => Iff.rfl
  pending := rfl
  notes := by
    intro n hn _
    cases hn
    exact ⟨rfl, rfl⟩
  events := by
    intro n hn htask
    cases hn
    exact absurd rfl htask
  store := fun hother => hstore (hother _ rfl)

theorem elsewhere_refl
    (s : Machine) :
    Elsewhere identifier s s none where
  now := Nat.le_refl s.now
  count := Nat.le_refl s.reload.count
  tasks := fun _ _ => Iff.rfl
  pending := rfl
  notes := by
    intro n hn
    cases hn
  events := by
    intro n hn
    cases hn
  store := fun _ => rfl

/-- A step is about a document, or changes nothing for it. -/
theorem step_about
    (h : Machine.Step c s a s' note)
    (identifier : String) :
    StepAbout c identifier s a s' note := by
  cases h with
  | pass span =>
      have hrefl : Elsewhere identifier s s none := elsewhere_refl s
      exact .elsewhere { hrefl with now := Nat.le_add_right s.now span }
  | nameless hname => exact .elsewhere (elsewhere_refl s)
  | @request path about hname =>
      by_cases hid : about = identifier
      · subst hid
        exact .request hname
      · refine .elsewhere
          { now := Nat.le_refl s.now
            count := Nat.le_succ s.reload.count
            tasks := ?_
            pending := State.generation?_enlist_of_ne (Ne.symm hid) s.reload path
            notes := ?_
            events := ?_
            store := fun _ => rfl }
        · intro u hu
          rw [State.mem_enlist]
          constructor
          · rintro (hmem | rfl)
            · exact hmem
            · exact absurd hu hid
          · exact .inl
        · intro n hn hnid
          cases hn
          exact absurd hnid hid
        · intro n hn _ event hevent
          cases hn
          cases hevent
  | @advance t m phase deed ht hadvance =>
      by_cases hid : t.ticket.identifier = identifier
      · exact .advance ht hid hadvance
      · exact .elsewhere (elsewhere_setPhase ht hid)
  | @depart t m deed ht hdepart =>
      by_cases hid : t.ticket.identifier = identifier
      · exact .depart ht hid hdepart
      · exact .elsewhere (elsewhere_settle ht hid (by simp) rfl)
  | @commit t result moment ht hphase hcurrent =>
      by_cases hid : t.ticket.identifier = identifier
      · exact .commit result moment ht hid hphase hcurrent
      · refine .elsewhere (elsewhere_settle ht hid ?_ ?_)
        · intro event hevent
          obtain rfl := List.mem_singleton.1 hevent
          exact hid
        · rw [Store.find?_put]
          exact if_neg hid
  | put n =>
      refine .elsewhere (elsewhere_write fun hother => ?_)
      rw [Store.find?_put]
      exact if_neg hother
  | @setContents about contents moment store event hset =>
      refine .elsewhere (elsewhere_write fun hother => ?_)
      rw [Store.find?_setContents hset]
      cases hfound : s.store.find? identifier with
      | none => rfl
      | some n =>
          have hn : n.identifier = identifier := by
            simpa using List.find?_some hfound
          have hne : n.identifier ≠ about := by
            rw [hn, ← Store.identifier_setContents hset]
            exact Ne.symm hother
          simp [Store.withContents, hne]
  | refused hset => exact .elsewhere (elsewhere_refl s)

end

end Reload
end LiveNotebooks
