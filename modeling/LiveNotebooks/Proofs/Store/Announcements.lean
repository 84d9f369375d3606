import LiveNotebooks.Proofs.Store.Calls

/-!
# What the events of a store tell

A write that goes through is announced by one event.  Whoever reads the events from the
start knows which documents there are.

**Results.**
* `told_announcements`: of a document that was not there, the first event tells that it was
  created, and no other does.
* `contains_applyAll_iff`: the documents that are there are those that were there before and
  those that were created.
-/

namespace LiveNotebooks
namespace Store

namespace Write

/-- Does the write go through? -/
def isAccepted (s : Store) : Write → Bool
  | .put _ => true
  | .setContents identifier _ _ => s.contains identifier

def event (s : Store) : Write → Event
  | .put n => ⟨if s.contains n.identifier then .updated else .created, n.identifier⟩
  | .setContents identifier _ _ => ⟨.contentSet, identifier⟩

@[simp] theorem identifier_event
    (s : Store)
    (w : Write) :
    (w.event s).identifier = w.identifier := by
  cases w <;> rfl

end Write

/-- The events that announce some writes, one for each in their order. -/
def announcements : Store → List Write → List Event
  | _, [] => []
  | s, w :: rest => w.event s :: announcements (w.apply s) rest

/-- Do all the writes go through, one after another? -/
def AllAccepted : Store → List Write → Prop
  | _, [] => True
  | s, w :: rest => w.isAccepted s = true ∧ AllAccepted (w.apply s) rest

def eventsOn (identifier : String) (events : List Event) : List Event :=
  events.filter fun e => e.identifier = identifier

/-- The events on a document that was not there: none, or one that tells of its creation
and then others. -/
inductive Told : List Event → Prop
  | nothing : Told []
  | creation
      {identifier : String}
      {rest : List Event}
      (hrest : ∀ e ∈ rest, e.change ≠ .created) :
      Told (⟨.created, identifier⟩ :: rest)

section

variable {s : Store} {w : Write} {identifier : String} {writes : List Write}

theorem announcements_append
    (s : Store)
    (first second : List Write) :
    announcements s (first ++ second)
      = announcements s first ++ announcements (s.applyAll first) second := by
  induction first generalizing s with
  | nil => rfl
  | cons w rest ih =>
      rw [List.cons_append, announcements, ih]
      rfl

theorem allAccepted_append
    {first second : List Write}
    (hfirst : AllAccepted s first)
    (hsecond : AllAccepted (s.applyAll first) second) :
    AllAccepted s (first ++ second) := by
  induction first generalizing s with
  | nil => exact hsecond
  | cons w rest ih => exact ⟨hfirst.1, ih hfirst.2 hsecond⟩

/-- Behind a write its document is there if it went through, and no other comes or goes. -/
theorem contains_apply_iff
    (h : w.isAccepted s = true) :
    (w.apply s).contains identifier = true
      ↔ s.contains identifier = true ∨ w.identifier = identifier := by
  rw [← find?_isSome, ← find?_isSome, find?_apply]
  by_cases hid : w.identifier = identifier
  · subst hid
    cases w with
    | put n => simp [Write.revise]
    | setContents target contents moment =>
        have hthere : (s.find? target).isSome = true := by
          rw [find?_isSome]
          exact h
        simpa [Write.revise, Write.identifier] using hthere
  · simp [hid]

/-- A document is told to be created by the first write that brings it, and by no other. -/
theorem event_eq_created_iff
    (h : w.isAccepted s = true) :
    w.event s = ⟨.created, identifier⟩
      ↔ w.identifier = identifier ∧ s.contains identifier = false := by
  cases w with
  | put n =>
      constructor
      · intro he
        obtain ⟨hchange, hid⟩ := Event.mk.inj he
        subst hid
        cases hcontains : s.contains n.identifier with
        | false => exact ⟨rfl, rfl⟩
        | true => simp [hcontains] at hchange
      · rintro ⟨rfl, hnot⟩
        have hnot : s.contains n.identifier = false := hnot
        simp [Write.event, Write.identifier, hnot]
  | setContents target contents moment =>
      have hthere : s.contains target = true := h
      constructor
      · intro he
        cases he
      · rintro ⟨rfl, hnot⟩
        rw [Write.identifier, hthere] at hnot
        cases hnot

/-- A document that is there is never told to be created. -/
theorem not_created_of_contains
    (haccepted : AllAccepted s writes)
    (h : s.contains identifier = true) :
    ∀ e ∈ eventsOn identifier (announcements s writes), e.change ≠ .created := by
  induction writes generalizing s with
  | nil => simp [announcements, eventsOn]
  | cons w rest ih =>
      obtain ⟨hw, hrest⟩ := haccepted
      have htail := ih hrest ((contains_apply_iff hw).2 (.inl h))
      intro e he
      obtain ⟨hmem, hid⟩ := List.mem_filter.1 he
      rcases List.mem_cons.1 hmem with rfl | hmem
      · intro hchange
        have hcreated : w.event s = ⟨.created, w.identifier⟩ := by
          rw [← hchange, ← w.identifier_event s]
        have hnot := ((event_eq_created_iff hw).1 hcreated).2
        have hwid : w.identifier = identifier := by simpa using hid
        rw [hwid, h] at hnot
        cases hnot
      · exact htail e (List.mem_filter.2 ⟨hmem, hid⟩)

/-- Of a document that was not there, the first event tells that it was created, and no
other does. -/
theorem told_announcements
    (haccepted : AllAccepted s writes)
    (h : s.contains identifier = false) :
    Told (eventsOn identifier (announcements s writes)) := by
  induction writes generalizing s with
  | nil => exact .nothing
  | cons w rest ih =>
      obtain ⟨hw, hrest⟩ := haccepted
      by_cases hid : w.identifier = identifier
      · have hthere := not_created_of_contains hrest ((contains_apply_iff hw).2 (.inr hid))
        have hcreated := (event_eq_created_iff hw).2 ⟨hid, h⟩
        rw [announcements, hcreated, eventsOn, List.filter_cons_of_pos (by simp)]
        exact .creation hthere
      · have hstill : (w.apply s).contains identifier = false := by
          cases hcontains : (w.apply s).contains identifier with
          | false => rfl
          | true =>
              rcases (contains_apply_iff hw).1 hcontains with hbefore | hbefore
              · rw [h] at hbefore
                cases hbefore
              · exact absurd hbefore hid
        rw [announcements, eventsOn, List.filter_cons_of_neg (by simpa using hid)]
        exact ih hrest hstill

/-- The documents that are there are those that were there before and those that were
created. -/
theorem contains_applyAll_iff
    (haccepted : AllAccepted s writes) :
    (s.applyAll writes).contains identifier = true
      ↔ s.contains identifier = true ∨ ⟨.created, identifier⟩ ∈ announcements s writes := by
  induction writes generalizing s with
  | nil => simp [announcements]
  | cons w rest ih =>
      obtain ⟨hw, hrest⟩ := haccepted
      have happly : s.applyAll (w :: rest) = (w.apply s).applyAll rest := rfl
      rw [happly, ih hrest, contains_apply_iff hw, announcements, List.mem_cons]
      rw [eq_comm (b := w.event s), event_eq_created_iff hw]
      cases hcontains : s.contains identifier <;> simp

end

end Store
end LiveNotebooks
