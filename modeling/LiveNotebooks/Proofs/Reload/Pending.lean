import LiveNotebooks.Proofs.Reload.Machine

/-!
# Pending requests are never left behind

What is pending can be read off the journal, and every pending request belongs to a live
task.  Generations are handed out again after they have been taken off, so the owner of a
pending request is not told by its number.  It is the task of the last request.

**Results.**
* `pending_eq`: the pending generation of a document is the one of the journal.
* `exists_request`: every live task answers a request of the journal.
* `pending_owned`: every pending request belongs to a live task, the newest of its document.
-/

namespace LiveNotebooks
namespace Reload

open Journal

/-- The note on the request that a task answers. -/
structure RequestOf (t : Task) (r : Note) : Prop where
  task : r.task = some t.number
  identifier : r.identifier = t.ticket.identifier
  deed : r.deed = .requested t.ticket.generation t.ticket.path

theorem RequestOf.requested?_eq
    {t : Task}
    {r : Note}
    (h : RequestOf t r) :
    r.requested? = some t.number := by
  simp [Note.requested?_eq_some_iff, h.deed, h.task, Deed.isRequest]

theorem requestOf_requestNote
    (s : Machine)
    (path : Path)
    (identifier : String) :
    RequestOf (s.reload.nextTask path identifier) (s.requestNote path identifier) :=
  ⟨rfl, rfl, rfl⟩

section Steps

variable {c : Setup} {s s' : Machine} {a : Action} {note : Option Note} {j : Journal}

/-- The pending generation behind the end of a task that stores nothing. -/
theorem generation?_depart
    {t : Task}
    {m : Move}
    {deed : Deed}
    (h : Machine.Departure s t m deed)
    {identifier : String}
    (hpending : s.reload.pending.generation? identifier = generation? identifier j) :
    (s.reload.settle t).1.pending.generation? identifier
      = generation? identifier (j ++ [s.note t deed []]) := by
  by_cases hid : identifier = t.ticket.identifier
  · subst hid
    cases h with
    | superseded hphase hcurrent =>
        rw [State.generation?_settle_of_not_current hcurrent, hpending, generation?_concat,
          count_of_plain rfl rfl]
    | left hphase =>
        cases hcurrent : s.reload.pending.isCurrent t.ticket
        · rw [State.generation?_settle_of_not_current hcurrent, hpending, generation?_concat,
            count_of_plain rfl rfl]
        · rw [State.generation?_settle_self hcurrent, generation?_concat]
          simp [count, Note.requests, Note.clears, Machine.note, Deed.isRequest, Deed.isClear]
    | stale result moment hphase hcurrent =>
        rw [State.generation?_settle_of_not_current hcurrent, hpending, generation?_concat,
          count_of_plain rfl rfl]
  · rw [State.generation?_settle_of_ne hid, hpending, generation?_concat,
      count_of_identifier_ne (Ne.symm hid)]

/-- A step changes the pending generations as its note counts. -/
theorem pending_step
    (h : Machine.Step c s a s' note)
    {identifier : String}
    (hpending : s.reload.pending.generation? identifier = generation? identifier j) :
    s'.reload.pending.generation? identifier
      = generation? identifier (j ++ note.toList) := by
  cases h with
  | pass span => simpa using hpending
  | nameless hname => simpa using hpending
  | @request path about hname =>
      rw [Option.toList_some, generation?_concat]
      by_cases hid : identifier = about
      · subst hid
        rw [State.generation?_enlist_self, State.nextGeneration, hpending]
        simp [count, Machine.requests_requestNote]
      · rw [State.generation?_enlist_of_ne hid, hpending, count_of_identifier_ne]
        exact Ne.symm hid
  | advance ht hadvance =>
      rw [generation?_append_of_plain (Machine.not_isRequest_of_advance hadvance)
        (Machine.not_isClear_of_advance hadvance)]
      exact hpending
  | depart ht hdepart => exact generation?_depart hdepart hpending
  | @commit t result moment ht hphase hcurrent =>
      rw [Option.toList_some, generation?_concat]
      by_cases hid : identifier = t.ticket.identifier
      · subst hid
        simp only [State.generation?_settle_self hcurrent]
        simp [count, Note.requests, Note.clears, Machine.note, Deed.isRequest, Deed.isClear]
      · simp only [State.generation?_settle_of_ne hid, hpending]
        rw [count_of_identifier_ne (Ne.symm hid)]
  | put n =>
      rw [Option.toList_some, generation?_concat, count_of_plain rfl rfl]
      exact hpending
  | setContents hset =>
      rw [Option.toList_some, generation?_concat, count_of_plain rfl rfl]
      exact hpending
  | refused hset => simpa using hpending

/-- The request that a task answers is among the requests noted. -/
theorem request_step
    (h : Machine.Step c s a s' note)
    (hrequest : ∀ t ∈ s.reload.tasks, ∃ before r after,
      j = before ++ r :: after ∧ RequestOf t r
        ∧ generation? t.ticket.identifier (before ++ [r]) = some t.ticket.generation)
    (hpending : ∀ identifier,
      s.reload.pending.generation? identifier = generation? identifier j) :
    ∀ t ∈ s'.reload.tasks, ∃ before r after,
      j ++ note.toList = before ++ r :: after ∧ RequestOf t r
        ∧ generation? t.ticket.identifier (before ++ [r]) = some t.ticket.generation := by
  have hkept : ∀ t ∈ s.reload.tasks, ∃ before r after,
      j ++ note.toList = before ++ r :: after ∧ RequestOf t r
        ∧ generation? t.ticket.identifier (before ++ [r]) = some t.ticket.generation := by
    intro t ht
    obtain ⟨before, r, after, rfl, hr, hgeneration⟩ := hrequest t ht
    exact ⟨before, r, after ++ note.toList, by simp, hr, hgeneration⟩
  intro u hu
  cases h with
  | pass span => exact hkept u hu
  | nameless hname => exact hkept u hu
  | @request path identifier hname =>
      rcases State.mem_enlist.1 hu with hu | rfl
      · exact hkept u hu
      · refine ⟨j, _, [], rfl, requestOf_requestNote s path identifier, ?_⟩
        rw [generation?_concat, ← hpending]
        simp [count, State.nextTask, State.nextGeneration, Machine.requests_requestNote]
  | advance ht hadvance =>
      rcases (State.mem_setPhase ht).1 hu with rfl | ⟨hu, _⟩
      · obtain ⟨before, r, after, he, hr, hgeneration⟩ := hkept _ ht
        exact ⟨before, r, after, he, ⟨hr.task, hr.identifier, hr.deed⟩, hgeneration⟩
      · exact hkept u hu
  | depart ht hdepart => exact hkept u (State.mem_settle.1 hu).1
  | commit result moment ht hphase hcurrent => exact hkept u (State.mem_settle.1 hu).1
  | put n => exact hkept u hu
  | setContents hset => exact hkept u hu
  | refused hset => exact hkept u hu

/-- What takes a request off is the end of a task whose generation is the pending one. -/
theorem current_of_clear
    {n : Note}
    (h : Machine.Step c s a s' (some n))
    (hclear : n.deed.isClear = true) :
    ∃ t ∈ s.reload.tasks,
      s.reload.pending.isCurrent t.ticket = true
        ∧ n.identifier = t.ticket.identifier ∧ n.task = some t.number := by
  generalize hnote : some n = note at h
  cases h with
  | pass span => cases hnote
  | nameless hname => cases hnote
  | request hname =>
      cases hnote
      cases hclear
  | advance ht hadvance =>
      exfalso
      cases hadvance <;> cases hnote <;> cases hclear
  | @depart t m deed ht hdepart =>
      cases hnote
      cases hdepart with
      | superseded hphase hcurrent => cases hclear
      | left hphase =>
          refine ⟨t, ht, ?_, rfl, rfl⟩
          cases hcurrent : s.reload.pending.isCurrent t.ticket
          · simp [Machine.note, Deed.isClear, hcurrent] at hclear
          · rfl
      | stale result moment hphase hcurrent => cases hclear
  | commit result moment ht hphase hcurrent =>
      cases hnote
      exact ⟨_, ht, hcurrent, rfl, rfl⟩
  | put n =>
      cases hnote
      cases hclear
  | setContents hset =>
      cases hnote
      cases hclear
  | refused hset => cases hnote

/-- The task of the last request for a document. -/
def Newest (j : Journal) (t : Task) : Prop :=
  ∃ r, (requests t.ticket.identifier j).getLast? = some r ∧ RequestOf t r

/-- What is no request changes no newest task. -/
theorem Newest.append
    {t : Task}
    (h : Newest j t)
    (hnote : ∀ n ∈ note, n.requests t.ticket.identifier = false) :
    Newest (j ++ note.toList) t := by
  obtain ⟨r, hlast, hr⟩ := h
  exact ⟨r, by rwa [requests_append_of_not hnote], hr⟩

theorem Newest.concat
    {t : Task}
    {n : Note}
    (h : Newest j t)
    (hn : n.requests t.ticket.identifier = false) :
    Newest (j ++ [n]) t := by
  obtain ⟨r, hlast, hr⟩ := h
  exact ⟨r, by rwa [requests_concat_of_not hn], hr⟩

/-- Every pending request belongs to a live task, the newest of its document. -/
def Owned (s : State) (j : Journal) : Prop :=
  ∀ identifier generation, s.pending.generation? identifier = some generation →
    ∃ t ∈ s.tasks,
      t.ticket.identifier = identifier ∧ t.ticket.generation = generation ∧ Newest j t

theorem not_requests_of_deed
    {n : Note}
    (h : n.deed.isRequest = false)
    (identifier : String) :
    n.requests identifier = false := by
  simp [Note.requests, h]

/-- The newest request owns the entry of its document. -/
theorem Owned.enlist
    (h : Owned s.reload j)
    (path : Path)
    (identifier : String) :
    Owned (s.reload.enlist path identifier) (j ++ [s.requestNote path identifier]) := by
  intro about generation hpending
  by_cases hid : about = identifier
  · subst hid
    rw [State.generation?_enlist_self] at hpending
    cases hpending
    have hr := requestOf_requestNote s path about
    exact ⟨s.reload.nextTask path about, by simp, rfl, rfl, _,
      getLast?_requests_concat (s.requests_requestNote path about) j, hr⟩
  · rw [State.generation?_enlist_of_ne hid] at hpending
    obtain ⟨t, ht, rfl, rfl, hnewest⟩ := h about generation hpending
    refine ⟨t, by simp [ht], rfl, rfl, hnewest.concat ?_⟩
    simp [Note.requests, Machine.requestNote, Machine.note, State.nextTask, Ne.symm hid]

/-- A task that goes on leaves all entries to their owners. -/
theorem Owned.advance
    {t : Task}
    {m : Move}
    {phase : Phase}
    {deed : Option Deed}
    (h : Owned s.reload j)
    (ht : t ∈ s.reload.tasks)
    (hadvance : Machine.Advance c s t m phase deed) :
    Owned (s.reload.setPhase t phase) (j ++ (deed.map fun d => s.note t d []).toList) := by
  intro identifier generation hpending
  obtain ⟨u, hu, rfl, rfl, hnewest⟩ := h identifier generation hpending
  have hkept : Newest (j ++ (deed.map fun d => s.note t d []).toList) u :=
    hnewest.append fun n hn =>
      not_requests_of_deed (Machine.not_isRequest_of_advance hadvance n hn) _
  by_cases hnumber : u.number = t.number
  · obtain rfl := State.eq_of_number_eq hu ht hnumber
    obtain ⟨r, hlast, hr⟩ := hkept
    exact ⟨_, (State.mem_setPhase ht).2 (.inl rfl), rfl, rfl, r, hlast,
      ⟨hr.task, hr.identifier, hr.deed⟩⟩
  · exact ⟨u, (State.mem_setPhase ht).2 (.inr ⟨hu, hnumber⟩), rfl, rfl, hkept⟩

/-- A task ends without a request of its own, and without that of another task. -/
theorem Owned.settle
    {t : Task}
    {n : Note}
    (h : Owned s.reload j)
    (ht : t ∈ s.reload.tasks)
    (hn : n.deed.isRequest = false) :
    Owned (s.reload.settle t).1 (j ++ [n]) := by
  intro identifier generation hpending
  obtain ⟨hbefore, hother⟩ := State.not_own_of_settle hpending
  obtain ⟨u, hu, rfl, rfl, hnewest⟩ := h identifier generation hbefore
  refine ⟨u, State.mem_settle.2 ⟨hu, ?_⟩, rfl, rfl, hnewest.concat (not_requests_of_deed hn _)⟩
  intro hnumber
  obtain rfl := State.eq_of_number_eq hu ht hnumber
  exact hother ⟨rfl, rfl⟩

/-- Every step leaves each entry to the task whose request wrote it last. -/
theorem owned_step
    (h : Machine.Step c s a s' note)
    (howned : Owned s.reload j) :
    Owned s'.reload (j ++ note.toList) := by
  have hplain : ∀ n : Note, n.deed.isRequest = false → Owned s.reload (j ++ [n]) := by
    intro n hn identifier generation hpending
    obtain ⟨t, ht, rfl, rfl, hnewest⟩ := howned identifier generation hpending
    exact ⟨t, ht, rfl, rfl, hnewest.concat (not_requests_of_deed hn _)⟩
  cases h with
  | pass span => simpa using howned
  | nameless hname => simpa using howned
  | request hname => exact howned.enlist _ _
  | advance ht hadvance => exact howned.advance ht hadvance
  | depart ht hdepart =>
      exact howned.settle ht (Machine.not_isRequest_of_departure hdepart)
  | commit result moment ht hphase hcurrent => exact howned.settle ht rfl
  | put n => exact hplain _ rfl
  | setContents hset => exact hplain _ rfl
  | refused hset => simpa using howned

end Steps

section Runs

variable {c : Setup} {now : Nat} {store : Store} {s : Machine} {j : Journal}

/-- What is pending can be read off the journal. -/
theorem pending_eq
    (h : Runs (Machine.step? c) (Machine.opened now store) s j)
    (identifier : String) :
    s.reload.pending.generation? identifier = generation? identifier j := by
  induction h with
  | refl => rfl
  | step _ hstep ih => exact pending_step (Machine.step_of_step? hstep) ih

/-- Every live task answers a request, which was the newest pending one when it was
noted. -/
theorem exists_request
    (h : Runs (Machine.step? c) (Machine.opened now store) s j) :
    ∀ t ∈ s.reload.tasks, ∃ before r after,
      j = before ++ r :: after ∧ RequestOf t r
        ∧ generation? t.ticket.identifier (before ++ [r]) = some t.ticket.generation := by
  induction h with
  | refl =>
      intro t ht
      simp [Machine.opened, State.initial] at ht
  | step hrun hstep ih =>
      exact request_step (Machine.step_of_step? hstep) ih (pending_eq hrun)

theorem owned
    (h : Runs (Machine.step? c) (Machine.opened now store) s j) :
    Owned s.reload j := by
  induction h with
  | refl =>
      intro identifier generation hpending
      cases hpending
  | step _ hstep ih => exact owned_step (Machine.step_of_step? hstep) ih

/-- **Nothing pending is left behind.**  Every pending request belongs to a live task, the
one that answers the last request for the document.  Without a live task of a document
nothing is pending for it, and without any live task nothing is pending at all. -/
theorem pending_owned
    (h : Runs (Machine.step? c) (Machine.opened now store) s j) :
    (∀ identifier generation, (identifier, generation) ∈ s.reload.pending.entries →
        ∃ t ∈ s.reload.tasks, ∃ r,
          t.ticket.identifier = identifier ∧ t.ticket.generation = generation
            ∧ (requests identifier j).getLast? = some r ∧ RequestOf t r)
      ∧ (∀ identifier, identifier ∉ s.documents →
          ∀ generation, (identifier, generation) ∉ s.reload.pending.entries)
      ∧ (s.reload.tasks = [] → s.reload.pending.entries = []) := by
  have hentry : ∀ identifier generation, (identifier, generation) ∈ s.reload.pending.entries →
      ∃ t ∈ s.reload.tasks, ∃ r,
        t.ticket.identifier = identifier ∧ t.ticket.generation = generation
          ∧ (requests identifier j).getLast? = some r ∧ RequestOf t r := by
    intro identifier generation hmem
    obtain ⟨t, ht, rfl, rfl, r, hlast, hr⟩ :=
      owned h identifier generation (Pending.generation?_of_mem hmem)
    exact ⟨t, ht, r, rfl, rfl, hlast, hr⟩
  refine ⟨hentry, ?_, ?_⟩
  · intro identifier hidle generation hmem
    obtain ⟨t, ht, _, hid, _⟩ := hentry identifier generation hmem
    exact hidle (Machine.mem_documents.2 ⟨t, ht, hid⟩)
  · intro hnone
    refine List.eq_nil_iff_forall_not_mem.2 ?_
    rintro ⟨identifier, generation⟩ hmem
    obtain ⟨t, ht, _⟩ := hentry identifier generation hmem
    rw [hnone] at ht
    cases ht

end Runs

/-- A reload is committed while a newer one waits, and a third one is asked for. -/
def awaiting : List Action :=
  [.request [0x61], .move 0 .rest, .pass 100, .move 0 .rouse, .move 0 (.look true), .move 0 .start,
    .move 0 (.finish (.ok .null) ⟨1, 0⟩), .request [0x61], .move 1 .rest, .request [0x61]]

def awaitingNotes : Journal :=
  [⟨0, "a", some 0, .requested 1 [0x61], []⟩, ⟨100, "a", some 0, .started [0x61], []⟩,
    ⟨100, "a", some 0, .committed, [⟨.created, "a"⟩]⟩,
    ⟨100, "a", some 1, .requested 1 [0x61], []⟩, ⟨100, "a", some 2, .requested 2 [0x61], []⟩]

theorem pending_owned_awaiting :
    ∃ s, Runs (Machine.step? ⟨"ann", 100⟩) (Machine.opened 0 .empty) s awaitingNotes
      ∧ s.reload.pending.entries = [("a", 2)]
      ∧ (∀ identifier generation, (identifier, generation) ∈ s.reload.pending.entries →
          ∃ t ∈ s.reload.tasks, ∃ r,
            t.ticket.identifier = identifier ∧ t.ticket.generation = generation
              ∧ (requests identifier awaitingNotes).getLast? = some r ∧ RequestOf t r)
      ∧ (∀ identifier, identifier ∉ s.documents →
          ∀ generation, (identifier, generation) ∉ s.reload.pending.entries)
      ∧ (s.reload.tasks = [] → s.reload.pending.entries = []) := by
  have hrun : (run? (Machine.step? ⟨"ann", 100⟩) (Machine.opened 0 .empty) awaiting).map
      (fun r => (r.1.reload.pending.entries, r.2)) = some ([("a", 2)], awaitingNotes) := by decide
  obtain ⟨s, h, hentries⟩ := exists_runs_of_run? (fun m : Machine => m.reload.pending.entries) hrun
  exact ⟨s, h, hentries, pending_owned h⟩

end Reload
end LiveNotebooks
