import LiveNotebooks.Proofs.Reload.Machine

/-!
# The story of a task

What is noted of a task begins with the request that it answers.  While the task is alive
its phase tells the rest, and once it has ended there are four ways how.

**Results.**
* `told`: the journal and the live tasks tell the same.
* `numbers_eq_range`: tasks are numbered in the order of the requests.
* `requested_pairwise`: every request is answered with a task of its own.
-/

namespace LiveNotebooks
namespace Reload

open Journal

/-- What has been noted of a live task. -/
def Task.told (t : Task) : List (String × Deed) :=
  (t.ticket.identifier, .requested t.ticket.generation t.ticket.path) ::
    match t.phase with
    | .leaving => [(t.ticket.identifier, .gone)]
    | .converting => [(t.ticket.identifier, .started t.ticket.path)]
    | _ => []

/-- What is noted of a task of a document that has ended. -/
inductive Ended (identifier : String) : List (String × Deed) → Prop
  | superseded
      (generation : Nat)
      (path : Path) :
      Ended identifier [(identifier, .requested generation path), (identifier, .superseded)]
  | gone
      (generation : Nat)
      (path : Path)
      (withdrawn : Bool) :
      Ended identifier
        [(identifier, .requested generation path), (identifier, .gone),
          (identifier, .left withdrawn)]
  | stale
      (generation : Nat)
      (path : Path) :
      Ended identifier
        [(identifier, .requested generation path), (identifier, .started path),
          (identifier, .stale)]
  | committed
      (generation : Nat)
      (path : Path) :
      Ended identifier
        [(identifier, .requested generation path), (identifier, .started path),
          (identifier, .committed)]

/-- What is noted of a task is on its document. -/
theorem identifier_of_mem_told
    {t : Task} :
    ∀ entry ∈ t.told, entry.1 = t.ticket.identifier := by
  unfold Task.told
  split <;> simp

theorem Ended.identifier_of_mem
    {identifier : String}
    {story : List (String × Deed)}
    (h : Ended identifier story) :
    ∀ entry ∈ story, entry.1 = identifier := by
  cases h <;> simp

namespace Journal

theorem story_append
    (number : Nat)
    (j k : Journal) :
    story number (j ++ k) = story number j ++ story number k := by
  simp [story]

theorem story_concat_self
    {number : Nat}
    {n : Note}
    (h : n.task = some number)
    (j : Journal) :
    story number (j ++ [n]) = story number j ++ [(n.identifier, n.deed)] := by
  simp [story, h]

theorem story_concat_of_ne
    {number : Nat}
    {n : Note}
    (h : n.task ≠ some number)
    (j : Journal) :
    story number (j ++ [n]) = story number j := by
  simp [story, h]

/-- A note on one task tells nothing of another. -/
theorem story_concat_of_other
    {number other : Nat}
    {n : Note}
    (hn : n.task = some other)
    (hne : number ≠ other)
    (j : Journal) :
    story number (j ++ [n]) = story number j := by
  refine story_concat_of_ne ?_ j
  rw [hn]
  exact fun htask => hne (Option.some.inj htask).symm

theorem mem_story
    {number : Nat}
    {identifier : String}
    {deed : Deed}
    {j : Journal} :
    (identifier, deed) ∈ story number j
      ↔ ∃ n ∈ j, n.task = some number ∧ n.identifier = identifier ∧ n.deed = deed := by
  simp [story, and_assoc]

end Journal

/-- The journal tells of every task what its phase does, and how it has ended if it has. -/
structure Told (s : State) (j : Journal) : Prop where
  alive : ∀ t ∈ s.tasks, story t.number j = t.told
  ended : ∀ number < s.count, (∀ t ∈ s.tasks, t.number ≠ number) →
    ∃ identifier, Ended identifier (story number j)
  unborn : ∀ number, s.count ≤ number → story number j = []

section Steps

variable {c : Setup} {s s' : Machine} {a : Action} {note : Option Note} {j : Journal} {t : Task}

/-- A write of a client tells nothing of a task. -/
theorem Told.write
    (h : Told s.reload j)
    (event : Store.Event) :
    Told s.reload (j ++ [s.writeNote event]) := by
  have hsame : ∀ number, story number (j ++ [s.writeNote event]) = story number j := by
    intro number
    exact story_concat_of_ne (by simp [Machine.writeNote]) j
  constructor
  · intro t ht
    rw [hsame]
    exact h.alive t ht
  · intro number hnumber hdead
    rw [hsame]
    exact h.ended number hnumber hdead
  · intro number hnumber
    rw [hsame]
    exact h.unborn number hnumber

/-- A step that is about one task keeps what is told of the others. -/
theorem Told.touch
    {before after : State}
    {k : Journal}
    {number : Nat}
    (h : Told before j)
    (hstory : ∀ other, other ≠ number → story other k = story other j)
    (htasks : ∀ u : Task, u.number ≠ number → (u ∈ after.tasks ↔ u ∈ before.tasks))
    (hcount : ∀ other < after.count, other ≠ number → other < before.count)
    (hnumber : number < after.count)
    (hle : before.count ≤ after.count)
    (halive : ∀ u ∈ after.tasks, u.number = number → story number k = u.told)
    (hended : (∀ u ∈ after.tasks, u.number ≠ number) →
      ∃ identifier, Ended identifier (story number k)) :
    Told after k where
  alive := by
    intro u hu
    by_cases he : u.number = number
    · rw [he]
      exact halive u hu he
    · rw [hstory u.number he]
      exact h.alive u ((htasks u he).1 hu)
  ended := by
    intro other hother hdead
    by_cases he : other = number
    · subst he
      exact hended hdead
    · rw [hstory other he]
      refine h.ended other (hcount other hother he) fun u hu hun => ?_
      have hne : u.number ≠ number := by rwa [hun]
      exact hdead u ((htasks u hne).2 hu) hun
  unborn := by
    intro other hother
    have hne : other ≠ number := by omega
    rw [hstory other hne]
    exact h.unborn other (Nat.le_trans hle hother)

/-- The story of a task begins with its request. -/
theorem Told.enlist
    (h : Told s.reload j)
    (path : Path)
    (identifier : String) :
    Told (s.reload.enlist path identifier) (j ++ [s.requestNote path identifier]) := by
  refine h.touch (fun other hne => story_concat_of_other rfl hne j) ?_ ?_
    (Nat.lt_succ_self s.reload.count) (Nat.le_succ s.reload.count) ?_ ?_
  · intro u hne
    rw [State.mem_enlist]
    constructor
    · rintro (hu | rfl)
      · exact hu
      · exact absurd rfl hne
    · exact .inl
  · intro other hother hne
    have hle : other < s.reload.count + 1 := hother
    omega
  · intro u hu hnumber
    rcases State.mem_enlist.1 hu with hu | rfl
    · exact absurd hnumber (Nat.ne_of_lt (s.reload.bounded u hu))
    · have hnone := h.unborn s.reload.count (Nat.le_refl s.reload.count)
      rw [story_concat_self rfl, hnone]
      rfl
  · intro hdead
    exact absurd rfl (hdead (s.reload.nextTask path identifier) (by simp))

/-- A task in a new phase has been told what was told before and what is noted. -/
theorem told_advance
    {m : Move}
    {phase : Phase}
    {deed : Option Deed}
    (h : Machine.Advance c s t m phase deed) :
    Task.told { t with phase := phase }
      = t.told ++ deed.toList.map (Prod.mk t.ticket.identifier) := by
  cases h with
  | rest hphase => simp [Task.told, hphase]
  | rouse hphase hdue hcurrent => simp [Task.told, hphase]
  | see hphase => simp [Task.told, hphase]
  | miss hphase => simp [Task.told, hphase]
  | start hphase => simp [Task.told, hphase]

/-- A task that goes on adds to its own story. -/
theorem Told.advance
    {m : Move}
    {phase : Phase}
    {deed : Option Deed}
    (h : Told s.reload j)
    (ht : t ∈ s.reload.tasks)
    (hadvance : Machine.Advance c s t m phase deed) :
    Told (s.reload.setPhase t phase) (j ++ (deed.map fun d => s.note t d []).toList) := by
  have hself : story t.number (j ++ (deed.map fun d => s.note t d []).toList)
      = story t.number j ++ deed.toList.map (Prod.mk t.ticket.identifier) := by
    cases deed with
    | none => simp
    | some d => exact story_concat_self rfl j
  have hother : ∀ number, number ≠ t.number →
      story number (j ++ (deed.map fun d => s.note t d []).toList) = story number j := by
    intro number hne
    cases deed with
    | none => simp
    | some d => exact story_concat_of_other rfl hne j
  refine h.touch hother ?_ (fun _ hlt _ => hlt) (s.reload.bounded t ht) (Nat.le_refl _) ?_ ?_
  · intro u hne
    rw [State.mem_setPhase ht]
    constructor
    · rintro (rfl | ⟨hu, _⟩)
      · exact absurd rfl hne
      · exact hu
    · exact fun hu => .inr ⟨hu, hne⟩
  · intro u hu hnumber
    rcases (State.mem_setPhase ht).1 hu with rfl | ⟨_, hne⟩
    · rw [hself, told_advance hadvance, h.alive t ht]
    · exact absurd hnumber hne
  · intro hdead
    exact absurd rfl (hdead { t with phase := phase } ((State.mem_setPhase ht).2 (.inl rfl)))

/-- A task that settles has ended, with the note that is taken. -/
theorem Told.settle
    {n : Note}
    (h : Told s.reload j)
    (ht : t ∈ s.reload.tasks)
    (hn : n.task = some t.number)
    (hended : Ended t.ticket.identifier (t.told ++ [(n.identifier, n.deed)])) :
    Told (s.reload.settle t).1 (j ++ [n]) := by
  have hcount : (s.reload.settle t).1.count = s.reload.count := State.count_settle s.reload t
  refine h.touch (fun other hne => story_concat_of_other hn hne j) ?_ ?_ ?_
    (Nat.le_of_eq hcount.symm) ?_ ?_
  · intro u hne
    rw [State.mem_settle]
    exact ⟨fun hu => hu.1, fun hu => ⟨hu, hne⟩⟩
  · intro other hlt _
    rwa [hcount] at hlt
  · rw [hcount]
    exact s.reload.bounded t ht
  · intro u hu hnumber
    exact absurd hnumber (State.mem_settle.1 hu).2
  · intro _
    rw [story_concat_self hn, h.alive t ht]
    exact ⟨t.ticket.identifier, hended⟩

/-- Every step tells the stories of all tasks on. -/
theorem told_step
    (h : Machine.Step c s a s' note)
    (htold : Told s.reload j) :
    Told s'.reload (j ++ note.toList) := by
  cases h with
  | pass span => simpa using htold
  | nameless hname => simpa using htold
  | request hname => exact htold.enlist _ _
  | advance ht hadvance => exact htold.advance ht hadvance
  | @depart t m deed ht hdepart =>
      refine htold.settle ht rfl ?_
      cases hdepart with
      | superseded hphase hcurrent =>
          rw [Task.told, hphase]
          exact .superseded t.ticket.generation t.ticket.path
      | left hphase =>
          rw [Task.told, hphase]
          exact .gone t.ticket.generation t.ticket.path _
      | stale result moment hphase hcurrent =>
          rw [Task.told, hphase]
          exact .stale t.ticket.generation t.ticket.path
  | @commit t result moment ht hphase hcurrent =>
      refine htold.settle ht rfl ?_
      rw [Task.told, hphase]
      exact .committed t.ticket.generation t.ticket.path
  | put n => exact htold.write _
  | setContents hset => exact htold.write _
  | refused hset => simpa using htold

/-- Tasks are never numbered anew. -/
theorem count_step
    (h : Machine.Step c s a s' note) :
    s.reload.count ≤ s'.reload.count := by
  cases h with
  | pass span => exact Nat.le_refl _
  | nameless hname => exact Nat.le_refl _
  | request hname => exact Nat.le_succ _
  | advance ht hadvance => exact Nat.le_refl _
  | @depart t m deed ht hdepart => exact Nat.le_of_eq (State.count_settle s.reload t).symm
  | @commit t result moment ht hphase hcurrent =>
      exact Nat.le_of_eq (State.count_settle s.reload t).symm
  | put n => exact Nat.le_refl _
  | setContents hset => exact Nat.le_refl _
  | refused hset => exact Nat.le_refl _

/-- The note of a request is on the next task. -/
theorem requestNote_of_isRequest
    {n : Note}
    (h : Machine.Step c s a s' (some n))
    (hrequest : n.deed.isRequest = true) :
    s'.reload.count = s.reload.count + 1 ∧ n.task = some s.reload.count := by
  generalize hnote : some n = note at h
  cases h with
  | pass span => cases hnote
  | nameless hname => cases hnote
  | request hname =>
      cases hnote
      exact ⟨rfl, rfl⟩
  | advance ht hadvance => cases hadvance <;> cases hnote <;> cases hrequest
  | depart ht hdepart => cases hdepart <;> cases hnote <;> cases hrequest
  | commit result moment ht hphase hcurrent =>
      cases hnote
      cases hrequest
  | put n =>
      cases hnote
      cases hrequest
  | setContents hset =>
      cases hnote
      cases hrequest
  | refused hset => cases hnote

/-- The tasks are numbered in the order of their requests. -/
theorem numbers_step
    (h : Machine.Step c s a s' note)
    (hnumbers : numbers j = List.range s.reload.count) :
    numbers (j ++ note.toList) = List.range s'.reload.count := by
  have hplain : ∀ n : Note, n.deed.isRequest = false →
      numbers (j ++ [n]) = List.range s.reload.count := by
    intro n hn
    rw [← hnumbers]
    simp [numbers, Note.requested?, hn]
  cases h with
  | pass span => simpa using hnumbers
  | nameless hname => simpa using hnumbers
  | @request path identifier hname =>
      simp only [State.enlist, List.range_succ, ← hnumbers]
      simp [numbers, Note.requested?, Machine.requestNote, Machine.note, State.nextTask,
        Deed.isRequest]
  | @advance t m phase deed ht hadvance =>
      cases deed with
      | none => simpa [State.setPhase] using hnumbers
      | some d => exact hplain _ (Machine.not_isRequest_of_advance hadvance _ rfl)
  | depart ht hdepart =>
      simp only [State.count_settle]
      exact hplain _ (Machine.not_isRequest_of_departure hdepart)
  | commit result moment ht hphase hcurrent =>
      simp only [State.count_settle]
      exact hplain _ rfl
  | put n => exact hplain _ rfl
  | setContents hset => exact hplain _ rfl
  | refused hset => simpa using hnumbers

end Steps

section Runs

variable {c : Setup} {now : Nat} {store : Store} {s : Machine} {j : Journal}

theorem count_le
    {start : Machine}
    (h : Runs (Machine.step? c) start s j) :
    start.reload.count ≤ s.reload.count := by
  induction h with
  | refl => exact Nat.le_refl _
  | step _ hstep ih => exact Nat.le_trans ih (count_step (Machine.step_of_step? hstep))

/-- The journal and the live tasks tell the same. -/
theorem told
    (h : Runs (Machine.step? c) (Machine.opened now store) s j) :
    Told s.reload j := by
  induction h with
  | refl =>
      constructor
      · intro t ht
        cases ht
      · intro number hnumber
        cases hnumber
      · intro number _
        rfl
  | step _ hstep ih => exact told_step (Machine.step_of_step? hstep) ih

/-- Tasks are numbered in the order of the requests. -/
theorem numbers_eq_range
    (h : Runs (Machine.step? c) (Machine.opened now store) s j) :
    numbers j = List.range s.reload.count := by
  induction h with
  | refl => rfl
  | step _ hstep ih => exact numbers_step (Machine.step_of_step? hstep) ih

/-- Every request is answered with a task of its own. -/
theorem requested_pairwise
    (h : Runs (Machine.step? c) (Machine.opened now store) s j) :
    j.Pairwise fun r q =>
      ∀ number, r.requested? = some number → ∀ other, q.requested? = some other →
        number ≠ other := by
  have hnodup : (numbers j).Nodup := by
    rw [numbers_eq_range h]
    exact List.nodup_range
  exact List.pairwise_filterMap.1 hnodup

end Runs

end Reload
end LiveNotebooks
