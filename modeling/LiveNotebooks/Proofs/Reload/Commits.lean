import LiveNotebooks.Proofs.Reload.Pending
import LiveNotebooks.Proofs.Reload.Story

/-!
# Commits of the newest request

A conversion is stored when the generation of its task is the pending one.  Generations
begin anew whenever a request is taken off, so a task can meet its own number again in a
request that is newer than its own.

**Results.**
* `commit_newest_iff`: a commit is of the newest request just when no request of the
  document was taken off since the task was asked for.
* `exists_commit_overtaken`: a task that has been overtaken twice can still commit.
-/

namespace LiveNotebooks
namespace Reload

open Journal

section

variable {c : Setup} {now : Nat} {store : Store} {s : Machine} {j : Journal}

/-- A task answers no second request. -/
theorem requested_once
    {before after : Journal}
    {r : Note}
    {number : Nat}
    (h : Runs (Machine.step? c) (Machine.opened now store) s (before ++ r :: after))
    (hr : r.requested? = some number) :
    ∀ n ∈ before ++ after, n.deed.isRequest = true → n.task ≠ some number := by
  intro n hn hrequest htask
  have hother : n.requested? = some number := Note.requested?_eq_some_iff.2 ⟨hrequest, htask⟩
  obtain ⟨_, hafter, hbefore⟩ := List.pairwise_append.1 (requested_pairwise h)
  rcases List.mem_append.1 hn with hn | hn
  · exact hbefore n hn r (by simp) number hother number hr rfl
  · exact (List.pairwise_cons.1 hafter).1 n hn number hr number hother rfl

/-- While its generation is pending, a task is the newest of its document just when no
request was taken off since its own. -/
theorem newest_iff_no_clears
    {identifier : String}
    {between : Journal}
    {generation : Nat}
    (h : between.foldl (count identifier) (some generation) = some generation) :
    (∀ n ∈ between, n.requests identifier = false)
      ↔ ∀ n ∈ between, n.clears identifier = false := by
  constructor
  · intro hrequests
    exact no_clears_of_foldl_count hrequests h
  · intro hclears n hn
    rw [foldl_count_of_no_clears hclears] at h
    have hlength : (requests identifier between).length = 0 := by
      have := Option.some.inj h
      omega
    have hnone := List.filter_eq_nil_iff.1 (List.length_eq_zero_iff.1 hlength) n hn
    simpa using hnone

/-- Between two notes that take a request off there is a request. -/
theorem exists_request_between
    {identifier : String}
    {before between after : Journal}
    {k m : Note}
    (h : Runs (Machine.step? c) (Machine.opened now store) s
      (before ++ k :: (between ++ m :: after)))
    (hk : k.clears identifier = true)
    (hm : m.clears identifier = true) :
    ∃ n ∈ between, n.requests identifier = true := by
  by_cases hrequest : ∃ n ∈ between, n.requests identifier = true
  · exact hrequest
  · exfalso
    have hnone : ∀ n ∈ between, n.requests identifier = false := by simpa using hrequest
    simp only [Note.clears, Bool.and_eq_true, decide_eq_true_eq] at hm
    have hsplit : before ++ k :: (between ++ m :: after)
        = (before ++ k :: between) ++ m :: after := by simp
    rw [hsplit] at h
    obtain ⟨s₁, s₂, a, hrun, hstep, _⟩ := h.split
    obtain ⟨t, ht, hcurrent, hid, _⟩ := current_of_clear (Machine.step_of_step? hstep) hm.2
    have hpending := Pending.isCurrent_iff.1 hcurrent
    rw [pending_eq hrun, ← hid, hm.1, generation?_append, List.foldl_cons] at hpending
    rw [count_of_clears hk, foldl_count_none hnone] at hpending
    cases hpending

/-- Behind the last request for a document without live tasks, exactly one note takes it
off. -/
theorem exists_only_clear
    {identifier : String}
    {before after : Journal}
    {r : Note}
    (h : Runs (Machine.step? c) (Machine.opened now store) s (before ++ r :: after))
    (hr : r.requests identifier = true)
    (hafter : ∀ n ∈ after, n.requests identifier = false)
    (hended : identifier ∉ s.documents) :
    ∃ early k late, after = early ++ k :: late ∧ k.clears identifier = true
      ∧ (∀ n ∈ early, n.clears identifier = false) ∧ ∀ n ∈ late, n.clears identifier = false := by
  have hnone : generation? identifier (before ++ r :: after) = none := by
    rw [← pending_eq h]
    cases hpending : s.reload.pending.generation? identifier with
    | none => rfl
    | some generation =>
        obtain ⟨t, ht, hid, _⟩ := owned h identifier generation hpending
        exact absurd (Machine.mem_documents.2 ⟨t, ht, hid⟩) hended
  by_cases hclears : ∃ k ∈ after, k.clears identifier = true
  · obtain ⟨k, hk, hclear⟩ := hclears
    obtain ⟨early, late, rfl⟩ := List.append_of_mem hk
    refine ⟨early, k, late, rfl, hclear, ?_, ?_⟩
    · intro n hn
      rw [Bool.eq_false_iff]
      intro hother
      obtain ⟨first, second, rfl⟩ := List.append_of_mem hn
      have hsplit : before ++ r :: ((first ++ n :: second) ++ k :: late)
          = (before ++ r :: first) ++ n :: (second ++ k :: late) := by simp
      rw [hsplit] at h
      obtain ⟨m, hm, hrequest⟩ := exists_request_between h hother hclear
      rw [hafter m (by simp [hm])] at hrequest
      cases hrequest
    · intro n hn
      rw [Bool.eq_false_iff]
      intro hother
      obtain ⟨first, second, rfl⟩ := List.append_of_mem hn
      have hsplit : before ++ r :: (early ++ k :: (first ++ n :: second))
          = (before ++ r :: early) ++ k :: (first ++ n :: second) := by simp
      rw [hsplit] at h
      obtain ⟨m, hm, hrequest⟩ := exists_request_between h hclear hother
      rw [hafter m (by simp [hm])] at hrequest
      cases hrequest
  · exfalso
    have hkept : ∀ n ∈ after, n.clears identifier = false := by simpa using hclears
    have hsplit : before ++ r :: after = (before ++ [r]) ++ after := by simp
    rw [hsplit, generation?_append, generation?_concat, count_of_requests hr,
      foldl_count_of_no_clears hkept] at hnone
    cases hnone

/-- **When a commit is of the newest request.**  Whenever a task commits, it answers one
earlier request, and its generation is the pending one.  No newer request for the document
has been noted since its own just when no request for the document has been taken off
since, be it by the commit of another task or by a task whose file was gone. -/
theorem commit_newest_iff
    {earlier later : Journal}
    {commit : Note}
    (h : Runs (Machine.step? c) (Machine.opened now store) s (earlier ++ commit :: later))
    (hcommit : commit.deed = .committed) :
    ∃ before request between generation path,
      earlier = before ++ request :: between
        ∧ request.identifier = commit.identifier
        ∧ request.task = commit.task
        ∧ request.deed = .requested generation path
        ∧ (∀ n ∈ before ++ between, n.deed.isRequest = true → n.task ≠ commit.task)
        ∧ generation? commit.identifier earlier = some generation
        ∧ ((∀ n ∈ between, n.requests commit.identifier = false)
            ↔ ∀ n ∈ between, n.clears commit.identifier = false) := by
  obtain ⟨s₁, s₂, a, hearlier, hstep, _⟩ := h.split
  obtain ⟨t, ht, hcurrent, hidentifier, htask⟩ :=
    current_of_clear (Machine.step_of_step? hstep) (by rw [hcommit]; rfl)
  obtain ⟨before, request, between, rfl, hr, hgeneration⟩ := exists_request hearlier t ht
  have hpending : generation? t.ticket.identifier (before ++ request :: between)
      = some t.ticket.generation := by
    rw [← pending_eq hearlier]
    exact Pending.isCurrent_iff.1 hcurrent
  have hbetween : between.foldl (count t.ticket.identifier) (some t.ticket.generation)
      = some t.ticket.generation := by
    calc between.foldl (count t.ticket.identifier) (some t.ticket.generation)
        = between.foldl (count t.ticket.identifier)
            (generation? t.ticket.identifier (before ++ [request])) := by rw [hgeneration]
      _ = generation? t.ticket.identifier (before ++ request :: between) := by
          rw [← generation?_append, List.append_assoc, List.singleton_append]
      _ = some t.ticket.generation := hpending
  rw [hidentifier, htask]
  exact ⟨before, request, between, t.ticket.generation, t.ticket.path, rfl, hr.identifier,
    hr.task, hr.deed, requested_once hearlier hr.requested?_eq, hpending,
    newest_iff_no_clears hbetween⟩

end

/-- Three requests for the document `a`.  The conversion for the first lasts until the
second has been committed and the third has been made. -/
def overtaking : List Action :=
  [.request [0x61], .move 0 .rest, .pass 100, .move 0 .rouse, .move 0 (.look true), .move 0 .start,
    .request [0x61], .move 1 .rest, .pass 100, .move 1 .rouse, .move 1 (.look true), .move 1 .start,
    .move 1 (.finish (.ok .null) ⟨1, 0⟩), .request [0x61], .move 2 .rest,
    .move 0 (.finish (.ok .null) ⟨2, 0⟩)]

/-- The notes before the commit of the first task. -/
def overtakingNotes : Journal :=
  [⟨0, "a", some 0, .requested 1 [0x61], []⟩, ⟨100, "a", some 0, .started [0x61], []⟩,
    ⟨100, "a", some 1, .requested 2 [0x61], []⟩, ⟨200, "a", some 1, .started [0x61], []⟩,
    ⟨200, "a", some 1, .committed, [⟨.created, "a"⟩]⟩,
    ⟨200, "a", some 2, .requested 1 [0x61], []⟩]

/-- The note on the commit of the first task. -/
def overtakenNote : Note := ⟨200, "a", some 0, .committed, [⟨.updated, "a"⟩]⟩

theorem exists_runs_overtaking :
    ∃ s, Runs (Machine.step? ⟨"ann", 100⟩) (Machine.opened 0 .empty) s
      (overtakingNotes ++ [overtakenNote]) := by
  have hrun : (run? (Machine.step? ⟨"ann", 100⟩) (Machine.opened 0 .empty) overtaking).map
      (fun r => ((), r.2)) = some ((), overtakingNotes ++ [overtakenNote]) := by decide
  obtain ⟨s, h, _⟩ := exists_runs_of_run? (fun _ => ()) hrun
  exact ⟨s, h⟩

theorem commit_newest_iff_overtaking :
    overtakenNote.deed = .committed
      ∧ ∃ before request between generation path,
        overtakingNotes = before ++ request :: between
          ∧ request.identifier = overtakenNote.identifier
          ∧ request.task = overtakenNote.task
          ∧ request.deed = .requested generation path
          ∧ (∀ n ∈ before ++ between, n.deed.isRequest = true → n.task ≠ overtakenNote.task)
          ∧ generation? overtakenNote.identifier overtakingNotes = some generation
          ∧ ((∀ n ∈ between, n.requests overtakenNote.identifier = false)
              ↔ ∀ n ∈ between, n.clears overtakenNote.identifier = false) := by
  obtain ⟨s, hrun⟩ := exists_runs_overtaking
  exact ⟨rfl, commit_newest_iff hrun rfl⟩

/-- A commit need not be of the newest request. -/
theorem exists_commit_overtaken :
    ∃ s before request between commit newer,
      Runs (Machine.step? ⟨"ann", 100⟩) (Machine.opened 0 .empty) s
          (before ++ request :: between ++ [commit])
        ∧ commit.deed = .committed
        ∧ request.task = commit.task
        ∧ request.deed.isRequest = true
        ∧ newer ∈ between
        ∧ newer.requests commit.identifier = true := by
  obtain ⟨s, hrun⟩ := exists_runs_overtaking
  exact ⟨s, [], _, overtakingNotes.tail, overtakenNote,
    ⟨200, "a", some 2, .requested 1 [0x61], []⟩, hrun, rfl, rfl, rfl, by decide, by decide⟩

end Reload
end LiveNotebooks
