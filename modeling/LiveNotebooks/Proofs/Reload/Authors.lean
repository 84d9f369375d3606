import LiveNotebooks.Proofs.Reload.Document
import LiveNotebooks.Proofs.Reload.Story

/-!
# Who commits

Every note on a task is on the document of the request that the task answers, and a task
commits once at most.  What is not noted is not stored.

**Results.**
* `exists_request_of_note`: the request behind a note.
* `commits_nodup`: no task commits twice.
* `find?_of_not_noted`: a document without notes stays as it is.
-/

namespace LiveNotebooks
namespace Reload

open Journal

/-- What is told of a task begins with a request for its document. -/
def BeginsWithRequest (story : List (String × Deed)) : Prop :=
  ∀ entry ∈ story, ∃ generation path, (entry.1, Deed.requested generation path) ∈ story

theorem beginsWithRequest_told
    (t : Task) :
    BeginsWithRequest t.told := by
  intro entry hentry
  rw [identifier_of_mem_told entry hentry]
  exact ⟨_, _, List.mem_cons_self⟩

theorem Ended.beginsWithRequest
    {identifier : String}
    {story : List (String × Deed)}
    (h : Ended identifier story) :
    BeginsWithRequest story := by
  intro entry hentry
  rw [h.identifier_of_mem entry hentry]
  cases h <;> exact ⟨_, _, List.mem_cons_self⟩

/-- A task that has committed is not alive. -/
theorem not_committed_of_told
    {t : Task}
    {identifier : String} :
    (identifier, Deed.committed) ∉ t.told := by
  unfold Task.told
  split <;> simp

section Runs

variable {c : Setup} {now : Nat} {store : Store} {start s : Machine} {j : Journal}

/-- Before the notes on a task there is the request that it answers, for the same document. -/
theorem exists_request_of_note
    {n : Note}
    {number : Nat}
    (h : Runs (Machine.step? c) (Machine.opened now store) s j)
    (hn : n ∈ j)
    (htask : n.task = some number) :
    ∃ r ∈ j, r.task = some number ∧ r.identifier = n.identifier
      ∧ ∃ generation path, r.deed = .requested generation path := by
  have htold := told h
  have hmem : (n.identifier, n.deed) ∈ story number j := mem_story.2 ⟨n, hn, htask, rfl, rfl⟩
  have hbegins : BeginsWithRequest (story number j) := by
    by_cases halive : ∃ t ∈ s.reload.tasks, t.number = number
    · obtain ⟨t, ht, rfl⟩ := halive
      rw [htold.alive t ht]
      exact beginsWithRequest_told t
    · by_cases hcount : number < s.reload.count
      · obtain ⟨identifier, hended⟩ := htold.ended number hcount fun t ht he => halive ⟨t, ht, he⟩
        exact hended.beginsWithRequest
      · rw [htold.unborn number (Nat.le_of_not_lt hcount)] at hmem
        cases hmem
  obtain ⟨generation, path, hrequest⟩ := hbegins _ hmem
  obtain ⟨r, hr, hrtask, hrid, hdeed⟩ := mem_story.1 hrequest
  exact ⟨r, hr, hrtask, hrid, generation, path, hdeed⟩

/-- The notes on commits. -/
def commits (j : Journal) : Journal := j.filter fun n => n.deed = .committed

theorem mem_commits
    {n : Note} :
    n ∈ commits j ↔ n ∈ j ∧ n.deed = .committed := by
  simp [commits]

theorem commits_append_of_not
    {note : Option Note}
    (h : ∀ n ∈ note, n.deed ≠ .committed)
    (j : Journal) :
    commits (j ++ note.toList) = commits j := by
  cases note with
  | none => simp
  | some n => simp [commits, h n rfl]

/-- No task commits twice. -/
theorem commits_nodup
    (h : Runs (Machine.step? c) (Machine.opened now store) s j) :
    ((commits j).map Note.task).Nodup := by
  induction h with
  | refl => exact List.nodup_nil
  | @step s s' j a note hrun hstep ih =>
      have hplain : (∀ n ∈ note, n.deed ≠ .committed) →
          ((commits (j ++ note.toList)).map Note.task).Nodup := by
        intro hnot
        rw [commits_append_of_not hnot]
        exact ih
      cases Machine.step_of_step? hstep with
      | @commit t result moment ht hphase hcurrent =>
          have hnew : some t.number ∉ (commits j).map Note.task := by
            intro hmem
            obtain ⟨n, hn, htask⟩ := List.mem_map.1 hmem
            obtain ⟨hn, hdeed⟩ := mem_commits.1 hn
            have hstory := mem_story.2 ⟨n, hn, htask, rfl, hdeed⟩
            rw [(told hrun).alive t ht] at hstory
            exact not_committed_of_told hstory
          have hcommits : commits (j ++ [s.note t .committed
              [(s.store.put (Machine.document c t result moment)).2]])
              = commits j ++ [s.note t .committed
                [(s.store.put (Machine.document c t result moment)).2]] := by
            simp [commits, Machine.note]
          rw [Option.toList_some, hcommits, List.map_append]
          refine List.nodup_append.2 ⟨ih, by simp, fun number hold other hcommit he => ?_⟩
          obtain rfl : other = some t.number := by simpa [Machine.note] using hcommit
          exact hnew (he ▸ hold)
      | advance ht hadvance =>
          refine hplain fun n hn => ?_
          cases hadvance <;> cases hn <;> simp [Machine.note]
      | depart ht hdepart =>
          refine hplain fun n hn => ?_
          cases hn
          cases hdepart <;> simp [Machine.note]
      | request hname =>
          refine hplain fun n hn => ?_
          cases hn
          simp [Machine.requestNote, Machine.note]
      | put n => exact hplain fun m hm => by cases hm; simp [Machine.writeNote]
      | setContents hset => exact hplain fun m hm => by cases hm; simp [Machine.writeNote]
      | _ => exact hplain fun n hn => by cases hn

/-- A document without notes stays as it is. -/
theorem find?_of_not_noted
    {identifier : String}
    (h : Runs (Machine.step? c) start s j)
    (hnone : ∀ n ∈ j, n.identifier ≠ identifier) :
    s.store.find? identifier = start.store.find? identifier := by
  induction h with
  | refl => rfl
  | @step s s' j a note hrun hstep ih =>
      have hbefore := ih fun n hn => hnone n (List.mem_append_left _ hn)
      have hnote : ∀ n ∈ note, n.identifier ≠ identifier := fun n hn =>
        hnone n (List.mem_append_right _ (Option.mem_toList.2 hn))
      cases step_about (Machine.step_of_step? hstep) identifier with
      | elsewhere helsewhere => exact (helsewhere.store hnote).trans hbefore
      | request hname => exact hbefore
      | advance ht hid hadvance => exact hbefore
      | depart ht hid hdepart => exact hbefore
      | commit result moment ht hid hphase hcurrent => exact absurd hid (hnote _ rfl)

end Runs

end Reload
end LiveNotebooks
