import LiveNotebooks.Proofs.Reload.Commits
import LiveNotebooks.Proofs.Reload.Desk

/-!
# What is stored of a file that is edited

After the last request for a document exactly one of its tasks commits, and what is stored
is what that task has read.  The task of the last request has read what was written last.
An older task has not, if it has begun to convert before the last write.

**Invariant.**  `Sound` says what the live tasks have read, that the task of the last
request reads what was written last, and that what is stored is what the last task to
commit has read.

**Results.**
* `sound`: every run around the file is sound.
* `stored_iff`: what is stored is what was written last just when no older task commits
  other contents after the last request.
* `exists_stored_stale`: an older task can do so.
-/

namespace LiveNotebooks
namespace Reload

open Journal

namespace Desk

/-- What is known of the tasks, the readings, the journal and the store around a file. -/
structure Sound (src : Source) (d : Desk) (j : Journal) : Prop where
  here : ∀ t ∈ d.machine.reload.tasks, t.ticket.identifier = src.identifier →
    t.phase ≠ .leaving
  unread : ∀ t ∈ d.machine.reload.tasks, t.ticket.identifier = src.identifier →
    t.phase ≠ .converting → d.readings.lookup t.number = none
  unborn : ∀ number, d.machine.reload.count ≤ number → d.readings.lookup number = none
  newest : d.asked = true → ∃ r number,
    (requests src.identifier j).getLast? = some r ∧ r.task = some number
      ∧ ∀ content, d.readings.lookup number = some content → content = d.content
  stored : ∀ k, (clears src.identifier j).getLast? = some k →
    k.deed = .committed ∧ ∃ number content,
      k.task = some number ∧ d.readings.lookup number = some content
        ∧ d.stored src = some (src.page content)

section

variable {c : Setup} {src : Source} {d d' : Desk} {note : Option Note} {j : Journal} {t : Task}

theorem lookup_read
    (d : Desk)
    (t : Task)
    (number : Nat) :
    (d.read t).lookup number
      = if t.phase = .ready ∧ number = t.number then some d.content
        else d.readings.lookup number := by
  unfold read
  by_cases hphase : t.phase = .ready
  · by_cases hnumber : number = t.number
    · simp [hphase, hnumber]
    · have hbeq : (number == t.number) = false := by simpa using hnumber
      simp [hphase, hnumber, List.lookup_cons, hbeq]
  · simp [hphase]

theorem Sound.write
    (h : Sound src d j)
    (content : Bytes) :
    Sound src { d with content := content, asked := false } j where
  here := h.here
  unread := h.unread
  unborn := h.unborn
  newest := by
    intro hasked
    cases hasked
  stored := h.stored

/-- A request adds a task that has not read the file yet. -/
theorem Sound.request
    (h : Sound src d j) :
    Sound src
      { d with
        machine := { d.machine with reload := d.machine.reload.enlist src.path src.identifier }
        asked := true }
      (j ++ [d.machine.requestNote src.path src.identifier]) where
  here := by
    intro u hu hid
    rcases State.mem_enlist.1 hu with hu | rfl
    · exact h.here u hu hid
    · simp [State.nextTask]
  unread := by
    intro u hu hid hphase
    rcases State.mem_enlist.1 hu with hu | rfl
    · exact h.unread u hu hid hphase
    · exact h.unborn d.machine.reload.count (Nat.le_refl d.machine.reload.count)
  unborn := by
    intro number hnumber
    have hlt : d.machine.reload.count < number := hnumber
    exact h.unborn number (Nat.le_of_lt hlt)
  newest := by
    intro _
    have hrequest := d.machine.requests_requestNote src.path src.identifier
    refine ⟨_, d.machine.reload.count, getLast?_requests_concat hrequest j, rfl, ?_⟩
    intro content hread
    have hnone : d.readings.lookup d.machine.reload.count = none :=
      h.unborn _ (Nat.le_refl d.machine.reload.count)
    have hsome : d.readings.lookup d.machine.reload.count = some content := hread
    rw [hnone] at hsome
    cases hsome
  stored := by
    have hrequest := d.machine.requests_requestNote src.path src.identifier
    rw [clears_concat_of_not (Note.clears_eq_false_of_requests hrequest)]
    exact h.stored

/-- A task that does not begin to convert reads nothing. -/
theorem read_of_ne
    (hphase : t.phase ≠ .ready) :
    d.read t = d.readings := by
  simp [read, hphase]

/-- What a task has read it does not read anew. -/
theorem Sound.lookup_kept
    {number : Nat}
    {content : Bytes}
    (h : Sound src d j)
    (ht : t ∈ d.machine.reload.tasks)
    (hid : t.ticket.identifier = src.identifier)
    (hread : d.readings.lookup number = some content) :
    (d.read t).lookup number = some content := by
  rw [lookup_read]
  split
  · next hboth =>
      obtain ⟨hphase, rfl⟩ := hboth
      have hnone := h.unread t ht hid (by simp [hphase])
      rw [hnone] at hread
      cases hread
  · exact hread

/-- A task goes on that stays alive. -/
theorem Sound.advance
    {m : Move}
    {moment : Instant}
    {phase : Phase}
    {deed : Option Deed}
    (h : Sound src d j)
    (ht : t ∈ d.machine.reload.tasks)
    (hid : t.ticket.identifier = src.identifier)
    (hmove : d.move? src t moment = some m)
    (hadvance : Machine.Advance c d.machine t m phase deed) :
    Sound src
      { d with
        machine := { d.machine with reload := d.machine.reload.setPhase t phase }
        readings := d.read t }
      (j ++ (deed.map fun e => d.machine.note t e []).toList) where
  here := by
    intro u hu huid
    rcases (State.mem_setPhase ht).1 hu with rfl | ⟨hu, _⟩
    · cases hadvance with
      | rest hphase => simp
      | rouse hphase hdue hcurrent => simp
      | see hphase => simp
      | miss hphase =>
          simp only [move?, hphase] at hmove
          cases hmove
      | start hphase => simp
    · exact h.here u hu huid
  unread := by
    intro u hu huid hphase
    rcases (State.mem_setPhase ht).1 hu with rfl | ⟨hu, hne⟩
    · have hbefore : t.phase ≠ .converting ∧ t.phase ≠ .ready := by
        cases hadvance <;> simp_all
      simp only [read_of_ne hbefore.2]
      exact h.unread t ht hid hbefore.1
    · simp only [lookup_read, hne, and_false, if_false]
      exact h.unread u hu huid hphase
  unborn := by
    intro number hnumber
    have hlt : t.number < number :=
      Nat.lt_of_lt_of_le (d.machine.reload.bounded t ht) hnumber
    simp only [lookup_read, Nat.ne_of_gt hlt, and_false, if_false]
    exact h.unborn number hnumber
  newest := by
    intro hasked
    obtain ⟨r, number, hlast, htask, hread⟩ := h.newest hasked
    have hnote : ∀ n ∈ deed.map fun e => d.machine.note t e [],
        n.requests src.identifier = false := fun n hn =>
      not_requests_of_deed
        (Machine.not_isRequest_of_advance hadvance n hn) src.identifier
    refine ⟨r, number, by rwa [requests_append_of_not hnote], htask, ?_⟩
    intro content hcontent
    simp only [lookup_read] at hcontent
    split at hcontent
    · exact (Option.some.inj hcontent).symm
    · exact hread content hcontent
  stored := by
    have hnote : ∀ n ∈ deed.map fun e => d.machine.note t e [],
        n.clears src.identifier = false := by
      intro n hn
      have hclear := Machine.not_isClear_of_advance hadvance n hn
      simp [Note.clears, hclear]
    rw [clears_append_of_not hnote]
    intro k hk
    obtain ⟨hdeed, number, content, htask, hread, hfound⟩ := h.stored k hk
    exact ⟨hdeed, number, content, htask, h.lookup_kept ht hid hread, hfound⟩

/-- A task of the document ends without a commit. -/
theorem Sound.depart
    {m : Move}
    {deed : Deed}
    (h : Sound src d j)
    (ht : t ∈ d.machine.reload.tasks)
    (hid : t.ticket.identifier = src.identifier)
    (hdepart : Machine.Departure d.machine t m deed) :
    Sound src
      { d with
        machine := { d.machine with reload := (d.machine.reload.settle t).1 }
        readings := d.read t }
      (j ++ [d.machine.note t deed []]) := by
  have hready : t.phase ≠ .ready := by cases hdepart <;> simp_all
  have hclear : (d.machine.note t deed []).clears src.identifier = false := by
    cases hdepart with
    | superseded hphase hcurrent => simp [Note.clears, Machine.note, Deed.isClear]
    | left hphase => exact absurd hphase (h.here t ht hid)
    | stale result moment hphase hcurrent => simp [Note.clears, Machine.note, Deed.isClear]
  have hrequest : (d.machine.note t deed []).requests src.identifier = false :=
    not_requests_of_deed (Machine.not_isRequest_of_departure hdepart) src.identifier
  rw [read_of_ne hready]
  exact
    { here := fun u hu => h.here u (State.mem_settle.1 hu).1
      unread := fun u hu => h.unread u (State.mem_settle.1 hu).1
      unborn := by
        rw [State.count_settle]
        exact h.unborn
      newest := by
        rw [requests_concat_of_not hrequest]
        exact h.newest
      stored := by
        rw [clears_concat_of_not hclear]
        exact h.stored }

/-- A task of the document commits what it has read. -/
theorem Sound.commit
    {result : ConversionResult}
    {instant moment : Instant}
    (h : Sound src d j)
    (hid : t.ticket.identifier = src.identifier)
    (hmove : d.move? src t moment = some (.finish result instant))
    (hphase : t.phase = .converting) :
    Sound src
      { d with
        machine :=
          ⟨d.machine.now, (d.machine.reload.settle t).1,
            (d.machine.store.put (Machine.document c t result instant)).1⟩
        readings := d.read t }
      (j ++
        [d.machine.note t .committed
          [(d.machine.store.put (Machine.document c t result instant)).2]]) := by
  have hready : t.phase ≠ .ready := by simp [hphase]
  obtain ⟨content, hread, hfinish⟩ : ∃ content, d.readings.lookup t.number = some content
      ∧ Move.finish (src.convert content) moment = .finish result instant := by
    simpa [move?, hphase] using hmove
  cases hfinish
  rw [read_of_ne hready]
  exact
    { here := fun u hu => h.here u (State.mem_settle.1 hu).1
      unread := fun u hu => h.unread u (State.mem_settle.1 hu).1
      unborn := by
        simp only [State.count_settle]
        exact h.unborn
      newest := by
        rw [requests_concat_of_not (not_requests_of_deed rfl src.identifier)]
        exact h.newest
      stored := by
        intro k hk
        rw [getLast?_clears_concat (by simp [Note.clears, Machine.note, hid, Deed.isClear])] at hk
        cases hk
        refine ⟨rfl, t.number, content, rfl, hread, ?_⟩
        simp only [Desk.stored, Store.find?_put]
        simp [Machine.document, Conversion.notebook, Source.page, hid] }

/-- What is nothing to the document. -/
theorem Sound.elsewhere
    {machine : Machine}
    (h : Sound src d j)
    (helse : Elsewhere src.identifier d.machine machine note)
    (hnote : ∀ n ∈ note, n.identifier ≠ src.identifier) :
    Sound src { d with machine := machine } (j ++ note.toList) where
  here := fun u hu hid => h.here u ((helse.tasks u hid).1 hu) hid
  unread := fun u hu hid => h.unread u ((helse.tasks u hid).1 hu) hid
  unborn := fun number hnumber => h.unborn number (Nat.le_trans helse.count hnumber)
  newest := by
    rw [requests_append_of_not fun n hn => by simp [Note.requests, hnote n hn]]
    exact h.newest
  stored := by
    rw [clears_append_of_not fun n hn => by simp [Note.clears, hnote n hn]]
    simp only [Desk.stored, helse.store hnote]
    exact h.stored

/-- Every step keeps what has been read and stored sound. -/
theorem sound_step
    (hstep : Step c src d d' note)
    (h : Sound src d j) :
    Sound src d' (j ++ note.toList) := by
  cases hstep with
  | write content => simpa using h.write content
  | request => exact h.request
  | turn ht hid hmove hturn =>
      cases hturn with
      | advance hadvance => exact h.advance ht hid hmove hadvance
      | depart hdepart => exact h.depart ht hid hdepart
      | commit result moment hphase hcurrent => exact h.commit hid hmove hphase
  | other helse hnote => exact h.elsewhere helse hnote

/-- Every run around the file is sound. -/
theorem sound
    {now : Nat}
    {store : Store}
    {content : Bytes}
    (h : Runs (Desk.step? c src) (Desk.opened now store content) d j) :
    Sound src d j := by
  induction h with
  | refl =>
      constructor
      · intro t ht
        cases ht
      · intro t ht
        cases ht
      · intro number _
        rfl
      · intro hasked
        cases hasked
      · intro k hk
        cases hk
  | step _ hstep ih => exact sound_step (step_of_step? hstep).1 ih

/-- The last request for the document, the only commit behind it, and what the task of that
has read. -/
structure LastCommit (src : Source) (d : Desk) (j : Journal) (request commit : Note)
    (read : Bytes) : Prop where
  split : ∃ before early late,
    j = before ++ request :: (early ++ commit :: late)
      ∧ (∀ n ∈ early ++ commit :: late, n.requests src.identifier = false)
      ∧ ∀ n ∈ early ++ late, n.identifier = src.identifier → n.deed ≠ .committed
  request : request.requests src.identifier = true
  identifier : commit.identifier = src.identifier
  deed : commit.deed = .committed
  reading : ∃ number, commit.task = some number ∧ d.readings.lookup number = some read

/-- **What is stored of an edited file.**  Take any run in which a reload has been asked for
since the last write and all tasks of the document have ended.  Behind the last request
exactly one task commits, and what is stored is what it has read.  If it is the task of the
last request, that is what was written last.  So what was written last is stored just when
that commit is of the last request, or of an older task that has read contents with the same
conversion. -/
theorem stored_iff
    {now : Nat}
    {store : Store}
    {content : Bytes}
    (h : Runs (Desk.step? c src) (Desk.opened now store content) d j)
    (hasked : d.asked = true)
    (hended : src.identifier ∉ d.machine.documents) :
    ∃ request commit read,
      LastCommit src d j request commit read
        ∧ d.stored src = some (src.page read)
        ∧ (commit.task = request.task → read = d.content)
        ∧ (d.stored src = some (src.page d.content)
            ↔ commit.task = request.task ∨ src.page read = src.page d.content) := by
  have hsound := sound h
  obtain ⟨request, newest, hlast, htask, hread⟩ := hsound.newest hasked
  obtain ⟨before, after, rfl, hrequest, hafter⟩ := exists_split_of_getLast? hlast
  have hrun := runs_machine h
  obtain ⟨early, commit, late, rfl, hclear, hearly, hlate⟩ :=
    exists_only_clear hrun hrequest hafter hended
  have hcommit : (clears src.identifier (before ++ request :: (early ++ commit :: late))).getLast?
      = some commit := by
    have hsplit : before ++ request :: (early ++ commit :: late)
        = (before ++ request :: early ++ [commit]) ++ late := by simp
    rw [hsplit, clears_append_of_forall hlate]
    exact getLast?_clears_concat hclear _
  obtain ⟨hdeed, number, content, hnumber, hlookup, hfound⟩ := hsound.stored commit hcommit
  have hid : commit.identifier = src.identifier := by
    simp only [Note.clears, Bool.and_eq_true, decide_eq_true_eq] at hclear
    exact hclear.1
  have hothers : ∀ n ∈ early ++ late, n.identifier = src.identifier → n.deed ≠ .committed := by
    intro n hn hnid hndeed
    have hclears : n.clears src.identifier = true := by
      simp [Note.clears, hnid, hndeed, Deed.isClear]
    rcases List.mem_append.1 hn with hn | hn
    · rw [hearly n hn] at hclears
      cases hclears
    · rw [hlate n hn] at hclears
      cases hclears
  have hown : commit.task = request.task → content = d.content := by
    intro he
    rw [hnumber, htask] at he
    cases he
    exact hread content hlookup
  have hcommitted : LastCommit src d (before ++ request :: (early ++ commit :: late)) request commit
      content :=
    ⟨⟨before, early, late, rfl, hafter, hothers⟩, hrequest, hid, hdeed, number, hnumber, hlookup⟩
  refine ⟨request, commit, content, hcommitted, hfound, hown, ?_⟩
  rw [hfound]
  constructor
  · intro he
    exact .inr (Option.some.inj he)
  · rintro (he | he)
    · rw [hown he]
    · rw [he]

end

end Desk

/-- A file `a`, which the converter takes as a text. -/
def letter : Source := ⟨[0x61], "a", rfl, fun content => .ok (.text (Utf8.decodeLossy content))⟩

/-- Three writes.  The conversion of the first one lasts until the second one has been
committed and a reload has been asked for the third one. -/
def editing : List Desk.Action :=
  [.write [0x31], .request, .turn 0 ⟨0, 0⟩, .other (.pass 100), .turn 0 ⟨0, 0⟩, .turn 0 ⟨0, 0⟩,
    .turn 0 ⟨0, 0⟩, .write [0x32], .request, .turn 1 ⟨0, 0⟩, .other (.pass 100), .turn 1 ⟨0, 0⟩,
    .turn 1 ⟨0, 0⟩, .turn 1 ⟨0, 0⟩, .turn 1 ⟨1, 0⟩, .write [0x33], .request, .turn 2 ⟨0, 0⟩,
    .turn 0 ⟨2, 0⟩, .other (.pass 100), .turn 2 ⟨0, 0⟩]

def editingNotes : Journal :=
  [⟨0, "a", some 0, .requested 1 [0x61], []⟩, ⟨100, "a", some 0, .started [0x61], []⟩,
    ⟨100, "a", some 1, .requested 2 [0x61], []⟩, ⟨200, "a", some 1, .started [0x61], []⟩,
    ⟨200, "a", some 1, .committed, [⟨.created, "a"⟩]⟩,
    ⟨200, "a", some 2, .requested 1 [0x61], []⟩,
    ⟨200, "a", some 0, .committed, [⟨.updated, "a"⟩]⟩, ⟨300, "a", some 2, .superseded, []⟩]

/-- The file has changed, and yet the page of its first contents is stored. -/
theorem exists_runs_editing :
    ∃ d, Runs (Desk.step? ⟨"ann", 100⟩ letter) (Desk.opened 0 .empty []) d editingNotes
      ∧ d.asked = true
      ∧ letter.identifier ∉ d.machine.documents
      ∧ d.content = [0x33]
      ∧ d.stored letter = some (letter.page [0x31]) := by
  have hrun : (run? (Desk.step? ⟨"ann", 100⟩ letter) (Desk.opened 0 .empty []) editing).map
      (fun r => ((r.1.asked, r.1.machine.documents, r.1.content, r.1.stored letter), r.2))
        = some ((true, [], [0x33], some (letter.page [0x31])), editingNotes) := rfl
  obtain ⟨d, h, hview⟩ := exists_runs_of_run?
    (fun d : Desk => (d.asked, d.machine.documents, d.content, d.stored letter)) hrun
  obtain ⟨hasked, hview⟩ := Prod.mk.inj hview
  obtain ⟨hdocuments, hview⟩ := Prod.mk.inj hview
  obtain ⟨hcontent, hstored⟩ := Prod.mk.inj hview
  refine ⟨d, h, hasked, ?_, hcontent, hstored⟩
  rw [hdocuments]
  exact List.not_mem_nil

theorem stored_iff_editing :
    ∃ d request commit read,
      Desk.LastCommit letter d editingNotes request commit read
        ∧ d.stored letter = some (letter.page read)
        ∧ (commit.task = request.task → read = d.content)
        ∧ (d.stored letter = some (letter.page d.content)
            ↔ commit.task = request.task ∨ letter.page read = letter.page d.content) := by
  obtain ⟨d, h, hasked, hended, _⟩ := exists_runs_editing
  exact ⟨d, Desk.stored_iff h hasked hended⟩

/-- What was written last need not be stored. -/
theorem exists_stored_stale :
    ∃ d j, Runs (Desk.step? ⟨"ann", 100⟩ letter) (Desk.opened 0 .empty []) d j
      ∧ d.asked = true
      ∧ letter.identifier ∉ d.machine.documents
      ∧ d.stored letter ≠ some (letter.page d.content) := by
  obtain ⟨d, h, hasked, hended, hcontent, hstored⟩ := exists_runs_editing
  refine ⟨d, editingNotes, h, hasked, hended, ?_⟩
  rw [hcontent, hstored]
  intro he
  have htext : Utf8.decodeLossy [0x31] = Utf8.decodeLossy [0x33] :=
    Json.Value.text.inj (Option.some.inj he)
  revert htext
  decide

end Reload
end LiveNotebooks
