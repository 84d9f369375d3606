import LiveNotebooks.Proofs.Reload.Burst
import LiveNotebooks.Proofs.Reload.Story
import Mathlib.Data.List.Chain

/-!
# A burst of requests is one reload

Requests for a document that come quickly one after another are answered with one
conversion, for the last of them.  This holds from any state without a live task of the
document, whatever else goes on.

**Results.**
* `progress`: a run whose requests for the document come in time is idle or in a burst.
* `burst_coalesces`: when the tasks of a burst have ended, one has converted and committed,
  and all others were superseded.
-/

namespace LiveNotebooks
namespace Reload

open Journal

/-- Requests that come before the quiet time of the one before is over. -/
def InTime (c : Setup) (j : Journal) : Prop := j.IsChain fun r q => q.time < r.time + c.quiet

instance (c : Setup) (j : Journal) : Decidable (InTime c j) :=
  inferInstanceAs (Decidable (j.IsChain fun r q => q.time < r.time + c.quiet))

/-- Nothing has been asked of a document, or it is in a burst. -/
inductive Progress (c : Setup) (identifier : String) (s : Machine) (j : Journal) : Prop
  | idle
      (requests : requests identifier j = [])
      (tasks : ∀ u ∈ s.reload.tasks, u.ticket.identifier ≠ identifier)
      (effects : effects identifier j = [])
  | burst
      {earlier : Journal}
      {last : Note}
      {t : Task}
      (requests : requests identifier j = earlier ++ [last])
      (burst : Burst c s j t last)
      (document : t.ticket.identifier = identifier)

section

variable {c : Setup} {s s' : Machine} {a : Action} {note : Option Note} {j : Journal}
  {identifier : String}

/-- A step of a task in a burst. -/
theorem Progress.of_advance
    {t u : Task}
    {m : Move}
    {phase : Phase}
    {deed : Option Deed}
    {earlier : Journal}
    {last : Note}
    (hrequests : requests t.ticket.identifier j = earlier ++ [last])
    (hburst : Burst c s j t last)
    (hu : u ∈ s.reload.tasks)
    (hid : u.ticket.identifier = t.ticket.identifier)
    (hadvance : Machine.Advance c s u m phase deed)
    (hfile : deed ≠ some .gone) :
    Progress c t.ticket.identifier { s with reload := s.reload.setPhase u phase }
      (j ++ (deed.map fun d => s.note u d []).toList) := by
  have hnote : ∀ n ∈ deed.map fun d => s.note u d [],
      n.requests t.ticket.identifier = false := fun n hn =>
    not_requests_of_deed (Machine.not_isRequest_of_advance hadvance n hn) _
  have hkept : requests t.ticket.identifier (j ++ (deed.map fun d => s.note u d []).toList)
      = earlier ++ [last] := (requests_append_of_not hnote j).trans hrequests
  by_cases hnumber : u.number = t.number
  · obtain rfl := hburst.eq_newest hu hid hnumber
    exact .burst hkept (hburst.advance_newest hu hadvance hfile) rfl
  · exact .burst hkept (hburst.advance_other hu hid hnumber hadvance) rfl

/-- A request for the document, in time if there is one before it. -/
theorem Progress.of_request
    {path : Path}
    (h : Progress c identifier s j)
    (hgaps : InTime c (requests identifier (j ++ [s.requestNote path identifier]))) :
    Progress c identifier { s with reload := s.reload.enlist path identifier }
      (j ++ [s.requestNote path identifier]) := by
  have hrequests : requests identifier (j ++ [s.requestNote path identifier])
      = requests identifier j ++ [s.requestNote path identifier] := by
    simp [requests, s.requests_requestNote path identifier]
  cases h with
  | idle requests tasks effects =>
      exact .burst hrequests (burst_first tasks effects) rfl
  | @burst earlier last t requests burst document =>
      subst document
      refine .burst hrequests (burst.next ?_) rfl
      rw [hrequests, requests, InTime, List.append_assoc] at hgaps
      obtain ⟨hgap, _⟩ := List.isChain_cons_cons.1 hgaps.right_of_append
      exact hgap

/-- A step of a burst, whose requests come in time and whose files are there. -/
theorem Progress.step
    (h : StepAbout c identifier s a s' note)
    (hprogress : Progress c identifier s j)
    (hgaps : InTime c (requests identifier (j ++ note.toList)))
    (hfile : ∀ n ∈ note, n.identifier = identifier → n.deed ≠ .gone) :
    Progress c identifier s' (j ++ note.toList) := by
  cases h with
  | elsewhere helse =>
      cases hprogress with
      | idle requests tasks effects =>
          refine .idle (helse.requests_eq.trans requests) ?_ (helse.effects_eq.trans effects)
          intro u hu hid
          exact tasks u ((helse.tasks u hid).1 hu) hid
      | burst requests burst document =>
          subst document
          exact .burst (helse.requests_eq.trans requests) (burst.elsewhere helse) rfl
  | request hname => exact hprogress.of_request hgaps
  | @advance u m phase deed hu hid hadvance =>
      cases hprogress with
      | idle requests tasks effects => exact absurd hid (tasks u hu)
      | burst requests burst document =>
          subst document
          refine .of_advance requests burst hu hid hadvance ?_
          rintro rfl
          exact hfile _ rfl hid rfl
  | @depart u m deed hu hid hdepart =>
      cases hprogress with
      | idle requests tasks effects => exact absurd hid (tasks u hu)
      | @burst earlier last t requests burst document =>
          subst document
          by_cases hnumber : u.number = t.number
          · obtain rfl := burst.eq_newest hu hid hnumber
            exact (burst.not_depart_newest hu hdepart).elim
          · have hdeed := Machine.not_isRequest_of_departure hdepart
            have hnote := requests_concat_of_not (n := s.note u deed [])
              (not_requests_of_deed hdeed t.ticket.identifier) j
            exact .burst (hnote.trans requests) (burst.depart_other hu hid hnumber hdepart) rfl
  | @commit u result moment hu hid hphase hcurrent =>
      cases hprogress with
      | idle requests tasks effects => exact absurd hid (tasks u hu)
      | @burst earlier last t requests burst document =>
          subst document
          have hnote := requests_concat_of_not
            (n := s.note u .committed [(s.store.put (Machine.document c u result moment)).2])
            (not_requests_of_deed rfl t.ticket.identifier) j
          exact .burst (hnote.trans requests) (burst.commit hu hid hphase hcurrent) rfl

/-- From a state without live tasks of a document, a run whose requests for it come in time
and whose files are there is idle or in a burst. -/
theorem progress
    {start : Machine}
    (hidle : ∀ u ∈ start.reload.tasks, u.ticket.identifier ≠ identifier)
    (h : Runs (Machine.step? c) start s j)
    (hgaps : InTime c (requests identifier j))
    (hfiles : ∀ n ∈ j, n.identifier = identifier → n.deed ≠ .gone) :
    Progress c identifier s j := by
  induction h with
  | refl => exact .idle rfl hidle rfl
  | step _ hstep ih =>
      have hbefore := hgaps
      rw [requests_append] at hbefore
      have hprogress := ih (List.IsChain.left_of_append hbefore) fun n hn =>
        hfiles n (List.mem_append_left _ hn)
      refine hprogress.step (step_about (Machine.step_of_step? hstep) identifier) hgaps ?_
      intro n hn
      exact hfiles n (List.mem_append_right _ (Option.mem_toList.2 hn))

/-- What a run notes of a request's task that has ended: the request, and how the task has
ended. -/
theorem ended_of_request
    {now : Nat}
    {store : Store}
    {start : Machine}
    {before : Journal}
    {q : Note}
    (hstart : Runs (Machine.step? c) (Machine.opened now store) start before)
    (h : Runs (Machine.step? c) start s j)
    (hq : q ∈ requests identifier j)
    (hended : ∀ u ∈ s.reload.tasks, u.ticket.identifier ≠ identifier) :
    ∃ number, q.task = some number
      ∧ Ended identifier (story number j)
      ∧ (identifier, q.deed) ∈ story number j := by
  obtain ⟨hqj, hrequest⟩ := List.mem_filter.1 hq
  simp only [Note.requests, Bool.and_eq_true, decide_eq_true_eq] at hrequest
  obtain ⟨hid, hdeed⟩ := hrequest
  obtain ⟨early, late, rfl⟩ := List.append_of_mem hqj
  obtain ⟨s₁, s₂, a, hearly, hstep, hlate⟩ := h.split
  obtain ⟨hcount, htask⟩ := requestNote_of_isRequest (Machine.step_of_step? hstep) hdeed
  have hwhole := told (hstart.trans h)
  have hnew : story s₁.reload.count before = [] :=
    (told hstart).unborn s₁.reload.count (count_le hearly)
  have hstory : story s₁.reload.count (before ++ (early ++ q :: late))
      = story s₁.reload.count (early ++ q :: late) := by
    rw [story_append, hnew, List.nil_append]
  have hmem : (identifier, q.deed) ∈ story s₁.reload.count (early ++ q :: late) :=
    mem_story.2 ⟨q, by simp, htask, hid, rfl⟩
  have hdead : ∀ u ∈ s.reload.tasks, u.number ≠ s₁.reload.count := by
    intro u hu hnumber
    have halive := hwhole.alive u hu
    rw [hnumber, hstory] at halive
    rw [halive] at hmem
    exact hended u hu (identifier_of_mem_told _ hmem).symm
  have hlt : s₁.reload.count < s.reload.count := by
    have := count_le hlate
    omega
  obtain ⟨about, habout⟩ := hwhole.ended s₁.reload.count hlt hdead
  rw [hstory] at habout
  obtain rfl := habout.identifier_of_mem _ hmem
  exact ⟨s₁.reload.count, htask, habout, hmem⟩

/-- A task that has neither begun to convert nor seen its file gone has been superseded. -/
theorem superseded_of_ended
    {story : List (String × Deed)}
    {deed : Deed}
    (h : Ended identifier story)
    (hrequest : deed.isRequest = true)
    (hdeed : (identifier, deed) ∈ story)
    (hstarted : ∀ path, (identifier, .started path) ∉ story)
    (hgone : (identifier, .gone) ∉ story) :
    story = [(identifier, deed), (identifier, .superseded)] := by
  cases h with
  | superseded generation path =>
      rcases List.mem_cons.1 hdeed with he | he
      · cases he
        rfl
      · cases List.mem_singleton.1 he
        cases hrequest
  | gone generation path withdrawn => exact absurd (by simp) hgone
  | stale generation path => exact absurd (by simp) (hstarted path)
  | committed generation path => exact absurd (by simp) (hstarted path)

/-- If one task alone has converted for a row of requests, the others were superseded. -/
theorem superseded_of_effects
    {now : Nat}
    {store : Store}
    {start : Machine}
    {before earlier : Journal}
    {last : Note}
    {newest : Nat}
    (hstart : Runs (Machine.step? c) (Machine.opened now store) start before)
    (h : Runs (Machine.step? c) start s j)
    (hrequests : requests identifier j = earlier ++ [last])
    (hlast : last.requested? = some newest)
    (heffects : ∀ n ∈ effects identifier j, n.task = some newest)
    (hfiles : ∀ n ∈ j, n.identifier = identifier → n.deed ≠ .gone)
    (hended : ∀ u ∈ s.reload.tasks, u.ticket.identifier ≠ identifier) :
    ∀ q ∈ earlier, ∃ number, q.task = some number
      ∧ story number j = [(identifier, q.deed), (identifier, .superseded)] := by
  intro q hq
  have hqj : q ∈ requests identifier j := by
    rw [hrequests]
    exact List.mem_append_left _ hq
  have hrequest : q.deed.isRequest = true := by
    have hboth := (List.mem_filter.1 hqj).2
    simp only [Note.requests, Bool.and_eq_true] at hboth
    exact hboth.2
  obtain ⟨number, htask, hstory, hmem⟩ := ended_of_request hstart h hqj hended
  have hown : q.requested? = some number := Note.requested?_eq_some_iff.2 ⟨hrequest, htask⟩
  have hne : number ≠ newest := by
    have hpairwise := (List.pairwise_append.1 (requested_pairwise (hstart.trans h))).2.1
    have hrow := hpairwise.sublist (List.filter_sublist (p := Note.requests identifier))
    rw [← requests, hrequests] at hrow
    exact (List.pairwise_append.1 hrow).2.2 q hq last (by simp) number hown newest hlast
  refine ⟨number, htask, superseded_of_ended hstory hrequest hmem ?_ ?_⟩
  · intro path hstarted
    obtain ⟨n, hn, hntask, hid, hdeed⟩ := mem_story.1 hstarted
    have hacts : n.acts identifier = true := by
      simp [Note.acts, hntask, hid, hdeed, Deed.isAct]
    have hnewest := heffects n (List.mem_filter.2 ⟨hn, hacts⟩)
    rw [hntask] at hnewest
    exact hne (Option.some.inj hnewest)
  · intro hgone
    obtain ⟨n, hn, _, hid, hdeed⟩ := mem_story.1 hgone
    exact hfiles n hn hid hdeed

/-- **A burst is one reload.**  Start without a live task of a document, ask for reloads of
it, each before the quiet time of the one before is over, let files be there, and wait until
all the tasks have ended.  Then the reloads have begun one conversion, of the path of the
last request and after its quiet time, and have made one commit with one event.  All earlier
tasks were superseded, and nothing is pending for the document. -/
theorem burst_coalesces
    {now : Nat}
    {store : Store}
    {start : Machine}
    {before earlier : Journal}
    {last : Note}
    (hstart : Runs (Machine.step? c) (Machine.opened now store) start before)
    (hidle : identifier ∉ start.documents)
    (h : Runs (Machine.step? c) start s j)
    (hrequests : requests identifier j = earlier ++ [last])
    (hgaps : InTime c (earlier ++ [last]))
    (hfiles : ∀ n ∈ j, n.identifier = identifier → n.deed ≠ .gone)
    (hended : identifier ∉ s.documents) :
    (∃ first second number generation path event,
        effects identifier j = [first, second]
          ∧ last.task = some number ∧ last.deed = .requested generation path
          ∧ first.task = some number ∧ first.deed = .started path ∧ first.events = []
          ∧ last.time + c.quiet ≤ first.time
          ∧ second.task = some number ∧ second.deed = .committed ∧ second.events = [event]
          ∧ event.identifier = identifier)
      ∧ (∀ q ∈ earlier, ∃ number, q.task = some number
          ∧ story number j = [(identifier, q.deed), (identifier, .superseded)])
      ∧ ∀ generation, (identifier, generation) ∉ s.reload.pending.entries := by
  have hended := Machine.identifier_ne_of_not_mem_documents hended
  have hprogress := progress (Machine.identifier_ne_of_not_mem_documents hidle) h
    (by rwa [hrequests]) hfiles
  cases hprogress with
  | idle requests tasks effects =>
      rw [hrequests] at requests
      simp at requests
  | @burst early r t requests burst document =>
      subst document
      rw [hrequests] at requests
      obtain ⟨rfl, hlast⟩ := List.append_inj' requests rfl
      cases hlast
      cases burst.stage with
      | quiet alive pending phase effects => exact absurd rfl (hended t alive)
      | awake alive pending phase due effects => exact absurd rfl (hended t alive)
      | converting alive pending phase due effects start => exact absurd rfl (hended t alive)
      | @done first second ended pending due effects hfirst hsecond =>
          refine ⟨?_, ?_, ?_⟩
          · obtain ⟨event, hevents, hevent⟩ := hsecond.events
            exact ⟨first, second, t.number, t.ticket.generation, t.ticket.path, event, effects,
              burst.request.task, burst.request.deed, hfirst.task, hfirst.deed, hfirst.events,
              hfirst.time, hsecond.task, hsecond.deed, hevents, hevent⟩
          · refine superseded_of_effects hstart h hrequests burst.request.requested?_eq ?_ hfiles
              hended
            rw [effects]
            intro n hn
            rcases List.mem_cons.1 hn with rfl | hn
            · exact hfirst.task
            · obtain rfl := List.mem_singleton.1 hn
              exact hsecond.task
          · intro generation hmem
            rw [Pending.generation?_of_mem hmem] at pending
            cases pending

end

/-- Two requests for the document `a`, and one for `b` that goes on. -/
def coalescing : List Action :=
  [.request [0x61], .move 0 .rest, .request [0x62], .move 1 .rest, .pass 50, .request [0x61],
    .move 2 .rest, .pass 50, .move 0 .rouse, .pass 50, .move 2 .rouse, .move 2 (.look true),
    .move 2 .start, .pass 300, .move 2 (.finish (.ok .null) ⟨1, 0⟩)]

def coalescingNotes : Journal :=
  [⟨0, "a", some 0, .requested 1 [0x61], []⟩, ⟨0, "b", some 1, .requested 1 [0x62], []⟩,
    ⟨50, "a", some 2, .requested 2 [0x61], []⟩, ⟨100, "a", some 0, .superseded, []⟩,
    ⟨150, "a", some 2, .started [0x61], []⟩,
    ⟨450, "a", some 2, .committed, [⟨.created, "a"⟩]⟩]

/-- The last of the two requests. -/
def coalescingRequest : Note := ⟨50, "a", some 2, .requested 2 [0x61], []⟩

/-- Two requests for one document and one for another. -/
theorem burst_coalesces_pair :
    ∃ s, Runs (Machine.step? ⟨"ann", 100⟩) (Machine.opened 0 .empty) s coalescingNotes
      ∧ s.documents = ["b"]
      ∧ (∃ first second number generation path event,
        effects "a" coalescingNotes = [first, second]
          ∧ coalescingRequest.task = some number
          ∧ coalescingRequest.deed = .requested generation path
          ∧ first.task = some number ∧ first.deed = .started path ∧ first.events = []
          ∧ coalescingRequest.time + 100 ≤ first.time
          ∧ second.task = some number ∧ second.deed = .committed ∧ second.events = [event]
          ∧ event.identifier = "a")
      ∧ (∀ q ∈ coalescingNotes.take 1, ∃ number, q.task = some number
          ∧ story number coalescingNotes = [("a", q.deed), ("a", .superseded)])
      ∧ ∀ generation, ("a", generation) ∉ s.reload.pending.entries := by
  have hrun : (run? (Machine.step? ⟨"ann", 100⟩) (Machine.opened 0 .empty) coalescing).map
      (fun r => (r.1.documents, r.2)) = some (["b"], coalescingNotes) := by decide
  obtain ⟨s, h, hdocuments⟩ := exists_runs_of_run? Machine.documents hrun
  have hrequests : requests "a" coalescingNotes
      = coalescingNotes.take 1 ++ [coalescingRequest] := by decide
  have hended : "a" ∉ s.documents := by
    rw [hdocuments]
    decide
  exact ⟨s, h, hdocuments,
    burst_coalesces .refl (by decide) h hrequests (by decide) (by decide) hended⟩

end Reload
end LiveNotebooks
