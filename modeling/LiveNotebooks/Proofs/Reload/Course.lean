import LiveNotebooks.Proofs.Reload.Document
import LiveNotebooks.System.Files

/-!
# A reload that is left alone

While the files stay as they are and nobody asks for another reload of its document, a reload
goes its way: it waits, looks for its file, and ends with a commit or without, as the file
is there or not.

**Invariant.**  `Course` says that the reload is the only one of its document, has seen what
there is to see and has not yet committed; or that it has ended, with a commit just if it
was to have one.

**Termination.**  From each phase the task can go on to a later one (`Sole.ends_converting` up
to `Sole.ends`).

**Results.**
* `course_run`: every run keeps the invariant.
* `Course.ends`: every run can be brought to its end.
-/

namespace LiveNotebooks
namespace Reload

/-- Does a task that looks for its file see what is there? -/
def Move.sees (isThere : Bool) : Move → Bool
  | .look isFile => isFile = isThere
  | _ => true

/-- Do the tasks see what stands at their paths? -/
def Machine.sees (files : Files) (s : Machine) : Action → Bool
  | .move number m =>
      match s.reload.task? number with
      | some t => m.sees (files.isFile t.ticket.path)
      | none => true
  | _ => true

/-- Lets something happen while the files stay as they are. -/
def Machine.steady? (c : Setup) (files : Files) (s : Machine) (a : Action) :
    Option (Machine × Option Note) :=
  if s.sees files a then s.step? c a else none

/-- No reload of the document of a path is alive. -/
def Idle (path : Path) (s : Machine) : Prop :=
  ∀ t ∈ s.reload.tasks, Path.name path ≠ some t.ticket.identifier

/-- Nobody asks for a reload of the document of a path. -/
def Quiet (path : Path) (j : Journal) : Prop :=
  ∀ n ∈ j, ∀ identifier, Path.name path = some identifier → n.requests identifier = false

/-- A reload of the document of a path commits. -/
def Committed (path : Path) (j : Journal) : Prop :=
  ∃ n ∈ j, Path.name path = some n.identifier ∧ n.deed = .committed

/-- What a task has seen of its file. -/
def Phase.seen? : Phase → Option Bool
  | .leaving => some false
  | .ready | .converting => some true
  | _ => none

/-- A task that is the only one of its document, with the newest request. -/
structure Sole (files : Files) (s : Machine) (t : Task) : Prop where
  alive : t ∈ s.reload.tasks
  only : ∀ u ∈ s.reload.tasks, u.ticket.identifier = t.ticket.identifier → u = t
  current : s.reload.pending.isCurrent t.ticket = true
  seen : ∀ isFile, t.phase.seen? = some isFile → isFile = files.isFile t.ticket.path

/-- How far the reload of a path has come. -/
inductive Course (files : Files) (path : Path) (s : Machine) (j : Journal) : Prop
  | alive
      {t : Task}
      (sole : Sole files s t)
      (hpath : t.ticket.path = path)
      (hname : Path.name path = some t.ticket.identifier)
      (hvisible : Path.isHidden path = false)
      (huncommitted : ¬ Committed path j)
  | ended
      (hidle : Idle path s)
      (hcommitted : Committed path j
        ↔ files.isFile path = true ∧ Path.isHidden path = false)

/-- The reload of a path can be brought to its end. -/
def Ends (c : Setup) (files : Files) (path : Path) (s : Machine) : Prop :=
  ∃ last later, Runs (Machine.steady? c files) s last later ∧ Quiet path later ∧ Idle path last

section

variable {c : Setup} {files : Files} {s s' : Machine} {a : Action} {note : Option Note}
  {j k : Journal} {t : Task} {path : Path}

/-- A reload commits in one of two parts of a run. -/
theorem committed_append :
    Committed path (j ++ k) ↔ Committed path j ∨ Committed path k := by
  simp only [Committed, List.mem_append]
  constructor
  · rintro ⟨n, hn | hn, h⟩
    · exact .inl ⟨n, hn, h⟩
    · exact .inr ⟨n, hn, h⟩
  · rintro (⟨n, hn, h⟩ | ⟨n, hn, h⟩)
    · exact ⟨n, .inl hn, h⟩
    · exact ⟨n, .inr hn, h⟩

theorem quiet_append :
    Quiet path (j ++ k) ↔ Quiet path j ∧ Quiet path k := by
  simp only [Quiet, List.mem_append]
  constructor
  · exact fun h => ⟨fun n hn => h n (.inl hn), fun n hn => h n (.inr hn)⟩
  · rintro ⟨hfirst, hsecond⟩ n (hn | hn)
    · exact hfirst n hn
    · exact hsecond n hn

/-- Nothing is committed for a document by what is none of its steps. -/
theorem Elsewhere.not_committed
    {identifier : String}
    (h : Elsewhere identifier s s' note)
    (hname : Path.name path = some identifier) :
    ¬ Committed path note.toList := by
  rintro ⟨n, hn, hid, hdeed⟩
  rw [hname] at hid
  cases hid
  have hwritten := (h.notes n (Option.mem_toList.1 hn) rfl).2
  rw [hdeed] at hwritten
  cases hwritten

theorem not_committed_of_advance
    {m : Move}
    {phase : Phase}
    {deed : Option Deed}
    (h : Machine.Advance c s t m phase deed) :
    ¬ Committed path (deed.map fun d => s.note t d []).toList := by
  rintro ⟨n, hn, _, hdeed⟩
  obtain ⟨d, hd, rfl⟩ := Option.map_eq_some_iff.1 (Option.mem_toList.1 hn)
  cases h <;> cases hd <;> cases hdeed

theorem not_committed_of_departure
    {m : Move}
    {deed : Deed}
    (h : Machine.Departure s t m deed) :
    ¬ Committed path [s.note t deed []] := by
  rintro ⟨n, hn, _, hdeed⟩
  obtain rfl := List.mem_singleton.1 hn
  cases h <;> cases hdeed

/-- Where no reload is alive and none is asked for, none begins. -/
theorem idle_step
    (h : Idle path s)
    (hstep : Machine.Step c s a s' note)
    (hquiet : Quiet path note.toList) :
    Idle path s' ∧ ¬ Committed path note.toList := by
  cases hname : Path.name path with
  | none =>
      constructor
      · intro t _ hid
        rw [hname] at hid
        cases hid
      · rintro ⟨n, _, hid, _⟩
        rw [hname] at hid
        cases hid
  | some identifier =>
      cases step_about hstep identifier with
      | elsewhere helse =>
          refine ⟨fun t ht hid => ?_, helse.not_committed hname⟩
          rw [hname] at hid
          exact h t ((helse.tasks t (Option.some.inj hid).symm).1 ht)
            (hname.trans hid)
      | request hrequest =>
          have hasked := hquiet _ List.mem_cons_self identifier hname
          rw [s.requests_requestNote] at hasked
          cases hasked
      | advance ht hid hadvance => exact absurd (by rw [hname, hid]) (h _ ht)
      | depart ht hid hdepart => exact absurd (by rw [hname, hid]) (h _ ht)
      | commit result moment ht hid hphase hcurrent => exact absurd (by rw [hname, hid]) (h _ ht)

/-- A task that is the only one remains so when it goes on. -/
theorem Sole.advance
    {m : Move}
    {phase : Phase}
    {deed : Option Deed}
    (h : Sole files s t)
    (hadvance : Machine.Advance c s t m phase deed)
    (hsees : m.sees (files.isFile t.ticket.path) = true) :
    Sole files { s with reload := s.reload.setPhase t phase } { t with phase := phase } where
  alive := (State.mem_setPhase h.alive).2 (.inl rfl)
  only := by
    intro u hu hid
    rcases (State.mem_setPhase h.alive).1 hu with rfl | ⟨hu, hne⟩
    · rfl
    · exact absurd (congrArg Task.number (h.only u hu hid)) hne
  current := h.current
  seen := by
    intro isFile hseen
    cases hadvance with
    | rest hphase => cases hseen
    | rouse hphase hdue hcurrent => cases hseen
    | see hphase =>
        cases hseen
        exact of_decide_eq_true hsees
    | miss hphase =>
        cases hseen
        exact of_decide_eq_true hsees
    | start hphase =>
        cases hseen
        exact h.seen true (by rw [hphase]; rfl)

/-- Behind the end of its only task nothing is alive for a document. -/
theorem Sole.idle_settle
    {now : Nat}
    {store : Store}
    (h : Sole files s t)
    (hname : Path.name path = some t.ticket.identifier) :
    Idle path ⟨now, (s.reload.settle t).1, store⟩ := by
  intro u hu hid
  rw [hname] at hid
  obtain ⟨hmem, hne⟩ := State.mem_settle.1 hu
  exact hne (congrArg Task.number (h.only u hmem (Option.some.inj hid).symm))

theorem Sole.elsewhere
    (h : Sole files s t)
    (helse : Elsewhere t.ticket.identifier s s' note) :
    Sole files s' t where
  alive := (helse.tasks t rfl).2 h.alive
  only := fun u hu hid => h.only u ((helse.tasks u hid).1 hu) hid
  current := by
    rw [Pending.isCurrent_iff, helse.pending]
    exact Pending.isCurrent_iff.1 h.current
  seen := h.seen

/-- Every step keeps the invariant. -/
theorem course_step
    (h : Course files path s j)
    (hstep : s.steady? c files a = some (s', note))
    (hquiet : Quiet path note.toList) :
    Course files path s' (j ++ note.toList) := by
  obtain ⟨hsees, hstep⟩ := Option.ite_none_right_eq_some.1 hstep
  have hmove := Machine.step_of_step? hstep
  cases h with
  | ended hidle hcommitted =>
      obtain ⟨hkept, hnone⟩ := idle_step hidle hmove hquiet
      refine .ended hkept ?_
      rw [committed_append, or_iff_left hnone]
      exact hcommitted
  | @alive t sole hpath hname hvisible huncommitted =>
      cases step_about hmove t.ticket.identifier with
      | elsewhere helse =>
          refine .alive (sole.elsewhere helse) hpath hname hvisible ?_
          rw [committed_append]
          exact not_or.2 ⟨huncommitted, helse.not_committed hname⟩
      | request hrequest =>
          have hasked := hquiet _ List.mem_cons_self _ hname
          rw [s.requests_requestNote] at hasked
          cases hasked
      | @advance u m phase deed hu hid hadvance =>
          obtain rfl := sole.only u hu hid
          have hlook : m.sees (files.isFile u.ticket.path) = true := by
            simpa [Machine.sees, State.task?_of_mem hu] using hsees
          refine .alive (sole.advance hadvance hlook) hpath hname hvisible ?_
          rw [committed_append]
          exact not_or.2 ⟨huncommitted, not_committed_of_advance hadvance⟩
      | @depart u m deed hu hid hdepart =>
          obtain rfl := sole.only u hu hid
          have hnone : ¬ Committed path [s.note u deed []] := not_committed_of_departure hdepart
          refine .ended (sole.idle_settle hname) ?_
          rw [committed_append]
          cases hdepart with
          | superseded hphase hcurrent =>
              rw [sole.current] at hcurrent
              cases hcurrent
          | left hphase =>
              have hgone := sole.seen false (by rw [hphase]; rfl)
              rw [hpath] at hgone
              simp [← hgone, huncommitted, hnone]
          | stale result moment hphase hcurrent =>
              rw [sole.current] at hcurrent
              cases hcurrent
      | @commit u result moment hu hid hphase hcurrent =>
          obtain rfl := sole.only u hu hid
          refine .ended (sole.idle_settle hname) ?_
          have hfile := sole.seen true (by rw [hphase]; rfl)
          rw [hpath] at hfile
          rw [committed_append]
          constructor
          · exact fun _ => ⟨hfile.symm, hvisible⟩
          · exact fun _ => .inr ⟨_, List.mem_cons_self, hname, rfl⟩

/-- Every run in which the reload is left alone keeps the invariant. -/
theorem course_run
    {last : Machine}
    (h : Course files path s j)
    (hruns : Runs (Machine.steady? c files) s last k)
    (hquiet : Quiet path k) :
    Course files path last (j ++ k) := by
  induction hruns with
  | refl => simpa using h
  | step _ hstep ih =>
      obtain ⟨hbefore, hnote⟩ := quiet_append.1 hquiet
      rw [← List.append_assoc]
      exact course_step (ih hbefore) hstep hnote

/-- A request for a document without live tasks begins a course. -/
theorem course_enlist
    {identifier : String}
    (hidle : Idle path s)
    (hname : Path.name path = some identifier)
    (hvisible : Path.isHidden path = false) :
    Course files path { s with reload := s.reload.enlist path identifier } [] := by
  have hsole : Sole files { s with reload := s.reload.enlist path identifier }
      (s.reload.nextTask path identifier) := by
    refine ⟨by simp, ?_, ?_, ?_⟩
    · intro u hu hid
      rcases State.mem_enlist.1 hu with hu | rfl
      · exact absurd (hname.trans (congrArg some hid.symm)) (hidle u hu)
      · rfl
    · exact Pending.isCurrent_iff.2 (State.generation?_enlist_self s.reload path identifier)
    · intro isFile hseen
      cases hseen
  refine .alive hsole rfl hname hvisible ?_
  rintro ⟨n, hn, _⟩
  cases hn

/-! ## The end -/

theorem steady?_move
    {m : Move}
    (ht : t ∈ s.reload.tasks)
    (hsees : m.sees (files.isFile t.ticket.path) = true)
    (h : s.move? c t m = some (s', note)) :
    s.steady? c files (.move t.number m) = some (s', note) := by
  have hlook : s.sees files (.move t.number m) = true := by
    simpa [Machine.sees, State.task?_of_mem ht] using hsees
  rw [Machine.steady?, if_pos hlook, Machine.step?_move ht]
  exact h

theorem ends_of_step
    (hstep : s.steady? c files a = some (s', note))
    (hrequest : ∀ n ∈ note, n.deed.isRequest = false)
    (h : Ends c files path s') :
    Ends c files path s := by
  obtain ⟨last, later, hruns, hquiet, hidle⟩ := h
  have hfirst := Runs.step (.refl : Runs (Machine.steady? c files) s s []) hstep
  refine ⟨last, _, hfirst.trans hruns, quiet_append.2 ⟨?_, hquiet⟩, hidle⟩
  intro n hn identifier _
  exact not_requests_of_deed (hrequest n (Option.mem_toList.1 hn)) identifier

theorem ends_of_idle
    (h : Idle path s) :
    Ends c files path s :=
  ⟨s, [], .refl, by simp [Quiet], h⟩

theorem Sole.ends_advance
    {m : Move}
    {phase : Phase}
    {deed : Option Deed}
    (h : Sole files s t)
    (hadvance : Machine.Advance c s t m phase deed)
    (hsees : m.sees (files.isFile t.ticket.path) = true)
    (hnext : Sole files { s with reload := s.reload.setPhase t phase } { t with phase := phase } →
      Ends c files path { s with reload := s.reload.setPhase t phase }) :
    Ends c files path s := by
  have hstep := steady?_move h.alive hsees (Machine.move?_of_advance hadvance)
  exact ends_of_step hstep (Machine.not_isRequest_of_advance hadvance)
    (hnext (h.advance hadvance hsees))

theorem Sole.ends_converting
    (c : Setup)
    (h : Sole files s t)
    (hname : Path.name path = some t.ticket.identifier)
    (hphase : t.phase = .converting) :
    Ends c files path s := by
  have hcommit := Machine.move?_of_commit (c := c) (.ok .null) ⟨0, 0⟩ hphase h.current
  refine ends_of_step (steady?_move h.alive rfl hcommit) ?_ (ends_of_idle (h.idle_settle hname))
  intro n hn
  cases hn
  rfl

/-- A task that has found no file can always end. -/
theorem Sole.ends_leaving
    (c : Setup)
    (h : Sole files s t)
    (hname : Path.name path = some t.ticket.identifier)
    (hphase : t.phase = .leaving) :
    Ends c files path s := by
  have hdue : ∀ due, t.phase = .waiting due → due ≤ s.now := by
    intro due hwaiting
    rw [hphase] at hwaiting
    cases hwaiting
  have hleave := Machine.move?_of_departure (c := c) (.left hphase) hdue
  refine ends_of_step (steady?_move h.alive rfl hleave) ?_ (ends_of_idle (h.idle_settle hname))
  intro n hn
  cases hn
  rfl

theorem Sole.ends_ready
    (c : Setup)
    (h : Sole files s t)
    (hname : Path.name path = some t.ticket.identifier)
    (hphase : t.phase = .ready) :
    Ends c files path s :=
  h.ends_advance (.start hphase) rfl fun hnext => hnext.ends_converting c hname rfl

/-- A woken task sees what stands at its path. -/
theorem Sole.ends_awake
    (c : Setup)
    (h : Sole files s t)
    (hname : Path.name path = some t.ticket.identifier)
    (hphase : t.phase = .awake) :
    Ends c files path s := by
  cases hfile : files.isFile t.ticket.path with
  | true =>
      have hsees : (Move.look true).sees (files.isFile t.ticket.path) = true := by
        rw [hfile]
        rfl
      exact h.ends_advance (.see hphase) hsees fun hnext => hnext.ends_ready c hname rfl
  | false =>
      have hsees : (Move.look false).sees (files.isFile t.ticket.path) = true := by
        rw [hfile]
        rfl
      exact h.ends_advance (.miss hphase) hsees fun hnext => hnext.ends_leaving c hname rfl

/-- A task that waits goes on when its quiet time is over. -/
theorem Sole.ends_waiting
    {due : Nat}
    (c : Setup)
    (h : Sole files s t)
    (hname : Path.name path = some t.ticket.identifier)
    (hphase : t.phase = .waiting due) :
    Ends c files path s := by
  have hpass : s.steady? c files (.pass due) = some ({ s with now := s.now + due }, none) := rfl
  have hlater : Sole files { s with now := s.now + due } t :=
    ⟨h.alive, h.only, h.current, h.seen⟩
  have hrouse : Machine.Advance c { s with now := s.now + due } t .rouse .awake none :=
    .rouse hphase (Nat.le_add_left due s.now) h.current
  refine ends_of_step hpass (by simp) ?_
  exact hlater.ends_advance hrouse rfl fun hnext => hnext.ends_awake c hname rfl

theorem Sole.ends
    (c : Setup)
    (h : Sole files s t)
    (hname : Path.name path = some t.ticket.identifier) :
    Ends c files path s := by
  cases hphase : t.phase with
  | fresh => exact h.ends_advance (.rest hphase) rfl fun hnext => hnext.ends_waiting c hname rfl
  | waiting due => exact h.ends_waiting c hname hphase
  | awake => exact h.ends_awake c hname hphase
  | leaving => exact h.ends_leaving c hname hphase
  | ready => exact h.ends_ready c hname hphase
  | converting => exact h.ends_converting c hname hphase

/-- Every reload that is left alone can be brought to its end. -/
theorem Course.ends
    (c : Setup)
    (h : Course files path s j) :
    Ends c files path s := by
  cases h with
  | alive sole hpath hname hvisible huncommitted => exact sole.ends c hname
  | ended hidle hcommitted => exact ends_of_idle hidle

end

end Reload
end LiveNotebooks
