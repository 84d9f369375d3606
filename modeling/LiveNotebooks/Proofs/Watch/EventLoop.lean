import LiveNotebooks.Proofs.Reload.Authors
import LiveNotebooks.Proofs.Watch.Reports

/-!
# The event loop of the watch

The operating system puts its reports into a channel, until it closes that.  The loop takes them
out one by one, and asks for one reload after another.  Between any two of its turns further
reports come, time passes and reloads go on.

**Results.**
* `step_of_step?`: everything that can happen is a `Step`, which says all that it does.
* `calls_append_outstanding`: for which paths reloads are asked, and for which they will be.
* `todo_add_turns`: how many turns the loop takes once its channel is closed.
* `call_of_note`: every note on a reload belongs to a call of its own.
-/

namespace LiveNotebooks
namespace Watch

/-- The loop, its channel and the reloads that it asks for. -/
structure EventLoop where
  /-- The news in the channel, in their order. -/
  inbox : List Notice
  /-- Can news still come? -/
  isOpen : Bool
  /-- The paths of the news at hand for which reloads are still to be asked. -/
  wanted : List Path
  isRunning : Bool
  machine : Reload.Machine

/-- What comes of a step. -/
structure Effect where
  /-- The path for which a reload is asked. -/
  call : Option Path
  lines : List LogLine
  /-- What is noted of the reloads. -/
  note : Option Reload.Note

namespace EventLoop

/-- What happens. -/
inductive Action where
  | report (r : Report)
  | close
  /-- The loop goes on. -/
  | turn
  | pass (span : Nat)
  /-- A reload goes on. -/
  | move (number : Nat) (m : Reload.Move)

/-- The loop before the first report. -/
def started (machine : Reload.Machine) : EventLoop := ⟨[], true, [], true, machine⟩

/-- Nothing comes of a step. -/
def silent : Effect := ⟨none, [], none⟩

/-- Lets the loop go on, if it can. -/
def turn? (c : Reload.Setup) (s : EventLoop) : Option (EventLoop × Effect) :=
  if s.isRunning then
    match s.wanted, s.inbox with
    | path :: wanted, _ =>
        (s.machine.step? c (.request path)).map fun (machine, note) =>
          ({ s with wanted := wanted, machine := machine }, ⟨some path, [], note⟩)
    | [], notice :: inbox =>
        some ({ s with inbox := inbox, wanted := notice.wanted }, ⟨none, notice.lines, none⟩)
    | [], [] =>
        if s.isOpen then none
        else some ({ s with isRunning := false }, ⟨none, [closedLine], none⟩)
  else none

/-- Lets the reloads take a step. -/
def within? (c : Reload.Setup) (s : EventLoop) (a : Reload.Action) : Option (EventLoop × Effect) :=
  (s.machine.step? c a).map fun (machine, note) => ({ s with machine := machine }, ⟨none, [], note⟩)

/-- Lets something happen, if it can. -/
def step? (c : Reload.Setup) (s : EventLoop) : Action → Option (EventLoop × Effect)
  | .report r =>
      if s.isOpen then some ({ s with inbox := s.inbox ++ [r.notice] }, silent) else none
  | .close => some ({ s with isOpen := false }, silent)
  | .turn => s.turn? c
  | .pass span => s.within? c (.pass span)
  | .move number m => s.within? c (.move number m)

/-- What a turn of the loop does. -/
inductive Turn (c : Reload.Setup) (s : EventLoop) : EventLoop → Effect → Prop
  | ask
      {path : Path}
      {wanted : List Path}
      {machine : Reload.Machine}
      {note : Option Reload.Note}
      (hwanted : s.wanted = path :: wanted)
      (h : s.machine.step? c (.request path) = some (machine, note)) :
      Turn c s { s with wanted := wanted, machine := machine } ⟨some path, [], note⟩
  | receive
      {notice : Notice}
      {inbox : List Notice}
      (hwanted : s.wanted = [])
      (hinbox : s.inbox = notice :: inbox) :
      Turn c s { s with inbox := inbox, wanted := notice.wanted } ⟨none, notice.lines, none⟩
  | stop
      (hwanted : s.wanted = [])
      (hinbox : s.inbox = [])
      (hclosed : s.isOpen = false) :
      Turn c s { s with isRunning := false } ⟨none, [closedLine], none⟩

/-- Everything that can happen. -/
inductive Step (c : Reload.Setup) (s : EventLoop) : Action → EventLoop → Effect → Prop
  | report
      (r : Report)
      (hopen : s.isOpen = true) :
      Step c s (.report r) { s with inbox := s.inbox ++ [r.notice] } silent
  | close : Step c s .close { s with isOpen := false } silent
  | turn
      {s' : EventLoop}
      {e : Effect}
      (hrunning : s.isRunning = true)
      (h : Turn c s s' e) :
      Step c s .turn s' e
  | pass
      {span : Nat}
      {machine : Reload.Machine}
      {note : Option Reload.Note}
      (h : s.machine.step? c (.pass span) = some (machine, note)) :
      Step c s (.pass span) { s with machine := machine } ⟨none, [], note⟩
  | move
      {number : Nat}
      {m : Reload.Move}
      {machine : Reload.Machine}
      {note : Option Reload.Note}
      (h : s.machine.step? c (.move number m) = some (machine, note)) :
      Step c s (.move number m) { s with machine := machine } ⟨none, [], note⟩

/-- What happens one after another, and what comes of it. -/
abbrev Chronicle := List (Action × Effect)

namespace Chronicle

def reports (k : Chronicle) : List Report :=
  k.filterMap fun entry => match entry.1 with
    | .report r => some r
    | _ => none

def turns (k : Chronicle) : Nat :=
  k.countP fun entry => match entry.1 with
    | .turn => true
    | _ => false

/-- The paths for which reloads are asked. -/
def calls (k : Chronicle) : List Path := k.filterMap fun entry => entry.2.call

def lines (k : Chronicle) : List LogLine := k.flatMap fun entry => entry.2.lines

def notes (k : Chronicle) : Reload.Journal := k.filterMap fun entry => entry.2.note

variable (k l : Chronicle)

@[simp] theorem reports_append :
    reports (k ++ l) = reports k ++ reports l :=
  List.filterMap_append

@[simp] theorem turns_append :
    turns (k ++ l) = turns k + turns l :=
  List.countP_append

@[simp] theorem calls_append :
    calls (k ++ l) = calls k ++ calls l :=
  List.filterMap_append

@[simp] theorem lines_append :
    lines (k ++ l) = lines k ++ lines l :=
  List.flatMap_append

@[simp] theorem notes_append :
    notes (k ++ l) = notes k ++ notes l :=
  List.filterMap_append

theorem calls_singleton
    (a : Action)
    (e : Effect) :
    calls [(a, e)] = e.call.toList := by
  obtain ⟨call, lines, note⟩ := e
  cases call <;> rfl

theorem notes_singleton
    (a : Action)
    (e : Effect) :
    notes [(a, e)] = e.note.toList := by
  obtain ⟨call, lines, note⟩ := e
  cases note <;> rfl

end Chronicle

open Chronicle

/-- The runs of a loop. -/
inductive Runs (c : Reload.Setup) (start : EventLoop) : EventLoop → Chronicle → Prop
  | refl : Runs c start start []
  | step
      {s s' : EventLoop}
      {k : Chronicle}
      {a : Action}
      {e : Effect}
      (run : Runs c start s k)
      (hstep : s.step? c a = some (s', e)) :
      Runs c start s' (k ++ [(a, e)])

section

/-- Lets things happen one after another. -/
def run? (c : Reload.Setup) : EventLoop → List Action → Option (EventLoop × Chronicle)
  | s, [] => some (s, [])
  | s, a :: rest =>
      match s.step? c a with
      | none => none
      | some (s', e) => (run? c s' rest).map fun (s'', k) => (s'', (a, e) :: k)

variable {c : Reload.Setup} {start s s' : EventLoop} {a : Action} {e : Effect} {k l : Chronicle}

theorem Runs.single
    (hstep : s.step? c a = some (s', e)) :
    Runs c s s' [(a, e)] :=
  .step .refl hstep

theorem Runs.trans
    (first : Runs c start s k)
    (second : Runs c s s' l) :
    Runs c start s' (k ++ l) := by
  induction second with
  | refl => simpa using first
  | step _ hstep ih =>
      rw [← List.append_assoc]
      exact .step ih hstep

/-- What is computed step by step is a run of the loop. -/
theorem runs_of_run?
    {actions : List Action}
    (h : run? c s actions = some (s', k)) :
    Runs c s s' k := by
  induction actions generalizing s k with
  | nil =>
      cases h
      exact .refl
  | cons a rest ih =>
      simp only [run?] at h
      split at h
      · cases h
      · next next e hstep =>
          obtain ⟨⟨last, l⟩, hrest, he⟩ := Option.map_eq_some_iff.1 h
          cases he
          exact (Runs.single hstep).trans (ih hrest)

/-- What the loop computes is a turn. -/
theorem turn_of_turn?
    (h : s.turn? c = some (s', e)) :
    s.isRunning = true ∧ Turn c s s' e := by
  unfold turn? at h
  split at h
  · next hrunning =>
      refine ⟨hrunning, ?_⟩
      split at h
      · next path wanted hwanted =>
          obtain ⟨⟨machine, note⟩, hstep, he⟩ := Option.map_eq_some_iff.1 h
          cases he
          exact .ask hwanted hstep
      · next notice inbox hwanted hinbox =>
          cases h
          exact .receive hwanted hinbox
      · next hwanted hinbox =>
          split at h
          · cases h
          · next hopen =>
              cases h
              exact .stop hwanted hinbox (by simpa using hopen)
  · cases h

/-- What the loop and the machine compute is a step. -/
theorem step_of_step?
    (h : s.step? c a = some (s', e)) :
    Step c s a s' e := by
  cases a with
  | report r =>
      simp only [step?] at h
      split at h
      · next hopen =>
          cases h
          exact .report r hopen
      · cases h
  | close =>
      cases h
      exact .close
  | turn =>
      obtain ⟨hrunning, hturn⟩ := turn_of_turn? h
      exact .turn hrunning hturn
  | pass span =>
      simp only [step?] at h
      obtain ⟨⟨machine, note⟩, hstep, he⟩ := Option.map_eq_some_iff.1 h
      cases he
      exact .pass hstep
  | move number m =>
      obtain ⟨⟨machine, note⟩, hstep, he⟩ := Option.map_eq_some_iff.1 h
      cases he
      exact .move hstep

/-! ## Calls -/

/-- The paths for which reloads will be asked, if no more news come. -/
def outstanding (s : EventLoop) : List Path := s.wanted ++ s.inbox.flatMap Notice.wanted

/-- What is called for and what is outstanding make up what was outstanding and what is reported.
-/
theorem calls_step
    (h : Step c s a s' e) :
    calls [(a, e)] ++ s'.outstanding
      = s.outstanding ++ (reports [(a, e)]).flatMap Report.asked := by
  rw [calls_singleton]
  cases h with
  | report r hopen => simp [outstanding, silent, reports, Report.wanted_notice]
  | close => simp [outstanding, silent, reports]
  | turn hrunning hturn =>
      cases hturn with
      | ask hwanted hstep => simp [outstanding, reports, hwanted]
      | receive hwanted hinbox => simp [outstanding, reports, hwanted, hinbox]
      | stop hwanted hinbox hclosed => simp [outstanding, reports]
  | pass hstep => simp [outstanding, reports]
  | move hstep => simp [outstanding, reports]

/-- Reloads are asked, or will be, for the shown paths of the reported writes, in their order. -/
theorem calls_append_outstanding
    (h : Runs c start s k) :
    k.calls ++ s.outstanding = start.outstanding ++ k.reports.flatMap Report.asked := by
  induction h with
  | refl => simp [calls, reports]
  | @step s s' k a e hrun hstep ih =>
      have hcalls := calls_step (step_of_step? hstep)
      calc calls (k ++ [(a, e)]) ++ s'.outstanding
          = calls k ++ (calls [(a, e)] ++ s'.outstanding) := by simp
        _ = (calls k ++ s.outstanding) ++ (reports [(a, e)]).flatMap Report.asked := by
            rw [hcalls, List.append_assoc]
        _ = start.outstanding ++ (reports (k ++ [(a, e)])).flatMap Report.asked := by
            rw [ih, reports_append, List.flatMap_append, List.append_assoc]

/-! ## The end of the loop -/

/-- A loop that has ended has nothing to do, and will never have. -/
def IsOrderly (s : EventLoop) : Prop :=
  s.isRunning = false → s.isOpen = false ∧ s.wanted = [] ∧ s.inbox = []

/-- A loop that has ended has nothing to do, and no step changes that. -/
theorem isOrderly_step
    (h : Step c s a s' e)
    (hs : s.IsOrderly) :
    s'.IsOrderly := by
  cases h with
  | report r hopen =>
      intro hended
      rw [(hs hended).1] at hopen
      cases hopen
  | close => exact fun hended => ⟨rfl, (hs hended).2⟩
  | turn hrunning hturn =>
      cases hturn with
      | ask hwanted hstep =>
          intro hended
          rw [hrunning] at hended
          cases hended
      | receive hwanted hinbox =>
          intro hended
          rw [hrunning] at hended
          cases hended
      | stop hwanted hinbox hclosed => exact fun _ => ⟨hclosed, hwanted, hinbox⟩
  | pass hstep => exact hs
  | move hstep => exact hs

/-- The loop ends only when its channel is closed and all news are handled. -/
theorem isOrderly_of_runs
    (hstart : start.IsOrderly)
    (h : Runs c start s k) :
    s.IsOrderly := by
  induction h with
  | refl => exact hstart
  | step _ hstep ih => exact isOrderly_step (step_of_step? hstep) ih

/-- The number of turns to the end of the loop, if no more news come. -/
def todo (s : EventLoop) : Nat :=
  if s.isRunning then
    s.wanted.length + (s.inbox.flatMap (·.wanted)).length + s.inbox.length + 1
  else 0

theorem todo_eq_zero_iff :
    s.todo = 0 ↔ s.isRunning = false := by
  unfold todo
  split <;> simp_all

/-- When no more news come, each turn takes one off what is to be done. -/
theorem todo_step
    (h : Step c s a s' e)
    (hclosed : s.isOpen = false) :
    s'.isOpen = false ∧ s'.todo + turns [(a, e)] = s.todo := by
  cases h with
  | report r hopen =>
      rw [hclosed] at hopen
      cases hopen
  | close => exact ⟨rfl, rfl⟩
  | turn hrunning hturn =>
      cases hturn with
      | ask hwanted hstep =>
          refine ⟨hclosed, ?_⟩
          simp only [todo, hrunning, hwanted, if_true, turns, List.countP_singleton,
            List.length_cons]
          omega
      | receive hwanted hinbox =>
          refine ⟨hclosed, ?_⟩
          simp only [todo, hrunning, hwanted, hinbox, if_true, turns, List.countP_singleton,
            List.length_nil, List.flatMap_cons, List.length_append, List.length_cons]
          omega
      | stop hwanted hinbox _ =>
          refine ⟨hclosed, ?_⟩
          simp [todo, hrunning, hwanted, hinbox, turns]
  | pass hstep => exact ⟨hclosed, rfl⟩
  | move hstep => exact ⟨hclosed, rfl⟩

/-- Once the channel is closed, each turn is one less to the end. -/
theorem todo_add_turns
    (hclosed : s.isOpen = false)
    (h : Runs c s s' k) :
    s'.isOpen = false ∧ s'.todo + k.turns = s.todo := by
  induction h with
  | refl => exact ⟨hclosed, rfl⟩
  | step _ hstep ih =>
      obtain ⟨hopen, hturns⟩ := todo_step (step_of_step? hstep) ih.1
      have hbefore := ih.2
      refine ⟨hopen, ?_⟩
      rw [turns_append]
      omega

theorem isSome_request
    (m : Reload.Machine)
    (path : Path) :
    (m.step? c (.request path)).isSome = true := by
  simp only [Reload.Machine.step?]
  split <;> rfl

/-- A loop takes its next turn if it has something to do, or if its channel is closed. -/
theorem isSome_turn
    (hrunning : s.isRunning = true)
    (h : s.isOpen = false ∨ s.wanted ≠ [] ∨ s.inbox ≠ []) :
    (s.step? c .turn).isSome = true := by
  simp only [step?, turn?, hrunning, if_true]
  split
  · rw [Option.isSome_map]
    exact isSome_request _ _
  · rfl
  · next hwanted hinbox =>
      have hclosed : s.isOpen = false := by simpa [hwanted, hinbox] using h
      simp [hclosed]

/-- A loop whose channel is closed comes to its end without further reports. -/
theorem exists_end
    (c : Reload.Setup)
    (hclosed : s.isOpen = false) :
    ∃ s' k, Runs c s s' k ∧ k.reports = [] ∧ s'.isRunning = false := by
  induction hleft : s.todo generalizing s with
  | zero => exact ⟨s, [], .refl, rfl, todo_eq_zero_iff.1 hleft⟩
  | succ left ih =>
      have hrunning : s.isRunning = true := by
        rw [← Bool.not_eq_false, ← todo_eq_zero_iff]
        omega
      obtain ⟨⟨next, e⟩, hstep⟩ :=
        Option.isSome_iff_exists.1 (isSome_turn (c := c) hrunning (.inl hclosed))
      obtain ⟨hopen, hturn⟩ := todo_step (step_of_step? hstep) hclosed
      have htodo : next.todo = left := by
        have hone : turns [(Action.turn, e)] = 1 := rfl
        omega
      obtain ⟨s', k, hrun, hreports, hended⟩ := ih hopen htodo
      exact ⟨s', _, (Runs.single hstep).trans hrun, by rw [reports_append, hreports]; rfl, hended⟩

/-! ## Notes -/

/-- A step of the loop is a step of the machine, or none. -/
theorem machine_step
    (h : Step c s a s' e) :
    Reload.Runs (Reload.Machine.step? c) s.machine s'.machine e.note.toList := by
  cases h with
  | report r hopen => exact .refl
  | close => exact .refl
  | turn hrunning hturn =>
      cases hturn with
      | ask hwanted hstep => exact .step .refl hstep
      | receive hwanted hinbox => exact .refl
      | stop hwanted hinbox hclosed => exact .refl
  | pass hstep => exact .step .refl hstep
  | move hstep => exact .step .refl hstep

/-- What happens to the reloads is a run of theirs. -/
theorem runs_machine
    (h : Runs c start s k) :
    Reload.Runs (Reload.Machine.step? c) start.machine s.machine k.notes := by
  induction h with
  | refl => exact .refl
  | step _ hstep ih =>
      rw [notes_append, notes_singleton]
      exact ih.trans (machine_step (step_of_step? hstep))

/-- The calls for paths with names, with the documents that they are for. -/
def named (paths : List Path) : List (String × Path) :=
  paths.filterMap fun path => (Path.name path).map fun identifier => (identifier, path)

/-- The request that is noted, and the number of the task that answers it. -/
def answered? (n : Reload.Note) : Option ((String × Path) × Nat) :=
  match n.deed, n.task with
  | .requested _ path, some number => some ((n.identifier, path), number)
  | _, _ => none

/-- The requests are the calls for paths with names, numbered in their order, and all notes are
on tasks. -/
structure Numbered (count : Nat) (calls : List Path) (notes : Reload.Journal) : Prop where
  answered : notes.filterMap answered? = (named calls).zipIdx
  count : count = (named calls).length
  onTasks : ∀ n ∈ notes, n.task ≠ none

/-- A note that answers no call leaves the numbering as it is. -/
theorem Numbered.plain
    {count : Nat}
    {calls : List Path}
    {notes : Reload.Journal}
    {note : Option Reload.Note}
    (h : Numbered count calls notes)
    (hnone : ∀ n ∈ note, answered? n = none)
    (htask : ∀ n ∈ note, n.task ≠ none) :
    Numbered count calls (notes ++ note.toList) := by
  cases note with
  | none => simpa using h
  | some n =>
      refine ⟨?_, h.count, fun m hm => ?_⟩
      · simp [h.answered, hnone n rfl]
      · rcases List.mem_append.1 hm with hm | hm
        · exact h.onTasks m hm
        · exact htask m (Option.mem_toList.1 hm)

/-- A call is answered by the task with the next number. -/
theorem Numbered.request
    {count : Nat}
    {calls : List Path}
    {notes : Reload.Journal}
    {path : Path}
    {identifier : String}
    {n : Reload.Note}
    (h : Numbered count calls notes)
    (hname : Path.name path = some identifier)
    (hn : answered? n = some ((identifier, path), count))
    (htask : n.task ≠ none) :
    Numbered (count + 1) (calls ++ [path]) (notes ++ [n]) := by
  have hnamed : named (calls ++ [path]) = named calls ++ [(identifier, path)] := by
    simp [named, hname]
  refine ⟨?_, ?_, fun m hm => ?_⟩
  · rw [hnamed, List.zipIdx_append, List.filterMap_append, h.answered, h.count.symm]
    simp [hn]
  · rw [hnamed, List.length_append, ← h.count]
    rfl
  · rcases List.mem_append.1 hm with hm | hm
    · exact h.onTasks m hm
    · rw [List.mem_singleton.1 hm]
      exact htask

theorem answered?_eq_none
    {n : Reload.Note}
    (h : n.deed.isRequest = false) :
    answered? n = none := by
  obtain ⟨time, identifier, task, deed, events⟩ := n
  cases deed <;> first | rfl | cases h

/-- A task that moves answers no call. -/
theorem numbered_move
    {number : Nat}
    {m : Reload.Move}
    {machine : Reload.Machine}
    {note : Option Reload.Note}
    (h : s.machine.step? c (.move number m) = some (machine, note))
    {calls : List Path}
    {notes : Reload.Journal}
    (hs : Numbered s.machine.reload.count calls notes) :
    Numbered machine.reload.count calls (notes ++ note.toList) := by
  cases Reload.Machine.step_of_step? h with
  | advance ht hadvance =>
      refine hs.plain (fun n hn => answered?_eq_none ?_) (fun n hn => ?_)
      · exact Reload.Machine.not_isRequest_of_advance hadvance n hn
      · obtain ⟨d, _, rfl⟩ := Option.map_eq_some_iff.1 hn
        exact Option.some_ne_none _
  | depart ht hdepart =>
      simp only [Reload.State.count_settle]
      refine hs.plain (fun n hn => answered?_eq_none ?_) (fun n hn => ?_)
      · cases hn
        exact Reload.Machine.not_isRequest_of_departure hdepart
      · cases hn
        exact Option.some_ne_none _
  | commit result moment ht hphase hcurrent =>
      simp only [Reload.State.count_settle]
      refine hs.plain (fun n hn => answered?_eq_none ?_) (fun n hn => ?_)
      · cases hn
        rfl
      · cases hn
        exact Option.some_ne_none _

/-- Every step answers the calls by tasks that are numbered in their order. -/
theorem numbered_step
    (h : Step c s a s' e)
    {calls : List Path}
    {notes : Reload.Journal}
    (hs : Numbered s.machine.reload.count calls notes) :
    Numbered s'.machine.reload.count (calls ++ e.call.toList) (notes ++ e.note.toList) := by
  cases h with
  | report r hopen => simpa [silent] using hs
  | close => simpa [silent] using hs
  | turn hrunning hturn =>
      cases hturn with
      | @ask path wanted machine note hwanted hstep =>
          cases Reload.Machine.step_of_step? hstep with
          | nameless hname =>
              have hnamed : named (calls ++ [path]) = named calls := by
                simp [named, hname]
              simp only [Option.toList_some, Option.toList_none, List.append_nil]
              exact ⟨by rw [hnamed]; exact hs.answered, by rw [hnamed]; exact hs.count,
                hs.onTasks⟩
          | request hname => exact hs.request hname rfl (Option.some_ne_none _)
      | receive hwanted hinbox => simpa using hs
      | stop hwanted hinbox hclosed => simpa using hs
  | pass hstep =>
      cases hstep
      simpa using hs
  | move hstep => simpa using numbered_move hstep hs

theorem numbered_of_runs
    {now : Nat}
    {store : Store}
    (hstart : start.machine = .opened now store)
    (h : Runs c start s k) :
    Numbered s.machine.reload.count k.calls k.notes := by
  induction h with
  | refl =>
      rw [hstart]
      exact ⟨rfl, rfl, fun n hn => absurd hn List.not_mem_nil⟩
  | step _ hstep ih =>
      rw [calls_append, notes_append, calls_singleton, notes_singleton]
      exact numbered_step (step_of_step? hstep) ih

/-- A note on a reload is on the document of the call that it belongs to. -/
theorem call_of_note
    {now : Nat}
    {store : Store}
    {n : Reload.Note}
    (hstart : start.machine = .opened now store)
    (h : Runs c start s k)
    (hn : n ∈ k.notes) :
    ∃ number path, n.task = some number ∧ (named k.calls)[number]? = some (n.identifier, path) := by
  have hnumbered := numbered_of_runs hstart h
  have hmachine := runs_machine h
  rw [hstart] at hmachine
  obtain ⟨number, htask⟩ := Option.ne_none_iff_exists'.1 (hnumbered.onTasks n hn)
  obtain ⟨r, hr, hrtask, hid, generation, path, hdeed⟩ :=
    Reload.exists_request_of_note hmachine hn htask
  have hanswered : answered? r = some ((n.identifier, path), number) := by
    simp [answered?, hdeed, hrtask, hid]
  have hmem : ((n.identifier, path), number) ∈ (named k.calls).zipIdx := by
    rw [← hnumbered.answered]
    exact List.mem_filterMap.2 ⟨r, hr, hanswered⟩
  exact ⟨number, path, htask, List.mem_zipIdx_iff_getElem?.1 hmem⟩

end

end EventLoop
end Watch
end LiveNotebooks
