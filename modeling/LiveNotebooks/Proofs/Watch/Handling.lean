import LiveNotebooks.Proofs.Watch.EventLoop
import LiveNotebooks.Rehearsal.World

/-!
# How reports are handled

**One thread.**  The loop of a watcher handles all news of its channel at one go.  That is a run
in which nothing comes between.

**Results.**
* `runs_runEventLoop`: what the loop of a watcher does at one go is a run.
* `reports_handled`: what becomes of the reports of the operating system.
-/

namespace LiveNotebooks
namespace Watch
namespace EventLoop

open Chronicle

section

variable {c : Reload.Setup} {s : EventLoop}

/-- The numbers of the tasks that reloads are answered with. -/
def launched (k : Chronicle) : List Nat := Reload.Journal.numbers k.notes

theorem launched_append
    (k l : Chronicle) :
    launched (k ++ l) = launched k ++ launched l := by
  simp [launched, Reload.Journal.numbers]

/-- A run of turns only, with what comes of it. -/
structure Handles (c : Reload.Setup) (s s' : EventLoop) (calls : List Path) (tasks : List Nat)
    (lines : List LogLine) : Prop where
  run : ∃ k, Runs c s s' k ∧ k.turns = k.length ∧ k.calls = calls ∧ launched k = tasks
    ∧ k.lines = lines

theorem Handles.refl :
    Handles c s s [] [] [] :=
  ⟨[], .refl, rfl, rfl, rfl, rfl⟩

theorem Handles.trans
    {s' s'' : EventLoop}
    {first second : List Path}
    {tasks more : List Nat}
    {lines others : List LogLine}
    (h : Handles c s s' first tasks lines)
    (h' : Handles c s' s'' second more others) :
    Handles c s s'' (first ++ second) (tasks ++ more) (lines ++ others) := by
  obtain ⟨k, hk, hturns, rfl, rfl, rfl⟩ := h.run
  obtain ⟨l, hl, hmore, rfl, rfl, rfl⟩ := h'.run
  have hall : turns (k ++ l) = (k ++ l).length := by
    rw [turns_append, hturns, hmore, List.length_append]
  exact ⟨k ++ l, hk.trans hl, hall, calls_append k l, launched_append k l, lines_append k l⟩

/-- The loop goes through the paths of the news at hand. -/
theorem handles_wanted
    (hrunning : s.isRunning = true) :
    Handles c s
      { s with
        wanted := []
        machine := { s.machine with reload := (scheduleAll s.machine.reload s.wanted).1 } }
      s.wanted ((scheduleAll s.machine.reload s.wanted).2.map Reload.Task.number) [] := by
  obtain ⟨inbox, isOpen, wanted, isRunning, now, reload, store⟩ := s
  subst hrunning
  induction wanted generalizing reload with
  | nil => exact .refl
  | cons path wanted ih =>
      have hturn : ∀ machine note,
          Reload.Machine.step? c ⟨now, reload, store⟩ (.request path) = some (machine, note) →
            step? c ⟨inbox, isOpen, path :: wanted, true, ⟨now, reload, store⟩⟩ .turn
              = some (⟨inbox, isOpen, wanted, true, machine⟩, ⟨some path, [], note⟩) := by
        intro machine note hstep
        simp [step?, turn?, hstep]
      simp only [scheduleAll]
      cases hname : Path.name path with
      | none =>
          have hschedule : reload.schedule path = none := by
            simp [Reload.State.schedule, hname]
          have hstep := hturn ⟨now, reload, store⟩ none (by simp [Reload.Machine.step?, hschedule])
          have hfirst : Handles c ⟨inbox, isOpen, path :: wanted, true, ⟨now, reload, store⟩⟩
              ⟨inbox, isOpen, wanted, true, ⟨now, reload, store⟩⟩ [path] [] [] :=
            ⟨_, .single hstep, rfl, rfl, rfl, rfl⟩
          simp only [hschedule]
          exact hfirst.trans (ih reload)
      | some identifier =>
          have hschedule : reload.schedule path
              = some (reload.enlist path identifier, reload.nextTask path identifier) := by
            simp [Reload.State.schedule, hname]
          have hstep := hturn ⟨now, reload.enlist path identifier, store⟩
            (some (Reload.Machine.requestNote ⟨now, reload, store⟩ path identifier))
            (by rw [Reload.Machine.step?, hschedule]; rfl)
          have hfirst : Handles c ⟨inbox, isOpen, path :: wanted, true, ⟨now, reload, store⟩⟩
              ⟨inbox, isOpen, wanted, true, ⟨now, reload.enlist path identifier, store⟩⟩ [path]
              [(reload.nextTask path identifier).number] [] :=
            ⟨_, .single hstep, rfl, rfl, rfl, rfl⟩
          simp only [hschedule]
          exact hfirst.trans (ih (reload.enlist path identifier))

/-- The loop takes the first news out of its channel and goes through their paths. -/
theorem handles_first
    {notice : Notice}
    {inbox : List Notice}
    (hrunning : s.isRunning = true)
    (hwanted : s.wanted = [])
    (hinbox : s.inbox = notice :: inbox) :
    Handles c s
      { s with
        inbox := inbox
        machine := { s.machine with reload := (react s.machine.reload notice).1 } }
      notice.wanted ((react s.machine.reload notice).2.1.map Reload.Task.number) notice.lines := by
  have hstep : s.step? c .turn = some ({ s with inbox := inbox, wanted := notice.wanted },
      ⟨none, notice.lines, none⟩) := by
    simp [step?, turn?, hrunning, hwanted, hinbox]
  have hreceive : Handles c s { s with inbox := inbox, wanted := notice.wanted } [] []
      notice.lines :=
    ⟨_, .single hstep, rfl, rfl, rfl, by simp [lines]⟩
  have hall := hreceive.trans
    (handles_wanted (s := { s with inbox := inbox, wanted := notice.wanted }) hrunning)
  simpa [hwanted, react] using hall

end

end EventLoop

/-! ## On one thread -/

open EventLoop Rehearsal

/-- The reloads of a world, and their store. -/
def machineOf (w : World) : Reload.Machine := ⟨w.now, w.reload, w.store⟩

/-- A world in which the reloads are in another state, behind some new tasks and lines. -/
def behind (w : World) (reload : Reload.State) (tasks : List Nat) (lines : List LogLine) : World :=
  { w with
    reload := reload
    jobs := w.jobs ++ tasks.map Job.newTask
    log := lines.reverse ++ w.log }

theorem behind_behind
    (w : World)
    (first second : Reload.State)
    (tasks more : List Nat)
    (lines others : List LogLine) :
    behind (behind w first tasks lines) second more others
      = behind w second (tasks ++ more) (lines ++ others) := by
  simp [behind]

theorem behind_refl
    (w : World) :
    behind w w.reload [] [] = w := by
  simp [behind]

theorem writeLog_run
    (lines : List LogLine)
    (w : World) :
    ((writeLog lines).run w).2 = behind w w.reload [] lines := by
  simp only [behind, List.map_nil, List.append_nil]
  rfl

/-- The tasks are launched one after another. -/
theorem forM_launch
    (tasks : List Reload.Task)
    (w : World) :
    ((tasks.forM launch).run w).2 = behind w w.reload (tasks.map Reload.Task.number) [] := by
  induction tasks generalizing w with
  | nil => exact (behind_refl w).symm
  | cons t rest ih =>
      calc (((t :: rest).forM launch).run w).2
          = ((rest.forM launch).run { w with jobs := w.jobs ++ [.newTask t.number] }).2 := rfl
        _ = behind (behind w w.reload [t.number] []) w.reload (rest.map Reload.Task.number) [] :=
            ih _
        _ = behind w w.reload ((t :: rest).map Reload.Task.number) [] := behind_behind w _ _ _ _ _ _

/-- A notice is handled as the reaction to it says. -/
theorem handleNotice_run
    (notice : Notice)
    (w : World) :
    ((handleNotice notice).run w).2
      = behind w (react w.reload notice).1 ((react w.reload notice).2.1.map Reload.Task.number)
        notice.lines := by
  have hlaunch := forM_launch (react w.reload notice).2.1
    { w with reload := (react w.reload notice).1 }
  calc ((handleNotice notice).run w).2
      = ((writeLog notice.lines).run (((react w.reload notice).2.1.forM launch).run
          { w with reload := (react w.reload notice).1 }).2).2 := rfl
    _ = _ := by
        rw [hlaunch]
        rfl

/-- What the loop does with the news in its channel is a run of turns. -/
theorem handles_inbox
    (c : Reload.Setup)
    (isOpen : Bool)
    (inbox : List Notice)
    (w : World) :
    ∃ reload tasks lines,
      Handles c ⟨inbox, isOpen, [], true, machineOf w⟩
          ⟨[], isOpen, [], true, ⟨w.now, reload, w.store⟩⟩ (inbox.flatMap Notice.wanted) tasks lines
        ∧ ((inbox.forM handleNotice).run w).2 = behind w reload tasks lines := by
  induction inbox generalizing w with
  | nil => exact ⟨w.reload, [], [], .refl, (behind_refl w).symm⟩
  | cons notice rest ih =>
      obtain ⟨reload, tasks, others, hrest, hrun⟩ := ih ((handleNotice notice).run w).2
      have hfirst := handles_first (c := c) (s := ⟨notice :: rest, isOpen, [], true, machineOf w⟩)
        rfl rfl rfl
      rw [handleNotice_run] at hrest hrun
      refine ⟨reload, _, _, hfirst.trans hrest, ?_⟩
      calc (((notice :: rest).forM handleNotice).run w).2
          = ((rest.forM handleNotice).run ((handleNotice notice).run w).2).2 := rfl
        _ = _ := by
            rw [handleNotice_run, hrun, behind_behind]
            rfl

/-- What the loop of a watcher does at one go is a run of turns.  It handles all news, and ends
if the channel is closed. -/
theorem runs_runEventLoop
    (c : Reload.Setup)
    {number : Nat}
    {watcher : Watcher}
    {w : World}
    (hwatcher : w.watchers[number]? = some watcher)
    (hhandled : watcher.isHandled = true) :
    ∃ reload tasks lines,
      Handles c ⟨watcher.inbox, watcher.isOpen, [], true, machineOf w⟩
          ⟨[], watcher.isOpen, [], watcher.isOpen, ⟨w.now, reload, w.store⟩⟩
          (watcher.inbox.flatMap Notice.wanted) tasks lines
        ∧ ((runEventLoop number).run w).2
          = behind
            { w with
              watchers :=
                w.watchers.set number { watcher with inbox := [], isHandled := watcher.isOpen } }
            reload tasks lines := by
  obtain ⟨inbox, isOpen, isHandled⟩ := watcher
  subst hhandled
  let ended : World :=
    { w with watchers := w.watchers.set number ⟨[], isOpen, isOpen⟩ }
  obtain ⟨reload, tasks, lines, hhandles, hrun⟩ := handles_inbox c isOpen inbox ended
  have hgo : ((runEventLoop number).run w).2
      = ((if !isOpen then writeLog [closedLine] else pure ()).run
          ((inbox.forM handleNotice).run ended).2).2 := by
    rw [runEventLoop]
    simp only [StateT.run_bind, StateT.run_get, pure_bind, hwatcher, if_true]
    rfl
  rw [hrun] at hgo
  cases isOpen with
  | true => exact ⟨reload, tasks, lines, hhandles, hgo⟩
  | false =>
      have hstop : Handles c ⟨[], false, [], true, ⟨w.now, reload, w.store⟩⟩
          ⟨[], false, [], false, ⟨w.now, reload, w.store⟩⟩ [] [] [closedLine] :=
        ⟨_, .single (a := .turn) rfl, rfl, rfl, rfl, rfl⟩
      refine ⟨reload, tasks, lines ++ [closedLine], ?_, ?_⟩
      · have hall := hhandles.trans hstop
        simp only [List.append_nil] at hall
        exact hall
      · have hlast := behind_behind ended reload reload tasks [] lines [closedLine]
        rw [List.append_nil] at hlast
        rw [hgo, ← hlast]
        exact writeLog_run [closedLine] (behind ended reload tasks lines)

/-! ## What becomes of the reports -/

/-- What has become of the reports to a loop that began with a store. -/
structure Accounts (c : Reload.Setup) (store : Store) (s : EventLoop) (k : Chronicle) : Prop where
  /-- Reloads are asked, or will be, for the shown paths of the writes, in their order. -/
  calls : k.calls ++ s.outstanding = k.reports.flatMap Report.asked
  /-- A loop ends only if its channel is closed and all reports are handled. -/
  ended : s.isRunning = false → s.isOpen = false ∧ k.calls = k.reports.flatMap Report.asked
  /-- Until then it takes a turn if its channel is closed, or if it has something to do. -/
  goesOn : s.isRunning = true → s.isOpen = false ∨ s.wanted ≠ [] ∨ s.inbox ≠ [] →
    (s.step? c .turn).isSome = true
  /-- With its channel closed a loop ends with the turn that is its last one. -/
  ends : s.isOpen = false → ∀ s' l, Runs c s s' l →
    l.turns ≤ s.todo ∧ (s'.isRunning = false ↔ l.turns = s.todo)
  exists_end : s.isOpen = false → ∃ s' l, Runs c s s' l ∧ l.reports = [] ∧ s'.isRunning = false
  /-- A document for which no reload is asked stays as it was. -/
  kept : ∀ identifier, (∀ path ∈ k.calls, Path.name path ≠ some identifier) →
    s.machine.store.find? identifier = store.find? identifier
  /-- A commit is of a document for which a reload is asked. -/
  committed : ∀ n ∈ Reload.commits k.notes, ∃ number path, n.task = some number
    ∧ (named k.calls)[number]? = some (n.identifier, path)
  /-- No two commits belong to one call. -/
  distinct : ((Reload.commits k.notes).map Reload.Note.task).Nodup

theorem name_of_named
    {paths : List Path}
    {number : Nat}
    {identifier : String}
    {path : Path}
    (h : (named paths)[number]? = some (identifier, path)) :
    path ∈ paths ∧ Path.name path = some identifier := by
  obtain ⟨other, hother, hname⟩ := List.mem_filterMap.1 (List.mem_of_getElem? h)
  obtain ⟨name, hsome, he⟩ := Option.map_eq_some_iff.1 hname
  cases he
  exact ⟨hother, hsome⟩

/-- The accounts of a run are those of its calls and its notes. -/
theorem accounts_of_runs
    {c : Reload.Setup}
    {now : Nat}
    {store : Store}
    {s : EventLoop}
    {k : Chronicle}
    (h : Runs c (.started (.opened now store)) s k) :
    Accounts c store s k := by
  have hcalls : k.calls ++ s.outstanding = k.reports.flatMap Report.asked :=
    calls_append_outstanding h
  have horderly : s.IsOrderly := isOrderly_of_runs (fun hended => by cases hended) h
  have hmachine := runs_machine h
  refine
    { calls := hcalls
      ended := fun hended => ?_
      goesOn := isSome_turn
      ends := fun hclosed s' l hrun => ?_
      exists_end := EventLoop.exists_end c
      kept := fun identifier hnone => ?_
      committed := fun n hn => call_of_note rfl h (Reload.mem_commits.1 hn).1
      distinct := Reload.commits_nodup hmachine }
  · obtain ⟨hclosed, hwanted, hinbox⟩ := horderly hended
    refine ⟨hclosed, ?_⟩
    simpa [outstanding, hwanted, hinbox] using hcalls
  · have hturns := (todo_add_turns hclosed hrun).2
    rw [← todo_eq_zero_iff]
    omega
  · refine Reload.find?_of_not_noted hmachine fun n hn hid => ?_
    obtain ⟨number, path, _, hcall⟩ := call_of_note rfl h hn
    obtain ⟨hpath, hname⟩ := name_of_named hcall
    exact hnone path hpath (hid ▸ hname)

/-- **What becomes of the reports.**  Whatever the operating system reports, and however its
reports, the turns of the loop and the reloads come between each other: reloads are asked for the
shown paths of the reported writes, each as often as it is reported and in this order, and for
nothing else.  The loop ends just when its channel is closed and it has handled all reports.  If
nobody else writes, only documents for which a reload was asked can differ from before, and no two
commits belong to one call.  On one thread the loop of a watcher takes all turns that it can at one
go. -/
theorem reports_handled
    (c : Reload.Setup)
    {now : Nat}
    {store : Store}
    {s : EventLoop}
    {k : Chronicle}
    (h : Runs c (.started (.opened now store)) s k) :
    Accounts c store s k
      ∧ ∀ number watcher w, w.watchers[number]? = some watcher → watcher.isHandled = true →
        ∃ reload tasks lines,
          Handles c ⟨watcher.inbox, watcher.isOpen, [], true, machineOf w⟩
              ⟨[], watcher.isOpen, [], watcher.isOpen, ⟨w.now, reload, w.store⟩⟩
              (watcher.inbox.flatMap Notice.wanted) tasks lines
            ∧ ((runEventLoop number).run w).2
              = behind
                { w with
                  watchers :=
                    w.watchers.set number
                      { watcher with inbox := [], isHandled := watcher.isOpen } }
                reload tasks lines :=
  ⟨accounts_of_runs h, fun _ _ _ => runs_runEventLoop c⟩

/-- A file is made and written twice, and a hidden one once; then the watch breaks down. -/
def reported : List EventLoop.Action :=
  [.report (.change (.creation .file) [[0x61]]), .turn,
    .report (.change (.modification .any) [[0x61], [0x2E, 0x62], [0x61]]), .turn, .turn,
    .report (.failure "gone"), .turn, .turn, .close, .move 1 .rest, .pass 100, .move 1 .rouse,
    .move 1 (.look true), .move 1 .start, .turn, .move 1 (.finish (.ok .null) ⟨1, 0⟩)]

/-- A file is reported twice, is converted once and committed by the newer task. -/
theorem reports_handled_reported :
    ∃ s k, Runs ⟨"ann", 100⟩ (.started (.opened 0 .empty)) s k
      ∧ s.isRunning = false
      ∧ k.calls = [[0x61], [0x61]]
      ∧ (Reload.commits k.notes).map Reload.Note.task = [some 1]
      ∧ Accounts ⟨"ann", 100⟩ .empty s k := by
  have hview : (run? ⟨"ann", 100⟩ (.started (.opened 0 .empty)) reported).map
      (fun r => (r.1.isRunning, r.2.calls, (Reload.commits r.2.notes).map Reload.Note.task))
      = some (false, [[0x61], [0x61]], [some 1]) := by decide
  obtain ⟨⟨s, k⟩, hrun, he⟩ := Option.map_eq_some_iff.1 hview
  obtain ⟨hrunning, hrest⟩ := Prod.mk.inj he
  obtain ⟨hcalls, hcommits⟩ := Prod.mk.inj hrest
  have hruns := runs_of_run? hrun
  exact ⟨s, k, hruns, hrunning, hcalls, hcommits, (reports_handled ⟨"ann", 100⟩ hruns).1⟩

end Watch
end LiveNotebooks
