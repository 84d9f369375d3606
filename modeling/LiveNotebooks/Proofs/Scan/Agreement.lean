import LiveNotebooks.Proofs.Reload.Course
import LiveNotebooks.Proofs.Scan.Order
import LiveNotebooks.Watch

/-!
# Scans and reloads agree

A scan goes through the entries of a directory once.  A reload begins with news of one entry,
and looks for the file itself when its quiet time is over.  In a directory that stays as it
is, both take the same entries for files, and store the same documents for them.

**Results.**
* `course_news`: news of a write begin a reload, or nothing if the entry is hidden.
* `scan_agrees_with_reload`: a reload commits just if a scan loads the file.
-/

namespace LiveNotebooks
namespace Reload

/-- The service behind news of a path. -/
def Machine.behindNews (s : Machine) (kind : Watch.Kind) (path : Path) : Machine :=
  { s with reload := (Watch.react s.reload (.change kind [path])).1 }

section

variable {c : Setup} {files : Files} {directory path : Path} {here : Location} {name : Bytes}
  {kind : Watch.Kind} {s : Machine} {j : Journal}

theorem behindNews_of_hidden
    (hhidden : Path.isHidden path = true) :
    s.behindNews kind path = s := by
  cases kind <;>
    simp [Machine.behindNews, Watch.react, Watch.Notice.wanted, Watch.Kind.isWrite, hhidden,
      Watch.scheduleAll]

theorem behindNews_of_nameless
    (hname : Path.name path = none) :
    s.behindNews kind path = s := by
  cases kind <;>
    simp [Machine.behindNews, Watch.react, Watch.Notice.wanted, Watch.Kind.isWrite,
      Path.isHidden, hname, Watch.scheduleAll, State.schedule]

theorem behindNews_of_visible
    {identifier : String}
    (hkind : kind.isWrite = true)
    (hvisible : Path.isHidden path = false)
    (hname : Path.name path = some identifier) :
    s.behindNews kind path = { s with reload := s.reload.enlist path identifier } := by
  simp [Machine.behindNews, Watch.react, Watch.Notice.wanted, hkind, hvisible,
    Watch.scheduleAll, State.schedule, hname]

/-- News of a write begin a reload, or nothing if the entry is hidden or has no name. -/
theorem course_news
    (files : Files)
    (hidle : Idle path s)
    (hkind : kind.isWrite = true) :
    Course files path (s.behindNews kind path) [] := by
  have hnone : ¬ Committed path [] := by
    rintro ⟨n, hn, _⟩
    cases hn
  cases hhidden : Path.isHidden path with
  | true =>
      rw [behindNews_of_hidden hhidden]
      exact .ended hidle (by simp [hnone, hhidden])
  | false =>
      cases hname : Path.name path with
      | some identifier =>
          rw [behindNews_of_visible hkind hhidden hname]
          exact course_enlist hidle hname hhidden
      | none =>
          rw [behindNews_of_nameless hname]
          refine .ended hidle ?_
          constructor
          · exact fun hcommitted => absurd hcommitted hnone
          · rintro ⟨hfile, _⟩
            obtain ⟨identifier, hsome⟩ := Files.exists_name_of_isFile hfile
            rw [hname] at hsome
            cases hsome

/-- A commit is that of the reload of the path, and stores what a load of the file would. -/
theorem Course.commit
    {s' : Machine}
    {number : Nat}
    {result : ConversionResult}
    {moment : Instant}
    {n : Note}
    (h : Course files path s j)
    (hstep : s.step? c (.move number (.finish result moment)) = some (s', some n))
    (hname : Path.name path = some n.identifier)
    (hdeed : n.deed = .committed) :
    ∃ t ∈ s.reload.tasks, t.number = number ∧ t.ticket.path = path
      ∧ s'.store = (s.store.put ⟨n.identifier, n.identifier, c.author,
        (⟨n.identifier, result⟩ : Conversion).contents, moment⟩).1 := by
  generalize hnote : some n = note at hstep
  cases Machine.step_of_step? hstep with
  | advance ht hadvance => cases hadvance
  | depart ht hdepart =>
      cases hnote
      cases hdepart
      cases hdeed
  | @commit t _ _ ht hphase hcurrent =>
      cases hnote
      refine ⟨t, ht, rfl, ?_, rfl⟩
      cases h with
      | @alive u sole hpath hown hvisible huncommitted =>
          rw [hname] at hown
          rw [sole.only t ht (Option.some.inj hown)]
          exact hpath
      | ended hidle hcommitted => exact absurd hname (hidle t ht)

end

end Reload

namespace Scan

open Reload

/-- **Scans and reloads agree.**  Let a directory stay as it is, and let news of a write come
for one of its entries while no reload of this document is alive.  As long as nobody asks for
another reload of it, however much else goes on, the reload can be brought to its end; and
whenever it has ended, it has committed if and only if every scan of the directory loads the
entry.  The commit puts a document in the store, and what a scan puts for the entry, if the
conversion comes to the same result, is this document but for the moment of the change. -/
theorem scan_agrees_with_reload
    (c : Setup)
    (files : Files)
    (directory : Path)
    (here : Location)
    (name : Bytes)
    (kind : Watch.Kind)
    (s : Machine)
    (hdirectory : files.stat directory = .ok (here, .directory))
    (hentry : name ∈ files.names here)
    (hkind : kind.isWrite = true)
    (hidle : Idle (Path.join directory name) s) :
    let path := Path.join directory name
    let start := s.behindNews kind path
    (∀ m j, Runs (Machine.steady? c files) start m j → Quiet path j →
      ∃ last later, Runs (Machine.steady? c files) m last later ∧ Quiet path later
        ∧ Idle path last)
      ∧ (∀ last j, Runs (Machine.steady? c files) start last j → Quiet path j →
        Idle path last → ∀ author store concurrency p actions,
          Progress.Runs author
            (.opened (listed files directory) concurrency store) p actions →
          p.pool.isDone = true →
            ((∃ l ∈ loads actions, l.path = path) ↔ Committed path j))
      ∧ (∀ m j, Runs (Machine.steady? c files) start m j → Quiet path j →
        ∀ number result moment m' n,
          m.step? c (.move number (.finish result moment)) = some (m', some n) →
          Path.name path = some n.identifier → n.deed = .committed →
            (∃ t ∈ m.reload.tasks, t.number = number ∧ t.ticket.path = path)
              ∧ ∃ document, m'.store = (m.store.put document).1
                ∧ ∀ (p : Progress) (l : Load), l.path = path → l.result = result →
                  (p.commit c.author l).store
                    = (p.store.put { document with updatedAt := l.moment }).1) := by
  intro path start
  have hstart : Course files path start [] := course_news files hidle hkind
  refine ⟨?_, ?_, ?_⟩
  · intro m j hruns hquiet
    exact (course_run hstart hruns hquiet).ends c
  · intro last j hruns hquiet hover author store concurrency p actions hscan hdone
    have hloaded : (∃ l ∈ loads actions, l.path = path) ↔ path ∈ listed files directory := by
      rw [← (Progress.perm_of_isDone hscan hdone).mem_iff, List.mem_map]
    have hlisted : path ∈ listed files directory
        ↔ files.isFile path = true ∧ Path.isHidden path = false := by
      rw [mem_listed_iff hdirectory]
      constructor
      · rintro ⟨_, _, _, hfile⟩
        exact hfile
      · exact fun hfile => ⟨name, hentry, rfl, hfile⟩
    have hcourse := course_run hstart hruns hquiet
    rw [hloaded, hlisted]
    cases hcourse with
    | alive sole hpath hname hvisible huncommitted => exact absurd hname (hover _ sole.alive)
    | ended _ hcommitted => exact hcommitted.symm
  · intro m j hruns hquiet number result moment m' n hstep hname hdeed
    have hcourse := course_run hstart hruns hquiet
    obtain ⟨t, ht, hnumber, hpath, hstore⟩ := hcourse.commit hstep hname hdeed
    refine ⟨⟨t, ht, hnumber, hpath⟩, _, hstore, ?_⟩
    rintro p l hl rfl
    have hload := Progress.document?_of_name c.author (l := l) (hl ▸ hname)
    rw [Progress.store_commit, hload]
    rfl

/-! ## News of a file -/

/-- What the reload of a file comes to that nobody disturbs. -/
def reloadAlone : List Reload.Action :=
  [.move 0 .rest, .pass 100, .move 0 .rouse, .move 0 (.look true), .move 0 .start,
    .move 0 (.finish (.ok (.object [])) ⟨3, 0⟩)]

def reloadNotes : Journal :=
  [⟨100, "a", some 0, .started [0x2F, 0x61], []⟩,
    ⟨100, "a", some 0, .committed, [⟨.created, "a"⟩]⟩]

/-- A scan of two files, and the reload of one of them after its change. -/
theorem scan_agrees_with_reload_alone :
    ∃ last,
      [0x61] ∈ Progress.sample.names []
        ∧ Runs (Machine.steady? ⟨"ann", 100⟩ Progress.sample)
          ((Machine.opened 0 .empty).behindNews (.unspecified "Modify(Any)") [0x2F, 0x61]) last
          reloadNotes
        ∧ Quiet [0x2F, 0x61] reloadNotes
        ∧ Idle [0x2F, 0x61] last
        ∧ ((∃ l ∈ loads Progress.reversed, l.path = [0x2F, 0x61])
          ↔ Committed [0x2F, 0x61] reloadNotes) := by
  have hentry : [0x61] ∈ Progress.sample.names [] := by
    rw [Files.names, List.mem_mergeSort]
    decide
  have hrun : (run? (Machine.steady? ⟨"ann", 100⟩ Progress.sample)
        ((Machine.opened 0 .empty).behindNews (.unspecified "Modify(Any)") [0x2F, 0x61])
        reloadAlone).map (fun r => (r.1.reload.tasks, r.2)) = some ([], reloadNotes) := by
    decide +kernel
  have hscan : (Progress.run? "ann" (.opened (listed Progress.sample [0x2F]) 2 .empty)
      Progress.reversed).map (fun p => p.pool.isDone) = some true := by
    simp only [listed, Progress.visibleFiles_sample]
    decide +kernel
  obtain ⟨last, hruns, hlast⟩ := exists_runs_of_run?
    (fun s : Machine => s.reload.tasks) hrun
  obtain ⟨p, hp, hdone⟩ := Option.map_eq_some_iff.1 hscan
  have hquiet : Quiet [0x2F, 0x61] reloadNotes := by
    intro n hn identifier _
    refine not_requests_of_deed ?_ identifier
    revert n
    decide
  have hidle : Idle [0x2F, 0x61] last := by
    intro t ht
    rw [hlast] at ht
    cases ht
  have hagrees := scan_agrees_with_reload ⟨"ann", 100⟩ Progress.sample [0x2F] [] [0x61]
    (.unspecified "Modify(Any)") (.opened 0 .empty) rfl hentry rfl (by intro t ht; cases ht)
  exact ⟨last, hentry, hruns, hquiet, hidle, hagrees.2.1 last reloadNotes hruns hquiet hidle "ann"
    .empty 2 p Progress.reversed (Progress.runs_of_run? hp) hdone⟩

end Scan
end LiveNotebooks
