import LiveNotebooks.Proofs.Scan.Order
import LiveNotebooks.Proofs.Service.Hub
import Mathlib.Data.List.Perm.Subperm

/-!
# The start of the program

Before requests are answered the program does nothing but scan its directory.  It holds the
report on this scan ever after.

**Invariant.**  `Scanning` says that only the scan is under way, and that the store of the
program is that of the scan.

**Results.**
* `scanning_run`: what happens before requests are answered is a scan.
* `describes_iff_distinct`: when the report describes the store, once the start is over.
* `exists_not_describes`: two files whose names read alike share one document.
-/

namespace LiveNotebooks

namespace Scan.Report

/-- The report names each document of the store once, and nothing else. -/
structure Describes (r : Report) (store : Store) : Prop where
  total : r.total = store.size
  distinct : r.loaded.Nodup ∧ r.failed.Nodup
  disjoint : ∀ identifier ∈ r.loaded, identifier ∉ r.failed
  documents : ∀ identifier,
    identifier ∈ r.loaded ∨ identifier ∈ r.failed ↔ store.contains identifier = true

end Scan.Report

namespace Store

/-- The identifiers of the documents, in ascending order. -/
def keys (s : Store) : List String := s.notebooks.map Notebook.identifier

theorem mem_keys_iff
    {s : Store}
    {identifier : String} :
    identifier ∈ s.keys ↔ s.contains identifier = true := by
  simp [keys, contains]

theorem nodup_keys
    (s : Store) :
    s.keys.Nodup := by
  refine (List.pairwise_map.2 s.ascending).imp ?_
  rintro a b hlt rfl
  exact String.lt_irrefl a hlt

theorem length_keys
    (s : Store) :
    s.keys.length = s.size :=
  List.length_map _

end Store

namespace Scan.Report

section

variable {r : Report} {store : Store}

/-- Names that are just those of the documents are as many as these if they are different. -/
theorem total_eq_size_iff
    (h : ∀ identifier, identifier ∈ r.loaded ++ r.failed ↔ store.contains identifier = true) :
    r.total = store.size ↔ (r.loaded ++ r.failed).Nodup := by
  rw [total_eq_length, ← store.length_keys]
  have hmem : ∀ identifier, identifier ∈ store.keys ↔ identifier ∈ r.loaded ++ r.failed :=
    fun identifier => Store.mem_keys_iff.trans (h identifier).symm
  constructor
  · intro htotal
    have hsub : store.keys.Subperm (r.loaded ++ r.failed) :=
      List.subperm_of_subset store.nodup_keys fun identifier => (hmem identifier).1
    exact (hsub.perm_of_length_le (Nat.le_of_eq htotal)).nodup_iff.1 store.nodup_keys
  · intro hdistinct
    exact ((List.perm_ext_iff_of_nodup store.nodup_keys hdistinct).2 hmem).length_eq.symm

/-- A report that names just the documents describes the store just if it names none twice. -/
theorem describes_iff
    (h : ∀ identifier, identifier ∈ r.loaded ++ r.failed ↔ store.contains identifier = true) :
    r.Describes store ↔ (r.loaded ++ r.failed).Nodup := by
  constructor
  · rintro ⟨_, ⟨hloaded, hfailed⟩, hdisjoint, _⟩
    refine List.nodup_append.2 ⟨hloaded, hfailed, ?_⟩
    rintro identifier hin _ hnot rfl
    exact hdisjoint identifier hin hnot
  · intro hdistinct
    obtain ⟨hloaded, hfailed, hapart⟩ := List.nodup_append.1 hdistinct
    exact ⟨(total_eq_size_iff h).2 hdistinct, ⟨hloaded, hfailed⟩,
      fun identifier hin hnot => hapart identifier hin identifier hnot rfl,
      fun identifier => List.mem_append.symm.trans (h identifier)⟩

end

end Scan.Report

namespace Hub

/-- What an action of the program is to the scan. -/
def Action.scan? : Action → Option Scan.Action
  | .take => some .take
  | .scanned path result moment => some (.finish ⟨path, result, moment⟩)
  | _ => none

/-- The report on what has been loaded by some actions. -/
def scanReport (actions : List Action) : Scan.Report :=
  .ofOutcomes ((Scan.loads (actions.filterMap Action.scan?)).filterMap Scan.Load.outcome?)

/-- Only the scan is under way.  There is none in a directory that cannot be read. -/
structure Scanning (p : Scan.Progress) (s : Hub) : Prop where
  unserved : s.isServing = false
  unwatched : s.isWatched = false
  unasked : s.wanted = []
  idle : s.service.machine.reload.tasks = []
  store : s.service.store = p.store
  scans : s.service.scans = [p.pool] ∨ s.service.scans = [] ∧ p.pool.isDone = true

section

variable {c : Configuration} {p : Scan.Progress} {s s' : Hub} {a : Action}
  {actions : List Action}

theorem scanning_opened
    (c : Configuration)
    (files : Files)
    (now : Nat) :
    Scanning
      (.opened (Scan.listed files c.notebookDirectory) c.scanConcurrency .empty)
      (opened c files now) := by
  unfold opened Scan.listed
  cases Scan.visibleFiles files c.notebookDirectory with
  | error e => exact ⟨rfl, rfl, rfl, rfl, rfl, .inr ⟨rfl, rfl⟩⟩
  | ok found => exact ⟨rfl, rfl, rfl, rfl, rfl, .inl rfl⟩

theorem pool_eq_of_scanning
    {number : Nat}
    {pool : Scan.Pool}
    (h : Scanning p s)
    (hpool : s.service.scans[number]? = some pool) :
    pool = p.pool ∧ s.service.scans = [p.pool] := by
  rcases h.scans with hscans | ⟨hscans, _⟩
  · have hmem := List.mem_of_getElem? hpool
    rw [hscans] at hmem
    exact ⟨List.mem_singleton.1 hmem, hscans⟩
  · rw [hscans] at hpool
    cases hpool

theorem document?_eq
    (c : Configuration)
    (l : Scan.Load) :
    Service.document? (setup c) l.path l.result l.moment = l.document? c.author := by
  unfold Service.document? Scan.Load.document? Scan.conversion?
  rw [Option.map_map]
  rfl

/-- What is stored for a file of the scan. -/
theorem scanning_commit
    {before service : Service}
    {events : List Store.Event}
    {l : Scan.Load}
    (h : Scanning p { s with service := before })
    (hcommit : before.commit (setup c) l.path l.result l.moment = (service, events)) :
    Scanning (p.commit c.author l) { s with service := service } := by
  have hwrites := Service.writes_commit (s := before) hcommit rfl rfl
  obtain ⟨hreload, hscans⟩ := Service.under_way_of_commit hcommit
  refine ⟨h.unserved, h.unwatched, h.unasked, ?_, ?_, ?_⟩
  · rw [hreload]
    exact h.idle
  · rw [Scan.Progress.store_commit, ← document?_eq, ← h.store]
    exact hwrites.store
  · rw [hscans, Scan.Progress.pool_commit]
    exact h.scans

/-- A step before requests are answered is one of the scan, if it is not just that time
passes. -/
theorem scanning_step
    (h : Scanning p s)
    (hstep : s.step? c a = some s')
    (hunserved : s'.isServing = false) :
    ∃ q, Scanning q s' ∧ Scan.Progress.Runs c.author p q a.scan?.toList := by
  cases step_of_step? hstep with
  | serve files hwaiting hdone => cases hunserved
  | news notice hwatched =>
      rw [h.unwatched] at hwatched
      cases hwatched
  | ask hwanted hask =>
      rw [h.unasked] at hwanted
      cases hwanted
  | @within _ b service events hserves hservice =>
      cases hserves with
      | take =>
          cases Service.step_of_step? hservice with
          | @take _ pool rest path hpool hnext =>
              obtain ⟨rfl, hscans⟩ := pool_eq_of_scanning h hpool
              refine ⟨{ p with pool := rest }, ?_, ?_⟩
              · refine ⟨h.unserved, h.unwatched, h.unasked, h.idle, h.store, .inl ?_⟩
                simp [Service.withScan, hscans]
              · have htake : p.step? c.author .take = some { p with pool := rest } := by
                  simp [Scan.Progress.step?, hnext]
                exact .step .refl htake
      | scanned path result moment =>
          cases Service.step_of_step? hservice with
          | @scanned _ pool _ _ _ _ _ hpool hrunning hcommit =>
              obtain ⟨rfl, hscans⟩ := pool_eq_of_scanning h hpool
              have hbefore : Scanning { p with pool := p.pool.finish path }
                  { s with service := s.service.withScan 0 (p.pool.finish path) } := by
                refine ⟨h.unserved, h.unwatched, h.unasked, h.idle, h.store, .inl ?_⟩
                simp [Service.withScan, hscans]
              have hfinish : p.step? c.author (.finish ⟨path, result, moment⟩)
                  = some ({ p with pool := p.pool.finish path }.commit c.author
                    ⟨path, result, moment⟩) := by
                simp [Scan.Progress.step?, hrunning]
              exact ⟨_, scanning_commit (l := ⟨path, result, moment⟩) hbefore hcommit,
                .step .refl hfinish⟩
      | pass span =>
          cases hservice
          exact ⟨p, ⟨h.unserved, h.unwatched, h.unasked, h.idle, h.store, h.scans⟩, .refl⟩
      | move number m =>
          have hnone : s.service.machine.reload.task? number = none := by
            simp [Reload.State.task?, h.idle]
          simp [Service.step?, Reload.Machine.step?, hnone] at hservice
      | answer files requestId moment r hserving =>
          rw [h.unserved] at hserving
          cases hserving

theorem unserved_of_step?
    (h : s.step? c a = some s')
    (hunserved : s'.isServing = false) :
    s.isServing = false := by
  cases step_of_step? h with
  | within hserves hservice => exact hunserved
  | serve files hwaiting hdone => exact hwaiting
  | news notice hwatched => exact hunserved
  | ask hwanted hask => exact hunserved

theorem unserved_of_run?
    (h : run? c s actions = some s')
    (hunserved : s'.isServing = false) :
    s.isServing = false := by
  induction actions generalizing s with
  | nil =>
      cases h
      exact hunserved
  | cons a rest ih =>
      obtain ⟨middle, hstep, hrest⟩ := Option.bind_eq_some_iff.1 h
      exact unserved_of_step? hstep (ih hrest)

/-- What happens before requests are answered is a scan. -/
theorem scanning_run
    (h : Scanning p s)
    (hrun : run? c s actions = some s')
    (hunserved : s'.isServing = false) :
    ∃ q, Scanning q s'
      ∧ Scan.Progress.Runs c.author p q (actions.filterMap Action.scan?) := by
  induction actions generalizing p s with
  | nil =>
      cases hrun
      exact ⟨p, h, .refl⟩
  | cons a rest ih =>
      obtain ⟨middle, hstep, hrest⟩ := Option.bind_eq_some_iff.1 hrun
      obtain ⟨q, hq, hfirst⟩ := scanning_step h hstep (unserved_of_run? hrest hunserved)
      obtain ⟨last, hlast, hlater⟩ := ih hq hrest
      refine ⟨last, hlast, ?_⟩
      have hall := hfirst.trans hlater
      cases hscan : a.scan? <;> simpa [hscan] using hall

/-- When the start is over, its scan is done. -/
theorem exists_scan_of_serve
    {files served : Files}
    {now : Nat}
    (h : run? c (opened c files now) (actions ++ [.serve served]) = some s) :
    ∃ p, Scan.Progress.Runs c.author
        (.opened (Scan.listed files c.notebookDirectory) c.scanConcurrency .empty) p
        (actions.filterMap Action.scan?)
      ∧ p.pool.isDone = true ∧ s.service.store = p.store := by
  rw [run?, List.foldlM_append] at h
  obtain ⟨middle, hrun, hserve⟩ := Option.bind_eq_some_iff.1 h
  obtain ⟨last, hstep, hlast⟩ := Option.bind_eq_some_iff.1 hserve
  cases hlast
  cases step_of_step? hstep with
  | within hserves hservice => cases hserves
  | serve _ hwaiting hdone =>
      obtain ⟨p, hp, hruns⟩ := scanning_run (scanning_opened c files now) hrun hwaiting
      refine ⟨p, hruns, ?_, hp.store⟩
      rcases hp.scans with hscans | ⟨_, hover⟩
      · simpa [hscans] using hdone
      · exact hover

/-- **When the report describes the store.**  Right after the start the report names each
listed file, with as many names as there are files, and its names are just those of the
documents.  It names each document once, and tells their number, if and only if the names of
the listed files read differently. -/
theorem describes_iff_distinct
    (c : Configuration)
    (files served : Files)
    (now : Nat)
    (actions : List Action)
    (s : Hub)
    (h : run? c (opened c files now) (actions ++ [.serve served]) = some s) :
    let r := scanReport actions
    let names := Scan.identifiers files c.notebookDirectory
    (r.loaded ++ r.failed).Perm names
      ∧ r.total = (Scan.listed files c.notebookDirectory).length
      ∧ (∀ identifier, identifier ∈ r.loaded ∨ identifier ∈ r.failed
        ↔ s.service.store.contains identifier = true)
      ∧ (r.total = s.service.store.size ↔ names.Nodup)
      ∧ (r.Describes s.service.store ↔ names.Nodup) := by
  intro r names
  obtain ⟨p, hruns, hdone, hstore⟩ := exists_scan_of_serve h
  have hfiles := (Scan.Progress.perm_of_isDone hruns hdone).filterMap Path.name
  have hnames : (r.loaded ++ r.failed).Perm names := by
    refine (Scan.Report.ofOutcomes_perm _).trans ?_
    rw [Scan.Progress.identifiers_outcomes]
    exact hfiles
  have hdocuments : ∀ identifier,
      identifier ∈ r.loaded ++ r.failed ↔ s.service.store.contains identifier = true := by
    intro identifier
    rw [hnames.mem_iff, hstore, (Scan.Progress.runs_stored hruns).store, Scan.Progress.writes,
      Store.contains_puts_iff, Scan.Progress.identifiers_documents, hfiles.mem_iff]
    simp [Scan.Progress.opened, Store.empty, Store.contains, names, Scan.identifiers]
  have hcount : names.length = (Scan.listed files c.notebookDirectory).length := by
    have hlength := congrArg List.length
      (Scan.map_name_listed files c.notebookDirectory)
    simpa using hlength.symm
  refine ⟨hnames, ?_, fun identifier => ?_, ?_, ?_⟩
  · rw [Scan.Report.total_eq_length, hnames.length_eq, hcount]
  · rw [← List.mem_append]
    exact hdocuments identifier
  · rw [Scan.Report.total_eq_size_iff hdocuments, hnames.nodup_iff]
  · rw [Scan.Report.describes_iff hdocuments, hnames.nodup_iff]

end

/-! ## Two starts -/

/-- Two files are converted at a time, the second one without success. -/
def loadBoth (first second : Path) : List Action :=
  [.take, .take, .scanned first (.ok (.object [])) ⟨1, 0⟩,
    .scanned second (.error (.timedOut ⟨1⟩)) ⟨2, 0⟩]

/-- Two files with different names are described. -/
theorem describes_iff_distinct_letters :
    ∃ s,
      run? sampleSetting (opened sampleSetting Scan.Progress.sample 0)
          (loadBoth [0x2F, 0x61] [0x2F, 0x62] ++ [.serve Scan.Progress.sample]) = some s
        ∧ (Scan.identifiers Scan.Progress.sample [0x2F]).Nodup
        ∧ scanReport (loadBoth [0x2F, 0x61] [0x2F, 0x62]) = ⟨["a"], ["b"]⟩
        ∧ (scanReport (loadBoth [0x2F, 0x61] [0x2F, 0x62])).Describes s.service.store := by
  have hrun : (run? sampleSetting (opened sampleSetting Scan.Progress.sample 0)
        (loadBoth [0x2F, 0x61] [0x2F, 0x62] ++ [.serve Scan.Progress.sample])).isSome = true := by
    simp only [opened, sampleSetting, Scan.Progress.visibleFiles_sample]
    decide +kernel
  obtain ⟨s, hs⟩ := Option.isSome_iff_exists.1 hrun
  have hnames : (Scan.identifiers Scan.Progress.sample [0x2F]).Nodup := by
    simp only [Scan.identifiers, Scan.listed, Scan.Progress.visibleFiles_sample]
    decide +kernel
  have hdescribes := describes_iff_distinct _ _ _ _ _ _ hs
  exact ⟨s, hs, hnames, by decide +kernel, hdescribes.2.2.2.2.2 hnames⟩

/-- A directory with two files whose names are not texts. -/
def unreadable : Files := ⟨[([[0xFE]], .file [] 0o644), ([[0xFF]], .file [] 0o644)], [], 0⟩

theorem visibleFiles_unreadable :
    Scan.visibleFiles unreadable [0x2F] = .ok ([[0x2F, 0xFE], [0x2F, 0xFF]], []) := by
  have hstat : unreadable.stat [0x2F] = .ok ([], .directory) := by rfl
  have hnames : unreadable.names [] = [[0xFE], [0xFF]] := by
    refine List.mergeSort_of_pairwise ?_
    decide
  simp only [Scan.visibleFiles, hstat, hnames]
  rfl

/-- Two files whose names read alike share one document, which shows the error of the second
one; yet the report has the name among the loaded as well. -/
theorem exists_not_describes :
    ∃ s,
      run? sampleSetting (opened sampleSetting unreadable 0)
          (loadBoth [0x2F, 0xFE] [0x2F, 0xFF] ++ [.serve unreadable]) = some s
        ∧ scanReport (loadBoth [0x2F, 0xFE] [0x2F, 0xFF]) = ⟨["\uFFFD"], ["\uFFFD"]⟩
        ∧ (scanReport (loadBoth [0x2F, 0xFE] [0x2F, 0xFF])).total = 2
        ∧ s.service.store.size = 1
        ∧ (s.service.store.find? "\uFFFD").map Notebook.contents
          = some (ErrorPage.contents (ConversionError.timedOut ⟨1⟩).message)
        ∧ ¬ (scanReport (loadBoth [0x2F, 0xFE] [0x2F, 0xFF])).Describes s.service.store := by
  have hrun : (run? sampleSetting (opened sampleSetting unreadable 0)
        (loadBoth [0x2F, 0xFE] [0x2F, 0xFF] ++ [.serve unreadable])).map
      (fun s => (s.service.store.size,
        (s.service.store.find? "\uFFFD").map Notebook.contents))
      = some (1, some (ErrorPage.contents (ConversionError.timedOut ⟨1⟩).message)) := by
    simp only [opened, sampleSetting, visibleFiles_unreadable]
    rfl
  obtain ⟨s, hs, hend⟩ := Option.map_eq_some_iff.1 hrun
  obtain ⟨hsize, hcontents⟩ := Prod.mk.inj hend
  have hreport : scanReport (loadBoth [0x2F, 0xFE] [0x2F, 0xFF])
      = ⟨["\uFFFD"], ["\uFFFD"]⟩ := by decide +kernel
  refine ⟨s, hs, hreport, by rw [hreport]; rfl, hsize, hcontents, fun hdescribes => ?_⟩
  rw [hreport] at hdescribes
  exact hdescribes.disjoint "\uFFFD" List.mem_cons_self List.mem_cons_self

end Hub
end LiveNotebooks
