import LiveNotebooks.Proofs.Scan.Listing
import LiveNotebooks.Proofs.Scan.Machine
import Mathlib.Data.List.Basic

/-!
# The order of a scan

The conversions of a scan end in any order, and each is stored when it ends.  If the listed
files have different names, the end is as if they had been loaded one after another.

**Proof outline.**  A finished scan has loaded a permutation of its files (`perm_of_isDone`).
Documents with different identifiers do not get in each other's way, so each of them is the
one that its file has come to, and the report has sorted names.

**Results.**
* `loaded_of_isDone`: what a finished scan leaves behind.
* `scan_in_any_order`: it does not depend on the order of the conversions.
-/

namespace LiveNotebooks

/-- A document whatever the moment of its last change. -/
def Notebook.undated (n : Notebook) : Notebook := { n with updatedAt := ⟨0, 0⟩ }

namespace Store

/-- The documents whatever the moments of their last changes. -/
def undated (s : Store) : Store :=
  ⟨s.notebooks.map Notebook.undated, by
    simpa [List.pairwise_map, Notebook.undated] using s.ascending⟩

theorem find?_undated
    (s : Store)
    (identifier : String) :
    s.undated.find? identifier = (s.find? identifier).map Notebook.undated :=
  List.find?_map

section

variable {documents : List Notebook} {identifier : String}

theorem find?_puts_of_not_mem
    (h : identifier ∉ documents.map Notebook.identifier)
    (s : Store) :
    (s.applyAll (documents.map Write.put)).find? identifier = s.find? identifier := by
  have hnone : documents.filter (·.identifier = identifier) = [] := by
    refine List.filter_eq_nil_iff.2 fun n hn hid => ?_
    exact h (List.mem_map.2 ⟨n, hn, of_decide_eq_true hid⟩)
  rw [find?_puts, hnone]
  rfl

/-- Behind some puts there are the documents from before, and those that were put. -/
theorem contains_puts_iff
    (s : Store) :
    (s.applyAll (documents.map Write.put)).contains identifier = true
      ↔ s.contains identifier = true ∨ identifier ∈ documents.map Notebook.identifier := by
  induction documents generalizing s with
  | nil => simp
  | cons n rest ih =>
      have hrest := ih (s.put n).1
      rw [← find?_isSome (s.put n).1, find?_put] at hrest
      have hstep : s.applyAll ((n :: rest).map Write.put)
          = (s.put n).1.applyAll (rest.map Write.put) := rfl
      rw [hstep, hrest, ← find?_isSome s, List.map_cons, List.mem_cons]
      by_cases hid : n.identifier = identifier
      · simp [hid]
      · simp [hid, Ne.symm hid]

/-- Documents with different identifiers do not get in each other's way. -/
theorem find?_puts_of_mem
    {n : Notebook}
    (hdistinct : (documents.map Notebook.identifier).Nodup)
    (hn : n ∈ documents)
    (s : Store) :
    (s.applyAll (documents.map Write.put)).find? n.identifier = some n := by
  induction documents generalizing s with
  | nil => cases hn
  | cons m rest ih =>
      obtain ⟨hm, hrest⟩ := List.nodup_cons.1 hdistinct
      have hstep : s.applyAll ((m :: rest).map Write.put)
          = (s.put m).1.applyAll (rest.map Write.put) := rfl
      rw [hstep]
      rcases List.mem_cons.1 hn with rfl | hn
      · rw [find?_puts_of_not_mem hm, find?_put, if_pos rfl]
      · exact ih hrest hn (s.put m).1

end

end Store

namespace Scan
namespace Progress

/-- What the files at some paths come to. -/
def outcomesAt (results : Path → ConversionResult) (paths : List Path) :
    List Conversion.Outcome :=
  paths.filterMap fun path => (conversion? path (results path)).map Conversion.outcome

/-- Loads files one after another. -/
def inTurn (author : String) (results : Path → ConversionResult) (moments : Path → Instant)
    (paths : List Path) (store : Store) : Progress :=
  paths.foldl (fun p path => p.commit author ⟨path, results path, moments path⟩)
    (opened [] 1 store)

/-- What is left behind when these files are loaded, each once. -/
structure Loaded (author : String) (results : Path → ConversionResult) (paths : List Path)
    (before : Store) (p : Progress) : Prop where
  entries : ∀ path ∈ paths, ∀ identifier, Path.name path = some identifier →
    (p.store.find? identifier).map Notebook.undated
      = some ⟨identifier, identifier, author,
          (⟨identifier, results path⟩ : Conversion).contents, ⟨0, 0⟩⟩
  others : ∀ identifier, identifier ∉ paths.filterMap Path.name →
    p.store.find? identifier = before.find? identifier
  outcomes : p.outcomes.Perm (outcomesAt results paths)

section

variable {author : String} {results : Path → ConversionResult} {paths : List Path}
  {store before : Store} {p q : Progress} {actions : List Action}

theorem identifiers_documents
    (author : String)
    (done : List Load) :
    (done.filterMap (Load.document? author)).map Notebook.identifier
      = (done.map Load.path).filterMap Path.name := by
  rw [List.map_filterMap, List.filterMap_map]
  refine List.filterMap_congr fun l _ => ?_
  simp [Load.document?, conversion?, Conversion.notebook, Function.comp_def]

theorem identifiers_outcomes
    (done : List Load) :
    (done.filterMap Load.outcome?).map Conversion.Outcome.identifier
      = (done.map Load.path).filterMap Path.name := by
  rw [List.map_filterMap, List.filterMap_map]
  refine List.filterMap_congr fun l _ => ?_
  simp [Load.outcome?, conversion?, Conversion.outcome, Function.comp_def]

theorem outcomes_eq_outcomesAt
    {done : List Load}
    (hresults : ∀ l ∈ done, l.result = results l.path) :
    done.filterMap Load.outcome? = outcomesAt results (done.map Load.path) := by
  rw [outcomesAt, List.filterMap_map]
  refine List.filterMap_congr fun l hl => ?_
  simp [Load.outcome?, hresults l hl]

theorem document?_of_name
    {identifier : String}
    {l : Load}
    (author : String)
    (hname : Path.name l.path = some identifier) :
    l.document? author
      = some ((⟨identifier, l.result⟩ : Conversion).notebook author l.moment) := by
  simp [Load.document?, conversion?, hname]

/-- Files with different names that are loaded in any order. -/
theorem loaded_of_stored
    {start : Progress}
    {done : List Load}
    (hstored : Stored author start done p)
    (hfresh : start.outcomes = [])
    (hfiles : (done.map Load.path).Perm paths)
    (hresults : ∀ l ∈ done, l.result = results l.path)
    (hnames : (paths.filterMap Path.name).Nodup) :
    Loaded author results paths start.store p := by
  have hperm : ((done.filterMap (Load.document? author)).map Notebook.identifier).Perm
      (paths.filterMap Path.name) := by
    rw [identifiers_documents]
    exact hfiles.filterMap Path.name
  constructor
  · intro path hpath identifier hname
    obtain ⟨l, hl, rfl⟩ := List.mem_map.1 (hfiles.mem_iff.2 hpath)
    have hn := List.mem_filterMap.2 ⟨l, hl, document?_of_name author hname⟩
    have hfound := Store.find?_puts_of_mem (hperm.nodup_iff.2 hnames) hn start.store
    rw [hresults l hl] at hfound
    rw [hstored.store]
    exact congrArg (Option.map Notebook.undated) hfound
  · intro identifier hother
    rw [hstored.store]
    exact Store.find?_puts_of_not_mem (fun hmem => hother (hperm.mem_iff.1 hmem)) start.store
  · rw [hstored.outcomes, hfresh, outcomes_eq_outcomesAt hresults]
    exact hfiles.filterMap _

/-- What a finished scan leaves behind. -/
theorem loaded_of_isDone
    {concurrency : Nat}
    (hruns : Runs author (opened paths concurrency store) p actions)
    (hfollows : Follows results actions)
    (hdone : p.pool.isDone = true)
    (hnames : (paths.filterMap Path.name).Nodup) :
    Loaded author results paths store p :=
  loaded_of_stored (runs_stored hruns) rfl (perm_of_isDone hruns hdone) hfollows hnames

theorem stored_foldl
    {start : Progress}
    {done : List Load}
    (moments : Path → Instant)
    (paths : List Path)
    (h : Stored author start done p) :
    Stored author start
      (done ++ paths.map fun path => ⟨path, results path, moments path⟩)
      (paths.foldl (fun p path => p.commit author ⟨path, results path, moments path⟩) p) := by
  induction paths generalizing p done with
  | nil => simpa using h
  | cons path rest ih =>
      have hrest := ih (h.commit ⟨path, results path, moments path⟩)
      simpa using hrest

theorem loaded_inTurn
    (author : String)
    (results : Path → ConversionResult)
    (moments : Path → Instant)
    (store : Store)
    (hnames : (paths.filterMap Path.name).Nodup) :
    Loaded author results paths store (inTurn author results moments paths store) := by
  have hstart : Stored author (opened [] 1 store) [] (opened [] 1 store) :=
    stored_of_eq rfl rfl
  refine loaded_of_stored (stored_foldl moments paths hstart) rfl ?_ ?_ hnames
  · simp [Function.comp_def]
  · simp

/-- Scans of the same files leave the same documents, if they began with the same ones.  A
listed document is what its file was converted to, and any other one is as before. -/
theorem Loaded.undated_eq
    (hp : Loaded author results paths store p)
    (hq : Loaded author results paths before q)
    (hbefore : ∀ identifier, identifier ∉ paths.filterMap Path.name →
      (before.find? identifier).map Notebook.undated
        = (store.find? identifier).map Notebook.undated) :
    q.store.undated = p.store.undated := by
  refine Store.ext_find? fun identifier => ?_
  rw [Store.find?_undated, Store.find?_undated]
  by_cases hlisted : identifier ∈ paths.filterMap Path.name
  · obtain ⟨path, hpath, hname⟩ := List.mem_filterMap.1 hlisted
    rw [hp.entries path hpath identifier hname, hq.entries path hpath identifier hname]
  · rw [hp.others identifier hlisted, hq.others identifier hlisted]
    exact hbefore identifier hlisted

theorem Loaded.report_eq
    (hp : Loaded author results paths store p)
    (hq : Loaded author results paths before q) :
    q.report = p.report :=
  Report.ofOutcomes_eq_of_perm (hq.outcomes.trans hp.outcomes.symm)

theorem Loaded.report_perm
    (h : Loaded author results paths store p) :
    (p.report.loaded ++ p.report.failed).Perm (paths.filterMap Path.name) := by
  have hnames : (outcomesAt results paths).map Conversion.Outcome.identifier
      = paths.filterMap Path.name := by
    rw [outcomesAt, List.map_filterMap]
    refine List.filterMap_congr fun path _ => ?_
    cases hname : Path.name path <;> simp [conversion?, Conversion.outcome, hname]
  rw [← hnames]
  exact (Report.ofOutcomes_perm p.outcomes).trans (h.outcomes.map _)

/-- **A scan does not depend on the order of its conversions.**  Let the listed files of a
directory have different names, and let the converter give the same result for a file
whenever it is asked.  Then every scan, with however many conversions at a time, comes to
its end, and the end is as if the files had been loaded one after another, up to the moments
of the changes: the document of each file has the name of the file as its identifier and
title, the author of the loader, and what the file was converted to, or the page on its
error; all other documents are as before.  The report is the same as well; it names each
listed file once, the loaded and the failed ones each in ascending order.  So a further scan
changes nothing but moments. -/
theorem scan_in_any_order
    (author : String)
    (files : Files)
    (directory : Path)
    (results : Path → ConversionResult)
    (store : Store)
    (hnames : (identifiers files directory).Nodup)
    (concurrency : Nat)
    (p : Progress)
    (actions : List Action)
    (hruns : Runs author (opened (listed files directory) concurrency store) p actions)
    (hfollows : Follows results actions) :
    actions.length ≤ 2 * (listed files directory).length
      ∧ (∃ q later, Runs author p q later ∧ Follows results later ∧ q.pool.isDone = true)
      ∧ (p.pool.isDone = true →
        (∀ moments,
          let turn := inTurn author results moments (listed files directory) store
          p.store.undated = turn.store.undated ∧ p.report = turn.report)
        ∧ (∀ path ∈ listed files directory, ∃ identifier,
          Path.name path = some identifier
            ∧ (p.store.find? identifier).map Notebook.undated
              = some ⟨identifier, identifier, author,
                (⟨identifier, results path⟩ : Conversion).contents, ⟨0, 0⟩⟩)
        ∧ (∀ identifier, identifier ∉ identifiers files directory →
          p.store.find? identifier = store.find? identifier)
        ∧ p.report.loaded.Pairwise (· < ·) ∧ p.report.failed.Pairwise (· < ·)
        ∧ (∀ identifier ∈ p.report.loaded, identifier ∉ p.report.failed)
        ∧ (p.report.loaded ++ p.report.failed).Perm (identifiers files directory)
        ∧ ∀ (other : Nat) (q : Progress) (more : List Action),
          Runs author (opened (listed files directory) other p.store) q more →
            Follows results more → q.pool.isDone = true →
              q.store.undated = p.store.undated ∧ q.report = p.report) := by
  have hbound := length_add_left hruns
  refine ⟨by omega, exists_runs_to_end results ⟨0, 0⟩ (limit_pos hruns), fun hdone => ?_⟩
  have hloaded := loaded_of_isDone hruns hfollows hdone hnames
  have hreport := hloaded.report_perm
  have hdistinct : (p.report.loaded ++ p.report.failed).Nodup := hreport.nodup_iff.2 hnames
  obtain ⟨hfirst, hsecond, hapart⟩ := List.nodup_append.1 hdistinct
  refine ⟨fun moments => ?_, fun path hpath => ?_, hloaded.others, pairwise_lt_sortNames hfirst,
    pairwise_lt_sortNames hsecond, fun identifier hin hnot => hapart _ hin _ hnot rfl, hreport,
    fun other q more hmore hagain hend => ?_⟩
  · have hturn := loaded_inTurn author results moments store hnames
    exact ⟨hturn.undated_eq hloaded fun _ _ => rfl, hturn.report_eq hloaded⟩
  · obtain ⟨identifier, hname⟩ := Files.exists_name_of_isFile (of_mem_listed hpath).1
    exact ⟨identifier, hname, hloaded.entries path hpath identifier hname⟩
  · have hnext := loaded_of_isDone hmore hagain hend hnames
    refine ⟨hloaded.undated_eq hnext fun identifier hother => ?_, hloaded.report_eq hnext⟩
    rw [hloaded.others identifier hother]

end

/-! ## A scan -/

/-- A directory with two files. -/
def sample : Files := ⟨[([[0x61]], .file [] 0o644), ([[0x62]], .file [] 0o644)], [], 0⟩

/-- One of them can be converted. -/
def sampleResults : Path → ConversionResult := fun path =>
  if path = [0x2F, 0x61] then .ok (.object []) else .error (.timedOut ⟨1⟩)

/-- Both are converted at a time, and the second one is done first. -/
def reversed : List Action :=
  [.take, .take, .finish ⟨[0x2F, 0x62], .error (.timedOut ⟨1⟩), ⟨1, 0⟩⟩,
    .finish ⟨[0x2F, 0x61], .ok (.object []), ⟨2, 0⟩⟩]

theorem visibleFiles_sample :
    visibleFiles sample [0x2F] = .ok ([[0x2F, 0x61], [0x2F, 0x62]], []) := by
  have hstat : sample.stat [0x2F] = .ok ([], .directory) := by rfl
  have hnames : sample.names [] = [[0x61], [0x62]] := by
    refine List.mergeSort_of_pairwise ?_
    decide
  simp only [visibleFiles, hstat, hnames]
  rfl

/-- Two files are done in the reverse order, and the second one cannot be converted. -/
theorem scan_in_any_order_reversed :
    ∃ p,
      (identifiers sample [0x2F]).Nodup
        ∧ Runs "ann" (opened (listed sample [0x2F]) 2 .empty) p reversed
        ∧ Follows sampleResults reversed
        ∧ p.pool.isDone = true
        ∧ p.report = ⟨["a"], ["b"]⟩
        ∧ ∀ moments,
          let turn := inTurn "ann" sampleResults moments (listed sample [0x2F]) .empty
          p.store.undated = turn.store.undated ∧ p.report = turn.report := by
  have hnames : (identifiers sample [0x2F]).Nodup := by
    simp only [identifiers, listed, visibleFiles_sample]
    decide +kernel
  have hrun : (run? "ann" (opened (listed sample [0x2F]) 2 .empty) reversed).map
      (fun p => (p.pool.isDone, p.report)) = some (true, ⟨["a"], ["b"]⟩) := by
    simp only [listed, visibleFiles_sample]
    decide +kernel
  obtain ⟨p, hp, hend⟩ := Option.map_eq_some_iff.1 hrun
  obtain ⟨hdone, hreport⟩ := Prod.mk.inj hend
  have hruns := runs_of_run? hp
  have hfollows : Follows sampleResults reversed := by
    intro l hl
    simp only [reversed, loads, Action.load?, List.filterMap_cons, List.filterMap_nil,
      List.mem_cons, List.not_mem_nil, or_false] at hl
    rcases hl with rfl | rfl <;> rfl
  have hall := scan_in_any_order "ann" sample [0x2F] sampleResults .empty hnames 2 p reversed
    hruns hfollows
  exact ⟨p, hnames, hruns, hfollows, hdone, hreport, (hall.2.2 hdone).1⟩

end Progress
end Scan
end LiveNotebooks
