import LiveNotebooks.Proofs.System.Files
import LiveNotebooks.Scan
import Mathlib.Logic.Basic

/-!
# What a scan lists and reports

A scan lists the regular files of its directory that are not hidden.  Its report names the
documents of the files that it has loaded.

**Results.**
* `mem_listed_iff`: which paths are listed.
* `map_name_listed`: every listed file has a name.
* `ofOutcomes_eq_of_perm`: a report does not tell in which order the files were loaded.
* `ofOutcomes_perm`: it names every document as often as the document was loaded.
-/

namespace LiveNotebooks
namespace Scan

/-- The files that a scan of a directory loads.  A directory that cannot be read has none. -/
def listed (files : Files) (directory : Path) : List Path :=
  match visibleFiles files directory with
  | .ok (paths, _) => paths
  | .error _ => []

/-- The names of these files. -/
def identifiers (files : Files) (directory : Path) : List String :=
  (listed files directory).filterMap Path.name

/-! ## Listed files -/

section

variable {files : Files} {directory path : Path}

/-- An entry counts as a file if it is a regular file, links followed, and is not hidden.
Only a directory can be a link back to the directory itself. -/
theorem classify_eq_file_iff
    {here : Location}
    {name : Bytes} :
    classify files directory here name = .file path
      ↔ path = Path.join directory name ∧ files.isFile path = true
        ∧ Path.isHidden path = false := by
  simp only [classify, Files.isFile_iff]
  cases hstat : files.stat (Path.join directory name) with
  | error e =>
      constructor
      · intro h
        cases h
      · rintro ⟨rfl, ⟨location, entry, hfound, _⟩, _⟩
        rw [hstat] at hfound
        cases hfound
  | ok found =>
      obtain ⟨location, entry⟩ := found
      constructor
      · intro h
        simp only at h
        rcases ite_eq_iff.1 h with ⟨_, h⟩ | ⟨_, h⟩
        · cases h
        · rcases ite_eq_iff.1 h with ⟨hfile, h⟩ | ⟨_, h⟩
          · cases h
            obtain ⟨hregular, hvisible⟩ := Bool.and_eq_true_iff.1 hfile
            exact ⟨rfl, ⟨location, entry, hstat, hregular⟩, by simpa using hvisible⟩
          · cases h
      · rintro ⟨rfl, ⟨_, _, hfound, hregular⟩, hvisible⟩
        rw [hstat] at hfound
        cases hfound
        have hdirectory : entry.isDirectory = false := by
          cases entry <;> first | rfl | cases hregular
        simp [hdirectory, hregular, hvisible]

theorem path?_eq_some_iff
    {found : Found} :
    found.path? = some path ↔ found = .file path := by
  cases found <;> simp [Found.path?]

theorem listed_eq
    {here : Location}
    (hstat : files.stat directory = .ok (here, .directory)) :
    listed files directory
      = (files.names here).filterMap fun name =>
        (classify files directory here name).path? := by
  simp only [listed, visibleFiles, hstat, List.filterMap_map, Function.comp_def]

/-- A path is listed if a name in the directory leads to it, and a regular file stands there
that is not hidden. -/
theorem mem_listed_iff
    {here : Location}
    (hstat : files.stat directory = .ok (here, .directory)) :
    path ∈ listed files directory
      ↔ ∃ name ∈ files.names here, path = Path.join directory name
        ∧ files.isFile path = true ∧ Path.isHidden path = false := by
  simp only [listed_eq hstat, List.mem_filterMap, path?_eq_some_iff, classify_eq_file_iff]

/-- Listed files are regular files, and none is hidden. -/
theorem of_mem_listed
    (h : path ∈ listed files directory) :
    files.isFile path = true ∧ Path.isHidden path = false := by
  cases hstat : files.stat directory with
  | error e => simp [listed, visibleFiles, hstat] at h
  | ok found =>
      obtain ⟨here, entry⟩ := found
      cases entry with
      | directory =>
          obtain ⟨_, _, _, hfile, hvisible⟩ := (mem_listed_iff hstat).1 h
          exact ⟨hfile, hvisible⟩
      | _ => simp [listed, visibleFiles, hstat] at h

theorem listed_of_visibleFiles
    {paths : List Path}
    {lines : List LogLine}
    (h : visibleFiles files directory = .ok (paths, lines)) :
    listed files directory = paths := by
  rw [listed, h]

/-- Every listed file has a name. -/
theorem map_name_listed
    (files : Files)
    (directory : Path) :
    (listed files directory).map Path.name = (identifiers files directory).map some := by
  have hnamed : ∀ path ∈ listed files directory,
      ∃ identifier, Path.name path = some identifier :=
    fun path hpath => Files.exists_name_of_isFile (of_mem_listed hpath).1
  unfold identifiers
  generalize listed files directory = paths at hnamed
  induction paths with
  | nil => rfl
  | cons first rest ih =>
      obtain ⟨identifier, hname⟩ := hnamed first List.mem_cons_self
      have hrest := ih fun path hpath => hnamed path (List.mem_cons_of_mem first hpath)
      simp [hname, hrest]

end

/-! ## Reports -/

theorem perm_sortNames
    (names : List String) :
    (sortNames names).Perm names :=
  List.mergeSort_perm names _

/-- Sorted names ascend. -/
theorem pairwise_sortNames
    (names : List String) :
    (sortNames names).Pairwise (· ≤ ·) := by
  have hle : ∀ a b : String, (!decide (b < a)) = true ↔ a ≤ b := by
    intro a b
    rw [Bool.not_eq_true', decide_eq_false_iff_not, String.not_lt]
  have htrans : ∀ a b c : String, (!decide (b < a)) = true → (!decide (c < b)) = true →
      (!decide (c < a)) = true := by
    intro a b c hab hbc
    exact (hle a c).2 (String.le_trans ((hle a b).1 hab) ((hle b c).1 hbc))
  have htotal : ∀ a b : String, ((!decide (b < a)) || !decide (a < b)) = true := by
    intro a b
    rw [Bool.or_eq_true, hle, hle]
    exact String.le_total a b
  exact (List.pairwise_mergeSort htrans htotal names).imp fun hab => (hle _ _).1 hab

theorem pairwise_lt_sortNames
    {names : List String}
    (h : (sortNames names).Nodup) :
    (sortNames names).Pairwise (· < ·) := by
  refine ((pairwise_sortNames names).and h).imp ?_
  rintro a b ⟨hle, hne⟩
  rw [← String.not_le]
  exact fun hge => hne (String.le_antisymm hle hge)

theorem sortNames_eq_of_perm
    {names others : List String}
    (h : names.Perm others) :
    sortNames names = sortNames others := by
  have hperm : (sortNames names).Perm (sortNames others) :=
    (perm_sortNames names).trans (h.trans (perm_sortNames others).symm)
  refine hperm.eq_of_pairwise ?_ (pairwise_sortNames names) (pairwise_sortNames others)
  intro a b _ _ hab hba
  exact String.le_antisymm hab hba

namespace Report

variable {outcomes others : List Conversion.Outcome}

/-- A report does not tell in which order the files were loaded. -/
theorem ofOutcomes_eq_of_perm
    (h : outcomes.Perm others) :
    ofOutcomes outcomes = ofOutcomes others := by
  unfold ofOutcomes
  rw [sortNames_eq_of_perm ((h.filter _).map _), sortNames_eq_of_perm ((h.filter _).map _)]

/-- A report names every document as often as the document was loaded. -/
theorem ofOutcomes_perm
    (outcomes : List Conversion.Outcome) :
    ((ofOutcomes outcomes).loaded ++ (ofOutcomes outcomes).failed).Perm
      (outcomes.map Conversion.Outcome.identifier) := by
  have hparts := List.filter_append_perm (fun o : Conversion.Outcome => !o.isFallback) outcomes
  have hnames := hparts.map Conversion.Outcome.identifier
  simp only [List.map_append, Bool.not_not] at hnames
  exact ((perm_sortNames _).append (perm_sortNames _)).trans hnames

theorem total_eq_length
    (r : Report) :
    r.total = (r.loaded ++ r.failed).length :=
  (List.length_append).symm

end Report
end Scan
end LiveNotebooks
