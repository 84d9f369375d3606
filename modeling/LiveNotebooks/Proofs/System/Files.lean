import LiveNotebooks.System.Files

/-!
# What stands at a path

A path without a name ends in a way upwards, or leads nowhere from where it starts.  On both
ways only directories are passed, whatever links there are.

**Results.**
* `Files.eq_directory_of_nameless`: a path without a name leads to a directory.
* `Files.isFile_iff`: when a regular file stands at a path.
-/

namespace LiveNotebooks
namespace Files

/-- The parts that count. -/
def counted (parts : List Bytes) : List Bytes := parts.filter (· ≠ Path.dot)

/-- The last part that counts leads upwards. -/
def Climbs (parts : List Bytes) : Prop := (counted parts).getLast? = some Path.dotDot

/-- No part counts, or the last one that does leads upwards. -/
def Stays (parts : List Bytes) : Prop := counted parts = [] ∨ Climbs parts

theorem counted_dot
    (rest : List Bytes) :
    counted (Path.dot :: rest) = counted rest := by
  simp [counted]

theorem counted_of_ne
    {part : Bytes}
    (h : part ≠ Path.dot)
    (rest : List Bytes) :
    counted (part :: rest) = part :: counted rest := by
  simp [counted, h]

theorem climbs_append
    {rest : List Bytes}
    (h : Climbs rest)
    (parts : List Bytes) :
    Climbs (parts ++ rest) := by
  have happend : counted (parts ++ rest) = counted parts ++ counted rest := List.filter_append ..
  rw [Climbs, happend, List.getLast?_append, h]
  rfl

theorem stays_of_dot
    {rest : List Bytes}
    (h : Stays (Path.dot :: rest)) :
    Stays rest := by
  simpa only [Stays, Climbs, counted_dot] using h

/-- A part that counts is the last one, or those behind it lead upwards. -/
theorem climbs_or_eq
    {part : Bytes}
    {rest : List Bytes}
    (hdot : part ≠ Path.dot)
    (h : Stays (part :: rest)) :
    Climbs rest ∨ counted rest = [] ∧ part = Path.dotDot := by
  unfold Stays Climbs at h
  rw [counted_of_ne hdot, List.getLast?_cons] at h
  unfold Climbs
  rcases h with h | h
  · cases h
  · cases hlast : (counted rest).getLast? with
    | none =>
        right
        simpa [hlast, List.getLast?_eq_none_iff.1 hlast] using h
    | some last =>
        left
        simpa [hlast] using h

/-- Parts that stay lead to a directory, if what follows a link does. -/
theorem descend_eq_directory
    {files : Files}
    {followLast : Bool}
    {follow : Location → Path → List Bytes → Except FileError Place}
    (hfollow : ∀ here target rest place, Climbs rest → follow here target rest = .ok place →
      place.2 = some .directory)
    {parts : List Bytes}
    {here : Location}
    {place : Place}
    (hparts : Stays parts)
    (h : files.descend followLast follow parts here = .ok place) :
    place.2 = some .directory := by
  induction parts generalizing here with
  | nil =>
      cases h
      rfl
  | cons part rest ih =>
      simp only [descend] at h
      split at h
      · next hdot =>
          subst hdot
          exact ih (stays_of_dot hparts) h
      · next hdot =>
          split at h
          · next hdotDot =>
              rcases climbs_or_eq hdot hparts with hclimbs | ⟨hnone, _⟩
              · exact ih (.inr hclimbs) h
              · exact ih (.inl hnone) h
          · next hdotDot =>
              have hclimbs : Climbs rest :=
                (climbs_or_eq hdot hparts).resolve_right fun hlast => hdotDot hlast.2
              have hmore : rest.isEmpty = false := by
                cases rest with
                | nil => cases hclimbs
                | cons => rfl
              simp only [hmore, Bool.false_eq_true, if_false, Bool.false_and] at h
              split at h
              · cases h
              · split at h
                · cases h
                · exact ih (.inr hclimbs) h
                · exact hfollow _ _ _ _ hclimbs h
                · cases h

/-- A path whose parts stay leads to a directory. -/
theorem resolve_eq_directory
    {files : Files}
    {followLast : Bool}
    {links : Nat}
    {parts : List Bytes}
    {here : Location}
    {place : Place}
    (hparts : Stays parts)
    (h : files.resolve followLast links parts here = .ok place) :
    place.2 = some .directory := by
  induction links generalizing parts here place with
  | zero =>
      refine descend_eq_directory ?_ hparts h
      intro _ _ _ _ _ hloop
      cases hloop
  | succ links ih =>
      refine descend_eq_directory ?_ hparts h
      intro here target rest place hclimbs hfollow
      exact ih (.inr (climbs_append hclimbs (steps target))) hfollow

/-- The parts that count are those of the path. -/
theorem counted_steps
    (path : Path) :
    counted (steps path) = Path.parts path := by
  have hparts : counted ((Path.splitAt 0x2F path).filter (· ≠ [])) = Path.parts path := by
    rw [counted, List.filter_filter]
    refine List.filter_congr fun part _ => ?_
    simp [Bool.and_comm]
  unfold steps
  split
  · rw [counted, List.filter_append, ← counted, hparts]
    simp
  · exact hparts

/-- The last part that counts of a path without a name leads upwards, if there is one. -/
theorem stays_of_nameless
    {path : Path}
    (h : Path.name path = none) :
    Stays (steps path) := by
  have hfile : Path.fileName path = none := Option.map_eq_none_iff.1 h
  rw [Stays, Climbs, counted_steps]
  unfold Path.fileName at hfile
  split at hfile
  · next part hlast =>
      split at hfile
      · next hup => exact .inr (by rw [hlast, hup])
      · cases hfile
  · next hnone => exact .inl (List.getLast?_eq_none_iff.1 hnone)

/-- A path without a name leads to a directory, if it leads anywhere. -/
theorem eq_directory_of_nameless
    {files : Files}
    {path : Path}
    {location : Location}
    {entry : Entry}
    (hname : Path.name path = none)
    (h : files.stat path = .ok (location, entry)) :
    entry = .directory := by
  have hplace : files.place true path = .ok (location, some entry) := by
    unfold stat find at h
    split at h <;> cases h
    next hplace => exact hplace
  unfold place at hplace
  split at hplace
  · cases hplace
  · split at hplace
    · cases hplace
    · split at hplace
      · cases hplace
      · simpa using resolve_eq_directory (stays_of_nameless hname) hplace

/-- A path is one of a regular file just if it leads to one. -/
theorem isFile_iff
    {files : Files}
    {path : Path} :
    files.isFile path = true
      ↔ ∃ location entry, files.stat path = .ok (location, entry) ∧ entry.isFile = true := by
  unfold isFile
  split
  · next location entry hstat =>
      constructor
      · intro hfile
        exact ⟨location, entry, hstat, hfile⟩
      · rintro ⟨_, _, hfound, hfile⟩
        rw [hstat] at hfound
        cases hfound
        exact hfile
  · next e hstat => simp [hstat]

/-- A regular file stands at a path with a name only. -/
theorem exists_name_of_isFile
    {files : Files}
    {path : Path}
    (h : files.isFile path = true) :
    ∃ identifier, Path.name path = some identifier := by
  cases hname : Path.name path with
  | some identifier => exact ⟨identifier, rfl⟩
  | none =>
      obtain ⟨location, entry, hstat, hfile⟩ := isFile_iff.1 h
      rw [eq_directory_of_nameless hname hstat] at hfile
      cases hfile

end Files
end LiveNotebooks
