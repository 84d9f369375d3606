import LiveNotebooks.Notebook
import LiveNotebooks.Store.Event

/-!
# The store of documents

The documents in ascending order of their identifiers, at most one for each.  A write
returns the new store and the event that announces it; a read changes nothing.

**Results.**
* `find?_put`: a document is found under its identifier, all others stay.
* `find?_setContents`: new contents replace the old ones and nothing else.
* the order of the identifiers is part of the type.
-/

namespace LiveNotebooks

/-- Documents by identifier. -/
structure Store where
  notebooks : List Notebook
  ascending : notebooks.Pairwise fun a b => a.identifier < b.identifier

/-- Why a write is refused. -/
inductive StoreError where
  | notFound (identifier : String)
  deriving DecidableEq

def StoreError.message : StoreError → String
  | .notFound identifier => "notebook not found: " ++ identifier

namespace Store

/-- Puts a document where its identifier belongs, in place of the one that has it. -/
def insert (n : Notebook) : List Notebook → List Notebook
  | [] => [n]
  | m :: rest =>
      if m.identifier < n.identifier then m :: insert n rest
      else if n.identifier < m.identifier then n :: m :: rest
      else n :: rest

/-- Inserting a document adds no other one. -/
theorem mem_insert
    {n m : Notebook}
    {l : List Notebook}
    (h : m ∈ insert n l) :
    m = n ∨ m ∈ l := by
  induction l with
  | nil =>
      simpa [insert] using h
  | cons k rest ih =>
      simp only [insert] at h
      split at h
      · rcases List.mem_cons.1 h with h | h
        · simp [h]
        · rcases ih h with h | h <;> simp [h]
      · split at h
        · simpa using h
        · rcases List.mem_cons.1 h with h | h <;> simp [h]

/-- Inserting a document keeps the order. -/
theorem ascending_insert
    (n : Notebook)
    {l : List Notebook}
    (h : l.Pairwise fun a b => a.identifier < b.identifier) :
    (insert n l).Pairwise fun a b => a.identifier < b.identifier := by
  induction l with
  | nil =>
      simp [insert]
  | cons m rest ih =>
      have hm := List.pairwise_cons.1 h
      simp only [insert]
      split
      next hlt =>
        refine List.pairwise_cons.2 ⟨fun k hk => ?_, ih hm.2⟩
        rcases mem_insert hk with rfl | hk
        · exact hlt
        · exact hm.1 k hk
      next hnot =>
        split
        next hlt =>
          refine List.pairwise_cons.2 ⟨fun k hk => ?_, h⟩
          rcases List.mem_cons.1 hk with rfl | hk
          · exact hlt
          · exact String.lt_trans hlt (hm.1 k hk)
        next hnot' =>
          have heq : n.identifier = m.identifier :=
            String.le_antisymm (String.not_lt.1 hnot) (String.not_lt.1 hnot')
          refine List.pairwise_cons.2 ⟨fun k hk => ?_, hm.2⟩
          rw [heq]
          exact hm.1 k hk

def empty : Store := ⟨[], List.Pairwise.nil⟩

/-- The document with an identifier. -/
def find? (s : Store) (identifier : String) : Option Notebook :=
  s.notebooks.find? fun n => n.identifier = identifier

/-- The document with an identifier, or the reason why there is none. -/
def get (s : Store) (identifier : String) : Except StoreError Notebook :=
  match s.find? identifier with
  | some n => .ok n
  | none => .error (.notFound identifier)

/-- Is there a document with the identifier? -/
def contains (s : Store) (identifier : String) : Bool :=
  s.notebooks.any fun n => n.identifier = identifier

/-- The number of documents. -/
def size (s : Store) : Nat := s.notebooks.length

/-- Is there no document? -/
def isEmpty (s : Store) : Bool := s.notebooks.isEmpty

/-- The summaries in ascending order of the identifiers. -/
def list (s : Store) : List Summary := s.notebooks.map Notebook.summary

/-- Stores a document, and announces whether it is new. -/
def put (s : Store) (n : Notebook) : Store × Store.Event :=
  (⟨insert n s.notebooks, ascending_insert n s.ascending⟩,
    ⟨if s.contains n.identifier then .updated else .created, n.identifier⟩)

/-- The document with new contents, if it has the identifier. -/
def withContents (identifier : String) (contents : Json.Value) (now : Instant) (n : Notebook) :
    Notebook :=
  if n.identifier = identifier then { n with contents := contents, updatedAt := now } else n

@[simp] theorem identifier_withContents
    (identifier : String)
    (contents : Json.Value)
    (now : Instant)
    (n : Notebook) :
    (withContents identifier contents now n).identifier = n.identifier := by
  unfold withContents
  split <;> rfl

/-- Replaces the contents of a stored document. -/
def setContents (s : Store) (identifier : String) (contents : Json.Value) (now : Instant) :
    Except StoreError (Store × Store.Event) :=
  if s.contains identifier then
    .ok
      (⟨s.notebooks.map (withContents identifier contents now), by
          simpa [List.pairwise_map] using s.ascending⟩,
        ⟨.contentSet, identifier⟩)
  else .error (.notFound identifier)

/-- New contents are announced for their document. -/
theorem identifier_setContents
    {s s' : Store}
    {event : Store.Event}
    {identifier : String}
    {contents : Json.Value}
    {now : Instant}
    (h : s.setContents identifier contents now = .ok (s', event)) :
    event.identifier = identifier := by
  unfold setContents at h
  split at h
  · cases h
    rfl
  · cases h

/-- An inserted document is found. -/
theorem find?_insert_self
    (n : Notebook)
    (l : List Notebook)
    (h : l.Pairwise fun a b => a.identifier < b.identifier) :
    (insert n l).find? (fun m => m.identifier = n.identifier) = some n := by
  induction l with
  | nil =>
      simp [insert]
  | cons m rest ih =>
      simp only [insert]
      split
      next hlt =>
        have hne : ¬ m.identifier = n.identifier := fun he =>
          String.lt_irrefl n.identifier (he ▸ hlt)
        rw [List.find?_cons_of_neg (by simpa using hne)]
        exact ih (List.pairwise_cons.1 h).2
      next =>
        split
        next => simp
        next => simp

/-- Inserting a document hides no other one. -/
theorem find?_insert_of_ne
    {n : Notebook}
    {identifier : String}
    (hne : n.identifier ≠ identifier)
    (l : List Notebook) :
    (insert n l).find? (fun m => m.identifier = identifier)
      = l.find? (fun m => m.identifier = identifier) := by
  induction l with
  | nil =>
      simp [insert, hne]
  | cons m rest ih =>
      simp only [insert]
      split
      next =>
        by_cases hm : m.identifier = identifier
        · simp [hm]
        · simp [hm, ih]
      next hnot =>
        split
        next => simp [hne]
        next hnot' =>
          have heq : n.identifier = m.identifier :=
            String.le_antisymm (String.not_lt.1 hnot) (String.not_lt.1 hnot')
          have hm : m.identifier ≠ identifier := heq ▸ hne
          simp [hne, hm]

/-- A stored document is found under its identifier, and all others are as before. -/
theorem find?_put
    (s : Store)
    (n : Notebook)
    (identifier : String) :
    (s.put n).1.find? identifier
      = if n.identifier = identifier then some n else s.find? identifier := by
  by_cases h : n.identifier = identifier
  · subst h
    simpa [put, find?] using find?_insert_self n s.notebooks s.ascending
  · simpa [put, find?, h] using find?_insert_of_ne h s.notebooks

/-- New contents replace the contents of their document and nothing else. -/
theorem find?_setContents
    {s s' : Store}
    {event : Store.Event}
    {identifier : String}
    {contents : Json.Value}
    {now : Instant}
    (h : s.setContents identifier contents now = .ok (s', event))
    (other : String) :
    s'.find? other = (s.find? other).map (withContents identifier contents now) := by
  unfold setContents at h
  split at h
  next =>
    cases h
    simp only [find?, List.find?_map, Function.comp_def, identifier_withContents]
  next =>
    cases h

end Store
end LiveNotebooks
