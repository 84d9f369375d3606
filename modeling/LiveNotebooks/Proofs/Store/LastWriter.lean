import LiveNotebooks.Proofs.Store.Calls

/-!
# The last writer wins

What is stored of a document is told by the writes that name it: title and author by the
last put, and the contents by the last write that found the document there.

**Algorithm.**  `entryOf` reads the entry off the writes of one document.  A write to a
document that was never put is refused, so the writes before the first put do not count.

**Results.**
* `foldl_revise_eq`: revising step by step comes to `entryOf`.
* `last_writer_wins`: what is found, what is answered, and which calls can change places.
-/

namespace LiveNotebooks
namespace Store

def lastPut? (writes : List Write) : Option Notebook :=
  (writes.filterMap Write.put?).getLast?

/-- The writes from the first put on. -/
def fromFirstPut (writes : List Write) : List Write :=
  writes.dropWhile fun w => w.put?.isNone

/-- What the writes of one document make of it. -/
def entryOf (writes : List Write) : Option Notebook :=
  match lastPut? writes, (fromFirstPut writes).getLast? with
  | some n, some w => some { n with contents := w.contents, updatedAt := w.moment }
  | _, _ => none

/-- Was a document never put? -/
def neverPut (identifier : String) (writes : List Write) : Bool :=
  (about identifier writes).all fun w => w.put?.isNone

/-- A document behind further writes of it. -/
def amended (n : Notebook) (writes : List Write) : Notebook :=
  let last := (lastPut? writes).getD n
  { last with
    contents := (writes.getLast?.map Write.contents).getD n.contents
    updatedAt := (writes.getLast?.map Write.moment).getD n.updatedAt }

theorem lastPut?_put
    (n : Notebook)
    (writes : List Write) :
    lastPut? (.put n :: writes) = some ((lastPut? writes).getD n) := by
  simp [lastPut?, Write.put?, List.getLast?_cons]

theorem lastPut?_setContents
    (identifier : String)
    (contents : Json.Value)
    (moment : Instant)
    (writes : List Write) :
    lastPut? (.setContents identifier contents moment :: writes) = lastPut? writes := by
  simp [lastPut?, Write.put?, List.filterMap_cons]

theorem entryOf_put
    (n : Notebook)
    (writes : List Write) :
    entryOf (.put n :: writes) = some (amended n writes) := by
  have hfirst : fromFirstPut (.put n :: writes) = .put n :: writes := by
    simp [fromFirstPut, Write.put?]
  rw [entryOf, lastPut?_put, hfirst, List.getLast?_cons]
  cases hlast : writes.getLast? with
  | none => simp [amended, hlast, Write.contents, Write.moment]
  | some w => simp [amended, hlast]

/-- New contents of a document that was not put are nothing to its history. -/
theorem entryOf_setContents
    (identifier : String)
    (contents : Json.Value)
    (moment : Instant)
    (writes : List Write) :
    entryOf (.setContents identifier contents moment :: writes) = entryOf writes := by
  have hfirst : fromFirstPut (.setContents identifier contents moment :: writes)
      = fromFirstPut writes := by
    simp [fromFirstPut, Write.put?]
  rw [entryOf, lastPut?_setContents, hfirst]
  rfl

theorem amended_put
    (n m : Notebook)
    (writes : List Write) :
    amended n (.put m :: writes) = amended m writes := by
  cases hlast : writes.getLast? <;>
    simp [amended, lastPut?_put, List.getLast?_cons, hlast, Write.contents, Write.moment]

theorem amended_setContents
    (n : Notebook)
    (identifier : String)
    (contents : Json.Value)
    (moment : Instant)
    (writes : List Write) :
    amended n (.setContents identifier contents moment :: writes)
      = amended { n with contents := contents, updatedAt := moment } writes := by
  cases hlast : writes.getLast? <;> cases hput : lastPut? writes <;>
    simp [amended, lastPut?_setContents, List.getLast?_cons, hlast, hput, Write.contents,
      Write.moment]

/-- Behind its put a document is amended by the later writes. -/
theorem foldl_revise_some
    (n : Notebook)
    (writes : List Write) :
    writes.foldl (fun entry w => w.revise entry) (some n) = some (amended n writes) := by
  induction writes generalizing n with
  | nil => rfl
  | cons w rest ih =>
      rw [List.foldl_cons]
      cases w with
      | put m =>
          rw [amended_put]
          exact ih m
      | setContents identifier contents moment =>
          rw [amended_setContents]
          exact ih _

/-- Revising a document step by step comes to what its history tells. -/
theorem foldl_revise_eq
    (writes : List Write) :
    writes.foldl (fun entry w => w.revise entry) none = entryOf writes := by
  induction writes with
  | nil => rfl
  | cons w rest ih =>
      rw [List.foldl_cons]
      cases w with
      | put n =>
          rw [entryOf_put]
          exact foldl_revise_some n rest
      | setContents identifier contents moment =>
          rw [entryOf_setContents]
          exact ih

/-- A history tells of no document just when none was put. -/
theorem entryOf_eq_none_iff
    {writes : List Write} :
    entryOf writes = none ↔ writes.all (fun w => w.put?.isNone) = true := by
  induction writes with
  | nil => simp [entryOf, lastPut?]
  | cons w rest ih =>
      cases w with
      | put n => simp [entryOf_put, Write.put?]
      | setContents identifier contents moment =>
          rw [entryOf_setContents, ih]
          simp [Write.put?]

theorem find?_empty
    (identifier : String) :
    empty.find? identifier = none :=
  rfl

theorem find?_history
    (writes : List Write)
    (identifier : String) :
    (empty.applyAll writes).find? identifier = entryOf (about identifier writes) := by
  rw [find?_applyAll, find?_empty, foldl_revise_eq]

/-- A document is there just if it was put. -/
theorem contains_history
    (writes : List Write)
    (identifier : String) :
    (empty.applyAll writes).contains identifier = !neverPut identifier writes := by
  have hnone : (entryOf (about identifier writes) = none) ↔ neverPut identifier writes = true :=
    entryOf_eq_none_iff
  rw [← find?_isSome, find?_history]
  cases hentry : entryOf (about identifier writes) with
  | none => simp [hnone.1 hentry]
  | some n =>
      cases hnever : neverPut identifier writes with
      | false => rfl
      | true =>
          rw [hnone.2 hnever] at hentry
          cases hentry

end Store

open Store

/-- **The last writer wins.**  Whatever calls were made of a new store, with or without a
bus, what is found of a document is read off the writes that name it, and it is not there
just when it was never put.  A put is told to be new just when the document was never put
before.  New contents are refused just then, which changes nothing, and reading never
changes anything.  Two calls can change places unless both write one document. -/
theorem last_writer_wins
    (bus : Option Bus)
    (calls : List Call) :
    (∀ identifier, ((Archive.opened bus).after calls).store.find? identifier
        = entryOf (about identifier (calls.filterMap Call.write?)))
      ∧ (∀ identifier, ((Archive.opened bus).after calls).store.find? identifier = none
          ↔ neverPut identifier (calls.filterMap Call.write?) = true)
      ∧ (∀ n, (((Archive.opened bus).after calls).perform (.write (.put n))).2
          = .stored (neverPut n.identifier (calls.filterMap Call.write?)))
      ∧ (∀ identifier contents moment,
          (neverPut identifier (calls.filterMap Call.write?) = true →
            ((Archive.opened bus).after calls).perform
                (.write (.setContents identifier contents moment))
              = ((Archive.opened bus).after calls, .contentsSet (.error (.notFound identifier))))
          ∧ (neverPut identifier (calls.filterMap Call.write?) = false →
            (((Archive.opened bus).after calls).perform
                (.write (.setContents identifier contents moment))).2 = .contentsSet (.ok ())))
      ∧ (∀ q, (((Archive.opened bus).after calls).perform (.read q)).1
          = (Archive.opened bus).after calls)
      ∧ (∀ before first second later, calls = before ++ first :: second :: later →
          (∀ v w, first = .write v → second = .write w → v.identifier ≠ w.identifier) →
          ((Archive.opened bus).after (before ++ second :: first :: later)).store
            = ((Archive.opened bus).after calls).store) := by
  have hstore : ((Archive.opened bus).after calls).store
      = empty.applyAll (calls.filterMap Call.write?) := Archive.store_after _ calls
  have hcontains : ∀ identifier, ((Archive.opened bus).after calls).store.contains identifier
      = !neverPut identifier (calls.filterMap Call.write?) := by
    intro identifier
    rw [hstore, contains_history]
  refine ⟨?_, ?_, ?_, ?_, ?_, ?_⟩
  · intro identifier
    rw [hstore, find?_history]
  · intro identifier
    rw [hstore, find?_history]
    exact entryOf_eq_none_iff
  · intro n
    have h := hcontains n.identifier
    cases hnever : neverPut n.identifier (calls.filterMap Call.write?) <;>
      simp [Archive.perform, put, h, hnever]
  · intro identifier contents moment
    have h := hcontains identifier
    constructor
    · intro hnever
      rw [hnever] at h
      simp [Archive.perform, setContents_of_not_contains h]
    · intro hput
      rw [hput] at h
      simp [Archive.perform, setContents_of_contains h]
  · intro q
    rfl
  · rintro before first second later rfl hdistinct
    rw [Archive.store_after, Archive.store_after]
    cases first with
    | read q => simp [List.filterMap_cons, Call.write?]
    | write v =>
        cases second with
        | read q => simp [List.filterMap_cons, Call.write?]
        | write w =>
            have hne := hdistinct v w rfl rfl
            simpa [Call.write?] using (apply_comm hne (before.filterMap Call.write?)
              (later.filterMap Call.write?) (Archive.opened bus).store).symm

end LiveNotebooks
