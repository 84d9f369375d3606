import LiveNotebooks.Store
import LiveNotebooks.Store.Bus

/-!
# Calls of the store

Whoever works with documents calls the store, one call at a time.  A call writes or reads.
A write that goes through is announced on the bus, if the store has one.

**Results.**
* `ext_find?`: a store is told by what is found in it.
* `find?_apply`: a write revises the document that it names and no other.
* `find?_applyAll`: what becomes of a document is told by the writes that name it.
* `apply_comm`: writes of different documents can change places.
-/

namespace LiveNotebooks
namespace Store

/-! ## What is found in a store -/

theorem find?_isSome
    (s : Store)
    (identifier : String) :
    (s.find? identifier).isSome = s.contains identifier :=
  List.isSome_find?

theorem contains_eq_false_iff
    {s : Store}
    {identifier : String} :
    s.contains identifier = false ↔ s.find? identifier = none := by
  rw [← find?_isSome, Option.isSome_eq_false_iff, Option.isNone_iff_eq_none]

theorem identifier_of_find?
    {s : Store}
    {identifier : String}
    {n : Notebook}
    (h : s.find? identifier = some n) :
    n.identifier = identifier := by
  simpa using List.find?_some h

/-- An identifier belongs to one document. -/
theorem eq_of_identifier_eq
    {s : Store}
    {n m : Notebook}
    (hn : n ∈ s.notebooks)
    (hm : m ∈ s.notebooks)
    (h : n.identifier = m.identifier) :
    n = m := by
  have hlt : ∀ i k (hi : i < s.notebooks.length) (hk : k < s.notebooks.length), i < k →
      s.notebooks[i].identifier < s.notebooks[k].identifier :=
    List.pairwise_iff_getElem.1 s.ascending
  obtain ⟨i, hi, rfl⟩ := List.getElem_of_mem hn
  obtain ⟨k, hk, rfl⟩ := List.getElem_of_mem hm
  rcases Nat.lt_trichotomy i k with hik | rfl | hik
  · have := hlt i k hi hk hik
    rw [h] at this
    exact absurd this (String.lt_irrefl _)
  · rfl
  · have := hlt k i hk hi hik
    rw [h] at this
    exact absurd this (String.lt_irrefl _)

/-- A document is among those of the store just if it is found under its identifier. -/
theorem mem_iff_find?
    {s : Store}
    {n : Notebook} :
    n ∈ s.notebooks ↔ s.find? n.identifier = some n := by
  constructor
  · intro hn
    cases hfound : s.find? n.identifier with
    | none =>
        have := List.find?_eq_none.1 hfound n hn
        simp at this
    | some m =>
        have hm := List.mem_of_find?_eq_some hfound
        rw [eq_of_identifier_eq hm hn (identifier_of_find? hfound)]
  · intro h
    exact List.mem_of_find?_eq_some h

theorem nodup_notebooks
    (s : Store) :
    s.notebooks.Nodup := by
  refine s.ascending.imp ?_
  rintro n m hlt rfl
  exact String.lt_irrefl n.identifier hlt

/-- Stores in which the same is found are the same. -/
theorem ext_find?
    {s t : Store}
    (h : ∀ identifier, s.find? identifier = t.find? identifier) :
    s = t := by
  have hmem : ∀ n, n ∈ s.notebooks ↔ n ∈ t.notebooks := by
    intro n
    rw [mem_iff_find?, mem_iff_find?, h]
  have hperm : s.notebooks.Perm t.notebooks :=
    (List.perm_ext_iff_of_nodup s.nodup_notebooks t.nodup_notebooks).2 hmem
  have hlist : s.notebooks = t.notebooks := by
    refine hperm.eq_of_pairwise ?_ s.ascending t.ascending
    intro n m _ _ hnm hmn
    exact absurd (String.lt_trans hnm hmn) (String.lt_irrefl n.identifier)
  cases s
  cases t
  cases hlist
  rfl

/-! ## Writes -/

/-- A call that asks for a change. -/
inductive Write where
  | put (n : Notebook)
  | setContents (identifier : String) (contents : Json.Value) (moment : Instant)

namespace Write

/-- The document that a write names. -/
def identifier : Write → String
  | .put n => n.identifier
  | .setContents identifier _ _ => identifier

def contents : Write → Json.Value
  | .put n => n.contents
  | .setContents _ contents _ => contents

def moment : Write → Instant
  | .put n => n.updatedAt
  | .setContents _ _ moment => moment

/-- The document that a write puts, if it puts a whole one. -/
def put? : Write → Option Notebook
  | .put n => some n
  | .setContents .. => none

/-- The store behind a write. -/
def apply (s : Store) : Write → Store
  | .put n => (s.put n).1
  | .setContents identifier contents moment =>
      match s.setContents identifier contents moment with
      | .ok (s, _) => s
      | .error _ => s

/-- What a write makes of the document that it names. -/
def revise : Write → Option Notebook → Option Notebook
  | .put n, _ => some n
  | .setContents _ contents moment, entry =>
      entry.map fun n => { n with contents := contents, updatedAt := moment }

end Write

def applyAll (s : Store) (writes : List Write) : Store := writes.foldl Write.apply s

/-- The writes that name a document. -/
def about (identifier : String) (writes : List Write) : List Write :=
  writes.filter fun w => w.identifier = identifier

theorem setContents_of_contains
    {s : Store}
    {identifier : String}
    (h : s.contains identifier = true)
    (contents : Json.Value)
    (moment : Instant) :
    s.setContents identifier contents moment
      = .ok
        ((Write.setContents identifier contents moment).apply s, ⟨.contentSet, identifier⟩) := by
  simp [Write.apply, setContents, h]

theorem setContents_of_not_contains
    {s : Store}
    {identifier : String}
    (h : s.contains identifier = false)
    (contents : Json.Value)
    (moment : Instant) :
    s.setContents identifier contents moment = .error (.notFound identifier) := by
  simp [setContents, h]

theorem apply_setContents_of_not_contains
    {s : Store}
    {identifier : String}
    (h : s.contains identifier = false)
    (contents : Json.Value)
    (moment : Instant) :
    (Write.setContents identifier contents moment).apply s = s := by
  simp [Write.apply, setContents_of_not_contains h]

/-- A write revises the document that it names and no other. -/
theorem find?_apply
    (s : Store)
    (w : Write)
    (identifier : String) :
    (w.apply s).find? identifier
      = if w.identifier = identifier then w.revise (s.find? identifier)
        else s.find? identifier := by
  cases w with
  | put n =>
      exact find?_put s n identifier
  | setContents target contents moment =>
      have hid : (Write.setContents target contents moment).identifier = target := rfl
      cases hcontains : s.contains target with
      | false =>
          rw [apply_setContents_of_not_contains hcontains, hid]
          split
          · next heq =>
              subst heq
              rw [contains_eq_false_iff.1 hcontains]
              rfl
          · rfl
      | true =>
          rw [find?_setContents (setContents_of_contains hcontains contents moment), hid]
          cases hfound : s.find? identifier with
          | none =>
              split <;> rfl
          | some n =>
              have hn := identifier_of_find? hfound
              by_cases heq : target = identifier
              · simp [Write.revise, withContents, hn, heq]
              · have hne : n.identifier ≠ target := by
                  rw [hn]
                  exact Ne.symm heq
                simp [withContents, heq, hne]

@[simp] theorem applyAll_nil
    (s : Store) :
    s.applyAll [] = s :=
  rfl

theorem applyAll_append
    (s : Store)
    (first second : List Write) :
    s.applyAll (first ++ second) = (s.applyAll first).applyAll second := by
  simp [applyAll]

/-- What becomes of a document is told by the writes that name it. -/
theorem find?_applyAll
    (s : Store)
    (writes : List Write)
    (identifier : String) :
    (s.applyAll writes).find? identifier
      = (about identifier writes).foldl (fun entry w => w.revise entry) (s.find? identifier) := by
  induction writes generalizing s with
  | nil => rfl
  | cons w rest ih =>
      have hrest := ih (w.apply s)
      rw [find?_apply] at hrest
      by_cases hw : w.identifier = identifier
      · simpa [applyAll, about, hw] using hrest
      · simpa [applyAll, about, hw] using hrest

/-- Behind some puts the last document with an identifier is found, or what was there before. -/
theorem find?_puts
    (s : Store)
    (documents : List Notebook)
    (identifier : String) :
    (s.applyAll (documents.map Write.put)).find? identifier
      = (documents.filter (·.identifier = identifier)).getLast?.or (s.find? identifier) := by
  induction documents generalizing s with
  | nil => rfl
  | cons n rest ih =>
      have hrest := ih (s.put n).1
      rw [find?_put] at hrest
      have hstep : s.applyAll ((n :: rest).map Write.put)
          = (s.put n).1.applyAll (rest.map Write.put) := rfl
      rw [hstep, hrest, List.filter_cons]
      by_cases hid : n.identifier = identifier
      · rw [if_pos hid, if_pos (decide_eq_true hid), List.getLast?_cons]
        cases (rest.filter (·.identifier = identifier)).getLast? <;> rfl
      · rw [if_neg hid, if_neg (by simpa using hid)]

/-- Histories with the same writes of each document make the same store. -/
theorem applyAll_eq_of_about
    {first second : List Write}
    (h : ∀ identifier, about identifier first = about identifier second)
    (s : Store) :
    s.applyAll first = s.applyAll second := by
  refine ext_find? fun identifier => ?_
  rw [find?_applyAll, find?_applyAll, h]

/-- Writes of different documents can change places. -/
theorem apply_comm
    {v w : Write}
    (h : v.identifier ≠ w.identifier)
    (before after : List Write)
    (s : Store) :
    s.applyAll (before ++ v :: w :: after) = s.applyAll (before ++ w :: v :: after) := by
  refine applyAll_eq_of_about (fun identifier => ?_) s
  simp only [about, List.filter_append, List.filter_cons]
  by_cases hv : v.identifier = identifier
  · have hw : w.identifier ≠ identifier := fun hw => h (hv.trans hw.symm)
    simp [hv, hw]
  · simp [hv]

theorem contains_apply
    {s : Store}
    {identifier : String}
    (h : s.contains identifier = true)
    (w : Write) :
    (w.apply s).contains identifier = true := by
  rw [← find?_isSome] at h ⊢
  rw [find?_apply]
  split
  · obtain ⟨n, hn⟩ := Option.isSome_iff_exists.1 h
    cases w <;> simp [Write.revise, hn]
  · exact h

/-! ## Calls -/

/-- A call that reads. -/
inductive Query where
  | get (identifier : String)
  | list
  | contains (identifier : String)
  | size
  | isEmpty

/-- A call of the store. -/
inductive Call where
  | write (w : Write)
  | read (q : Query)

def Call.write? : Call → Option Write
  | .write w => some w
  | .read _ => none

/-- What a call is answered. -/
inductive Reply where
  /-- Was the document new? -/
  | stored (isNew : Bool)
  | contentsSet (outcome : Except StoreError Unit)
  | document (outcome : Except StoreError Notebook)
  | summaries (rows : List Summary)
  | flag (value : Bool)
  | count (size : Nat)

/-- The answer to a call that reads. -/
def answer (s : Store) : Query → Reply
  | .get identifier => .document (s.get identifier)
  | .list => .summaries s.list
  | .contains identifier => .flag (s.contains identifier)
  | .size => .count s.size
  | .isEmpty => .flag s.isEmpty

end Store

/-- A store and the bus on which it announces its writes, if it has one. -/
structure Archive where
  store : Store
  bus : Option Bus

namespace Archive

open Store

def opened (bus : Option Bus) : Archive := ⟨.empty, bus⟩

/-- Adopts a write that went through. -/
def adopt (a : Archive) (write : Store × Store.Event) : Archive :=
  ⟨write.1, a.bus.map (·.send write.2)⟩

/-- Lets a call be made. -/
def perform (a : Archive) : Call → Archive × Reply
  | .write (.put n) =>
      (a.adopt (a.store.put n), .stored ((a.store.put n).2.change = .created))
  | .write (.setContents identifier contents moment) =>
      match a.store.setContents identifier contents moment with
      | .ok write => (a.adopt write, .contentsSet (.ok ()))
      | .error e => (a, .contentsSet (.error e))
  | .read q => (a, a.store.answer q)

/-- The archive behind some calls. -/
def after (a : Archive) (calls : List Call) : Archive :=
  calls.foldl (fun a call => (a.perform call).1) a

/-- A call writes what it asks for, and nothing else. -/
theorem store_perform
    (a : Archive)
    (call : Call) :
    (a.perform call).1.store = a.store.applyAll call.write?.toList := by
  cases call with
  | read q => rfl
  | write w =>
      cases w with
      | put n => rfl
      | setContents identifier contents moment =>
          cases hcontains : a.store.contains identifier with
          | false =>
              simp [perform, setContents_of_not_contains hcontains, Call.write?, applyAll,
                apply_setContents_of_not_contains hcontains]
          | true =>
              simp [perform, setContents_of_contains hcontains, adopt, Call.write?, applyAll]

/-- Calls write what they ask for, in their order. -/
theorem store_after
    (a : Archive)
    (calls : List Call) :
    (a.after calls).store = a.store.applyAll (calls.filterMap Call.write?) := by
  induction calls generalizing a with
  | nil => rfl
  | cons call rest ih =>
      have hrest := ih (a.perform call).1
      rw [store_perform] at hrest
      cases call with
      | read q => simpa [after, List.filterMap_cons, Call.write?] using hrest
      | write w => simpa [after, Call.write?, applyAll] using hrest

end Archive
end LiveNotebooks
