import LiveNotebooks.Proofs.Store.Calls
import LiveNotebooks.Proofs.Text.Utf8

/-!
# The views of a store agree

Documents are read by five calls, each of which goes its own way: one looks for a document,
one asks whether it is there, one makes a row for every document, and two count.

**Keys.**  A store finds a document by the identifier that it carries.  A shelf finds it by a
key, which is kept beside it, and nothing but its calls ties the two together.  A shelf and a
store on which the same calls are made hold the same, so the key of a document always is its
identifier.

**Results.**
* `Shelf.perform_shelved`: a call does the same on a shelf as on a store.
* `Store.agree_answer`: what a store answers agrees.
* `views_agree`: whatever calls were made, all views agree.
-/

namespace LiveNotebooks

open Store

/-! ## Documents under keys -/

/-- Documents under keys, in ascending order of the keys. -/
abbrev Shelf := List (String × Notebook)

namespace Shelf

/-- Puts a document under a key, in place of the one that stands there. -/
def insert (key : String) (n : Notebook) : Shelf → Shelf
  | [] => [(key, n)]
  | (k, m) :: rest =>
      if k < key then (k, m) :: insert key n rest
      else if key < k then (key, n) :: (k, m) :: rest
      else (k, n) :: rest

/-- Replaces the contents of the document under a key. -/
def amend (key : String) (contents : Json.Value) (moment : Instant) (shelf : Shelf) : Shelf :=
  shelf.map fun entry =>
    if entry.1 = key then (entry.1, { entry.2 with contents := contents, updatedAt := moment })
    else entry

/-- The answer to a call that reads. -/
def answer (shelf : Shelf) : Query → Reply
  | .get key =>
      .document
        (match shelf.lookup key with
          | some n => .ok n
          | none => .error (.notFound key))
  | .list => .summaries (shelf.map fun entry => entry.2.summary)
  | .contains key => .flag (shelf.lookup key).isSome
  | .size => .count shelf.length
  | .isEmpty => .flag shelf.isEmpty

/-- Lets a call be made.  A new document stands under the identifier that it is given. -/
def perform (shelf : Shelf) : Call → Shelf × Reply
  | .write (.put n) => (shelf.insert n.identifier n, .stored (shelf.lookup n.identifier).isNone)
  | .write (.setContents key contents moment) =>
      match shelf.lookup key with
      | some _ => (shelf.amend key contents moment, .contentsSet (.ok ()))
      | none => (shelf, .contentsSet (.error (.notFound key)))
  | .read q => (shelf, shelf.answer q)

/-- The shelf behind some calls, empty at first. -/
def after (calls : List Call) : Shelf :=
  calls.foldl (fun shelf call => (shelf.perform call).1) []

end Shelf

/-- The documents of a store, each under its identifier. -/
def Store.shelved (s : Store) : Shelf := s.notebooks.map fun n => (n.identifier, n)

namespace Shelf

/-- The shelf has a document under a key just if the store has. -/
theorem lookup_shelved
    (s : Store)
    (key : String) :
    s.shelved.lookup key = s.find? key := by
  rw [shelved, find?]
  induction s.notebooks with
  | nil => rfl
  | cons n rest ih =>
      by_cases hkey : key = n.identifier
      · simp [hkey]
      · have hne : ¬ n.identifier = key := fun he => hkey he.symm
        rw [List.map_cons, List.lookup_cons, beq_false_of_ne hkey, ih,
          List.find?_cons_of_neg (by simpa using hne)]

/-- The shelf takes in what the store takes in. -/
theorem insert_shelved
    (s : Store)
    (n : Notebook) :
    s.shelved.insert n.identifier n = (s.put n).1.shelved := by
  simp only [shelved, put]
  induction s.notebooks with
  | nil => rfl
  | cons m rest ih =>
      rw [List.map_cons, insert, Store.insert]
      split
      · rw [ih]
        rfl
      · next hlow =>
          split
          · rfl
          · next hhigh =>
              have heq : m.identifier = n.identifier :=
                String.le_antisymm (String.not_lt.1 hhigh) (String.not_lt.1 hlow)
              rw [heq]
              rfl

/-- The shelf changes the contents that the store changes; without the document nothing is
replaced. -/
theorem amend_shelved
    (s : Store)
    (key : String)
    (contents : Json.Value)
    (moment : Instant) :
    s.shelved.amend key contents moment
      = ((Write.setContents key contents moment).apply s).shelved := by
  cases hcontains : s.contains key with
  | true =>
      simp only [Write.apply, setContents, hcontains, if_true, shelved, amend, List.map_map]
      refine List.map_congr_left fun n _ => ?_
      simp only [Function.comp_apply, withContents]
      split <;> rfl
  | false =>
      rw [apply_setContents_of_not_contains hcontains]
      have hnone := List.any_eq_false.1 hcontains
      simp only [shelved, amend, List.map_map]
      refine List.map_congr_left fun n hn => ?_
      exact if_neg (by simpa using hnone n hn)

/-- The shelf answers as the store does. -/
theorem answer_shelved
    (s : Store)
    (q : Query) :
    s.shelved.answer q = s.answer q := by
  cases q with
  | get key =>
      simp only [answer, Store.answer, lookup_shelved]
      rfl
  | list => simp [answer, Store.answer, Store.list, shelved]
  | contains key => simp only [answer, Store.answer, lookup_shelved, find?_isSome]
  | size => simp [answer, Store.answer, Store.size, shelved]
  | isEmpty => simp [answer, Store.answer, Store.isEmpty, shelved]

/-- A call does the same on a shelf as on a store, and is answered the same. -/
theorem perform_shelved
    (a : Archive)
    (call : Call) :
    a.store.shelved.perform call = ((a.perform call).1.store.shelved, (a.perform call).2) := by
  cases call with
  | read q => exact Prod.ext rfl (answer_shelved a.store q)
  | write w =>
      cases w with
      | put n =>
          refine Prod.ext (insert_shelved a.store n) ?_
          simp only [perform, Archive.perform, lookup_shelved, put, ← find?_isSome]
          cases a.store.find? n.identifier <;> rfl
      | setContents key contents moment =>
          simp only [perform, Archive.perform, lookup_shelved]
          cases hcontains : a.store.contains key with
          | true =>
              have hsome := find?_isSome a.store key
              rw [hcontains, Option.isSome_iff_exists] at hsome
              obtain ⟨n, hn⟩ := hsome
              rw [hn, setContents_of_contains hcontains]
              exact Prod.ext (amend_shelved a.store key contents moment) rfl
          | false =>
              rw [contains_eq_false_iff.1 hcontains, setContents_of_not_contains hcontains]

/-- A shelf and a store on which the same calls are made hold the same. -/
theorem after_eq_shelved
    (bus : Option Bus)
    (calls : List Call) :
    after calls = ((Archive.opened bus).after calls).store.shelved := by
  have hrun : ∀ (a : Archive) (calls : List Call),
      calls.foldl (fun shelf call => (Shelf.perform shelf call).1) a.store.shelved
        = (a.after calls).store.shelved := by
    intro a calls
    induction calls generalizing a with
    | nil => rfl
    | cons call rest ih =>
        rw [List.foldl_cons, perform_shelved]
        exact ih (a.perform call).1
  exact hrun (.opened bus) calls

end Shelf

/-! ## Views -/

/-- A document is there for every view, or for none. -/
inductive Seen (answer : Query → Reply) (rows : List Summary) (identifier : String) : Prop
  | present
      (n : Notebook)
      (hcontains : answer (.contains identifier) = .flag true)
      (hget : answer (.get identifier) = .document (.ok n))
      (hown : n.identifier = identifier)
      (hrow : ∀ row, row ∈ rows ∧ row.identifier = identifier ↔ row = n.summary)
  | absent
      (hcontains : answer (.contains identifier) = .flag false)
      (hget : answer (.get identifier) = .document (.error (.notFound identifier)))
      (hrow : ∀ row ∈ rows, row.identifier ≠ identifier)

/-- The answers to all calls that read agree with the rows of the list, which stand in ascending
order of the bytes of their identifiers. -/
structure Agree (answer : Query → Reply) (rows : List Summary) : Prop where
  list : answer .list = .summaries rows
  ascending : (rows.map Summary.identifier).Pairwise fun a b => Utf8.encode a < Utf8.encode b
  distinct : (rows.map Summary.identifier).Nodup
  size : answer .size = .count rows.length
  isEmpty : answer .isEmpty = .flag (decide (rows.length = 0))
  seen : ∀ identifier, Seen answer rows identifier

namespace Store

variable (s : Store)

theorem ascending_list :
    (s.list.map Summary.identifier).Pairwise fun a b => Utf8.encode a < Utf8.encode b := by
  simp only [list, List.map_map, List.pairwise_map]
  exact s.ascending.imp fun h => Utf8.encode_lt_encode_iff.2 h

theorem distinct_list :
    (s.list.map Summary.identifier).Nodup := by
  refine s.ascending_list.imp ?_
  rintro a _ hlt rfl
  exact List.lt_irrefl _ hlt

/-- The row of a document is its summary, and no other row has its identifier. -/
theorem mem_list_iff
    {identifier : String}
    {n : Notebook}
    (hn : s.find? identifier = some n)
    (row : Summary) :
    row ∈ s.list ∧ row.identifier = identifier ↔ row = n.summary := by
  constructor
  · rintro ⟨hrow, hid⟩
    obtain ⟨m, hm, rfl⟩ := List.mem_map.1 hrow
    have hfound : s.find? identifier = some m := hid ▸ mem_iff_find?.1 hm
    rw [hn] at hfound
    rw [Option.some.inj hfound]
  · rintro rfl
    exact ⟨List.mem_map.2 ⟨n, List.mem_of_find?_eq_some hn, rfl⟩, identifier_of_find? hn⟩

/-- A document is seen alike through all views. -/
theorem seen_answer
    (identifier : String) :
    Seen s.answer s.list identifier := by
  cases hn : s.find? identifier with
  | some n =>
      refine .present n ?_ ?_ (identifier_of_find? hn) (s.mem_list_iff hn)
      · simp only [answer, ← find?_isSome, hn, Option.isSome_some]
      · simp only [answer, get, hn]
  | none =>
      refine .absent ?_ ?_ fun row hrow hid => ?_
      · simp only [answer, ← find?_isSome, hn, Option.isSome_none]
      · simp only [answer, get, hn]
      · obtain ⟨m, hm, rfl⟩ := List.mem_map.1 hrow
        have hfound : s.find? identifier = some m := hid ▸ mem_iff_find?.1 hm
        rw [hn] at hfound
        cases hfound

/-- What a store answers agrees. -/
theorem agree_answer :
    Agree s.answer s.list where
  list := rfl
  ascending := s.ascending_list
  distinct := s.distinct_list
  size := by simp [answer, size, list]
  isEmpty := by
    simp only [answer, isEmpty, list, List.length_map]
    cases s.notebooks <;> rfl
  seen := s.seen_answer

end Store

/-- **All views agree.**  Let any calls be made on an archive without documents, with a bus or
without.  What the calls that read are answered then agrees.  The same is answered where the
documents are kept under keys, and there the key of every document is its identifier. -/
theorem views_agree
    (bus : Option Bus)
    (calls : List Call) :
    ∃ rows,
      Agree (fun q => (((Archive.opened bus).after calls).perform (.read q)).2) rows
        ∧ Agree (fun q => ((Shelf.after calls).perform (.read q)).2) rows
        ∧ ∀ entry ∈ Shelf.after calls, entry.1 = entry.2.identifier := by
  have hshelf := Shelf.after_eq_shelved bus calls
  generalize ((Archive.opened bus).after calls) = a at hshelf
  have hsame : (fun q => ((Shelf.after calls).perform (.read q)).2) = a.store.answer := by
    funext q
    rw [hshelf]
    exact Shelf.answer_shelved a.store q
  refine ⟨a.store.list, a.store.agree_answer, ?_, fun entry hentry => ?_⟩
  · rw [hsame]
    exact a.store.agree_answer
  · rw [hshelf] at hentry
    obtain ⟨n, _, rfl⟩ := List.mem_map.1 hentry
    rfl

end LiveNotebooks
