import LiveNotebooks.Store.Event
import LiveNotebooks.System.Path

/-!
# Journals of reloads

A journal notes, in order, what becomes of the requests for reloads while the service
runs, and the writes of clients that come between.

**Results.**
* `Journal.generation?` is the number of the newest request for a document, counted as the
  requests since one was last taken off.
* `foldl_count_of_no_clears`: while none is taken off, every request counts.
* `no_clears_of_foldl_count`: without requests the number stays as long as none is taken
  off.
-/

namespace LiveNotebooks
namespace Reload

/-- What is noted of a reload or of a write. -/
inductive Deed where
  | requested (generation : Nat) (path : Path)
  /-- A newer request was there at the end of the quiet time. -/
  | superseded
  /-- No regular file was there at the end of the quiet time. -/
  | gone
  /-- A task without a file has ended.  Has it taken its request off? -/
  | left (withdrawn : Bool)
  /-- The conversion of the file at a path has begun. -/
  | started (path : Path)
  /-- A newer request was there at the end of the conversion. -/
  | stale
  | committed
  /-- A client has written. -/
  | written
  deriving DecidableEq

namespace Deed

def isRequest : Deed → Bool
  | .requested .. => true
  | _ => false

/-- Does it take the newest request off? -/
def isClear : Deed → Bool
  | .committed | .left true => true
  | _ => false

/-- Does it begin or commit a conversion? -/
def isAct : Deed → Bool
  | .started _ | .committed => true
  | _ => false

end Deed

/-- A note on a document. -/
structure Note where
  time : Nat
  identifier : String
  /-- The number of the task, unless a client has written. -/
  task : Option Nat
  deed : Deed
  events : List Store.Event
  deriving DecidableEq

namespace Note

def requests (identifier : String) (n : Note) : Bool :=
  n.identifier = identifier && n.deed.isRequest

/-- Does it take a request for the document off? -/
def clears (identifier : String) (n : Note) : Bool :=
  n.identifier = identifier && n.deed.isClear

theorem clears_eq_false_of_requests
    {identifier : String}
    {n : Note}
    (h : n.requests identifier = true) :
    n.clears identifier = false := by
  obtain ⟨time, about, task, deed, events⟩ := n
  cases deed <;> simp_all [requests, clears, Deed.isRequest, Deed.isClear]

/-- The number of the task that a request is answered with. -/
def requested? (n : Note) : Option Nat := if n.deed.isRequest then n.task else none

theorem requested?_eq_some_iff
    {number : Nat}
    {n : Note} :
    n.requested? = some number ↔ n.deed.isRequest = true ∧ n.task = some number := by
  unfold requested?
  split <;> simp_all

/-- Does a reload begin to convert the document or commit it, or tell of it with an
event? -/
def acts (identifier : String) (n : Note) : Bool :=
  n.task.isSome
    && (n.identifier = identifier && n.deed.isAct
      || n.events.any fun event => event.identifier = identifier)

end Note

/-- Notes in the order of what they tell. -/
abbrev Journal := List Note

namespace Journal

/-- The requests for a document. -/
def requests (identifier : String) (j : Journal) : Journal := j.filter (Note.requests identifier)

/-- The number of the newest request for a document behind a note. -/
def count (identifier : String) (generation : Option Nat) (n : Note) : Option Nat :=
  if n.requests identifier then some (generation.getD 0 + 1)
  else if n.clears identifier then none
  else generation

/-- The number of the newest request for a document, if it is not taken off. -/
def generation? (identifier : String) (j : Journal) : Option Nat :=
  j.foldl (count identifier) none

/-- The numbers of the tasks that answer requests. -/
def numbers (j : Journal) : List Nat := j.filterMap Note.requested?

/-- What takes requests for a document off. -/
def clears (identifier : String) (j : Journal) : Journal := j.filter (Note.clears identifier)

/-- What reloads do to a document and tell of it. -/
def effects (identifier : String) (j : Journal) : Journal := j.filter (Note.acts identifier)

/-- What is noted of a task, and on which document. -/
def story (number : Nat) (j : Journal) : List (String × Deed) :=
  (j.filter fun n => n.task = some number).map fun n => (n.identifier, n.deed)

variable {identifier : String}

theorem generation?_append
    (j k : Journal) :
    generation? identifier (j ++ k) = k.foldl (count identifier) (generation? identifier j) := by
  simp [generation?]

theorem generation?_concat
    (j : Journal)
    (n : Note) :
    generation? identifier (j ++ [n]) = count identifier (generation? identifier j) n := by
  simp [generation?]

theorem count_of_requests
    {n : Note}
    (h : n.requests identifier = true)
    (generation : Option Nat) :
    count identifier generation n = some (generation.getD 0 + 1) := by
  simp [count, h]

theorem count_of_clears
    {n : Note}
    (h : n.clears identifier = true)
    (generation : Option Nat) :
    count identifier generation n = none := by
  cases hrequests : n.requests identifier
  · simp [count, hrequests, h]
  · rw [Note.clears_eq_false_of_requests hrequests] at h
    cases h

/-- A note on another document does not count. -/
theorem count_of_identifier_ne
    {n : Note}
    (h : n.identifier ≠ identifier)
    (generation : Option Nat) :
    count identifier generation n = generation := by
  simp [count, Note.requests, Note.clears, h]

/-- Only requests and what takes them off count. -/
theorem count_of_plain
    {n : Note}
    (hrequest : n.deed.isRequest = false)
    (hclear : n.deed.isClear = false)
    (generation : Option Nat) :
    count identifier generation n = generation := by
  simp [count, Note.requests, Note.clears, hrequest, hclear]

theorem generation?_append_of_plain
    {note : Option Note}
    (hrequest : ∀ n ∈ note, n.deed.isRequest = false)
    (hclear : ∀ n ∈ note, n.deed.isClear = false)
    (j : Journal) :
    generation? identifier (j ++ note.toList) = generation? identifier j := by
  cases note with
  | none => simp
  | some n =>
      exact (generation?_concat j n).trans (count_of_plain (hrequest n rfl) (hclear n rfl) _)

@[simp] theorem requests_append
    (j k : Journal) :
    requests identifier (j ++ k) = requests identifier j ++ requests identifier k := by
  simp [requests]

theorem requests_concat_of_not
    {n : Note}
    (h : n.requests identifier = false)
    (j : Journal) :
    requests identifier (j ++ [n]) = requests identifier j := by
  simp [requests, h]

theorem requests_append_of_not
    {note : Option Note}
    (h : ∀ n ∈ note, n.requests identifier = false)
    (j : Journal) :
    requests identifier (j ++ note.toList) = requests identifier j := by
  cases note with
  | none => simp
  | some n => exact requests_concat_of_not (h n rfl) j

theorem getLast?_requests_concat
    {n : Note}
    (h : n.requests identifier = true)
    (j : Journal) :
    (requests identifier (j ++ [n])).getLast? = some n := by
  simp [requests, h]

/-- Behind the last request for a document there is no other. -/
theorem exists_split_of_getLast?
    {j : Journal}
    {r : Note}
    (h : (requests identifier j).getLast? = some r) :
    ∃ before after, j = before ++ r :: after ∧ r.requests identifier = true
      ∧ ∀ n ∈ after, n.requests identifier = false := by
  obtain ⟨earlier, hrequests⟩ := List.getLast?_eq_some_iff.1 h
  obtain ⟨first, second, rfl, _, hsecond⟩ := List.filter_eq_append_iff.1 hrequests
  obtain ⟨skipped, after, rfl, _, hr, hafter⟩ := List.filter_eq_cons_iff.1 hsecond
  refine ⟨first ++ skipped, after, by simp, hr, ?_⟩
  intro n hn
  simpa using List.filter_eq_nil_iff.1 hafter n hn

theorem clears_concat_of_not
    {n : Note}
    (h : n.clears identifier = false)
    (j : Journal) :
    clears identifier (j ++ [n]) = clears identifier j := by
  simp [clears, h]

theorem clears_append_of_forall
    {k : Journal}
    (h : ∀ n ∈ k, n.clears identifier = false)
    (j : Journal) :
    clears identifier (j ++ k) = clears identifier j := by
  have hnone : clears identifier k = [] := by
    refine List.filter_eq_nil_iff.2 ?_
    intro n hn
    simp [h n hn]
  rw [clears, List.filter_append, ← clears, ← clears, hnone, List.append_nil]

theorem clears_append_of_not
    {note : Option Note}
    (h : ∀ n ∈ note, n.clears identifier = false)
    (j : Journal) :
    clears identifier (j ++ note.toList) = clears identifier j := by
  refine clears_append_of_forall ?_ j
  intro n hn
  exact h n (Option.mem_toList.1 hn)

theorem getLast?_clears_concat
    {n : Note}
    (h : n.clears identifier = true)
    (j : Journal) :
    (clears identifier (j ++ [n])).getLast? = some n := by
  simp [clears, h]

theorem effects_concat
    {n : Note}
    (h : n.acts identifier = true)
    (j : Journal) :
    effects identifier (j ++ [n]) = effects identifier j ++ [n] := by
  simp [effects, h]

theorem effects_concat_of_not
    {n : Note}
    (h : n.acts identifier = false)
    (j : Journal) :
    effects identifier (j ++ [n]) = effects identifier j := by
  simp [effects, h]

/-- While no request is taken off, every request counts. -/
theorem foldl_count_of_no_clears
    {j : Journal}
    (h : ∀ n ∈ j, n.clears identifier = false)
    (generation : Nat) :
    j.foldl (count identifier) (some generation)
      = some (generation + (requests identifier j).length) := by
  induction j generalizing generation with
  | nil =>
      simp [requests]
  | cons n rest ih =>
      have hn := h n (by simp)
      have hrest := ih fun m hm => h m (List.mem_cons_of_mem _ hm)
      cases hrequest : n.requests identifier
      · have hcount : count identifier (some generation) n = some generation := by
          simp [count, hrequest, hn]
        rw [List.foldl_cons, hcount, hrest]
        simp [requests, hrequest]
      · have hcount : count identifier (some generation) n = some (generation + 1) := by
          simp [count, hrequest]
        rw [List.foldl_cons, hcount, hrest]
        simp only [requests, List.filter_cons, hrequest, if_true, List.length_cons]
        congr 1
        omega

/-- Without requests nothing becomes pending. -/
theorem foldl_count_none
    {j : Journal}
    (h : ∀ n ∈ j, n.requests identifier = false) :
    j.foldl (count identifier) none = none := by
  induction j with
  | nil => rfl
  | cons n rest ih =>
      have hcount : count identifier none n = none := by
        simp [count, h n (by simp)]
      rw [List.foldl_cons, hcount]
      exact ih fun m hm => h m (List.mem_cons_of_mem _ hm)

/-- Without requests a request that stays pending has not been taken off. -/
theorem no_clears_of_foldl_count
    {j : Journal}
    {start : Option Nat}
    {generation : Nat}
    (h : ∀ n ∈ j, n.requests identifier = false)
    (hlast : j.foldl (count identifier) start = some generation) :
    ∀ n ∈ j, n.clears identifier = false := by
  intro n hn
  obtain ⟨before, after, rfl⟩ := List.append_of_mem hn
  cases hclears : n.clears identifier
  · rfl
  · exfalso
    have hcount : count identifier (before.foldl (count identifier) start) n = none := by
      simp [count, h n hn, hclears]
    have hnone : after.foldl (count identifier) none = none :=
      foldl_count_none fun m hm => h m (by simp [hm])
    rw [List.foldl_append, List.foldl_cons, hcount, hnone] at hlast
    cases hlast

end Journal
end Reload
end LiveNotebooks
