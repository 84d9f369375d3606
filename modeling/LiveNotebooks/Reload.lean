import LiveNotebooks.Conversion

/-!
# Reloading changed files

A write to a file asks for a reload of its document.  The reload waits until the file has
been quiet for a while, converts it, and stores the result only if no newer reload of the
document was asked for in the meantime.

**State.**  For each document the generation of the newest request that is still pending,
and the tasks that are alive.  A generation counts the requests since the document had
none pending.

**Steps.**  `enlist` answers a request with a task.  A task goes on by `rest`, `rouse`,
`look`, `start` and `settle`, each of which is one access to the state; `wake` and
`complete` take those steps together that nothing comes between on one thread.

**Results.**
* `enlist` hands out a generation and makes it the newest one.
* a task that is not of the newest generation neither converts nor stores anything.
* no two tasks have one number, and no two pending requests one document, by type.
-/

namespace LiveNotebooks
namespace Reload

/-- What a reload was asked for. -/
structure Ticket where
  identifier : String
  generation : Nat
  path : Path
  deriving DecidableEq

/-- How far a task has come. -/
inductive Phase where
  /-- Has not run yet. -/
  | fresh
  /-- Waits for the file to be quiet, until a moment. -/
  | waiting (due : Nat)
  /-- Was of the newest generation at the end of its quiet time. -/
  | awake
  /-- Has seen that there is no regular file any more. -/
  | leaving
  /-- Has seen a regular file. -/
  | ready
  | converting
  deriving DecidableEq

/-- A task that is alive. -/
structure Task where
  /-- Tasks are numbered in the order of the requests. -/
  number : Nat
  ticket : Ticket
  phase : Phase
  deriving DecidableEq

namespace Task

/-- The task in a phase, if it is the one with the number. -/
def inPhase (number : Nat) (phase : Phase) (t : Task) : Task :=
  if t.number = number then { t with phase := phase } else t

@[simp] theorem number_inPhase
    (number : Nat)
    (phase : Phase)
    (t : Task) :
    (t.inPhase number phase).number = t.number := by
  unfold inPhase
  split <;> rfl

end Task

/-- The newest generation of each document with pending requests. -/
structure Pending where
  entries : List (String × Nat)
  distinct : (entries.map Prod.fst).Nodup

namespace Pending

def empty : Pending := ⟨[], List.nodup_nil⟩

/-- The newest generation of a document. -/
def generation? (pending : Pending) (identifier : String) : Option Nat :=
  pending.entries.lookup identifier

/-- The pending requests without those of a document. -/
def remove (pending : Pending) (identifier : String) : Pending :=
  ⟨pending.entries.filter fun entry => entry.1 ≠ identifier,
    pending.distinct.sublist (List.filter_sublist.map Prod.fst)⟩

theorem not_mem_remove
    (pending : Pending)
    (identifier : String) :
    identifier ∉ (pending.remove identifier).entries.map Prod.fst := by
  simp [remove]

/-- The pending requests with a new newest generation. -/
def set (pending : Pending) (identifier : String) (generation : Nat) : Pending :=
  ⟨(identifier, generation) :: (pending.remove identifier).entries,
    List.nodup_cons.2 ⟨pending.not_mem_remove identifier, (pending.remove identifier).distinct⟩⟩

/-- Is the ticket of the newest generation? -/
def isCurrent (pending : Pending) (t : Ticket) : Bool :=
  pending.generation? t.identifier = some t.generation

theorem isCurrent_iff
    {pending : Pending}
    {t : Ticket} :
    pending.isCurrent t = true ↔ pending.generation? t.identifier = some t.generation := by
  simp [isCurrent]

@[simp] theorem generation?_remove_self
    (pending : Pending)
    (identifier : String) :
    (pending.remove identifier).generation? identifier = none := by
  rw [generation?, List.lookup_eq_none_iff]
  intro entry hentry
  have hne : entry.1 ≠ identifier := by
    simpa using (List.mem_filter.1 hentry).2
  exact bne_iff_ne.2 (Ne.symm hne)

/-- The entries of other identifiers stay. -/
theorem lookup_filter_of_ne
    {identifier other : String}
    (h : other ≠ identifier)
    (entries : List (String × Nat)) :
    (entries.filter fun entry => entry.1 ≠ identifier).lookup other = entries.lookup other := by
  induction entries with
  | nil => rfl
  | cons entry rest ih =>
      obtain ⟨key, value⟩ := entry
      by_cases hk : key = identifier
      · subst hk
        have : (other == key) = false := by simpa using h
        simpa [List.lookup_cons, this] using ih
      · by_cases ho : other = key
        · subst ho
          simp [hk]
        · have : (other == key) = false := by simpa using ho
          simpa [hk, List.lookup_cons, this] using ih

theorem generation?_remove_of_ne
    {identifier other : String}
    (h : other ≠ identifier)
    (pending : Pending) :
    (pending.remove identifier).generation? other = pending.generation? other :=
  lookup_filter_of_ne h pending.entries

@[simp] theorem generation?_set_self
    (pending : Pending)
    (identifier : String)
    (generation : Nat) :
    (pending.set identifier generation).generation? identifier = some generation := by
  simp [set, generation?]

theorem generation?_set_of_ne
    {identifier other : String}
    (h : other ≠ identifier)
    (pending : Pending)
    (generation : Nat) :
    (pending.set identifier generation).generation? other = pending.generation? other := by
  have hne : (other == identifier) = false := by simpa using h
  have := generation?_remove_of_ne h pending
  simpa [set, generation?, List.lookup_cons, hne] using this

/-- What is listed for a document is its newest generation. -/
theorem generation?_of_mem
    {pending : Pending}
    {identifier : String}
    {generation : Nat}
    (h : (identifier, generation) ∈ pending.entries) :
    pending.generation? identifier = some generation := by
  obtain ⟨entries, distinct⟩ := pending
  simp only [generation?] at h ⊢
  induction entries with
  | nil => simp at h
  | cons entry rest ih =>
      obtain ⟨key, value⟩ := entry
      obtain ⟨hkey, hrest⟩ := List.nodup_cons.1 distinct
      rcases List.mem_cons.1 h with h | h
      · cases h
        simp
      · have hne : identifier ≠ key := fun he =>
          hkey (List.mem_map.2 ⟨_, h, he⟩)
        have : (identifier == key) = false := by simpa using hne
        simpa [List.lookup_cons, this] using ih hrest h

end Pending

/-- The pending requests and the live tasks. -/
structure State where
  pending : Pending
  tasks : List Task
  /-- The number of tasks so far. -/
  count : Nat
  ascending : (tasks.map Task.number).Pairwise (· < ·)
  bounded : ∀ t ∈ tasks, t.number < count

namespace State

/-- The state before the first request. -/
def initial : State := ⟨.empty, [], 0, List.Pairwise.nil, by simp⟩

def task? (s : State) (number : Nat) : Option Task :=
  s.tasks.find? fun t => t.number = number

def endTask (s : State) (t : Task) : State where
  pending := s.pending
  tasks := s.tasks.filter fun u => u.number ≠ t.number
  count := s.count
  ascending := s.ascending.sublist (List.filter_sublist.map Task.number)
  bounded := fun u hu => s.bounded u (List.mem_filter.1 hu).1

/-- Brings a task into a phase. -/
def setPhase (s : State) (t : Task) (phase : Phase) : State where
  pending := s.pending
  tasks := s.tasks.map (Task.inPhase t.number phase)
  count := s.count
  ascending := by
    simpa [List.map_map, Function.comp_def] using s.ascending
  bounded := by
    intro u hu
    obtain ⟨v, hv, rfl⟩ := List.mem_map.1 hu
    simpa using s.bounded v hv

def nextGeneration (s : State) (identifier : String) : Nat :=
  (s.pending.generation? identifier).getD 0 + 1

/-- The task that answers the next request for a document. -/
def nextTask (s : State) (path : Path) (identifier : String) : Task :=
  ⟨s.count, ⟨identifier, s.nextGeneration identifier, path⟩, .fresh⟩

/-- Answers a request for a document with a task. -/
def enlist (s : State) (path : Path) (identifier : String) : State where
  pending := s.pending.set identifier (s.nextGeneration identifier)
  tasks := s.tasks ++ [s.nextTask path identifier]
  count := s.count + 1
  ascending := by
    rw [List.map_append, List.pairwise_append]
    refine ⟨s.ascending, by simp, ?_⟩
    intro m hm n hn
    obtain ⟨u, hu, rfl⟩ := List.mem_map.1 hm
    obtain rfl : n = s.count := by simpa [nextTask] using hn
    exact s.bounded u hu
  bounded := by
    intro u hu
    rcases List.mem_append.1 hu with hu | hu
    · exact Nat.lt_succ_of_lt (s.bounded u hu)
    · obtain rfl := List.mem_singleton.1 hu
      exact Nat.lt_succ_self s.count

/-- Asks for a reload of the file at a path, if the path has a name. -/
def schedule (s : State) (path : Path) : Option (State × Task) :=
  match Path.name path with
  | none => none
  | some identifier => some (s.enlist path identifier, s.nextTask path identifier)

theorem mem_of_task?
    {s : State}
    {number : Nat}
    {t : Task}
    (h : s.task? number = some t) :
    t ∈ s.tasks ∧ t.number = number := by
  refine ⟨List.mem_of_find?_eq_some h, ?_⟩
  simpa using List.find?_some h

/-- A number belongs to one task. -/
theorem eq_of_number_eq
    {s : State}
    {t u : Task}
    (ht : t ∈ s.tasks)
    (hu : u ∈ s.tasks)
    (h : t.number = u.number) :
    t = u := by
  have hlt : ∀ i k (hi : i < s.tasks.length) (hk : k < s.tasks.length), i < k →
      s.tasks[i].number < s.tasks[k].number :=
    List.pairwise_iff_getElem.1 (List.pairwise_map.1 s.ascending)
  obtain ⟨i, hi, rfl⟩ := List.getElem_of_mem ht
  obtain ⟨k, hk, rfl⟩ := List.getElem_of_mem hu
  rcases Nat.lt_trichotomy i k with hik | rfl | hik
  · exact absurd h (Nat.ne_of_lt (hlt i k hi hk hik))
  · rfl
  · exact absurd h.symm (Nat.ne_of_lt (hlt k i hk hi hik))

theorem task?_of_mem
    {s : State}
    {t : Task}
    (ht : t ∈ s.tasks) :
    s.task? t.number = some t := by
  cases hfound : s.task? t.number with
  | none =>
      have hnone := List.find?_eq_none.1 hfound t ht
      simp at hnone
  | some u =>
      obtain ⟨hu, hnumber⟩ := mem_of_task? hfound
      rw [eq_of_number_eq hu ht hnumber]

/-- A task in a new phase stands among the others, which are as before. -/
theorem mem_setPhase
    {s : State}
    {t u : Task}
    {phase : Phase}
    (ht : t ∈ s.tasks) :
    u ∈ (s.setPhase t phase).tasks
      ↔ u = { t with phase := phase } ∨ u ∈ s.tasks ∧ u.number ≠ t.number := by
  simp only [setPhase, List.mem_map, Task.inPhase]
  constructor
  · rintro ⟨v, hv, rfl⟩
    by_cases hn : v.number = t.number
    · left
      rw [eq_of_number_eq hv ht hn]
      simp
    · right
      simpa [hn] using hv
  · rintro (rfl | ⟨hu, hn⟩)
    · exact ⟨t, ht, by simp⟩
    · exact ⟨u, hu, by simp [hn]⟩

@[simp] theorem mem_enlist
    {s : State}
    {path : Path}
    {identifier : String}
    {u : Task} :
    u ∈ (s.enlist path identifier).tasks ↔ u ∈ s.tasks ∨ u = s.nextTask path identifier := by
  simp [enlist]

theorem generation?_enlist_self
    (s : State)
    (path : Path)
    (identifier : String) :
    (s.enlist path identifier).pending.generation? identifier
      = some (s.nextGeneration identifier) :=
  Pending.generation?_set_self s.pending identifier (s.nextGeneration identifier)

theorem generation?_enlist_of_ne
    {identifier other : String}
    (h : other ≠ identifier)
    (s : State)
    (path : Path) :
    (s.enlist path identifier).pending.generation? other = s.pending.generation? other :=
  Pending.generation?_set_of_ne h s.pending (s.nextGeneration identifier)

/-- Begins the quiet time of a task. -/
def rest (s : State) (t : Task) (due : Nat) : State := s.setPhase t (.waiting due)

/-- Ends the quiet time of a task.  `true` if the task goes on; it ends if a newer reload
was asked for. -/
def rouse (s : State) (t : Task) : State × Bool :=
  if s.pending.isCurrent t.ticket then (s.setPhase t .awake, true) else (s.endTask t, false)

/-- Lets a task see whether a regular file stands at its path. -/
def look (s : State) (t : Task) (isFile : Bool) : State :=
  s.setPhase t (if isFile then .ready else .leaving)

/-- Lets a task begin to convert. -/
def start (s : State) (t : Task) : State := s.setPhase t .converting

/-- Ends a task, and takes its request off if that is the newest one.  `true` if it
was. -/
def settle (s : State) (t : Task) : State × Bool :=
  if s.pending.isCurrent t.ticket then
    ({ s.endTask t with pending := s.pending.remove t.ticket.identifier }, true)
  else (s.endTask t, false)

theorem settle_of_current
    {s : State}
    {t : Task}
    (h : s.pending.isCurrent t.ticket = true) :
    s.settle t
      = ({ s.endTask t with pending := s.pending.remove t.ticket.identifier }, true) := by
  simp [settle, h]

theorem settle_of_not_current
    {s : State}
    {t : Task}
    (h : s.pending.isCurrent t.ticket = false) :
    s.settle t = (s.endTask t, false) := by
  simp [settle, h]

theorem generation?_settle_self
    {s : State}
    {t : Task}
    (h : s.pending.isCurrent t.ticket = true) :
    (s.settle t).1.pending.generation? t.ticket.identifier = none := by
  rw [settle_of_current h]
  exact Pending.generation?_remove_self s.pending t.ticket.identifier

theorem generation?_settle_of_not_current
    {s : State}
    {t : Task}
    (h : s.pending.isCurrent t.ticket = false)
    (identifier : String) :
    (s.settle t).1.pending.generation? identifier = s.pending.generation? identifier := by
  rw [settle_of_not_current h]
  rfl

theorem generation?_settle_of_ne
    {s : State}
    {t : Task}
    {identifier : String}
    (h : identifier ≠ t.ticket.identifier) :
    (s.settle t).1.pending.generation? identifier = s.pending.generation? identifier := by
  cases hcurrent : s.pending.isCurrent t.ticket
  · exact generation?_settle_of_not_current hcurrent identifier
  · rw [settle_of_current hcurrent]
    exact Pending.generation?_remove_of_ne h s.pending

/-- What is pending behind the end of a task was pending before and is not its own. -/
theorem not_own_of_settle
    {s : State}
    {t : Task}
    {identifier : String}
    {generation : Nat}
    (h : (s.settle t).1.pending.generation? identifier = some generation) :
    s.pending.generation? identifier = some generation
      ∧ ¬ (t.ticket.identifier = identifier ∧ t.ticket.generation = generation) := by
  cases hcurrent : s.pending.isCurrent t.ticket
  · rw [generation?_settle_of_not_current hcurrent] at h
    refine ⟨h, ?_⟩
    rintro ⟨rfl, rfl⟩
    rw [Pending.isCurrent_iff.2 h] at hcurrent
    cases hcurrent
  · by_cases hid : identifier = t.ticket.identifier
    · subst hid
      rw [generation?_settle_self hcurrent] at h
      cases h
    · rw [generation?_settle_of_ne hid] at h
      exact ⟨h, fun hown => hid hown.1.symm⟩

@[simp] theorem count_settle
    (s : State)
    (t : Task) :
    (s.settle t).1.count = s.count := by
  unfold settle
  split <;> rfl

/-- A task that settles ends, and no other does. -/
@[simp] theorem mem_settle
    {s : State}
    {t u : Task} :
    u ∈ (s.settle t).1.tasks ↔ u ∈ s.tasks ∧ u.number ≠ t.number := by
  unfold settle
  split <;> simp [endTask]

end State

/-- What becomes of a task when its quiet time is over. -/
inductive Awakening where
  /-- A newer reload was asked for. -/
  | superseded
  /-- There is no regular file any more. -/
  | gone
  | convert
  deriving DecidableEq

/-- The line on an awakening. -/
def Awakening.line (t : Ticket) : Awakening → LogLine
  | .superseded => .debug ("reload of " ++ t.identifier ++ " superseded")
  | .gone =>
      .debug (Path.display t.path ++ " is no longer a regular file, skipping reload")
  | .convert => .info ("reloading " ++ t.identifier)

/-- Lets a task go on when its quiet time is over. -/
def wake (s : State) (task : Task) (isFile : Bool) : State × Awakening :=
  match s.rouse task with
  | (s, false) => (s, .superseded)
  | (s, true) =>
      if isFile then ((s.look task true).start task, .convert)
      else (((s.look task false).settle task).1, .gone)

/-- The line on a conversion that comes too late. -/
def staleLine (t : Ticket) : LogLine :=
  .debug ("discarding stale conversion of " ++ t.identifier)

/-- The lines on a reloaded document that shows an error. -/
def reloadedLines (c : Conversion) : List LogLine :=
  if c.isFallback then
    [.warning (c.identifier ++ " reloaded with a conversion error")]
  else []

/-- Lets a task go on when its conversion is done, and stores the result if it is still
wanted. -/
def complete (s : State) (task : Task) (result : ConversionResult) (author : String)
    (now : Instant) (store : Store) : State × Store × Trace :=
  match s.settle task with
  | (s, false) => (s, store, .ofLog [staleLine task.ticket])
  | (s, true) =>
      let conversion : Conversion := ⟨task.ticket.identifier, result⟩
      let (store, trace) := conversion.commit author now store
      (s, store, trace.append (.ofLog (reloadedLines conversion)))

end Reload
end LiveNotebooks
