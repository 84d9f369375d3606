import LiveNotebooks.Proofs.Store.Calls
import LiveNotebooks.Scan

/-!
# A scan under way

A scan hands out its files in their order, several at a time.  Their conversions end in any
order, and what becomes of a file is stored when its conversion ends.

**Steps.**  `take` hands out the next file if there is room, and `finish` ends a conversion
and stores what has become of it.  The converter is outside: its result stands in the step.

**Invariant.**  What is stored, what is being converted and what waits are together the files
of the scan, and every step brings the end nearer by one.

**Results.**
* `runs_parts`: no file is lost, and none is loaded twice.
* `runs_stored`: store and outcomes are those of the loads alone, in the order of their ends.
* `exists_runs_to_end`: every scan can be brought to its end.
-/

namespace LiveNotebooks
namespace Scan

/-- What has become of a file, and when. -/
structure Load where
  path : Path
  result : ConversionResult
  moment : Instant

/-- The conversion that comes of a file.  A path without a name has none. -/
def conversion? (path : Path) (result : ConversionResult) : Option Conversion :=
  (Path.name path).map fun identifier => ⟨identifier, result⟩

namespace Load

/-- The document that is stored. -/
def document? (author : String) (l : Load) : Option Notebook :=
  (conversion? l.path l.result).map fun c => c.notebook author l.moment

def outcome? (l : Load) : Option Conversion.Outcome :=
  (conversion? l.path l.result).map Conversion.outcome

end Load

/-- A scan under way, with its store and with what has been loaded so far. -/
structure Progress where
  pool : Pool
  store : Store
  /-- In the order of the ends of the conversions. -/
  outcomes : List Conversion.Outcome

inductive Action where
  | take
  | finish (l : Load)

def Action.load? : Action → Option Load
  | .take => none
  | .finish l => some l

def loads (actions : List Action) : List Load := actions.filterMap Action.load?

namespace Progress

/-- The scan of some files before its first step. -/
def opened (files : List Path) (concurrency : Nat) (store : Store) : Progress :=
  ⟨.start files concurrency, store, []⟩

def report (p : Progress) : Report := .ofOutcomes p.outcomes

/-- Stores what has become of a file, if its path has a name. -/
def commit (author : String) (p : Progress) (l : Load) : Progress :=
  match conversion? l.path l.result with
  | none => p
  | some c =>
      { p with
        store := (c.commit author l.moment p.store).1
        outcomes := p.outcomes ++ [c.outcome] }

def step? (author : String) (p : Progress) : Action → Option Progress
  | .take => p.pool.next?.map fun (_, pool) => { p with pool := pool }
  | .finish l =>
      if p.pool.running.contains l.path then
        some ({ p with pool := p.pool.finish l.path }.commit author l)
      else none

/-- What a step does. -/
inductive Step (author : String) (p : Progress) : Action → Progress → Prop
  | take
      {path : Path}
      {waiting : List Path}
      (hwaiting : p.pool.waiting = path :: waiting)
      (hroom : p.pool.running.length < p.pool.limit) :
      Step author p .take
        { p with
          pool := { p.pool with waiting := waiting, running := p.pool.running ++ [path] } }
  | finish
      {l : Load}
      (hrunning : l.path ∈ p.pool.running) :
      Step author p (.finish l) ({ p with pool := p.pool.finish l.path }.commit author l)

/-- The runs of a scan, with the actions that are taken. -/
inductive Runs (author : String) (start : Progress) : Progress → List Action → Prop
  | refl : Runs author start start []
  | step
      {p q : Progress}
      {actions : List Action}
      {a : Action}
      (run : Runs author start p actions)
      (hstep : p.step? author a = some q) :
      Runs author start q (actions ++ [a])

/-- How many steps are left. -/
def left (p : Progress) : Nat := 2 * p.pool.waiting.length + p.pool.running.length

section

variable {author : String} {start p q : Progress} {a : Action} {actions : List Action}

/-- What the scan computes is a step. -/
theorem step_of_step?
    (h : p.step? author a = some q) :
    Step author p a q := by
  cases a with
  | take =>
      obtain ⟨⟨path, pool⟩, hnext, rfl⟩ := Option.map_eq_some_iff.1 h
      unfold Pool.next? at hnext
      split at hnext
      · next hroom =>
          split at hnext
          · next first waiting hwaiting =>
              cases hnext
              exact .take hwaiting hroom
          · cases hnext
      · cases hnext
  | finish l =>
      simp only [step?] at h
      split at h
      · next hrunning =>
          cases h
          exact .finish (List.contains_iff_mem.1 hrunning)
      · cases h

@[simp] theorem pool_commit
    (p : Progress)
    (l : Load) :
    (p.commit author l).pool = p.pool := by
  unfold commit
  split <;> rfl

theorem store_commit
    (p : Progress)
    (l : Load) :
    (p.commit author l).store
      = p.store.applyAll ((l.document? author).map Store.Write.put).toList := by
  unfold commit Load.document?
  cases conversion? l.path l.result <;> rfl

theorem outcomes_commit
    (p : Progress)
    (l : Load) :
    (p.commit author l).outcomes = p.outcomes ++ l.outcome?.toList := by
  unfold commit Load.outcome?
  cases conversion? l.path l.result <;> simp

/-! ## What has been loaded -/

def writes (author : String) (done : List Load) : List Store.Write :=
  (done.filterMap (Load.document? author)).map Store.Write.put

/-- A scan has loaded these files so far, one after another.  Under each name the document of
the last file with this name is found, or what was there before. -/
structure Stored (author : String) (start : Progress) (done : List Load) (p : Progress) : Prop where
  store : p.store = start.store.applyAll (writes author done)
  found : ∀ identifier, p.store.find? identifier
    = ((done.filterMap (Load.document? author)).filter (·.identifier = identifier)).getLast?.or
      (start.store.find? identifier)
  outcomes : p.outcomes = start.outcomes ++ done.filterMap Load.outcome?

theorem stored_of_eq
    {done : List Load}
    (hstore : p.store = start.store.applyAll (writes author done))
    (houtcomes : p.outcomes = start.outcomes ++ done.filterMap Load.outcome?) :
    Stored author start done p where
  store := hstore
  found identifier := by
    rw [hstore]
    exact Store.find?_puts start.store _ identifier
  outcomes := houtcomes

theorem Stored.commit
    {done : List Load}
    (h : Stored author start done p)
    (l : Load) :
    Stored author start (done ++ [l]) (p.commit author l) := by
  refine stored_of_eq ?_ ?_
  · have hwrites : writes author (done ++ [l])
        = writes author done ++ ((l.document? author).map Store.Write.put).toList := by
      cases hdocument : l.document? author <;> simp [writes, hdocument]
    rw [store_commit, h.store, hwrites, Store.applyAll_append]
  · rw [outcomes_commit, h.outcomes, List.filterMap_append, List.append_assoc]
    cases houtcome : l.outcome? <;> simp [houtcome]

theorem loads_concat
    (actions : List Action)
    (a : Action) :
    loads (actions ++ [a]) = loads actions ++ a.load?.toList := by
  cases a <;> simp [loads, Action.load?]

/-- What is stored and reported is what the loads of a run come to, in their order. -/
theorem runs_stored
    (h : Runs author start p actions) :
    Stored author start (loads actions) p := by
  induction h with
  | refl => exact stored_of_eq rfl (List.append_nil _).symm
  | @step p q actions a _ hstep ih =>
      rw [loads_concat]
      cases step_of_step? hstep with
      | take hwaiting hroom =>
          have hsame : Stored author start (loads actions ++ []) p := by simpa using ih
          exact stored_of_eq hsame.store hsame.outcomes
      | @finish l hrunning =>
          have hsame : Stored author start _ { p with pool := p.pool.finish l.path } :=
            stored_of_eq ih.store ih.outcomes
          exact hsame.commit l

/-! ## The files of a scan -/

/-- What is loaded, what is being converted and what waits are these files. -/
def Parts (files : List Path) (done : List Load) (p : Progress) : Prop :=
  (done.map Load.path ++ (p.pool.running ++ p.pool.waiting)).Perm files

/-- Every file goes from those in wait to those that are converted, and from there to those that
are loaded. -/
theorem parts_step
    {files : List Path}
    {done : List Load}
    (hparts : Parts files done p)
    (h : Step author p a q) :
    Parts files (done ++ a.load?.toList) q := by
  cases h with
  | @take path waiting hwaiting hroom =>
      have hsame : p.pool.running ++ [path] ++ waiting = p.pool.running ++ p.pool.waiting := by
        rw [hwaiting, List.append_assoc, List.singleton_append]
      simpa [Parts, Action.load?, hsame] using hparts
  | @finish l hrunning =>
      have hmoved : (l.path :: p.pool.running.erase l.path).Perm p.pool.running :=
        (List.perm_cons_erase hrunning).symm
      refine List.Perm.trans ?_ hparts
      simp only [Action.load?, Option.toList_some, List.map_append, List.map_cons, List.map_nil,
        List.append_assoc, pool_commit, Pool.finish]
      exact (hmoved.append_right p.pool.waiting).append_left (done.map Load.path)

/-- Every step brings the scan nearer to its end. -/
theorem left_step
    (h : Step author p a q) :
    q.left + 1 = p.left := by
  cases h with
  | take hwaiting hroom =>
      simp only [left, hwaiting, List.length_cons, List.length_append, List.length_nil]
      omega
  | @finish l hrunning =>
      have hlength := List.length_erase_of_mem hrunning
      have hpos := List.length_pos_of_mem hrunning
      simp only [left, pool_commit, Pool.finish, hlength]
      omega

theorem limit_step
    (h : Step author p a q) :
    q.pool.limit = p.pool.limit := by
  cases h with
  | take hwaiting hroom => rfl
  | finish hrunning => simp [Pool.finish]

section Opened

variable {files : List Path} {concurrency : Nat} {store : Store}

/-- No file of a scan is lost, and none is loaded twice. -/
theorem runs_parts
    (h : Runs author (opened files concurrency store) p actions) :
    Parts files (loads actions) p := by
  induction h with
  | refl => exact .refl files
  | step _ hstep ih =>
      rw [loads_concat]
      exact parts_step ih (step_of_step? hstep)

/-- A scan of so many files takes twice as many steps. -/
theorem length_add_left
    (h : Runs author (opened files concurrency store) p actions) :
    actions.length + p.left = 2 * files.length := by
  induction h with
  | refl => simp [left, opened, Pool.start]
  | step _ hstep ih =>
      have hone := left_step (step_of_step? hstep)
      rw [List.length_append, List.length_singleton]
      omega

theorem limit_pos
    (h : Runs author (opened files concurrency store) p actions) :
    0 < p.pool.limit := by
  induction h with
  | refl =>
      have hone : 1 ≤ max concurrency 1 := Nat.le_max_right concurrency 1
      exact hone
  | step _ hstep ih =>
      rw [limit_step (step_of_step? hstep)]
      exact ih

/-- A scan is done when nothing is left. -/
theorem isDone_iff_left_eq_zero :
    p.pool.isDone = true ↔ p.left = 0 := by
  simp only [Pool.isDone, left, Bool.and_eq_true, List.isEmpty_iff]
  constructor
  · rintro ⟨hwaiting, hrunning⟩
    simp [hwaiting, hrunning]
  · intro hnone
    constructor
    · exact List.length_eq_zero_iff.1 (by omega)
    · exact List.length_eq_zero_iff.1 (by omega)

/-- When a scan is done, all its files are loaded. -/
theorem perm_of_isDone
    (h : Runs author (opened files concurrency store) p actions)
    (hdone : p.pool.isDone = true) :
    ((loads actions).map Load.path).Perm files := by
  obtain ⟨hwaiting, hrunning⟩ := Bool.and_eq_true_iff.1 hdone
  have hparts := runs_parts h
  simpa [Parts, List.isEmpty_iff.1 hwaiting, List.isEmpty_iff.1 hrunning] using hparts

end Opened

/-! ## The end of a scan -/

/-- The results are those that the converter gives for each file, whenever it is asked. -/
def Follows (results : Path → ConversionResult) (actions : List Action) : Prop :=
  ∀ l ∈ loads actions, l.result = results l.path

theorem follows_append
    {results : Path → ConversionResult}
    {first second : List Action}
    (hfirst : Follows results first)
    (hsecond : Follows results second) :
    Follows results (first ++ second) := by
  intro l hl
  rw [loads, List.filterMap_append] at hl
  rcases List.mem_append.1 hl with hl | hl
  · exact hfirst l hl
  · exact hsecond l hl

theorem Runs.trans
    {last : Progress}
    {later : List Action}
    (first : Runs author start p actions)
    (second : Runs author p last later) :
    Runs author start last (actions ++ later) := by
  induction second with
  | refl => simpa using first
  | step _ hstep ih =>
      rw [← List.append_assoc]
      exact .step ih hstep

/-- A scan that is not done goes on: a file is being converted and can end, or there is room
for the next one. -/
theorem exists_step
    (author : String)
    (results : Path → ConversionResult)
    (moment : Instant)
    (hlimit : 0 < p.pool.limit)
    (hleft : p.left ≠ 0) :
    ∃ a q, p.step? author a = some q ∧ Follows results [a] := by
  cases hrunning : p.pool.running with
  | cons path running =>
      have hmem : p.pool.running.contains path = true := by simp [hrunning]
      refine ⟨.finish ⟨path, results path, moment⟩, _, if_pos hmem, ?_⟩
      · intro l hl
        obtain rfl : l = ⟨path, results path, moment⟩ := by simpa [loads, Action.load?] using hl
        rfl
  | nil =>
      cases hwaiting : p.pool.waiting with
      | nil => simp [left, hrunning, hwaiting] at hleft
      | cons path waiting =>
          have hnext : p.pool.next?
              = some (path, { p.pool with waiting := waiting, running := [path] }) := by
            simp [Pool.next?, hrunning, hwaiting, hlimit]
          refine ⟨.take, { p with pool := { p.pool with waiting := waiting, running := [path] } },
            ?_, ?_⟩
          · simp only [step?, hnext, Option.map_some]
          · intro l hl
            simp [loads, Action.load?] at hl

/-- Every scan can be brought to its end, with the results that the converter gives.  The
induction is on the number of steps that are left. -/
theorem exists_runs_to_end
    (results : Path → ConversionResult)
    (moment : Instant)
    (hlimit : 0 < p.pool.limit) :
    ∃ q later, Runs author p q later ∧ Follows results later ∧ q.pool.isDone = true := by
  induction hn : p.left generalizing p with
  | zero =>
      exact ⟨p, [], .refl, by simp [Follows, loads], isDone_iff_left_eq_zero.2 hn⟩
  | succ n ih =>
      obtain ⟨a, middle, hstep, hfollows⟩ := exists_step author results moment hlimit
        (by omega)
      have hmove := step_of_step? hstep
      have hone := left_step hmove
      have hkept : 0 < middle.pool.limit := by
        rw [limit_step hmove]
        exact hlimit
      obtain ⟨q, later, hruns, hlater, hdone⟩ := ih hkept (by omega)
      have hfirst : Runs author p middle ([] ++ [a]) := .step .refl hstep
      exact ⟨q, _, hfirst.trans hruns, follows_append hfollows hlater, hdone⟩

end

/-- Takes some actions one after another. -/
def run? (author : String) (p : Progress) (actions : List Action) : Option Progress :=
  actions.foldlM (step? author) p

/-- What is computed step by step is a run of the scan. -/
theorem runs_of_run?
    {author : String}
    {p q : Progress}
    {actions : List Action}
    (h : run? author p actions = some q) :
    Runs author p q actions := by
  induction actions generalizing p with
  | nil =>
      cases h
      exact .refl
  | cons a rest ih =>
      obtain ⟨middle, hstep, hrest⟩ := Option.bind_eq_some_iff.1 h
      have hfirst : Runs author p middle ([] ++ [a]) := .step .refl hstep
      exact hfirst.trans (ih hrest)

end Progress
end Scan
end LiveNotebooks
