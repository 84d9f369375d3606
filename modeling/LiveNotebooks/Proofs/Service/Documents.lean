import LiveNotebooks.Proofs.Scan.Listing
import LiveNotebooks.Proofs.Service.Machine
import LiveNotebooks.Proofs.System.Names

/-!
# The documents of the service

Scans, reloads and requests each write documents in their own way.  All of them keep to one
form: a document has the name of a visible file as its identifier and title, the author of
the service, and an object as its contents.

**Invariant.**  `Sound` says this of the documents that are stored, and that what is under
way is about visible files only.  Clients that call the store, and direct loads, are free to
do otherwise and are left out.

**Results.**
* `written_sound`: whatever is written keeps to the form.
* `sound_step`: every step keeps the invariant.
-/

namespace LiveNotebooks

/-- The contents of a conversion that succeeds are an object. -/
def YieldsObject (result : ConversionResult) : Prop := ∀ v, result = .ok v → v.isObject = true

/-- Is the document one that the service makes of a file? -/
structure Notebook.IsSound (author : String) (n : Notebook) : Prop where
  title : n.title = n.identifier
  author : n.author = author
  contents : n.contents.isObject = true
  visible : IsVisible n.identifier

/-- A write that puts a sound document, or an object as its contents. -/
def Store.Write.IsSound (author : String) : Store.Write → Prop
  | .put n => n.IsSound author
  | .setContents _ contents _ => contents.isObject = true

def Scan.Pool.files (p : Scan.Pool) : List Path := p.waiting ++ p.running

section

variable {author : String}

/-- The page that shows an error is an object as well. -/
theorem Conversion.isSound_notebook
    {identifier : String}
    {result : ConversionResult}
    (hvisible : IsVisible identifier)
    (hresult : YieldsObject result)
    (moment : Instant) :
    ((⟨identifier, result⟩ : Conversion).notebook author moment).IsSound author := by
  refine ⟨rfl, rfl, ?_, hvisible⟩
  cases result with
  | error e => rfl
  | ok v => exact hresult v rfl

/-- Sound writes keep a store sound. -/
theorem Store.isSound_apply
    {s : Store}
    {w : Store.Write}
    (hs : ∀ n ∈ s.notebooks, n.IsSound author)
    (hw : w.IsSound author) :
    ∀ n ∈ (w.apply s).notebooks, n.IsSound author := by
  intro n hn
  rw [Store.mem_iff_find?, Store.find?_apply] at hn
  split at hn
  · cases w with
    | put m =>
        cases hn
        exact hw
    | setContents identifier contents moment =>
        obtain ⟨m, hm, rfl⟩ := Option.map_eq_some_iff.1 hn
        have hsound := hs m (List.mem_of_find?_eq_some hm)
        exact ⟨hsound.title, hsound.author, hw, hsound.visible⟩
  · exact hs n (Store.mem_iff_find?.2 hn)

end

/-! ## The files of a scan -/

namespace Scan.Pool

/-- A pool that starts a file has no other files than before. -/
theorem mem_files_of_next?
    {p q : Scan.Pool}
    {next path : Path}
    (h : p.next? = some (next, q))
    (hpath : path ∈ q.files) :
    path ∈ p.files := by
  unfold next? at h
  split at h
  · cases hwaiting : p.waiting with
    | nil => simp [hwaiting] at h
    | cons first waiting =>
        simp only [hwaiting] at h
        cases h
        simp only [files, hwaiting, List.mem_append, List.mem_cons] at hpath ⊢
        rcases hpath with hpath | hpath | rfl | hpath
        · exact .inl (.inr hpath)
        · exact .inr hpath
        · exact .inl (.inl rfl)
        · cases hpath
  · cases h

theorem mem_files_of_finish
    {p : Scan.Pool}
    {done path : Path}
    (hpath : path ∈ (p.finish done).files) :
    path ∈ p.files := by
  simp only [files, finish, List.mem_append] at hpath ⊢
  rcases hpath with hpath | hpath
  · exact .inl hpath
  · exact .inr (List.mem_of_mem_erase hpath)

end Scan.Pool

namespace Service

/-- What happens without a client that calls the store or loads a file directly: reloads of
visible files, scans and requests, with a converter that gives objects. -/
inductive Orderly : Action → Prop
  | pass
      (span : Nat) :
      Orderly (.reload (.pass span))
  | request
      {path : Path}
      (hpath : Path.isHidden path = false) :
      Orderly (.reload (.request path))
  | move
      {number : Nat}
      {m : Reload.Move}
      (hresult : ∀ result moment, m = .finish result moment → YieldsObject result) :
      Orderly (.reload (.move number m))
  | answer
      (files : Files)
      (requestId : String)
      (moment : Instant)
      (r : Http.Request) :
      Orderly (.answer files requestId moment r)
  | scan
      (files : Files)
      (directory : Path)
      (concurrency : Nat) :
      Orderly (.scan files directory concurrency)
  | take
      (number : Nat) :
      Orderly (.take number)
  | scanned
      {path : Path}
      {result : ConversionResult}
      (number : Nat)
      (moment : Instant)
      (hresult : YieldsObject result) :
      Orderly (.scanned number path result moment)

/-- The documents are sound, and what is under way is about visible files. -/
structure Sound (author : String) (s : Service) : Prop where
  documents : ∀ n ∈ s.store.notebooks, n.IsSound author
  tasks : ∀ t ∈ s.machine.reload.tasks, IsVisible t.ticket.identifier
  scans : ∀ pool ∈ s.scans, ∀ path ∈ pool.files, Path.isHidden path = false

section

variable {c : Setup} {s s' : Service} {a : Action} {events : List Store.Event}

/-! ## Documents -/

/-- A reload writes sound documents, if its conversion gives an object. -/
theorem reloadWritten_sound
    {number : Nat}
    {m : Reload.Move}
    (hsound : Sound c.reload.author s)
    (hresult : ∀ result moment, m = .finish result moment → YieldsObject result) :
    ∀ w ∈ reloadWritten? c s.machine (.move number m), w.IsSound c.reload.author := by
  intro w hw
  cases m with
  | finish result moment =>
      simp only [reloadWritten?] at hw
      split at hw
      · next t htask =>
          split at hw
          · cases hw
            have hvisible := hsound.tasks t (Reload.State.mem_of_task? htask).1
            exact Conversion.isSound_notebook hvisible (hresult result moment rfl) moment
          · cases hw
      · cases hw
  | _ => cases hw

theorem document_sound
    {path : Path}
    {result : ConversionResult}
    {moment : Instant}
    (hhidden : Path.isHidden path = false)
    (hresult : YieldsObject result) :
    ∀ w ∈ (document? c path result moment).map Store.Write.put,
      w.IsSound c.reload.author := by
  intro w hw
  obtain ⟨n, hn, rfl⟩ := Option.map_eq_some_iff.1 hw
  obtain ⟨identifier, hname, rfl⟩ := Option.map_eq_some_iff.1 hn
  exact Conversion.isSound_notebook (Path.isVisible_of_name hname hhidden) hresult moment

/-- Whatever is written keeps to the form. -/
theorem written_sound
    (hsound : Sound c.reload.author s)
    (horderly : Orderly a)
    (h : s.step? c a = some (s', events)) :
    ∀ w ∈ written? c s a, w.IsSound c.reload.author := by
  cases horderly with
  | move hresult => exact reloadWritten_sound hsound hresult
  | answer files requestId moment r =>
      cases step_of_step? h with
      | refuse hrefused => simp [written?, hrefused]
      | replace hw hasked hwritten hobject hthere =>
          intro w hmem
          rw [written?, if_pos hwritten, hasked, hw] at hmem
          cases hmem
          exact hobject
  | @scanned path result number moment hresult =>
      cases step_of_step? h with
      | @scanned _ pool _ _ _ _ _ hpool hrunning hcommit =>
          have hfile : path ∈ pool.files := List.mem_append.2 (.inr hrunning)
          have hhidden := hsound.scans pool (List.mem_of_getElem? hpool) path hfile
          exact document_sound hhidden hresult
  | _ => simp [written?, reloadWritten?]

theorem documents_step
    (hsound : Sound c.reload.author s)
    (horderly : Orderly a)
    (h : s.step? c a = some (s', events)) :
    ∀ n ∈ s'.store.notebooks, n.IsSound c.reload.author := by
  have hwritten := written_sound hsound horderly h
  rw [(step_written h).store]
  cases hw : written? c s a with
  | none => exact hsound.documents
  | some w => exact Store.isSound_apply hsound.documents (hwritten w hw)

/-! ## What is under way -/

/-- Storing a file changes nothing that is under way. -/
theorem under_way_of_commit
    {path : Path}
    {result : ConversionResult}
    {moment : Instant}
    (h : s.commit c path result moment = (s', events)) :
    s'.machine.reload = s.machine.reload ∧ s'.scans = s.scans := by
  unfold commit at h
  split at h <;> cases h <;> exact ⟨rfl, rfl⟩

/-- Every task afterwards has the ticket of one from before, or answers a request. -/
theorem tasks_of_step
    (h : s.step? c a = some (s', events)) :
    ∀ u ∈ s'.machine.reload.tasks,
      (∃ t ∈ s.machine.reload.tasks, t.ticket = u.ticket)
        ∨ ∃ path, a = .reload (.request path) ∧ Path.name path = some u.ticket.identifier := by
  intro u hu
  cases step_of_step? h with
  | reload hstep =>
      rcases Reload.Machine.mem_of_step hstep u hu with
        ⟨t, ht, _, hticket⟩ | ⟨path, identifier, rfl, hname, rfl⟩
      · exact .inl ⟨t, ht, hticket⟩
      · exact .inr ⟨path, rfl, hname⟩
  | loaded hpath hcommit =>
      rw [(under_way_of_commit hcommit).1] at hu
      exact .inl ⟨u, hu, rfl⟩
  | scanned hpool hrunning hcommit =>
      rw [(under_way_of_commit hcommit).1] at hu
      exact .inl ⟨u, hu, rfl⟩
  | _ => exact .inl ⟨u, hu, rfl⟩

/-- A scan in the place of another has files that a scan had before. -/
theorem mem_withScan
    {number : Nat}
    {pool other : Scan.Pool}
    (hpool : s.scans[number]? = some pool)
    (hfiles : ∀ path ∈ other.files, path ∈ pool.files)
    (hscans : ∀ pool ∈ s.scans, ∀ path ∈ pool.files, Path.isHidden path = false) :
    ∀ p ∈ (s.withScan number other).scans, ∀ path ∈ p.files, Path.isHidden path = false := by
  intro p hp path hpath
  rcases List.mem_or_eq_of_mem_set hp with hp | rfl
  · exact hscans p hp path hpath
  · exact hscans pool (List.mem_of_getElem? hpool) path (hfiles path hpath)

/-- Scans have visible files only. -/
theorem scans_step
    (hscans : ∀ pool ∈ s.scans, ∀ path ∈ pool.files, Path.isHidden path = false)
    (h : s.step? c a = some (s', events)) :
    ∀ pool ∈ s'.scans, ∀ path ∈ pool.files, Path.isHidden path = false := by
  cases step_of_step? h with
  | scan concurrency hpaths =>
      intro pool hpool path hpath
      rcases List.mem_append.1 hpool with hpool | hpool
      · exact hscans pool hpool path hpath
      · obtain rfl := List.mem_singleton.1 hpool
        rw [Scan.Pool.files, Scan.Pool.start, List.append_nil,
          ← Scan.listed_of_visibleFiles hpaths] at hpath
        exact (Scan.of_mem_listed hpath).2
  | take hpool hnext =>
      exact mem_withScan hpool (fun path => Scan.Pool.mem_files_of_next? hnext) hscans
  | loaded hpath hcommit =>
      rw [(under_way_of_commit hcommit).2]
      exact hscans
  | scanned hpool hrunning hcommit =>
      rw [(under_way_of_commit hcommit).2]
      exact mem_withScan hpool (fun path => Scan.Pool.mem_files_of_finish) hscans
  | _ => exact hscans

theorem sound_opened
    (author : String)
    (now : Nat) :
    (opened now).Sound author where
  documents := by simp [opened, store, Reload.Machine.opened, Store.empty]
  tasks := by simp [opened, Reload.Machine.opened, Reload.State.initial]
  scans := by simp [opened]

/-- What happens without clients of the store and direct loads keeps the invariant. -/
theorem sound_step
    (hsound : Sound c.reload.author s)
    (horderly : Orderly a)
    (h : s.step? c a = some (s', events)) :
    Sound c.reload.author s' where
  documents := documents_step hsound horderly h
  tasks := by
    intro u hu
    rcases tasks_of_step h u hu with ⟨t, ht, hticket⟩ | ⟨path, rfl, hname⟩
    · rw [← hticket]
      exact hsound.tasks t ht
    · cases horderly with
      | request hpath => exact Path.isVisible_of_name hname hpath
  scans := scans_step hsound.scans h

/-- No document ever goes. -/
theorem contains_step
    {identifier : String}
    (h : s.step? c a = some (s', events))
    (hthere : s.store.contains identifier = true) :
    s'.store.contains identifier = true := by
  rw [(step_written h).store]
  cases written? c s a with
  | none => exact hthere
  | some w => exact Store.contains_apply hthere w

end

end Service
end LiveNotebooks
