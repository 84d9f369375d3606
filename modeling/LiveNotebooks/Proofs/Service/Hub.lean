import LiveNotebooks.Configuration
import LiveNotebooks.Proofs.Conversion.Loading
import LiveNotebooks.Proofs.Service.Documents
import LiveNotebooks.Proofs.Service.Events
import LiveNotebooks.Time.Pause
import LiveNotebooks.Watch

/-!
# The whole program

The program scans its directory, begins to watch it, and then serves requests.  The news of
the watch ask for reloads, one path after another; reloads, requests and further news come
between each other.

**Results.**
* `yieldsObjects_process`: whatever a converter process does, it gives objects only.
* `step_of_step?`: everything that can happen is a `Step`, which says all that it does.
* `sound_of_step?`: every step keeps the invariant.
* `documents_sound`: what is stored in any state of the program.
-/

namespace LiveNotebooks

/-! ## Converters -/

/-- What may come of the conversion of the file at a path. -/
abbrev Conversions := Path → ConversionResult → Prop

/-- Is whatever succeeds an object? -/
def Conversions.YieldObjects (results : Conversions) : Prop :=
  ∀ path result, results path result → YieldsObject result

/-- What one run of a converter process may come to. -/
inductive IsAttempt : ConversionResult → Prop
  | unstarted
      (reason : FileError) :
      IsAttempt (.error (.spawn reason))
  | late
      (limit : Span) :
      IsAttempt (.error (.timedOut limit))
  | ended
      (o : ProcessOutput) :
      IsAttempt o.contents

/-- What a converter process makes of files, whatever comes of each of its runs. -/
def processResults (retries : Nat) : Conversions := fun path result =>
  ∃ attempt : Nat → ConversionResult,
    (∀ k, IsAttempt (attempt k)) ∧ (Retry.run retries path attempt).ending = .finished result

theorem yieldsObject_of_isAttempt
    {result : ConversionResult}
    (h : IsAttempt result) :
    YieldsObject result := by
  intro v hv
  cases h with
  | unstarted reason => cases hv
  | late limit => cases hv
  | ended o => exact (ProcessOutput.contents_eq_ok_iff.1 hv).2.2

/-- A converter process gives objects only. -/
theorem yieldsObjects_process
    (retries : Nat) :
    (processResults retries).YieldObjects := by
  rintro path result ⟨attempt, hattempt, hending⟩
  obtain ⟨k, rfl⟩ := Retry.exists_attempt_of_finished hending
  exact yieldsObject_of_isAttempt (hattempt k)

/-! ## The program -/

/-- The service behind its directory and its address. -/
structure Hub where
  service : Service
  /-- Is the first scan over, and are requests answered? -/
  isServing : Bool
  /-- Does the operating system tell of changes in the directory? -/
  isWatched : Bool
  /-- The paths for which reloads will be asked, in the order of the news. -/
  wanted : List Path

namespace Hub

/-- What happens to the program. -/
inductive Action where
  /-- The scan takes its next file. -/
  | take
  /-- The conversion of a file of the scan is done. -/
  | scanned (path : Path) (result : ConversionResult) (moment : Instant)
  /-- The scan is over: the watch begins, if it can, and requests are answered from now on. -/
  | serve (files : Files)
  | news (notice : Watch.Notice)
  /-- The reload is asked for that the news want first. -/
  | ask
  | pass (span : Nat)
  /-- A reload goes on. -/
  | move (number : Nat) (m : Reload.Move)
  | answer (files : Files) (requestId : String) (moment : Instant) (r : Http.Request)

/-- What the service is set up with. -/
def setup (c : Configuration) : Service.Setup :=
  ⟨⟨c.author, Pause.length c.reloadDebounce⟩, c.staticDirectory⟩

/-- The program when its scan begins.  A directory that cannot be read counts as empty. -/
def opened (c : Configuration) (files : Files) (now : Nat) : Hub where
  service :=
    match Scan.visibleFiles files c.notebookDirectory with
    | .error _ => .opened now
    | .ok (paths, _) => { Service.opened now with scans := [.start paths c.scanConcurrency] }
  isServing := false
  isWatched := false
  wanted := []

/-- Lets the service take a step. -/
def within? (c : Configuration) (s : Hub) (a : Service.Action) : Option Hub :=
  (s.service.step? (setup c) a).map fun (service, _) => { s with service := service }

/-- Lets something happen, if it can. -/
def step? (c : Configuration) (s : Hub) : Action → Option Hub
  | .take => s.within? c (.take 0)
  | .scanned path result moment => s.within? c (.scanned 0 path result moment)
  | .serve files =>
      if !s.isServing && s.service.scans.all Scan.Pool.isDone then
        some
          { s with
            isServing := true
            isWatched := (Watch.start files c.notebookDirectory).isOk }
      else none
  | .news notice =>
      if s.isWatched then some { s with wanted := s.wanted ++ notice.wanted } else none
  | .ask =>
      match s.wanted with
      | [] => none
      | path :: wanted => { s with wanted := wanted }.within? c (.reload (.request path))
  | .pass span => s.within? c (.reload (.pass span))
  | .move number m => s.within? c (.reload (.move number m))
  | .answer files requestId moment r =>
      if s.isServing then s.within? c (.answer files requestId moment r) else none

/-- What the service does at once in a step of the program. -/
inductive Serves (s : Hub) : Action → Service.Action → Prop
  | take : Serves s .take (.take 0)
  | scanned
      (path : Path)
      (result : ConversionResult)
      (moment : Instant) :
      Serves s (.scanned path result moment) (.scanned 0 path result moment)
  | pass
      (span : Nat) :
      Serves s (.pass span) (.reload (.pass span))
  | move
      (number : Nat)
      (m : Reload.Move) :
      Serves s (.move number m) (.reload (.move number m))
  | answer
      (files : Files)
      (requestId : String)
      (moment : Instant)
      (r : Http.Request)
      (hserving : s.isServing = true) :
      Serves s (.answer files requestId moment r) (.answer files requestId moment r)

/-- Everything that can happen. -/
inductive Step (c : Configuration) (s : Hub) : Action → Hub → Prop
  | within
      {a : Action}
      {b : Service.Action}
      {service : Service}
      {events : List Store.Event}
      (hserves : Serves s a b)
      (h : s.service.step? (setup c) b = some (service, events)) :
      Step c s a { s with service := service }
  | serve
      (files : Files)
      (hwaiting : s.isServing = false)
      (hdone : s.service.scans.all Scan.Pool.isDone = true) :
      Step c s (.serve files)
        { s with
          isServing := true
          isWatched := (Watch.start files c.notebookDirectory).isOk }
  | news
      (notice : Watch.Notice)
      (hwatched : s.isWatched = true) :
      Step c s (.news notice) { s with wanted := s.wanted ++ notice.wanted }
  | ask
      {path : Path}
      {wanted : List Path}
      {service : Service}
      {events : List Store.Event}
      (hwanted : s.wanted = path :: wanted)
      (h : s.service.step? (setup c) (.reload (.request path)) = some (service, events)) :
      Step c s .ask { s with service := service, wanted := wanted }

/-- The conversion that is done in a step: of which file, and with which result. -/
def conversion? (s : Hub) : Action → Option (Path × ConversionResult)
  | .scanned path result _ => some (path, result)
  | .move number (.finish result _) =>
      (s.service.machine.reload.task? number).map fun t => (t.ticket.path, result)
  | _ => none

/-- The program gets from one state to another, with what a converter makes of files. -/
inductive Leads (c : Configuration) (results : Conversions) (start : Hub) : Hub → Prop
  | refl : Leads c results start start
  | step
      {s s' : Hub}
      {a : Action}
      (run : Leads c results start s)
      (hstep : s.step? c a = some s')
      (hresult : ∀ conversion ∈ s.conversion? a, results conversion.1 conversion.2) :
      Leads c results start s'

/-- The stored documents keep to their form, and nothing hidden is under way or wanted. -/
structure Sound (c : Configuration) (s : Hub) : Prop where
  service : s.service.Sound c.author
  wanted : ∀ path ∈ s.wanted, Path.isHidden path = false

section

variable {c : Configuration} {results : Conversions} {s s' : Hub} {a : Action}

/-- The watch wants no hidden paths. -/
theorem not_hidden_of_wanted
    (notice : Watch.Notice) :
    ∀ path ∈ notice.wanted, Path.isHidden path = false := by
  intro path hpath
  cases notice with
  | failure message => cases hpath
  | change kind paths =>
      simp only [Watch.Notice.wanted] at hpath
      split at hpath
      · simpa using (List.mem_filter.1 hpath).2
      · cases hpath

theorem step_of_within?
    {b : Service.Action}
    (hserves : Serves s a b)
    (h : s.within? c b = some s') :
    Step c s a s' := by
  obtain ⟨⟨service, events⟩, hstep, rfl⟩ := Option.map_eq_some_iff.1 h
  exact .within hserves hstep

/-- What the service computes is a step. -/
theorem step_of_step?
    (h : s.step? c a = some s') :
    Step c s a s' := by
  cases a with
  | take => exact step_of_within? .take h
  | scanned path result moment => exact step_of_within? (.scanned path result moment) h
  | serve files =>
      simp only [step?] at h
      split at h
      · next hready =>
          cases h
          obtain ⟨hwaiting, hdone⟩ := Bool.and_eq_true_iff.1 hready
          exact .serve files (by simpa using hwaiting) hdone
      · cases h
  | news notice =>
      simp only [step?] at h
      split at h
      · next hwatched =>
          cases h
          exact .news notice hwatched
      · cases h
  | ask =>
      simp only [step?] at h
      split at h
      · cases h
      · next path wanted hwanted =>
          obtain ⟨⟨service, events⟩, hstep, rfl⟩ := Option.map_eq_some_iff.1 h
          exact .ask hwanted hstep
  | pass span => exact step_of_within? (.pass span) h
  | move number m => exact step_of_within? (.move number m) h
  | answer files requestId moment r =>
      simp only [step?] at h
      split at h
      · next hserving => exact step_of_within? (.answer files requestId moment r hserving) h
      · cases h

/-- What the service does is orderly, if the converter of the program gives objects. -/
theorem orderly_of_serves
    {b : Service.Action}
    {service : Service}
    {events : List Store.Event}
    (hresults : results.YieldObjects)
    (hserves : Serves s a b)
    (h : s.service.step? (setup c) b = some (service, events))
    (hresult : ∀ conversion ∈ s.conversion? a, results conversion.1 conversion.2) :
    Service.Orderly b := by
  cases hserves with
  | take => exact .take 0
  | scanned path result moment =>
      exact .scanned 0 moment (hresults path result (hresult (path, result) rfl))
  | pass span => exact .pass span
  | move number m =>
      refine .move ?_
      rintro result moment rfl
      cases htask : s.service.machine.reload.task? number with
      | none => simp [Service.step?, Reload.Machine.step?, htask] at h
      | some t =>
          have hconversion : (t.ticket.path, result)
              ∈ s.conversion? (.move number (.finish result moment)) := by
            simp [conversion?, htask]
          exact hresults t.ticket.path result (hresult _ hconversion)
  | answer files requestId moment r hserving => exact .answer files requestId moment r

/-- The program begins with a scan of its directory. -/
theorem exists_scan_opened
    (c : Configuration)
    (files : Files)
    (now : Nat) :
    ∃ events, (Service.opened now).step? (setup c)
        (.scan files c.notebookDirectory c.scanConcurrency)
      = some ((opened c files now).service, events) := by
  simp only [Service.step?, opened]
  cases Scan.visibleFiles files c.notebookDirectory with
  | error e => exact ⟨[], rfl⟩
  | ok found => exact ⟨[], rfl⟩

theorem sound_opened
    (c : Configuration)
    (files : Files)
    (now : Nat) :
    (opened c files now).Sound c := by
  obtain ⟨events, hscan⟩ := exists_scan_opened c files now
  have hbefore := Service.sound_opened c.author now
  refine ⟨Service.sound_step (c := setup c) hbefore (.scan _ _ _) hscan, ?_⟩
  simp [opened]

/-- Every step of the program keeps the invariant, if its converter gives objects. -/
theorem sound_of_step?
    (hresults : results.YieldObjects)
    (hsound : s.Sound c)
    (h : s.step? c a = some s')
    (hresult : ∀ conversion ∈ s.conversion? a, results conversion.1 conversion.2) :
    s'.Sound c := by
  cases step_of_step? h with
  | within hserves hstep =>
      have horderly := orderly_of_serves hresults hserves hstep hresult
      exact ⟨Service.sound_step (c := setup c) hsound.service horderly hstep, hsound.wanted⟩
  | serve files hwaiting hdone => exact ⟨hsound.service, hsound.wanted⟩
  | news notice hwatched =>
      refine ⟨hsound.service, fun path hpath => ?_⟩
      rcases List.mem_append.1 hpath with hpath | hpath
      · exact hsound.wanted path hpath
      · exact not_hidden_of_wanted notice path hpath
  | @ask path wanted service events hwanted hstep =>
      have hhidden : ∀ q ∈ path :: wanted, Path.isHidden q = false := by
        rw [← hwanted]
        exact hsound.wanted
      have horderly := Service.Orderly.request (hhidden path List.mem_cons_self)
      exact ⟨Service.sound_step (c := setup c) hsound.service horderly hstep,
        fun q hq => hhidden q (List.mem_cons_of_mem path hq)⟩

theorem sound_of_leads
    (hresults : results.YieldObjects)
    (hsound : s.Sound c)
    (h : Leads c results s s') :
    s'.Sound c := by
  induction h with
  | refl => exact hsound
  | step _ hstep hresult ih => exact sound_of_step? hresults ih hstep hresult

/-- A step of the program is a step of its service, or leaves the service as it is. -/
theorem service_of_step?
    (h : s.step? c a = some s') :
    s'.service = s.service
      ∨ ∃ b events, s.service.step? (setup c) b = some (s'.service, events) := by
  cases step_of_step? h with
  | within hserves hstep => exact .inr ⟨_, _, hstep⟩
  | serve files hwaiting hdone => exact .inl rfl
  | news notice hwatched => exact .inl rfl
  | ask hwanted hstep => exact .inr ⟨_, _, hstep⟩

theorem contains_of_leads
    {identifier : String}
    (h : Leads c results s s')
    (hthere : s.service.store.contains identifier = true) :
    s'.service.store.contains identifier = true := by
  induction h with
  | refl => exact hthere
  | step _ hstep _ ih =>
      rcases service_of_step? hstep with heq | ⟨b, events, hservice⟩
      · rw [heq]
        exact ih
      · exact Service.contains_step hservice ih

/-- **The documents keep to their form.**  If the converter gives objects whenever it
succeeds, then in every state of the program each stored document has its identifier as its
title, the author of the configuration, and an object as its contents.  The identifier is
not empty, holds no slash and does not begin with a dot.  A document that is there once is
there ever after.  A converter process gives objects, whatever comes of each of its runs. -/
theorem documents_sound :
    (∀ retries, (processResults retries).YieldObjects)
      ∧ ∀ (c : Configuration) (results : Conversions) (files : Files) (now : Nat) (s : Hub),
        results.YieldObjects → Leads c results (opened c files now) s →
          (∀ identifier n, s.service.store.find? identifier = some n →
            n.identifier = identifier ∧ n.title = identifier ∧ n.author = c.author
              ∧ n.contents.isObject = true ∧ identifier ≠ "" ∧ '/' ∉ identifier.toList
              ∧ identifier.toList.head? ≠ some '.')
          ∧ ∀ s', Leads c results s s' → ∀ identifier,
            s.service.store.contains identifier = true →
              s'.service.store.contains identifier = true := by
  refine ⟨yieldsObjects_process, ?_⟩
  intro c results files now s hresults h
  have hsound := sound_of_leads hresults (sound_opened c files now) h
  constructor
  · intro identifier n hn
    have hid := Store.identifier_of_find? hn
    have hdocument := hsound.service.documents n (List.mem_of_find?_eq_some hn)
    obtain ⟨htitle, hauthor, hcontents, hvisible⟩ := hdocument
    rw [hid] at htitle hvisible
    exact ⟨hid, htitle, hauthor, hcontents, hvisible.ne_empty, hvisible.noSlash,
      hvisible.notHidden⟩
  · intro s' hlater identifier hthere
    exact contains_of_leads hlater hthere

end

/-! ## A run -/

/-- Lets things happen one after another. -/
def run? (c : Configuration) (s : Hub) (actions : List Action) : Option Hub :=
  actions.foldlM (step? c) s

/-- What is computed step by step leads from state to state, if each conversion has one of its
results. -/
theorem leads_of_run?
    {c : Configuration}
    {results : Conversions}
    {start s last : Hub}
    {actions : List Action}
    (hstart : Leads c results start s)
    (hrun : run? c s actions = some last)
    (hresults : ∀ a ∈ actions, ∀ before : Hub, ∀ conversion ∈ before.conversion? a,
      results conversion.1 conversion.2) :
    Leads c results start last := by
  induction actions generalizing s with
  | nil =>
      cases hrun
      exact hstart
  | cons a rest ih =>
      obtain ⟨s', hstep, hrest⟩ := Option.bind_eq_some_iff.1 hrun
      have hnext : Leads c results start s' :=
        .step hstart hstep (hresults a List.mem_cons_self s)
      exact ih hnext hrest fun b hb => hresults b (List.mem_cons_of_mem a hb)

/-- A directory with one file, and who writes there. -/
def sampleSetting : Configuration := { notebookDirectory := [0x2F], author := "ann" }

/-- The directory is scanned.  News come of its file and of a hidden one, and the file is
converted again without success.  Then a client sends new contents. -/
def uptime : List Action :=
  [.take, .scanned [0x2F, 0x61] (.ok (.object [])) ⟨1, 0⟩, .serve Service.sample,
    .news (.change (.unspecified "Modify(Any)") [[0x2F, 0x61], [0x2F, 0x2E, 0x62]]), .ask,
    .move 0 .rest, .pass 100, .move 0 .rouse, .move 0 (.look true), .move 0 .start,
    .move 0 (.finish (.error (.timedOut ⟨1⟩)) ⟨2, 0⟩),
    .answer Service.sample "1" ⟨3, 0⟩
      ⟨"POST", Utf8.encode "/notebook/a", [], Utf8.encode "\x7b\x7d"⟩]

/-- A process that writes an empty object, and one that is late. -/
theorem processResults_uptime :
    ∀ a ∈ uptime, ∀ before : Hub, ∀ conversion ∈ before.conversion? a,
      processResults 0 conversion.1 conversion.2 := by
  have hwritten : ∀ path, processResults 0 path (.ok (.object [])) := by
    intro path
    exact ⟨fun _ => ProcessOutput.contents ⟨.code 0, Utf8.encode "\x7b\x7d", []⟩,
      fun _ => .ended _, rfl⟩
  have hlate : ∀ path, processResults 0 path (.error (.timedOut ⟨1⟩)) := by
    intro path
    exact ⟨fun _ => .error (.timedOut ⟨1⟩), fun _ => .late _, rfl⟩
  intro a ha before conversion hconversion
  simp only [uptime, List.mem_cons, List.not_mem_nil, or_false] at ha
  rcases ha with rfl | rfl | rfl | rfl | rfl | rfl | rfl | rfl | rfl | rfl | rfl | rfl <;>
    simp only [conversion?, Option.mem_def, reduceCtorEq, Option.some.injEq,
      Option.map_eq_some_iff] at hconversion
  · subst hconversion
    exact hwritten _
  · obtain ⟨t, _, rfl⟩ := hconversion
    exact hlate _

theorem documents_sound_uptime :
    ∃ s,
      (processResults 0).YieldObjects
        ∧ Leads sampleSetting (processResults 0) (opened sampleSetting Service.sample 0) s
        ∧ s.service.store.contains "a" = true
        ∧ (∀ identifier n, s.service.store.find? identifier = some n →
          n.identifier = identifier ∧ n.title = identifier ∧ n.author = "ann"
            ∧ n.contents.isObject = true ∧ identifier ≠ "" ∧ '/' ∉ identifier.toList
            ∧ identifier.toList.head? ≠ some '.')
        ∧ ∀ s', Leads sampleSetting (processResults 0) s s' → ∀ identifier,
          s.service.store.contains identifier = true →
            s'.service.store.contains identifier = true := by
  have hrun : (run? sampleSetting (opened sampleSetting Service.sample 0) uptime).map
      (fun s => s.service.store.contains "a") = some true := by decide +kernel
  obtain ⟨s, hlast, hthere⟩ := Option.map_eq_some_iff.1 hrun
  have hleads := leads_of_run? .refl hlast processResults_uptime
  have hprocess := documents_sound.1 0
  exact ⟨s, hprocess, hleads, hthere, documents_sound.2 sampleSetting _ _ _ s hprocess hleads⟩

end Hub
end LiveNotebooks
