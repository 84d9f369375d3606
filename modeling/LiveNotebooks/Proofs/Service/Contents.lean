import LiveNotebooks.Proofs.Json.Regular
import LiveNotebooks.Proofs.Service.Hub

/-!
# Where contents come from

Contents are stored when a conversion is done, and when a client sends some.  A step of the
program brings no others, so whatever holds of these two holds of all that is ever stored.

**Results.**
* `Service.contents_of_step?`, `Hub.contents_of_step?`: where stored contents come from.
* `Hub.isRegular_of_leads`: with a converter process they are values that a reader gives.
-/

namespace LiveNotebooks
namespace Store

/-- Behind a write there are the contents from before, and those that it brings. -/
theorem contents_of_mem_apply
    {s : Store}
    {w : Write}
    {n : Notebook}
    (hn : n ∈ (w.apply s).notebooks) :
    (∃ m ∈ s.notebooks, m.contents = n.contents) ∨ n.contents = w.contents := by
  rw [mem_iff_find?, find?_apply] at hn
  split at hn
  · right
    cases w with
    | put m =>
        cases hn
        rfl
    | setContents identifier contents moment =>
        obtain ⟨m, _, rfl⟩ := Option.map_eq_some_iff.1 hn
        rfl
  · exact .inl ⟨n, mem_iff_find?.2 hn, rfl⟩

end Store

namespace Service

/-- The contents that can be stored in a step: what a conversion has come to, or what a client
has given. -/
inductive Brings : Action → Json.Value → Prop
  | put
      (n : Notebook) :
      Brings (.reload (.put n)) n.contents
  | setContents
      (identifier : String)
      (contents : Json.Value)
      (moment : Instant) :
      Brings (.reload (.setContents identifier contents moment)) contents
  | finish
      (number : Nat)
      (identifier : String)
      (result : ConversionResult)
      (moment : Instant) :
      Brings (.reload (.move number (.finish result moment)))
        (Conversion.mk identifier result).contents
  | loaded
      (path : Path)
      (identifier : String)
      (result : ConversionResult)
      (moment : Instant) :
      Brings (.loaded path result moment) (Conversion.mk identifier result).contents
  | scanned
      (number : Nat)
      (path : Path)
      (identifier : String)
      (result : ConversionResult)
      (moment : Instant) :
      Brings (.scanned number path result moment) (Conversion.mk identifier result).contents
  | answer
      {files : Files}
      {requestId : String}
      {moment : Instant}
      {r : Http.Request}
      {contents : Json.Value}
      (h : Http.Notebooks.contents? r.body = .ok contents) :
      Brings (.answer files requestId moment r) contents

section

variable {c : Setup} {s s' : Service} {a : Action} {events : List Store.Event}

theorem exists_document
    {path : Path}
    {result : ConversionResult}
    {moment : Instant}
    {w : Store.Write}
    (hw : (document? c path result moment).map Store.Write.put = some w) :
    ∃ identifier, w.contents = (Conversion.mk identifier result).contents := by
  obtain ⟨n, hn, rfl⟩ := Option.map_eq_some_iff.1 hw
  obtain ⟨identifier, _, rfl⟩ := Option.map_eq_some_iff.1 hn
  exact ⟨identifier, rfl⟩

/-- A write of a reload brings what its conversion has come to. -/
theorem brings_of_reloadWritten?
    {b : Reload.Action}
    {w : Store.Write}
    (hw : reloadWritten? c s.machine b = some w) :
    Brings (.reload b) w.contents := by
  cases b with
  | pass span => cases hw
  | request path => cases hw
  | move number m =>
      cases m with
      | finish result moment =>
          simp only [reloadWritten?] at hw
          split at hw
          · next t _ =>
              split at hw
              · cases hw
                exact .finish number t.ticket.identifier result moment
              · cases hw
          · cases hw
      | _ => cases hw
  | put n =>
      cases hw
      exact .put n
  | setContents identifier contents moment =>
      simp only [reloadWritten?] at hw
      split at hw
      · cases hw
        exact .setContents identifier contents moment
      · cases hw

/-- Every write brings what its action says. -/
theorem brings_of_written?
    {w : Store.Write}
    (hw : written? c s a = some w) :
    Brings a w.contents := by
  cases a with
  | reload b => exact brings_of_reloadWritten? hw
  | answer files requestId moment r =>
      simp only [written?] at hw
      split at hw
      · unfold Http.requestedWrite? Http.Route.write? at hw
        split at hw
        · split at hw
          · next hcontents =>
              cases hw
              exact .answer hcontents
          · cases hw
        · cases hw
      · cases hw
  | loaded path result moment =>
      obtain ⟨identifier, hcontents⟩ := exists_document hw
      rw [hcontents]
      exact .loaded path identifier result moment
  | scanned number path result moment =>
      obtain ⟨identifier, hcontents⟩ := exists_document hw
      rw [hcontents]
      exact .scanned number path identifier result moment
  | _ => cases hw

/-- Behind a step all contents were there before, or the step has brought them. -/
theorem contents_of_step?
    {n : Notebook}
    (h : s.step? c a = some (s', events))
    (hn : n ∈ s'.store.notebooks) :
    (∃ m ∈ s.store.notebooks, m.contents = n.contents) ∨ Brings a n.contents := by
  rw [(step_written h).store] at hn
  cases hw : written? c s a with
  | none =>
      rw [hw] at hn
      exact .inl ⟨n, hn, rfl⟩
  | some w =>
      rw [hw] at hn
      refine (Store.contents_of_mem_apply hn).imp id fun hcontents => ?_
      rw [hcontents]
      exact brings_of_written? hw

end

end Service

namespace Hub

section

variable {c : Configuration} {results : Conversions} {s s' : Hub} {a : Action}

/-- What a step of the service brings, a conversion has come to, or a client has sent. -/
theorem brought_of_serves
    {b : Service.Action}
    {service : Service}
    {events : List Store.Event}
    {contents : Json.Value}
    (hserves : Serves s a b)
    (h : s.service.step? (setup c) b = some (service, events))
    (hbrings : Service.Brings b contents) :
    (∃ conversion ∈ s.conversion? a, ∃ identifier,
        contents = (Conversion.mk identifier conversion.2).contents)
      ∨ ∃ body, Http.Notebooks.contents? body = .ok contents := by
  cases hserves with
  | take => cases hbrings
  | scanned path result moment =>
      cases hbrings with
      | scanned _ _ identifier => exact .inl ⟨(path, result), rfl, identifier, rfl⟩
  | pass span => cases hbrings
  | move number m =>
      cases hbrings with
      | finish _ identifier result moment =>
          left
          cases htask : s.service.machine.reload.task? number with
          | none => simp [Service.step?, Reload.Machine.step?, htask] at h
          | some t => exact ⟨(t.ticket.path, result), by simp [conversion?, htask], identifier, rfl⟩
  | answer files requestId moment r hserving =>
      cases hbrings with
      | answer hsent => exact .inr ⟨r.body, hsent⟩

/-- Behind a step all contents were there before, or a conversion has come to them, or a
client has sent them. -/
theorem contents_of_step?
    {n : Notebook}
    (h : s.step? c a = some s')
    (hn : n ∈ s'.service.store.notebooks) :
    (∃ m ∈ s.service.store.notebooks, m.contents = n.contents)
      ∨ (∃ conversion ∈ s.conversion? a, ∃ identifier,
        n.contents = (Conversion.mk identifier conversion.2).contents)
      ∨ ∃ body, Http.Notebooks.contents? body = .ok n.contents := by
  cases step_of_step? h with
  | within hserves hstep =>
      exact (Service.contents_of_step? hstep hn).imp id (brought_of_serves hserves hstep)
  | serve files hwaiting hdone => exact .inl ⟨n, hn, rfl⟩
  | news notice hwatched => exact .inl ⟨n, hn, rfl⟩
  | @ask path _ _ _ hwanted hstep =>
      rcases Service.contents_of_step? hstep hn with hbefore | hbrings
      · exact .inl hbefore
      · generalize n.contents = contents at hbrings
        cases hbrings

/-- Contents from a body are regular. -/
theorem isRegular_of_contents?
    {body : Bytes}
    {contents : Json.Value}
    (h : Http.Notebooks.contents? body = .ok contents) :
    contents.IsRegular := by
  unfold Http.Notebooks.contents? at h
  split at h
  · next hparse =>
      split at h
      · cases h
        exact Json.isRegular_of_parse hparse
      · cases h
  · cases h

theorem isRegular_of_isAttempt
    {result : ConversionResult}
    {v : Json.Value}
    (h : IsAttempt result)
    (hv : result = .ok v) :
    v.IsRegular := by
  cases h with
  | unstarted reason => cases hv
  | late limit => cases hv
  | ended o => exact Json.isRegular_of_parse (ProcessOutput.contents_eq_ok_iff.1 hv).2.1

/-- A converter process gives regular values only, and the page that shows its error is regular
as well. -/
theorem isRegular_of_processResults
    {retries : Nat}
    {path : Path}
    {result : ConversionResult}
    (h : processResults retries path result)
    (identifier : String) :
    (Conversion.mk identifier result).contents.IsRegular := by
  obtain ⟨attempt, hattempt, hending⟩ := h
  obtain ⟨k, rfl⟩ := Retry.exists_attempt_of_finished hending
  cases hresult : attempt k with
  | error e => exact ErrorPage.isRegular_contents e.message
  | ok v => exact isRegular_of_isAttempt (hattempt k) hresult

/-- All contents of a program with a converter process are regular. -/
theorem isRegular_of_leads
    {retries : Nat}
    {files : Files}
    {now : Nat}
    (h : Leads c (processResults retries) (opened c files now) s) :
    ∀ n ∈ s.service.store.notebooks, n.contents.IsRegular := by
  induction h with
  | refl =>
      have hempty : (opened c files now).service.store = .empty := by
        unfold opened
        cases Scan.visibleFiles files c.notebookDirectory <;> rfl
      rw [hempty]
      simp [Store.empty]
  | step _ hstep hresult ih =>
      intro n hn
      rcases contents_of_step? hstep hn with
        ⟨m, hm, hcontents⟩ | ⟨conversion, hconversion, identifier, hcontents⟩ | ⟨body, hsent⟩
      · rw [← hcontents]
        exact ih m hm
      · rw [hcontents]
        exact isRegular_of_processResults (hresult conversion hconversion) identifier
      · exact isRegular_of_contents? hsent

end

end Hub
end LiveNotebooks
