import LiveNotebooks.Proofs.Conversion.FencedCode
import LiveNotebooks.Proofs.Conversion.Waiting
import LiveNotebooks.Proofs.Store.Bus

/-!
# Loading a file by a process

A converter process is run until one run succeeds or the attempts are used up, and then the
file is stored.  A run that succeeds gives the contents.  If there is none, the document is a
page that shows the error of the last run, with all that its process has written.

**Results.**
* `ProcessOutput.contents_eq_ok_iff`: which runs succeed.
* `ProcessOutput.output?_of_contents`: a run that fails tells all that it has written.
* `exists_result`: what a conversion comes to, whatever becomes of each attempt.
* `load_process`: what is stored of a file.
-/

namespace LiveNotebooks

/-! ## Texts without trailing white space -/

/-- A text and what is left of it without trailing white space. -/
structure Blank.IsTrimmed (text short : String) : Prop where
  split : ∃ blanks, text.toList = short.toList ++ blanks ∧ ∀ c ∈ blanks, Blank.isBlank c = true
  last : ∀ c, short.toList.getLast? = some c → Blank.isBlank c = false

/-- What is cut off is white space, and what is left does not end with any. -/
theorem Blank.isTrimmed_trimEnd
    (text : String) :
    Blank.IsTrimmed text (trimEnd text) := by
  have hshort : (trimEnd text).toList = (text.toList.reverse.dropWhile isBlank).reverse := by
    simp [trimEnd]
  constructor
  · refine ⟨(text.toList.reverse.takeWhile isBlank).reverse, ?_, fun c hc => ?_⟩
    · rw [hshort, ← List.reverse_append, List.takeWhile_append_dropWhile, List.reverse_reverse]
    · exact List.all_eq_true.1 List.all_takeWhile c (List.mem_reverse.1 hc)
  · intro c hc
    rw [hshort, List.getLast?_reverse] at hc
    have hfirst := List.head?_dropWhile_not isBlank text.toList.reverse
    rw [hc] at hfirst
    simpa using hfirst

/-! ## One run of a process -/

namespace ProcessOutput

/-- Contents are given by a process that has exited well and has written an object. -/
theorem contents_eq_ok_iff
    {o : ProcessOutput}
    {v : Json.Value} :
    o.contents = .ok v
      ↔ o.status.isSuccess = true ∧ Json.parse o.standardOutput = .ok v ∧ v.isObject = true := by
  unfold contents
  cases o.status.isSuccess with
  | false => simp
  | true =>
      cases hparse : Json.parse o.standardOutput with
      | error e => simp
      | ok w =>
          by_cases hw : w.isObject = true
          · simp only [Bool.not_true, Bool.false_eq_true, if_false, hw, if_true, Except.ok.injEq,
              true_and]
            constructor
            · rintro rfl
              exact ⟨rfl, hw⟩
            · exact fun h => h.1
          · simp only [Bool.not_true, Bool.false_eq_true, if_false, hw, reduceCtorEq, true_and,
              Except.ok.injEq, false_iff]
            rintro ⟨rfl, hobject⟩
            exact hw hobject

/-- Whatever the error of a finished process is, its text ends with both outputs. -/
theorem output?_of_contents
    {o : ProcessOutput}
    {e : ConversionError}
    (h : o.contents = .error e) :
    e.output? = some o.combined ∧ o.combined.toList <:+ e.message.toList := by
  have hsuffix : ∀ text : String, o.combined.toList <:+ (text ++ o.combined).toList := by
    intro text
    rw [String.toList_append]
    exact List.suffix_append _ _
  unfold contents at h
  split at h
  · cases h
    exact ⟨rfl, hsuffix _⟩
  · split at h
    · split at h
      · cases h
      · cases h
        exact ⟨rfl, hsuffix _⟩
    · cases h
      exact ⟨rfl, hsuffix _⟩

end ProcessOutput

namespace Attempt

/-- The process has exited well, and its output is this object. -/
def Writes (a : Attempt) (v : Json.Value) : Prop :=
  ∃ o, a = .ended o ∧ o.status.isSuccess = true ∧ Json.parse o.standardOutput = .ok v
    ∧ v.isObject = true

theorem result_eq_ok_iff
    {a : Attempt}
    {v : Json.Value} :
    a.result = .ok v ↔ a.Writes v := by
  cases a with
  | unstarted reason => simp [result, Writes]
  | late limit => simp [result, Writes]
  | ended o => simp [result, Writes, ProcessOutput.contents_eq_ok_iff]

theorem exists_error_iff
    {a : Attempt} :
    (∃ e, a.result = .error e) ↔ ∀ v, ¬ a.Writes v := by
  simp only [← result_eq_ok_iff]
  cases a.result <;> simp

end Attempt

/-- Contents that show why an attempt has failed, with all that its process has written. -/
structure ShowsFailure (contents : Json.Value) (a : Attempt) (e : ConversionError)
    (text : String) : Prop where
  failed : a.result = .error e
  page : contents = ErrorPage.contents e.message
  /-- There is one page with one cell, and this is its text. -/
  cell : ErrorPage.onlyText? contents = some text
  message : e.message.toList <:+: text.toList
  output : ∀ o, a = .ended o → e.output? = some o.combined ∧ o.combined.toList <:+: text.toList
    ∧ Blank.IsTrimmed (Utf8.decodeLossy o.standardOutput ++ Utf8.decodeLossy o.standardError)
      o.combined

theorem showsFailure_of_error
    {a : Attempt}
    {e : ConversionError}
    (h : a.result = .error e) :
    ShowsFailure (ErrorPage.contents e.message) a e (ErrorPage.source e.message) := by
  have hmessage := (ErrorPage.infix_source e.message)
  refine ⟨h, rfl, ErrorPage.onlyText?_contents _, hmessage, ?_⟩
  rintro o rfl
  obtain ⟨houtput, hsuffix⟩ := ProcessOutput.output?_of_contents h
  exact ⟨houtput, hsuffix.isInfix.trans hmessage, Blank.isTrimmed_trimEnd _⟩

/-- All that the result of a conversion can be, whatever comes of each attempt: the object of the
first attempt that writes one, or the error of the last attempt. -/
theorem exists_result
    {path : Path}
    {retries : Nat}
    {attempts : Nat → Attempt}
    (identifier : String)
    (hrange : Retry.NeverOverflows retries path fun k => (attempts k).result) :
    let run := Retry.run retries path fun k => (attempts k).result
    ∃ result,
      run.ending = .finished result
        ∧ ((∃ v k, result = .ok v ∧ k ≤ retries ∧ (attempts k).Writes v
            ∧ (∀ j < k, ∀ v, ¬ (attempts j).Writes v) ∧ run.attempts = k + 1)
          ∨ ∃ e text, result = .error e ∧ (∀ k ≤ retries, ∀ v, ¬ (attempts k).Writes v)
            ∧ run.attempts = retries + 1
            ∧ ShowsFailure (⟨identifier, result⟩ : Conversion).contents (attempts retries) e
              text) := by
  intro run
  obtain ⟨n, hlast⟩ := Retry.exists_isLast retries fun k => (attempts k).result
  have hshort := hrange.le_of_isLast hlast
  have hattempts : run.attempts = n + 1 := by
    simp only [run, Retry.run_eq path hlast, Nat.min_eq_left hshort]
  have hbefore : ∀ j < n, ∀ v, ¬ (attempts j).Writes v := fun j hj =>
    Attempt.exists_error_iff.1 (hlast.failed j hj)
  refine ⟨_, Retry.ending_of_le path hlast hshort, ?_⟩
  cases hresult : (attempts n).result with
  | ok v =>
      exact .inl ⟨v, n, rfl, hlast.allowed, Attempt.result_eq_ok_iff.1 hresult, hbefore, hattempts⟩
  | error e =>
      obtain rfl : n = retries := by
        refine hlast.last.resolve_right ?_
        rintro ⟨v, hv⟩
        simp only [hresult, reduceCtorEq] at hv
      refine .inr ⟨e, _, rfl, fun k hk => ?_, hattempts, showsFailure_of_error hresult⟩
      rcases Nat.lt_or_eq_of_le hk with hlt | rfl
      · exact hbefore k hlt
      · exact Attempt.exists_error_iff.1 ⟨e, hresult⟩

/-! ## A load -/

namespace Rehearsal

/-- Afterwards a document is found under its identifier, all others are as before, and just this
is published. -/
structure World.Stores (w : World) (n : Notebook) (w' : World) : Prop where
  here : w'.store.find? n.identifier = some n
  elsewhere : ∀ other, other ≠ n.identifier → w'.store.find? other = w.store.find? other
  published : Option.Rel
    (fun before after => before.Publishes
      [⟨if (w.store.find? n.identifier).isSome then .updated else .created, n.identifier⟩] after)
    w.bus w'.bus

theorem stores_of_commit
    {w w' : World}
    (c : Conversion)
    (hstore : w'.store = (c.commit w.author w.moment w.store).1)
    (hbus : w'.bus = w.bus.map ((c.commit w.author w.moment w.store).2.events.foldl Bus.send)) :
    w.Stores (c.notebook w.author w.moment) w' where
  here := by
    rw [hstore, Conversion.commit, Store.find?_put, if_pos rfl]
  elsewhere other hne := by
    rw [hstore, Conversion.commit, Store.find?_put, if_neg (Ne.symm hne)]
  published := by
    rw [hbus, Store.find?_isSome]
    exact Bus.rel_map_send w.bus _

/-- **No file without a document.**  While nothing else is under way, a file with a name is
loaded by a converter that calls its command, and one document is stored under the name,
whatever becomes of each call.  If one of the allowed calls exits well and writes an object, the
contents are the object of the first one that does.  Otherwise all calls are made, and the
contents are a page with the whole text of the last error; if the last process has run to its
end, this text holds all that it has written, but for white space at the end. -/
theorem load_process
    {w : World}
    {p : ProcessConverter}
    {path : Path}
    {identifier : String}
    (hidle : w.IsIdle)
    (hconverter : w.converter = .process p)
    (hname : Path.name path = some identifier)
    (hrange : Retry.NeverOverflows p.retries path fun k => (p.attempts w.files path k).result) :
    let attempts := p.attempts w.files path
    ∃ (contents : Json.Value) (isFallback : Bool) (w' : World),
      (load path).run w = (some ⟨identifier, isFallback⟩, w')
        ∧ w.Stores ⟨identifier, identifier, w.author, contents, w.moment⟩ w'
        ∧ ((∃ k ≤ p.retries, (attempts k).Writes contents ∧ (∀ j < k, ∀ v, ¬ (attempts j).Writes v)
              ∧ isFallback = false ∧ w'.converter = .process (p.after (k + 1)))
          ∨ (∀ k ≤ p.retries, ∀ v, ¬ (attempts k).Writes v)
              ∧ isFallback = true ∧ w'.converter = .process (p.after (p.retries + 1))
              ∧ ∃ e text, ShowsFailure contents (attempts p.retries) e text) := by
  intro attempts
  obtain ⟨result, hending, hresult⟩ := exists_result identifier hrange
  obtain ⟨w', hload, hstore, _, hbus, _, hcalled⟩ := load_run hidle hconverter hname hending
  refine ⟨_, _, w', hload, stores_of_commit _ hstore hbus, ?_⟩
  rcases hresult with ⟨v, k, rfl, hk, hwrites, hbefore, hcalls⟩
    | ⟨e, text, rfl, hnone, hcalls, hshows⟩
  · rw [hcalls] at hcalled
    exact .inl ⟨k, hk, hwrites, hbefore, rfl, hcalled⟩
  · rw [hcalls] at hcalled
    exact .inr ⟨hnone, rfl, hcalled, e, text, hshows⟩

/-! ## A load that is repeated -/

/-- The shortest native code: a header and one segment. -/
def shortestNative : Bytes :=
  Files.nativeMark ++ List.replicate 12 0 ++ [2, 0, 62, 0] ++ List.replicate 12 0
    ++ [64, 0, 0, 0, 0, 0, 0, 0] ++ List.replicate 14 0 ++ [56, 0, 1, 0] ++ List.replicate 62 0

/-- A process that takes too long at first, and then writes an object, and a remark beside it. -/
def hesitant : Processes := fun _ _ number =>
  .ok ⟨⟨.code 0, Utf8.encode " \x7b\x7d\n", Utf8.encode "slow"⟩, ⟨if number = 0 then 9 else 0⟩⟩

/-- Calls `/p`, twice at most, and waits for five nanoseconds. -/
def hesitantConverter : ProcessConverter :=
  ⟨⟨[], [0x2F, 0x70], [0x73]⟩, hesitant, 0, 1, some ⟨5⟩⟩

/-- Nothing has happened, and somebody listens. -/
def hesitantWorld : World :=
  let files : Files := ⟨[([[0x70]], .file shortestNative 0o755)], [], 0⟩
  { World.initial files (.process hesitantConverter) with bus := some Bus.new.subscribe.1 }

theorem attempts_hesitant
    (k : Nat) :
    hesitantConverter.attempts hesitantWorld.files [0x61] k
      = ProcessRun.within
        ⟨⟨.code 0, Utf8.encode " \x7b\x7d\n", Utf8.encode "slow"⟩, ⟨if 0 + k = 0 then 9 else 0⟩⟩
        (some ⟨5⟩) := by
  have hstarts : (hesitantConverter.command.start hesitantWorld.files [0x61]).isOk = true := by
    decide +kernel
  unfold ProcessConverter.attempts ProcessConverter.next Command.attempt
  simp only [ProcessConverter.after]
  cases hstart : hesitantConverter.command.start hesitantWorld.files [0x61] with
  | error e =>
      rw [hstart] at hstarts
      cases hstarts
  | ok program =>
      simp only [hesitantConverter, hesitant]
      rfl

theorem writes_hesitant
    {v : Json.Value} :
    (hesitantConverter.attempts hesitantWorld.files [0x61] 1).Writes v ↔ v = .object [] := by
  have hresult : (hesitantConverter.attempts hesitantWorld.files [0x61] 1).result
      = .ok (.object []) := by
    rw [attempts_hesitant]
    rfl
  rw [← Attempt.result_eq_ok_iff, hresult]
  exact ⟨fun h => (Except.ok.inj h).symm, fun h => congrArg Except.ok h.symm⟩

/-- The first call takes too long, and the second one writes an empty object. -/
theorem load_process_hesitant :
    hesitantWorld.IsIdle
      ∧ hesitantWorld.converter = .process hesitantConverter
      ∧ Path.name [0x61] = some "a"
      ∧ Retry.NeverOverflows 1 [0x61]
          (fun k => (hesitantConverter.attempts hesitantWorld.files [0x61] k).result)
      ∧ ∃ w' bus,
        (load [0x61]).run hesitantWorld = (some ⟨"a", false⟩, w')
          ∧ (w'.store.find? "a").map Notebook.contents = some (.object [])
          ∧ w'.bus = some bus
          ∧ (bus.drain 0).1 = [.event ⟨.created, "a"⟩]
          ∧ w'.converter = .process (hesitantConverter.after 2) := by
  have hidle : hesitantWorld.IsIdle := ⟨rfl, rfl, rfl⟩
  have hname : Path.name [0x61] = some "a" := by decide
  have hrange : Retry.NeverOverflows 1 [0x61]
      fun k => (hesitantConverter.attempts hesitantWorld.files [0x61] k).result :=
    (Retry.staysInRange_iff (by decide)).2 (.inr ⟨by decide, .inl (by decide)⟩)
  obtain ⟨contents, isFallback, w', hload, hstores, hend⟩ :=
    load_process hidle rfl hname hrange
  have hwrites := writes_hesitant.2 rfl
  refine ⟨hidle, rfl, hname, hrange, w', ?_⟩
  rcases hend with ⟨k, hk, hobject, hbefore, rfl, hcalled⟩ | ⟨hnone, _⟩
  · obtain rfl : k = 1 := by
      rcases Nat.le_one_iff_eq_zero_or_eq_one.1 hk with rfl | rfl
      · obtain ⟨o, hended, _⟩ := hobject
        rw [attempts_hesitant] at hended
        cases hended
      · rfl
    obtain rfl := writes_hesitant.1 hobject
    have hbus := hstores.published
    generalize w'.bus = later at hbus
    cases hbus with
    | some hpublishes =>
        exact ⟨_, hload, congrArg (Option.map Notebook.contents) hstores.here, rfl,
          hpublishes.heard [] 0 ⟨rfl, rfl⟩ rfl (by decide), hcalled⟩
  · exact absurd hwrites (hnone 1 (Nat.le_refl 1) _)

end Rehearsal
end LiveNotebooks
