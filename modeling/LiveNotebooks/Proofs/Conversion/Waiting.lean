import LiveNotebooks.Proofs.Conversion.Repetition
import LiveNotebooks.Proofs.Scan.Turn

/-!
# Waiting for a conversion

The conversion of a file goes from pause to pause, and time jumps to the end of each.  When
nothing else is under way, it comes to what its attempts come to, one after another, and has
written nothing but their warnings.

**Invariant.**  `Advances` says what a conversion has changed so far: calls have been made and
lines have been written, and nothing is under way but the conversion itself.

**Results.**
* `goesOn_pause`: a conversion that is waited for goes on when its pause is over.
* `goesOn_follow`: what the attempts come to that are left, by the recursion of `Retry.runFrom`.
* `convertFile_run`, `load_run`: a file is converted, and stored, by the run of its attempts.
-/

namespace LiveNotebooks
namespace Rehearsal

/-- Nothing is under way. -/
structure World.IsIdle (w : World) : Prop where
  jobs : w.jobs = []
  timers : w.timers = []
  wakes : w.wakes = []

/-- The converter after some more calls. -/
def ProcessConverter.after (p : ProcessConverter) (calls : Nat) : ProcessConverter :=
  { p with called := p.called + calls }

/-- What becomes of the calls that a converter makes for a file. -/
def ProcessConverter.attempts (p : ProcessConverter) (files : Files) (path : Path)
    (k : Nat) : Attempt :=
  (p.after k).next files path

/-- The world when a pause is over that begins now. -/
def World.woken (w : World) (length : Nat) (wake : Wake) : World :=
  { w with
    now := max w.now (w.now + Pause.length length)
    timers := []
    wakes := [wake] }

/-- From one world to another, nothing but a conversion has gone on. -/
structure Advances (p : ProcessConverter) (calls : Nat) (lines : List LogLine)
    (w w' : World) : Prop where
  idle : w'.IsIdle
  converter : w'.converter = .process (p.after calls)
  log : w'.log = lines.reverse ++ w.log
  files : w'.files = w.files
  author : w'.author = w.author
  store : w'.store = w.store
  bus : w'.bus = w.bus
  stamps : w'.stamps = w.stamps

/-- Goes on with a conversion that is done or pauses, for so many rounds. -/
def goesOn (path : Path) (rounds : Nat) (progress : Progress) (w : World) :
    Option ConversionResult × World :=
  match progress with
  | .done result => (some result, w)
  | .pause length next =>
      (attend awaitResult rounds ()).run (w.woken length (.conversion path next))

section

variable {p : ProcessConverter} {path : Path} {w w₁ w₂ : World} {r : Retry}
  {progress : Progress} {next : Resumption} {lines more : List LogLine} {calls later rounds : Nat}

theorem Advances.trans
    (h : Advances p calls lines w w₁)
    (h' : Advances p later more w₁ w₂) :
    Advances p later (lines ++ more) w w₂ where
  idle := h'.idle
  converter := h'.converter
  log := by rw [h'.log, h.log, List.reverse_append, List.append_assoc]
  files := h'.files.trans h.files
  author := h'.author.trans h.author
  store := h'.store.trans h.store
  bus := h'.bus.trans h.bus
  stamps := h'.stamps.trans h.stamps

/-- Time alone changes nothing. -/
theorem advances_now
    (hidle : w.IsIdle)
    (hconverter : w.converter = .process (p.after calls))
    (now : Nat) :
    Advances p calls [] w { w with now := now } :=
  ⟨⟨hidle.jobs, hidle.timers, hidle.wakes⟩, hconverter, rfl, rfl, rfl, rfl, rfl, rfl⟩

/-! ## Pauses -/

/-- Time jumps to the only timer. -/
theorem jump_run
    {due : Nat}
    {wake : Wake}
    (hwakes : w.wakes = [])
    (htimers : w.timers = [⟨due, .wake wake⟩]) :
    jump.run w = pure (true, { w with now := max w.now due, timers := [], wakes := [wake] }) := by
  simp only [jump, nextDue?, StateT.run_bind, StateT.run_get, pure_bind, htimers, List.map_cons,
    List.map_nil, List.min?_singleton, StateT.run_set, List.filter_cons, Nat.le_refl, decide_true,
    Bool.not_true, if_true, Bool.false_eq_true, if_false, List.filter_nil, hwakes]
  rfl

/-- When nothing else is under way, time jumps to the end of the pause. -/
theorem attend_pausing
    (hidle : w.IsIdle)
    (rounds length : Nat)
    (wake : Wake) :
    (attend awaitResult (rounds + 1) ()).run
        { w with timers := [⟨w.now + Pause.length length, .wake wake⟩] }
      = (attend awaitResult rounds ()).run (w.woken length wake) := by
  obtain ⟨hjobs, htimers, hwakes⟩ := hidle
  simp only [attend, StateT.run_bind, takeWakes, StateT.run_get, StateT.run_set, awaitResult,
    resumeOwn, hwakes, StateT.run_pure, pure_bind, hjobs, List.isEmpty_nil, if_true]
  rw [jump_run rfl rfl]
  simp only [pure_bind, if_true, World.woken, hjobs]

/-- When the pause is over, the conversion goes on. -/
theorem goesOn_pause
    (hidle : w.IsIdle)
    (rounds length : Nat)
    (hresume : (resumeConversion path next).run
        { w with now := max w.now (w.now + Pause.length length) } = (progress, w₁))
    (hidle₁ : w₁.IsIdle) :
    goesOn path (rounds + 1) (.pause length next) w = goesOn path rounds progress w₁ := by
  obtain ⟨hjobs₁, htimers₁, hwakes₁⟩ := hidle₁
  have hwakes : (w.woken length (.conversion path next)).wakes = [.conversion path next] := rfl
  have hquiet : { w.woken length (.conversion path next) with wakes := [] }
      = { w with now := max w.now (w.now + Pause.length length) } := by
    simp only [World.woken, hidle.timers, hidle.wakes]
  have hgoes : (resumeConversion path next).run
      { w.woken length (.conversion path next) with wakes := [] } = pure (progress, w₁) := by
    rw [hquiet]
    exact hresume
  rw [goesOn]
  simp only [attend, StateT.run_bind, takeWakes, StateT.run_get, StateT.run_set, awaitResult,
    StateT.run_pure, pure_bind, hwakes, resumeOwn]
  rw [hgoes]
  cases progress with
  | done result =>
      simp only [pure_bind, follow, StateT.run_pure, goesOn]
      rfl
  | pause further later =>
      simp only [pure_bind, follow, StateT.run_pure, StateT.run_bind, goesOn, setTimer,
        StateT.run_modify, StateT.run_get, hjobs₁, List.isEmpty_nil, if_true, htimers₁, hwakes₁,
        List.nil_append]
      rw [jump_run rfl rfl]
      simp only [pure_bind, if_true, World.woken, hjobs₁]

/-! ## Attempts -/

theorem noteProgress_run
    (hidle : w.IsIdle)
    (hconverter : w.converter = .process (p.after calls))
    (lines : List LogLine)
    (progress : Progress) :
    ∃ w₁, (noteProgress lines progress).run w = (progress, w₁)
      ∧ Advances p calls lines w w₁ := by
  cases progress <;>
    exact ⟨_, rfl, ⟨hidle.jobs, hidle.timers, hidle.wakes⟩, hconverter, rfl, rfl, rfl, rfl, rfl,
      rfl⟩

theorem resumeConversion_run
    {converter : Converter}
    (h : w.converter.resume w.files path next = (converter, lines, progress)) :
    (resumeConversion path next).run w
      = (noteProgress lines progress).run { w with converter := converter } := by
  rw [resumeConversion]
  simp only [StateT.run_bind, StateT.run_get, pure_bind, h, StateT.run_set]

/-- Another call is made. -/
theorem resume_attempt
    (hidle : w.IsIdle)
    (hconverter : w.converter = .process (p.after calls))
    (hbegin : (p.after calls).begin w.files path r = (lines, progress)) :
    ∃ w₁, (resumeConversion path (.attempt r)).run w = (progress, w₁)
      ∧ Advances p (calls + 1) lines w w₁ := by
  have hresume : w.converter.resume w.files path (.attempt r)
      = (.process (p.after (calls + 1)), lines, progress) := by
    rw [hconverter, Converter.resume, ProcessConverter.attempt, hbegin]
    rfl
  have hcalled : ({ w with converter := .process (p.after (calls + 1)) } : World).IsIdle :=
    ⟨hidle.jobs, hidle.timers, hidle.wakes⟩
  obtain ⟨w₁, hnoted, hadvances⟩ := noteProgress_run hcalled rfl lines progress
  exact ⟨w₁, (resumeConversion_run hresume).trans hnoted, hadvances.idle, hadvances.converter,
    hadvances.log, hadvances.files, hadvances.author, hadvances.store, hadvances.bus,
    hadvances.stamps⟩

/-- The limit of a call is over. -/
theorem resume_expire
    {limit : Span}
    (hidle : w.IsIdle)
    (hconverter : w.converter = .process (p.after calls))
    (hfollow : p.follow path r (.error (.timedOut limit)) = (lines, progress)) :
    ∃ w₁, (resumeConversion path (.expire r limit)).run w = (progress, w₁)
      ∧ Advances p calls lines w w₁ := by
  have hsame : (p.after calls).follow path r (.error (.timedOut limit)) = (lines, progress) :=
    hfollow
  have hresume : w.converter.resume w.files path (.expire r limit)
      = (w.converter, lines, progress) := by
    rw [hconverter, Converter.resume, hsame]
  obtain ⟨w₁, hnoted, hadvances⟩ := noteProgress_run hidle hconverter lines progress
  exact ⟨w₁, (resumeConversion_run hresume).trans hnoted, hadvances⟩

/-- A call is followed at once, or its limit is waited for. -/
theorem begin_cases
    (p : ProcessConverter)
    (files : Files)
    (path : Path)
    (r : Retry) :
    p.begin files path r = p.follow path r (p.next files path).result
      ∨ ∃ limit length, p.next files path = .late limit
        ∧ p.begin files path r = ([], .pause length (.expire r limit)) := by
  rw [ProcessConverter.begin]
  cases p.next files path with
  | unstarted reason => exact .inl rfl
  | ended o => exact .inl rfl
  | late limit =>
      by_cases hzero : limit.nanos = 0
      · exact .inl (if_pos hzero)
      · exact .inr ⟨limit, _, rfl, if_neg hzero⟩

/-- After a pause the next call is made, and followed. -/
theorem goesOn_attempt
    (hidle : w.IsIdle)
    (hconverter : w.converter = .process (p.after calls))
    (hfollow : p.follow path r (p.attempts w.files path calls).result = (lines, progress))
    (length : Nat) :
    ∃ steps w₁, steps ≤ 2 ∧ Advances p (calls + 1) lines w w₁
      ∧ ∀ rounds, goesOn path (rounds + steps) (.pause length (.attempt r)) w
        = goesOn path rounds progress w₁ := by
  have hlater := advances_now hidle hconverter (max w.now (w.now + Pause.length length))
  rcases begin_cases (p.after calls) w.files path r with hat_once | ⟨limit, further, hlate, hwaits⟩
  · obtain ⟨w₁, hresume, hadvances⟩ :=
      resume_attempt hlater.idle hlater.converter (hat_once.trans hfollow)
    exact ⟨1, w₁, Nat.le_succ 1, hlater.trans hadvances,
      fun rounds => goesOn_pause hidle rounds length hresume hadvances.idle⟩
  · obtain ⟨w₁, hresume, hadvances⟩ := resume_attempt hlater.idle hlater.converter hwaits
    have hfirst := hlater.trans hadvances
    have hlater₁ := advances_now hfirst.idle hfirst.converter
      (max w₁.now (w₁.now + Pause.length further))
    rw [ProcessConverter.attempts, hlate] at hfollow
    obtain ⟨w₂, hexpire, hadvances₂⟩ := resume_expire hlater₁.idle hlater₁.converter hfollow
    refine ⟨2, w₂, Nat.le_refl 2, (hfirst.trans hlater₁).trans hadvances₂, fun rounds => ?_⟩
    rw [← goesOn_pause hfirst.idle rounds further hexpire hadvances₂.idle]
    exact goesOn_pause hidle (rounds + 1) length hresume hfirst.idle

/-! ## Conversions -/

theorem follow_of_settled
    {result result' : ConversionResult}
    (hjudge : r.judge p.retries path result = .settled result') :
    p.follow path r result = ([], .done result') := by
  rw [ProcessConverter.follow, hjudge]

theorem follow_of_again
    {result : ConversionResult}
    {line : LogLine}
    {length : Nat}
    {r' : Retry}
    (hjudge : r.judge p.retries path result = .again line length r') :
    p.follow path r result = ([line], .pause length (.attempt r')) := by
  rw [ProcessConverter.follow, hjudge]

/-- The conversion that is left when a call has been made comes to what is left of its run. -/
theorem goesOn_follow
    {left : Nat}
    {files : Files}
    {result : ConversionResult}
    (hidle : w.IsIdle)
    (hconverter : w.converter = .process (p.after (r.failures + 1)))
    (hfiles : w.files = files)
    (hleft : r.failures + left = p.retries)
    (hfollow : p.follow path r (p.attempts files path r.failures).result = (lines, progress)) :
    let run := Retry.runFrom p.retries path (fun k => (p.attempts files path k).result) left r
    run.ending = .finished result →
      ∃ more steps w', run.log = lines ++ more ∧ steps + 2 ≤ 2 * run.attempts
        ∧ Advances p (r.failures + run.attempts) more w w'
        ∧ ∀ rounds, goesOn path (rounds + steps) progress w = (some result, w') := by
  intro run hending
  induction left using Nat.strongRecOn generalizing r w lines progress with
  | ind left ih =>
      cases hjudge : r.judge p.retries path (p.attempts files path r.failures).result with
      | settled result' =>
          rw [follow_of_settled hjudge] at hfollow
          obtain ⟨rfl, rfl⟩ := Prod.mk.inj hfollow
          have hrun : run = ⟨.finished result', 1, [], []⟩ := Retry.runFrom_of_settled hjudge left
          rw [hrun] at hending ⊢
          obtain rfl : result' = result := Retry.Ending.finished.inj hending
          exact ⟨[], 0, w, rfl, Nat.le_refl 2, advances_now hidle hconverter w.now, fun _ => rfl⟩
      | again line length r' =>
          rw [follow_of_again hjudge] at hfollow
          obtain ⟨rfl, rfl⟩ := Prod.mk.inj hfollow
          obtain ⟨left', rfl, hrun⟩ := Retry.exists_rest_of_again hleft hjudge hending
          obtain ⟨_, _, _, _, _, rfl⟩ := Retry.judge_eq_again_iff.1 hjudge
          let rest := Retry.runFrom p.retries path (fun k => (p.attempts files path k).result) left'
            ⟨r.failures + 1, r.pause * 2⟩
          have hrun : run = rest.behind line length := hrun
          rw [hrun] at hending ⊢
          subst hfiles
          obtain ⟨lines', progress', hnext⟩ :
              ∃ lines' progress',
                p.follow path ⟨r.failures + 1, r.pause * 2⟩
                  (p.attempts w.files path (r.failures + 1)).result = (lines', progress') :=
            ⟨_, _, rfl⟩
          obtain ⟨steps, w₁, hsteps, hadvances, hgoes⟩ :=
            goesOn_attempt hidle hconverter hnext length
          obtain ⟨more, further, w', hlog, hfew, hadvances', hgoes'⟩ :=
            ih left' (Nat.lt_succ_self left') hadvances.idle hadvances.converter hadvances.files
              (by simp only; omega) hnext hending
          have hcalls : r.failures + 1 + rest.attempts = r.failures + (rest.attempts + 1) := by
            omega
          have hfew : further + 2 ≤ 2 * rest.attempts := hfew
          rw [hcalls] at hadvances'
          refine ⟨_, further + steps, w', congrArg (line :: ·) hlog, ?_,
            hadvances.trans hadvances', fun rounds => ?_⟩
          · simp only [Retry.Run.behind]
            omega
          · rw [← Nat.add_assoc, hgoes]
            exact hgoes' rounds

theorem startConversion_of_start
    {converter : Converter}
    (h : w.converter.start w.files path = (converter, lines, progress)) :
    (startConversion path).run w
      = (noteProgress lines progress).run
        { w with
          converter := converter
          converting := w.converting + 1
          mostConverting := max w.mostConverting (w.converting + 1) } := by
  have hrun : (startConversion path).run w
      = (noteProgress (w.converter.start w.files path).2.1 (w.converter.start w.files path).2.2).run
        { w with
          converter := (w.converter.start w.files path).1
          converting := w.converting + 1
          mostConverting := max w.mostConverting (w.converting + 1) } := rfl
  rw [hrun, h]

/-- The first call is made. -/
theorem startConversion_run
    (hidle : w.IsIdle)
    (hconverter : w.converter = .process p)
    (hbegin : p.begin w.files path .start = (lines, progress)) :
    ∃ w₁, (startConversion path).run w = pure (progress, w₁) ∧ Advances p 1 lines w w₁ := by
  have hstart : w.converter.start w.files path = (.process (p.after 1), lines, progress) := by
    rw [hconverter, Converter.start, ProcessConverter.attempt, hbegin]
    rfl
  rw [startConversion_of_start hstart]
  cases progress <;>
    exact ⟨_, rfl, ⟨hidle.jobs, hidle.timers, hidle.wakes⟩, rfl, rfl, rfl, rfl, rfl, rfl, rfl⟩

/-- The first pause has a length. -/
theorem ne_pause_zero_of_follow
    {result : ConversionResult}
    (hfollow : p.follow path .start result = (lines, progress))
    (next : Resumption) :
    progress ≠ .pause 0 next := by
  rintro rfl
  cases hjudge : Retry.start.judge p.retries path result with
  | settled result' =>
      rw [follow_of_settled hjudge] at hfollow
      cases hfollow
  | again line length r' =>
      rw [follow_of_again hjudge] at hfollow
      obtain ⟨_, _, _, _, rfl, _⟩ := Retry.judge_eq_again_iff.1 hjudge
      cases hfollow

/-- The first call is made, and followed. -/
theorem runConversion_run
    (hidle : w.IsIdle)
    (hconverter : w.converter = .process p)
    (hfollow : p.follow path .start (p.attempts w.files path 0).result = (lines, progress)) :
    ∃ first w₁, (runConversion path).run w = pure (first, w₁) ∧ w₁.IsIdle
      ∧ ∃ steps w₂, steps ≤ 1 ∧ Advances p 1 lines w w₂
        ∧ ∀ rounds, goesOn path (rounds + steps) first w₁ = goesOn path rounds progress w₂ := by
  have hattempts : p.attempts w.files path 0 = p.next w.files path := rfl
  rw [hattempts] at hfollow
  rcases begin_cases p w.files path .start with hat_once | ⟨limit, length, hlate, hwaits⟩
  · obtain ⟨w₁, hstart, hadvances⟩ :=
      startConversion_run hidle hconverter (hat_once.trans hfollow)
    have hpauses := ne_pause_zero_of_follow hfollow
    refine ⟨progress, w₁, ?_, hadvances.idle, 0, w₁, Nat.zero_le 1, hadvances, fun _ => rfl⟩
    simp only [runConversion, StateT.run_bind, hstart, pure_bind]
    rfl
  · obtain ⟨w₁, hstart, hadvances⟩ := startConversion_run hidle hconverter hwaits
    rw [hlate] at hfollow
    cases length with
    | zero =>
      obtain ⟨w₂, hexpire, hadvances₂⟩ := resume_expire hadvances.idle hadvances.converter hfollow
      refine ⟨progress, w₂, ?_, hadvances₂.idle, 0, w₂, Nat.zero_le 1,
        hadvances.trans hadvances₂, fun _ => rfl⟩
      simp only [runConversion, StateT.run_bind, hstart, pure_bind]
      exact hexpire
    | succ length =>
      have hlater := advances_now hadvances.idle hadvances.converter
        (max w₁.now (w₁.now + Pause.length (length + 1)))
      obtain ⟨w₂, hexpire, hadvances₂⟩ := resume_expire hlater.idle hlater.converter hfollow
      refine ⟨_, w₁, ?_, hadvances.idle, 1, w₂, Nat.le_refl 1,
        (hadvances.trans hlater).trans hadvances₂,
        fun rounds => goesOn_pause hadvances.idle rounds (length + 1) hexpire hadvances₂.idle⟩
      simp only [runConversion, StateT.run_bind, hstart, pure_bind]
      rfl

/-- A conversion that does not end at once is waited for. -/
theorem convertFile_of_runConversion
    (hrun : (runConversion path).run w = pure (progress, w₁))
    (hidle : w₁.IsIdle) :
    (convertFile path).run w = goesOn path (manyRounds - 1) progress w₁ := by
  obtain ⟨rounds, hmany⟩ : ∃ k, manyRounds = k + 1 := ⟨manyRounds - 1, by decide⟩
  simp only [convertFile, StateT.run_bind, hrun, pure_bind]
  cases progress with
  | done result => simp only [follow, StateT.run_pure, pure_bind]; rfl
  | pause length next =>
      simp only [follow, setTimer, StateT.run_bind, StateT.run_modify, StateT.run_pure, pure_bind,
        hidle.timers, List.nil_append, goesOn, hmany]
      rw [attend_pausing hidle]
      rfl

/-- A file is converted by the run of its attempts, and nothing else happens meanwhile. -/
theorem convertFile_run
    {result : ConversionResult}
    (hidle : w.IsIdle)
    (hconverter : w.converter = .process p) :
    let run := Retry.run p.retries path fun k => (p.attempts w.files path k).result
    run.ending = .finished result →
      ∃ w', (convertFile path).run w = pure (some result, w')
        ∧ Advances p run.attempts run.log w w' := by
  intro run hending
  obtain ⟨lines, progress, hfollow⟩ :
      ∃ lines progress,
        p.follow path .start (p.attempts w.files path 0).result = (lines, progress) :=
    ⟨_, _, rfl⟩
  obtain ⟨first, w₁, hrun, hidle₁, steps, w₂, hsteps, hadvances, hfirst⟩ :=
    runConversion_run hidle hconverter hfollow
  obtain ⟨more, further, w', hlog, hfew, hadvances', hrest⟩ :=
    goesOn_follow hadvances.idle hadvances.converter hadvances.files (Nat.zero_add _) hfollow
      hending
  have hlog : run.log = lines ++ more := hlog
  have hfew : further + 2 ≤ 2 * run.attempts := hfew
  have hadvances' : Advances p (0 + run.attempts) more w₂ w' := hadvances'
  have hattempts : run.attempts ≤ 67 := Retry.attempts_le _ _ _
  have hmany : 200 < manyRounds := by decide
  obtain ⟨rounds, hrounds⟩ : ∃ rounds, manyRounds - 1 = rounds + further + steps :=
    ⟨manyRounds - 1 - steps - further, by omega⟩
  refine ⟨w', ?_, ?_⟩
  · rw [convertFile_of_runConversion hrun hidle₁, hrounds, hfirst]
    exact hrest rounds
  · rw [Nat.zero_add] at hadvances'
    rw [hlog]
    exact hadvances.trans hadvances'

/-- **A file is loaded by the run of its attempts.**  While nothing else is under way, loading a
file with a name comes to what the run of its attempts comes to.  This is stored and published,
and the lines of the run are written, then those on its result. -/
theorem load_run
    {identifier : String}
    {result : ConversionResult}
    (hidle : w.IsIdle)
    (hconverter : w.converter = .process p)
    (hname : Path.name path = some identifier) :
    let run := Retry.run p.retries path fun k => (p.attempts w.files path k).result
    let conversion : Conversion := ⟨identifier, result⟩
    let committed := conversion.commit w.author w.moment w.store
    run.ending = .finished result →
      ∃ w', (load path).run w = (some conversion.outcome, w')
        ∧ w'.store = committed.1
        ∧ w'.author = w.author
        ∧ w'.bus = w.bus.map (committed.2.events.foldl Bus.send)
        ∧ w'.log = (run.log ++ Conversion.lines path result ++ committed.2.log).reverse ++ w.log
        ∧ w'.converter = .process (p.after run.attempts) := by
  intro run conversion committed hending
  obtain ⟨w₁, hrun, hadvances⟩ := convertFile_run hidle hconverter hending
  let told : World := { w₁ with log := (Conversion.lines path result).reverse ++ w₁.log }
  obtain ⟨houtcome, hstore, hauthor, hbus, hlog, hcalled⟩ := commit_run conversion told
  have hcommitted : conversion.commit told.author told.moment told.store = committed := by
    simp only [told, World.moment, hadvances.author, hadvances.stamps, hadvances.store, committed]
  rw [hcommitted] at hstore hbus hlog
  refine ⟨((commit conversion).run told).2, ?_, hstore, hauthor.trans hadvances.author, ?_, ?_,
    hcalled.trans hadvances.converter⟩
  · simp only [load, convert, hname, StateT.run_bind, hrun, pure_bind]
    exact congrArg (fun outcome => (some outcome, ((commit conversion).run told).2)) houtcome
  · rw [hbus]
    exact congrArg (Option.map _) hadvances.bus
  · rw [hlog]
    have htold : told.log = (Conversion.lines path result).reverse ++ (run.log.reverse ++ w.log) :=
      congrArg (_ ++ ·) hadvances.log
    rw [htold]
    simp only [List.reverse_append, List.append_assoc]

end

end Rehearsal
end LiveNotebooks
