import LiveNotebooks.CommandLine
import Mathlib.Data.List.Nodup

/-!
# Command lines that are accepted

A command line is a list of flags, each in one of five spellings, beside the variables of the
environment.  A flag counts before a variable.  The command line is accepted just if every value
that counts can be read, and no flag is given twice; then each setting has the value that is read
for it, or its default.

**Results.**
* `assign_eq`: a setting is read by itself and changes nothing else.
* `readArguments_eq_done_iff`: which flags are read.
* `parse_eq_request_iff`: which command lines are accepted, and what is asked for.
* `parse_perm`: the order of the flags does not matter.
-/

namespace LiveNotebooks
namespace CommandLine

/-! ## Settings one by one -/

namespace Setting

abbrev Datum : Setting → Type
  | .address => SocketAddress
  | .notebookDirectory | .converterScript => Path
  | .interpreter | .author => String
  | .convertTimeout => Option Nat
  | .convertRetries | .scanConcurrency | .reloadDebounce => Nat
  | .staticDirectory => Option Path

/-- What a request says for a setting. -/
def get : (s : Setting) → Request → s.Datum
  | .address, r => r.address
  | .notebookDirectory, r => r.configuration.notebookDirectory
  | .interpreter, r => r.configuration.interpreter
  | .converterScript, r => r.configuration.converterScript
  | .author, r => r.configuration.author
  | .convertTimeout, r => r.configuration.convertTimeout
  | .convertRetries, r => r.configuration.convertRetries
  | .scanConcurrency, r => r.configuration.scanConcurrency
  | .reloadDebounce, r => r.configuration.reloadDebounce
  | .staticDirectory, r => r.configuration.staticDirectory

/-- The request that says something else for a setting. -/
def set : (s : Setting) → s.Datum → Request → Request
  | .address, a, r => { r with address := a }
  | .notebookDirectory, d, r =>
      { r with configuration := { r.configuration with notebookDirectory := d } }
  | .interpreter, d, r => { r with configuration := { r.configuration with interpreter := d } }
  | .converterScript, d, r =>
      { r with configuration := { r.configuration with converterScript := d } }
  | .author, d, r => { r with configuration := { r.configuration with author := d } }
  | .convertTimeout, d, r =>
      { r with configuration := { r.configuration with convertTimeout := d } }
  | .convertRetries, d, r =>
      { r with configuration := { r.configuration with convertRetries := d } }
  | .scanConcurrency, d, r =>
      { r with configuration := { r.configuration with scanConcurrency := d } }
  | .reloadDebounce, d, r =>
      { r with configuration := { r.configuration with reloadDebounce := d } }
  | .staticDirectory, d, r =>
      { r with configuration := { r.configuration with staticDirectory := d } }

@[simp] theorem get_set
    (s : Setting)
    (d : s.Datum)
    (r : Request) :
    s.get (s.set d r) = d := by
  cases s <;> rfl

theorem get_set_of_ne
    {s t : Setting}
    (h : s ≠ t)
    (d : t.Datum)
    (r : Request) :
    s.get (t.set d r) = s.get r := by
  cases t <;> cases s <;> first | rfl | exact absurd rfl h

/-- A request is told by what it says for each setting. -/
theorem ext_get
    {r r' : Request}
    (h : ∀ s : Setting, s.get r = s.get r') :
    r = r' := by
  obtain ⟨address, configuration⟩ := r
  obtain ⟨address', configuration'⟩ := r'
  have haddress : address = address' := h .address
  have hconfiguration : configuration = configuration' := by
    cases configuration
    cases configuration'
    have h1 := h .notebookDirectory
    have h2 := h .interpreter
    have h3 := h .converterScript
    have h4 := h .author
    have h5 := h .convertTimeout
    have h6 := h .convertRetries
    have h7 := h .scanConcurrency
    have h8 := h .reloadDebounce
    have h9 := h .staticDirectory
    simp only [get] at h1 h2 h3 h4 h5 h6 h7 h8 h9
    subst h1 h2 h3 h4 h5 h6 h7 h8 h9
    rfl
  rw [haddress, hconfiguration]

/-- What a value says for a setting. -/
def read : (s : Setting) → Bytes → Except Refusal s.Datum
  | .address, value => addressValue value
  | .notebookDirectory, value => pathValue .notebookDirectory value
  | .interpreter, value => textValue value
  | .converterScript, value => pathValue .converterScript value
  | .author, value => textValue value
  | .convertTimeout, value =>
      ((textValue value).bind (natural .convertTimeout (Nat.pow 2 64))).map some
  | .convertRetries, value => (textValue value).bind (ranged .convertRetries (Nat.pow 2 32))
  | .scanConcurrency, value => (textValue value).bind (natural .scanConcurrency (Nat.pow 2 64))
  | .reloadDebounce, value => (textValue value).bind (natural .reloadDebounce (Nat.pow 2 64))
  | .staticDirectory, value => (pathValue .staticDirectory value).map some

end Setting

/-- A setting is read by itself, and changes nothing else. -/
theorem assign_eq
    (r : Request)
    (s : Setting)
    (value : Bytes) :
    assign r s value = (s.read value).map fun d => s.set d r := by
  cases s with
  | convertTimeout =>
      simp only [assign, Setting.read]
      cases (textValue value).bind (natural .convertTimeout (Nat.pow 2 64)) <;> rfl
  | staticDirectory =>
      simp only [assign, Setting.read]
      cases pathValue .staticDirectory value <;> rfl
  | _ => rfl

/-- Assigns some values one after another. -/
def assignAll : Request → List (Setting × Bytes) → Except Refusal Request
  | r, [] => .ok r
  | r, (s, value) :: rest => (assign r s value).bind fun r => assignAll r rest

theorem assignAll_cons_eq_ok_iff
    {r r' : Request}
    {s : Setting}
    {value : Bytes}
    {rest : List (Setting × Bytes)} :
    assignAll r ((s, value) :: rest) = .ok r'
      ↔ ∃ d, s.read value = .ok d ∧ assignAll (s.set d r) rest = .ok r' := by
  rw [assignAll, assign_eq]
  cases s.read value <;> simp [Except.map, Except.bind]

/-- Behind some values for different settings, each of these says what is read for it, and all
others say what they did. -/
theorem assignAll_eq_ok_iff
    {choices : List (Setting × Bytes)}
    (hdistinct : (choices.map Prod.fst).Nodup)
    {r r' : Request} :
    assignAll r choices = .ok r'
      ↔ (∀ s value, (s, value) ∈ choices → s.read value = .ok (s.get r'))
        ∧ ∀ s, s ∉ choices.map Prod.fst → s.get r' = s.get r := by
  induction choices generalizing r with
  | nil =>
      constructor
      · intro h
        obtain rfl := Except.ok.inj h
        simp
      · intro h
        rw [assignAll, Setting.ext_get fun s => h.2 s List.not_mem_nil]
  | cons choice rest ih =>
      obtain ⟨t, value⟩ := choice
      rw [List.map_cons, List.nodup_cons] at hdistinct
      rw [assignAll_cons_eq_ok_iff]
      simp only [ih hdistinct.2]
      constructor
      · rintro ⟨d, hd, hread, hsame⟩
        refine ⟨fun s v hv => ?_, fun s hs => ?_⟩
        · rcases List.mem_cons.1 hv with hv | hv
          · cases hv
            rw [hd, hsame t hdistinct.1, Setting.get_set]
          · exact hread s v hv
        · rw [List.map_cons, List.mem_cons, not_or] at hs
          rw [hsame s hs.2, Setting.get_set_of_ne hs.1]
      · rintro ⟨hread, hsame⟩
        refine ⟨t.get r', hread t value List.mem_cons_self,
          fun s v hv => hread s v (List.mem_cons_of_mem _ hv), fun s hs => ?_⟩
        by_cases hst : s = t
        · subst hst
          rw [Setting.get_set]
        · rw [Setting.get_set_of_ne hst, hsame s]
          rw [List.map_cons, List.mem_cons, not_or]
          exact ⟨hst, hs⟩

/-! ## Flags -/

def longFlag (s : Setting) : Bytes := dash :: dash :: Utf8.encode s.longName

/-- The short form of a flag. -/
def letterFlag (c : Char) : Bytes := dash :: String.utf8EncodeChar c

/-- The ways in which a flag and its value are written. -/
inductive Spelling (s : Setting) (value : Bytes) : List Bytes → Prop
  | apart : Spelling s value [longFlag s, value]
  | attached : Spelling s value [longFlag s ++ equals :: value]
  | letterApart
      {c : Char}
      (hletter : s.letter? = some c) :
      Spelling s value [letterFlag c, value]
  | letterAttached
      {c : Char}
      (hletter : s.letter? = some c) :
      Spelling s value [letterFlag c ++ equals :: value]
  | letterJoined
      {c : Char}
      (hletter : s.letter? = some c)
      (hne : value ≠ [])
      (hequals : value.head? ≠ some equals) :
      Spelling s value [letterFlag c ++ value]

/-- A flag with its value, as it is written. -/
structure Flag where
  setting : Setting
  value : Bytes
  arguments : List Bytes
  spelling : Spelling setting value arguments

/-- An argument that does not look like a flag. -/
def IsPlain (argument : Bytes) : Prop := argument.length < 2 ∨ argument.head? ≠ some dash

/-- The value does not look like a flag where it is an argument of its own. -/
def Flag.IsReadable (f : Flag) : Prop :=
  ∀ name, f.arguments = [name, f.value] → IsPlain f.value

/-- The flag as a value for its setting. -/
def Flag.choice (f : Flag) : Setting × Bytes := (f.setting, f.value)

section

variable {p q : Progress} {s : Setting} {c : Char} {value : Bytes}

theorem argument_plain
    (h : IsPlain value) :
    argument p value = plainArgument p value := by
  match value with
  | [] => rfl
  | [_] => rfl
  | a :: b :: rest =>
      have ha : a ≠ dash := by
        rcases h with hlength | hhead
        · simp only [List.length_cons] at hlength
          omega
        · simpa using hhead
      rw [argument, if_pos ha]

theorem attached_of_head?
    (hne : value ≠ [])
    (hequals : value.head? ≠ some equals) :
    attached value = some value := by
  cases value with
  | nil => exact absurd rfl hne
  | cons b rest => exact if_neg fun hb => hequals (congrArg some hb)

theorem find?_longName
    (s : Setting) :
    Setting.all.find? (fun t => Utf8.encode t.longName = Utf8.encode s.longName) = some s := by
  cases s <;> decide

/-- The long form of a flag starts its setting, and the value is still to come. -/
theorem argument_longFlag
    (p : Progress)
    (s : Setting) :
    argument p (longFlag s) = start p s none := by
  have hname : (Utf8.encode s.longName).takeWhile (· ≠ equals) = Utf8.encode s.longName := by
    cases s <;> decide
  have hnone : (Utf8.encode s.longName).contains equals = false := by
    cases s <;> decide
  have hne : Utf8.encode s.longName ≠ [] := by
    cases s <;> decide
  have hlong : argument p (longFlag s) = longArgument p (Utf8.encode s.longName) := by
    simp [longFlag, argument, hne]
  rw [hlong, longArgument]
  simp only [hname, hnone, find?_longName, Bool.false_eq_true, if_false]

/-- The long form of a flag may have its value attached. -/
theorem argument_longFlag_attached
    (p : Progress)
    (s : Setting)
    (value : Bytes) :
    argument p (longFlag s ++ equals :: value) = start p s (some value) := by
  have hname : (Utf8.encode s.longName ++ equals :: value).takeWhile (· ≠ equals)
      = Utf8.encode s.longName := by
    have hall : (Utf8.encode s.longName).all (· ≠ equals) = true := by
      cases s <;> decide
    rw [List.takeWhile_append_of_pos (List.all_eq_true.1 hall),
      List.takeWhile_cons_of_neg (by simp), List.append_nil]
  have hsome : (Utf8.encode s.longName ++ equals :: value).contains equals = true := by
    simp
  have hdrop : (Utf8.encode s.longName ++ equals :: value).drop
      ((Utf8.encode s.longName).length + 1) = value := by
    rw [← List.drop_drop, List.drop_left]
    rfl
  have hne : Utf8.encode s.longName ++ equals :: value ≠ [] := by simp
  have hlong : argument p (longFlag s ++ equals :: value)
      = longArgument p (Utf8.encode s.longName ++ equals :: value) := by
    simp only [longFlag, List.cons_append, argument, hne, ne_eq, not_true, if_false]
  rw [hlong, longArgument]
  simp only [hname, hsome, find?_longName, hdrop, if_true]

/-- The short form of a flag may have its value attached as well. -/
theorem argument_letterFlag
    (p : Progress)
    (hletter : s.letter? = some c)
    (rest : Bytes) :
    argument p (letterFlag c ++ rest) = start p s (attached rest) := by
  cases s with
  | address =>
      obtain rfl := Option.some.inj hletter
      rfl
  | notebookDirectory =>
      obtain rfl := Option.some.inj hletter
      rfl
  | _ => cases hletter

end

/-! ## Flags one after another -/

namespace Progress

/-- Takes a value for a setting, behind everything that is settled. -/
def enter (p : Progress) (f : Flag) : Except Refusal Progress :=
  { p with pending := some (f.setting, some f.value) }.settle

/-- Takes the values of some flags. -/
def enterAll : Progress → List Flag → Except Refusal Progress
  | p, [] => .ok p
  | p, f :: fs => (p.enter f).bind fun p => p.enterAll fs

theorem enter_eq_ok_iff
    {p q : Progress}
    {f : Flag} :
    p.enter f = .ok q ↔ f.setting ∉ p.given ∧ ∃ r,
      assign p.request f.setting f.value = .ok r ∧ q = ⟨r, f.setting :: p.given, none⟩ := by
  simp only [enter, settle, List.contains_eq_mem, decide_eq_true_eq]
  by_cases hgiven : f.setting ∈ p.given
  · simp [hgiven]
  · simp only [hgiven, if_false, not_false_eq_true, true_and]
    cases assign p.request f.setting f.value <;> simp [eq_comm]

theorem enterAll_cons_eq_ok_iff
    {p q : Progress}
    {f : Flag}
    {fs : List Flag} :
    p.enterAll (f :: fs) = .ok q ↔ ∃ p', p.enter f = .ok p' ∧ p'.enterAll fs = .ok q := by
  rw [enterAll]
  cases p.enter f <;> simp [Except.bind]

/-- Some flags are taken if they are for different settings and their values can be read. -/
theorem enterAll_eq_ok_iff
    {fs : List Flag}
    {p q : Progress}
    (hp : p.pending = none) :
    p.enterAll fs = .ok q
      ↔ (fs.map Flag.setting).Nodup
        ∧ (∀ f ∈ fs, f.setting ∉ p.given)
        ∧ assignAll p.request (fs.map Flag.choice) = .ok q.request
        ∧ q.given = (fs.map Flag.setting).reverse ++ p.given
        ∧ q.pending = none := by
  induction fs generalizing p with
  | nil =>
      obtain ⟨request, given, _⟩ := p
      subst hp
      obtain ⟨request', given', pending'⟩ := q
      simp [enterAll, assignAll, eq_comm]
  | cons f fs ih =>
      have hassign : assignAll p.request ((f :: fs).map Flag.choice) = .ok q.request
          ↔ ∃ r, assign p.request f.setting f.value = .ok r
            ∧ assignAll r (fs.map Flag.choice) = .ok q.request := by
        rw [List.map_cons, Flag.choice, assignAll]
        cases assign p.request f.setting f.value <;> simp [Except.bind]
      rw [enterAll_cons_eq_ok_iff, hassign, List.map_cons, List.nodup_cons, List.reverse_cons,
        List.append_assoc, List.forall_mem_cons]
      constructor
      · rintro ⟨p', henter, hrest⟩
        obtain ⟨hnew, r, hr, rfl⟩ := enter_eq_ok_iff.1 henter
        obtain ⟨hdistinct, hothers, hall, hgiven, hpending⟩ := (ih rfl).1 hrest
        refine ⟨⟨fun hf => ?_, hdistinct⟩, ⟨hnew, fun g hg hmem => ?_⟩, ⟨r, hr, hall⟩, hgiven,
          hpending⟩
        · obtain ⟨g, hg, hsame⟩ := List.mem_map.1 hf
          exact hothers g hg (hsame ▸ List.mem_cons_self)
        · exact hothers g hg (List.mem_cons_of_mem _ hmem)
      · rintro ⟨⟨hf, hdistinct⟩, ⟨hnew, hothers⟩, ⟨r, hr, hall⟩, hgiven, hpending⟩
        refine ⟨_, enter_eq_ok_iff.2 ⟨hnew, r, hr, rfl⟩, (ih rfl).2 ⟨hdistinct, ?_, hall, hgiven,
          hpending⟩⟩
        intro g hg hmem
        rcases List.mem_cons.1 hmem with hsame | hmem
        · exact hf (List.mem_map.2 ⟨g, hg, hsame⟩)
        · exact hothers g hg hmem

end Progress

/-- A value is looked at there and then. -/
theorem start_attached
    (p : Progress)
    (f : Flag) :
    start p f.setting (some f.value)
      = match p.settle with
        | .error e => .refuse e
        | .ok p =>
            match p.enter f with
            | .ok p => .goOn p
            | .error e => .refuse e :=
  rfl

/-- Behind a flag that waits for its value no other flag is read. -/
theorem argument_of_waiting
    {p : Progress}
    {reason : Refusal}
    (hwaiting : p.settle = .error reason)
    {value : Bytes}
    (hflag : ¬ IsPlain value) :
    (∃ reason, argument p value = .refuse reason) ∨ argument p value = .onlyValues p := by
  have hstart : ∀ s v, start p s v = .refuse reason := by
    intro s v
    simp only [start, hwaiting]
  have hhelp : startHelp p = .refuse reason := by
    simp only [startHelp, hwaiting]
  match value with
  | [] => exact absurd (.inl (by simp)) hflag
  | [_] => exact absurd (.inl (by simp)) hflag
  | a :: b :: rest =>
      have ha : a = dash :=
        Decidable.byContradiction fun ha => hflag (.inr (by simpa using ha))
      simp only [argument, ha, ne_eq, not_true, if_false]
      by_cases hb : b = dash
      · simp only [hb, not_true, if_false]
        split
        · exact .inr rfl
        · refine .inl ?_
          simp only [longArgument, hstart, hhelp]
          split
          · exact ⟨_, rfl⟩
          · split
            · split <;> exact ⟨_, rfl⟩
            · exact ⟨_, rfl⟩
      · simp only [hb, not_false_eq_true, if_true]
        refine .inl ?_
        simp only [shortArgument, hstart, hhelp]
        split
        · exact ⟨_, rfl⟩
        · split
          · exact ⟨_, rfl⟩
          · split <;> exact ⟨_, rfl⟩

theorem readArguments_of_waiting
    {p : Progress}
    {reason : Refusal}
    (hwaiting : p.settle = .error reason)
    {value : Bytes}
    (hflag : ¬ IsPlain value)
    (args : List Bytes)
    (q : Progress) :
    readArguments (value :: args) p ≠ .done q := by
  rw [readArguments]
  rcases argument_of_waiting hwaiting hflag with ⟨_, hrefuse⟩ | honly
  · rw [hrefuse]
    simp
  · rw [honly]
    cases args <;> simp [hwaiting]

/-- A flag stands in front of its value: the value is taken unless it looks like a flag. -/
theorem readArguments_apart
    {f : Flag}
    {name : Bytes}
    (hname : ∀ p, argument p name = start p f.setting none)
    {p q : Progress}
    {args : List Bytes} :
    readArguments (name :: f.value :: args) p = .done q
      ↔ IsPlain f.value ∧ ∃ p', p.settle = .ok p'
        ∧ readArguments args { p' with pending := some (f.setting, some f.value) } = .done q := by
  rw [readArguments, hname, start]
  cases p.settle with
  | error e => simp
  | ok p' =>
      simp only [Except.ok.injEq, exists_eq_left']
      by_cases hplain : IsPlain f.value
      · rw [readArguments, argument_plain hplain]
        simp only [plainArgument, hplain, true_and]
      · simp only [hplain, false_and, iff_false]
        exact readArguments_of_waiting rfl hplain args q

/-- A flag with its value in one argument. -/
theorem readArguments_attached
    {f : Flag}
    {arg : Bytes}
    (harg : ∀ p, argument p arg = start p f.setting (some f.value))
    {p q : Progress}
    {args : List Bytes} :
    readArguments (arg :: args) p = .done q
      ↔ ∃ p', p.settle = .ok p'
        ∧ ∃ p'', p'.enter f = .ok p'' ∧ readArguments args p'' = .done q := by
  rw [readArguments, harg, start_attached]
  cases p.settle with
  | error e => simp
  | ok p' =>
      simp only [Except.ok.injEq, exists_eq_left']
      cases p'.enter f <;> simp

theorem settle_of_enter
    {p q : Progress}
    {f : Flag}
    (h : p.enter f = .ok q) :
    q.settle = .ok q := by
  obtain ⟨_, _, _, rfl⟩ := Progress.enter_eq_ok_iff.1 h
  rfl

/-- A value of its own is looked at when the next flag is, and an attached one at once. -/
theorem apart_or_attached
    (f : Flag) :
    (∃ name, f.arguments = [name, f.value] ∧ ∀ p, argument p name = start p f.setting none)
      ∨ ∃ arg, f.arguments = [arg] ∧ ∀ p, argument p arg = start p f.setting (some f.value) := by
  obtain ⟨setting, value, arguments, spelling⟩ := f
  cases spelling with
  | apart => exact .inl ⟨_, rfl, fun p => argument_longFlag p setting⟩
  | attached => exact .inr ⟨_, rfl, fun p => argument_longFlag_attached p setting value⟩
  | letterApart hletter =>
      refine .inl ⟨_, rfl, fun p => ?_⟩
      simpa [attached] using argument_letterFlag p hletter []
  | letterAttached hletter =>
      exact .inr ⟨_, rfl, fun p => argument_letterFlag p hletter (equals :: value)⟩
  | letterJoined hletter hne hequals =>
      refine .inr ⟨_, rfl, fun p => ?_⟩
      rw [argument_letterFlag p hletter, attached_of_head? hne hequals]

/-- The flags are read one after another. -/
theorem readArguments_eq_done_iff
    {fs : List Flag}
    {p q : Progress} :
    readArguments (fs.flatMap Flag.arguments) p = .done q
      ↔ (∀ f ∈ fs, f.IsReadable) ∧ ∃ p', p.settle = .ok p' ∧ p'.enterAll fs = .ok q := by
  induction fs generalizing p with
  | nil =>
      rw [List.flatMap_nil, readArguments]
      cases p.settle <;> simp [Progress.enterAll]
  | cons f fs ih =>
      simp only [List.flatMap_cons, List.forall_mem_cons, Progress.enterAll_cons_eq_ok_iff]
      rcases apart_or_attached f with ⟨name, hargs, hname⟩ | ⟨arg, hargs, harg⟩
      · have hreadable : f.IsReadable ↔ IsPlain f.value := by
          simp [Flag.IsReadable, hargs]
        rw [hargs, List.cons_append, List.singleton_append, readArguments_apart hname, hreadable]
        simp only [ih]
        constructor
        · rintro ⟨hplain, p', hp', hreadables, hrest⟩
          exact ⟨⟨hplain, hreadables⟩, p', hp', hrest⟩
        · rintro ⟨⟨hplain, hreadables⟩, p', hp', hrest⟩
          exact ⟨hplain, p', hp', hreadables, hrest⟩
      · have hreadable : f.IsReadable := by
          simp [Flag.IsReadable, hargs]
        rw [hargs, List.singleton_append, readArguments_attached harg]
        simp only [ih, hreadable, true_and]
        constructor
        · rintro ⟨p', hp', p'', henter, hreadables, last, hsettle, hrest⟩
          rw [settle_of_enter henter] at hsettle
          obtain rfl := Except.ok.inj hsettle
          exact ⟨hreadables, p', hp', p'', henter, hrest⟩
        · rintro ⟨hreadables, p', hp', p'', henter, hrest⟩
          exact ⟨p', hp', p'', henter, hreadables, p'', settle_of_enter henter, hrest⟩

/-! ## The environment -/

/-- The values of the variables that count. -/
def fallbacks (env : Environment) (given settings : List Setting) : List (Setting × Bytes) :=
  settings.filterMap fun s =>
    (if given.contains s then none else env.lookup s.environmentName).map (s, ·)

/-- Reading the environment assigns the variables of all settings that are not given yet. -/
theorem readEnvironment_eq
    (env : Environment)
    (settings : List Setting)
    (p : Progress) :
    readEnvironment env settings p = assignAll p.request (fallbacks env p.given settings) := by
  induction settings generalizing p with
  | nil => rfl
  | cons s rest ih =>
      rw [readEnvironment, fallbacks, List.filterMap_cons]
      cases (if p.given.contains s then none else env.lookup s.environmentName) with
      | none => exact ih p
      | some value =>
          simp only [Option.map_some, assignAll]
          cases assign p.request s value with
          | error e => rfl
          | ok r => exact ih { p with request := r }

/-! ## What counts -/

/-- The value that counts for a setting: the one of its flag, or else the one of its variable. -/
def value? (flags : List Flag) (env : Environment) (s : Setting) : Option Bytes :=
  match flags.find? (·.setting = s) with
  | some f => some f.value
  | none => env.lookup s.environmentName

/-- The values that count, in the order in which they are read. -/
def choices (flags : List Flag) (env : Environment) : List (Setting × Bytes) :=
  flags.map Flag.choice ++ fallbacks env (flags.map Flag.setting).reverse Setting.all

section

variable {flags : List Flag} {env : Environment} {s : Setting} {value : Bytes}

theorem mem_all
    (s : Setting) :
    s ∈ Setting.all := by
  cases s <;> decide

/-- A variable is a fallback just if its setting is not given on the command line. -/
theorem mem_fallbacks_iff
    {given : List Setting} :
    (s, value) ∈ fallbacks env given Setting.all
      ↔ s ∉ given ∧ env.lookup s.environmentName = some value := by
  simp only [fallbacks, List.mem_filterMap, Option.map_eq_some_iff, Prod.mk.injEq]
  constructor
  · rintro ⟨t, _, v, hv, rfl, rfl⟩
    split at hv
    · cases hv
    · next hgiven => exact ⟨by simpa using hgiven, hv⟩
  · rintro ⟨hgiven, hlookup⟩
    refine ⟨s, mem_all s, value, ?_, rfl, rfl⟩
    rw [if_neg (by simpa using hgiven), hlookup]

/-- A setting has the value of its flag, and without a flag that of its variable. -/
theorem value?_eq_some_iff
    (hdistinct : (flags.map Flag.setting).Nodup) :
    value? flags env s = some value
      ↔ (∃ f ∈ flags, f.setting = s ∧ f.value = value)
        ∨ s ∉ flags.map Flag.setting ∧ env.lookup s.environmentName = some value := by
  unfold value?
  cases hfind : flags.find? (·.setting = s) with
  | none =>
      have hnone : ∀ f ∈ flags, f.setting ≠ s := by simpa using hfind
      have hnot : s ∉ flags.map Flag.setting := by simpa using hnone
      have hno : ¬ ∃ f ∈ flags, f.setting = s ∧ f.value = value :=
        fun ⟨f, hf, hs, _⟩ => hnone f hf hs
      simp only [hno, hnot, not_false_eq_true, true_and, false_or]
  | some f =>
      have hf := List.mem_of_find?_eq_some hfind
      have hs : f.setting = s := by simpa using List.find?_some hfind
      have hgiven : s ∈ flags.map Flag.setting := List.mem_map.2 ⟨f, hf, hs⟩
      simp only [Option.some.injEq, hgiven, not_true, false_and, or_false]
      constructor
      · rintro rfl
        exact ⟨f, hf, hs, rfl⟩
      · rintro ⟨g, hg, hgs, rfl⟩
        rw [List.inj_on_of_nodup_map hdistinct hf hg (hs.trans hgs.symm)]

theorem mem_choices_iff
    (hdistinct : (flags.map Flag.setting).Nodup) :
    (s, value) ∈ choices flags env ↔ value? flags env s = some value := by
  rw [value?_eq_some_iff hdistinct, choices, List.mem_append, mem_fallbacks_iff,
    List.mem_reverse, List.mem_map]
  simp only [Flag.choice, Prod.mk.injEq]

theorem not_mem_map_choices_iff
    (hdistinct : (flags.map Flag.setting).Nodup) :
    s ∉ (choices flags env).map Prod.fst ↔ value? flags env s = none := by
  rw [Option.eq_none_iff_forall_ne_some]
  simp only [ne_eq, ← mem_choices_iff hdistinct, List.mem_map, Prod.exists, exists_and_right,
    exists_eq_right, not_exists]

theorem fallbacks_sublist
    (env : Environment)
    (given settings : List Setting) :
    ((fallbacks env given settings).map Prod.fst).Sublist settings := by
  induction settings with
  | nil => exact .slnil
  | cons s rest ih =>
      rw [fallbacks, List.filterMap_cons]
      cases (if given.contains s then none else env.lookup s.environmentName) with
      | none => exact ih.cons s
      | some value => exact ih.cons_cons s

/-- No setting is chosen twice. -/
theorem nodup_choices
    (env : Environment)
    (hdistinct : (flags.map Flag.setting).Nodup) :
    ((choices flags env).map Prod.fst).Nodup := by
  have hall : Setting.all.Nodup := by decide
  have hflags : (flags.map Flag.choice).map Prod.fst = flags.map Flag.setting :=
    List.map_map
  rw [choices, List.map_append, hflags, List.nodup_append]
  refine ⟨hdistinct, hall.sublist (fallbacks_sublist env _ _), ?_⟩
  intro s hs t ht hsame
  subst hsame
  obtain ⟨⟨_, value⟩, hmem, rfl⟩ := List.mem_map.1 ht
  exact (mem_fallbacks_iff.1 hmem).1 (List.mem_reverse.2 hs)

/-- Assignments one after another are made in two parts. -/
theorem assignAll_append
    {r r' : Request}
    {before after : List (Setting × Bytes)} :
    assignAll r (before ++ after) = .ok r'
      ↔ ∃ r'', assignAll r before = .ok r'' ∧ assignAll r'' after = .ok r' := by
  induction before generalizing r with
  | nil => simp [assignAll]
  | cons choice rest ih =>
      obtain ⟨s, value⟩ := choice
      rw [List.cons_append, assignAll_cons_eq_ok_iff]
      simp only [ih, assignAll_cons_eq_ok_iff]
      constructor
      · rintro ⟨d, hd, r'', hbefore, hafter⟩
        exact ⟨r'', ⟨d, hd, hbefore⟩, hafter⟩
      · rintro ⟨r'', ⟨d, hd, hbefore⟩, hafter⟩
        exact ⟨d, hd, r'', hbefore, hafter⟩

end

/-- A command line is accepted if its values can be taken in turn. -/
theorem parse_eq_request_iff_assignAll
    {flags : List Flag}
    {env : Environment}
    {r : Request} :
    parse (flags.flatMap Flag.arguments) env = .request r
      ↔ (∀ f ∈ flags, f.IsReadable) ∧ (flags.map Flag.setting).Nodup
        ∧ assignAll defaults (choices flags env) = .ok r := by
  have hparse : parse (flags.flatMap Flag.arguments) env = .request r
      ↔ ∃ q, readArguments (flags.flatMap Flag.arguments) ⟨defaults, [], none⟩ = .done q
        ∧ readEnvironment env Setting.all q = .ok r := by
    rw [parse]
    cases readArguments (flags.flatMap Flag.arguments) ⟨defaults, [], none⟩ with
    | done q =>
        cases hread : readEnvironment env Setting.all q <;> simp [hread]
    | help => simp
    | refused reason => simp
  rw [hparse, choices, assignAll_append]
  simp only [readArguments_eq_done_iff, readEnvironment_eq]
  constructor
  · rintro ⟨q, ⟨hreadable, p, hp, henter⟩, hlast⟩
    obtain rfl := Except.ok.inj hp
    obtain ⟨hdistinct, _, hfirst, hgiven, _⟩ := (Progress.enterAll_eq_ok_iff rfl).1 henter
    rw [hgiven, List.append_nil] at hlast
    exact ⟨hreadable, hdistinct, q.request, hfirst, hlast⟩
  · rintro ⟨hreadable, hdistinct, r'', hfirst, hlast⟩
    refine ⟨⟨r'', (flags.map Flag.setting).reverse, none⟩, ⟨hreadable, _, rfl, ?_⟩, hlast⟩
    refine (Progress.enterAll_eq_ok_iff rfl).2 ⟨hdistinct, ?_, hfirst, ?_, rfl⟩
    · exact fun f _ => List.not_mem_nil
    · exact (List.append_nil _).symm

/-- What an accepted command line asks for. -/
structure Asks (flags : List Flag) (env : Environment) (r : Request) : Prop where
  readable : ∀ f ∈ flags, f.IsReadable
  distinct : (flags.map Flag.setting).Nodup
  given : ∀ s value, value? flags env s = some value → s.read value = .ok (s.get r)
  absent : ∀ s, value? flags env s = none → s.get r = s.get defaults

/-- **Which command lines are accepted.** -/
theorem parse_eq_request_iff
    {flags : List Flag}
    {env : Environment}
    {r : Request} :
    parse (flags.flatMap Flag.arguments) env = .request r ↔ Asks flags env r := by
  have hassign : (flags.map Flag.setting).Nodup →
      (assignAll defaults (choices flags env) = .ok r
        ↔ (∀ s value, value? flags env s = some value → s.read value = .ok (s.get r))
          ∧ ∀ s, value? flags env s = none → s.get r = s.get defaults) := by
    intro hdistinct
    rw [assignAll_eq_ok_iff (nodup_choices env hdistinct)]
    simp only [mem_choices_iff hdistinct, not_mem_map_choices_iff hdistinct]
  rw [parse_eq_request_iff_assignAll]
  constructor
  · rintro ⟨hreadable, hdistinct, hall⟩
    obtain ⟨hgiven, habsent⟩ := (hassign hdistinct).1 hall
    exact ⟨hreadable, hdistinct, hgiven, habsent⟩
  · rintro ⟨hreadable, hdistinct, hgiven, habsent⟩
    exact ⟨hreadable, hdistinct, (hassign hdistinct).2 ⟨hgiven, habsent⟩⟩

theorem value?_perm
    {flags flags' : List Flag}
    (hperm : flags'.Perm flags)
    (hdistinct : (flags.map Flag.setting).Nodup)
    (env : Environment)
    (s : Setting) :
    value? flags' env s = value? flags env s := by
  have hsettings := hperm.map Flag.setting
  refine Option.ext fun value => ?_
  rw [value?_eq_some_iff (hsettings.nodup_iff.2 hdistinct), value?_eq_some_iff hdistinct]
  simp only [hperm.mem_iff, hsettings.mem_iff]

/-- The order of the flags does not matter. -/
theorem parse_perm
    {flags flags' : List Flag}
    (hperm : flags'.Perm flags)
    {env : Environment}
    {r : Request}
    (h : parse (flags.flatMap Flag.arguments) env = .request r) :
    parse (flags'.flatMap Flag.arguments) env = .request r := by
  obtain ⟨hreadable, hdistinct, hgiven, habsent⟩ := parse_eq_request_iff.1 h
  refine parse_eq_request_iff.2 ⟨?_, ?_, ?_, ?_⟩
  · exact fun f hf => hreadable f (hperm.mem_iff.1 hf)
  · exact (hperm.map Flag.setting).nodup_iff.2 hdistinct
  · intro s value hvalue
    exact hgiven s value (value?_perm hperm hdistinct env s ▸ hvalue)
  · intro s hnone
    exact habsent s (value?_perm hperm hdistinct env s ▸ hnone)

end CommandLine
end LiveNotebooks
