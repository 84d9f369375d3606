import LiveNotebooks.Proofs.CommandLine.Acceptance
import LiveNotebooks.Proofs.Json.Objects
import LiveNotebooks.Proofs.Text.Decoding

/-!
# Where a configuration comes from

A configuration is made from a command line with its environment, or read from an object.  Both
have the same settings with the same defaults; an object has numbers where a command line has
numerals.

**Results.**
* `natAbs_eq_numeral`: which number a numeral of the command line stands for.
* `exists_field`: what is read for a setting from its value is what its field reads from its member.
* `sources_agree`: a command line asks for the configuration that the object with the same settings
  stands for.
-/

namespace LiveNotebooks
namespace CommandLine

open Json

/-! ## Numerals -/

/-- The number of the digits behind the sign, if there is one. -/
def numeral (s : List Char) : Nat :=
  Nat.ofDigitChars 10 (s.dropWhile fun c => c = '+' || c = '-') 0

/-- The digits stand in the code from `0` on. -/
theorem digit?_eq_some
    {c : Char}
    {d : Nat}
    (h : SocketAddress.digit? 10 c = some d) :
    48 ≤ c.toNat ∧ d = c.toNat - 48 := by
  have htable : ∀ n < 128, ∀ e < 10, Digits.hexValue? n.toUInt8 = some e → 48 ≤ n ∧ e = n - 48 := by
    decide
  unfold SocketAddress.digit? at h
  split at h
  · next e he =>
      split at he
      · next hascii =>
          split at h
          · next hlt =>
              obtain rfl := Option.some.inj h
              exact htable c.toNat hascii e hlt he
          · cases h
      · cases he
  · cases h

/-- A text of digits is read as the number that it writes. -/
theorem digits_eq_some
    {cs : List Char}
    {ds : List Nat}
    (h : SocketAddress.digits 10 cs = some (ds, []))
    (n : Nat) :
    (∀ c ∈ cs, 48 ≤ c.toNat)
      ∧ ds.foldl (fun n d => n * 10 + d) n = Nat.ofDigitChars 10 cs n := by
  induction cs generalizing ds n with
  | nil =>
      cases h
      simp
  | cons c cs ih =>
      rw [SocketAddress.digits] at h
      split at h
      · next d hd =>
          obtain ⟨⟨ds, rest⟩, hrest, hsame⟩ := Option.map_eq_some_iff.1 h
          obtain ⟨rfl, rfl⟩ := Prod.mk.inj hsame
          obtain ⟨hc, rfl⟩ := digit?_eq_some hd
          obtain ⟨hcs, hvalue⟩ := ih hrest (n * 10 + (c.toNat - 48))
          refine ⟨List.forall_mem_cons.2 ⟨hc, hcs⟩, ?_⟩
          rw [List.foldl_cons, hvalue, Nat.ofDigitChars_cons, Nat.mul_comm]
          rfl
      · cases h

/-- No digit is taken for a sign. -/
theorem numeral_of_digits
    {cs : List Char}
    (h : ∀ c ∈ cs, 48 ≤ c.toNat) :
    numeral cs = Nat.ofDigitChars 10 cs 0 := by
  cases cs with
  | nil => rfl
  | cons c cs =>
      have hc := h c List.mem_cons_self
      have hplus : c ≠ '+' := by
        rintro rfl
        exact absurd hc (by decide)
      have hminus : c ≠ '-' := by
        rintro rfl
        exact absurd hc (by decide)
      rw [numeral, List.dropWhile_cons_of_neg (by simp [hplus, hminus])]

/-- An unsigned number is read as its digits say. -/
theorem unsigned?_eq_some
    {s : List Char}
    {n : Nat}
    (h : unsigned? s = some n) :
    n = numeral s := by
  have hsign : numeral s = numeral (if s.head? = some '+' then s.tail else s) := by
    split
    · next hplus =>
        obtain ⟨cs, rfl⟩ := List.head?_eq_some_iff.1 hplus
        rfl
    · rfl
  unfold unsigned? at h
  simp only at h
  split at h
  · next hread =>
      obtain ⟨hcs, hvalue⟩ := digits_eq_some hread 0
      rw [← Option.some.inj h, hvalue, hsign, numeral_of_digits hcs]
  · cases h

/-- The sign of a number does not change its magnitude. -/
theorem natAbs_eq_numeral
    {s : List Char}
    {i : Int}
    (h : signed? s = some i) :
    i.natAbs = numeral s := by
  unfold signed? at h
  split at h
  · next rest =>
      split at h
      · cases h
      · obtain ⟨n, hn, rfl⟩ : ∃ n, unsigned? rest = some n ∧ -(n : Int) = i := by
          simpa [Option.bind_eq_some_iff] using h
        rw [Int.natAbs_neg, Int.natAbs_natCast, unsigned?_eq_some hn]
        rfl
  · obtain ⟨n, hn, rfl⟩ : ∃ n, unsigned? s = some n ∧ (n : Int) = i := by
      simpa [Option.bind_eq_some_iff] using h
    rw [Int.natAbs_natCast, unsigned?_eq_some hn]

theorem textValue_encode
    (text : String) :
    textValue (Utf8.encode text) = .ok text := by
  rw [textValue, Utf8.decode?_eq_some_iff.2 rfl]

/-- A natural number is read as it is written, and it is below the bound. -/
theorem natural_eq_ok
    {s : Setting}
    {bound n : Nat}
    {text : String}
    (h : (textValue (Utf8.encode text)).bind (natural s bound) = .ok n) :
    n = numeral text.toList ∧ n < bound := by
  rw [textValue_encode, Except.bind, natural] at h
  split at h
  · next hn =>
      split at h
      · next hlt =>
          obtain rfl := Except.ok.inj h
          exact ⟨unsigned?_eq_some hn, hlt⟩
      · cases h
  · cases h

/-- A number in a range is read as it is written, and it is below the bound. -/
theorem ranged_eq_ok
    {s : Setting}
    {bound n : Nat}
    {text : String}
    (h : (textValue (Utf8.encode text)).bind (ranged s bound) = .ok n) :
    n = numeral text.toList ∧ n < bound := by
  rw [textValue_encode, Except.bind, ranged] at h
  split at h
  · next i hi =>
      split at h
      · next hlt =>
          obtain rfl := Except.ok.inj h
          simp only [Bool.and_eq_true, decide_eq_true_eq] at hlt
          have habs := natAbs_eq_numeral hi
          omega
      · cases h
  · cases h

/-! ## Members -/

namespace Setting

/-- The name of a setting in an object. -/
def key? : Setting → Option String
  | .address => none
  | .notebookDirectory => some "notebook_dir"
  | .interpreter => some "interpreter"
  | .converterScript => some "converter_script"
  | .author => some "author"
  | .convertTimeout => some "convert_timeout_secs"
  | .convertRetries => some "convert_retries"
  | .scanConcurrency => some "scan_concurrency"
  | .reloadDebounce => some "reload_debounce_ms"
  | .staticDirectory => some "static_dir"

/-- The value of a setting in an object: a number for a numeral, and else the text. -/
def toValue (s : Setting) (text : String) : Value :=
  match s with
  | .convertTimeout | .convertRetries | .scanConcurrency | .reloadDebounce =>
      .number (.integer (numeral text.toList))
  | _ => .text text

def member? (s : Setting) (text : String) : Option (String × Value) :=
  s.key?.map (·, s.toValue text)

end Setting

/-- The members of the object that has just some settings. -/
def members (texts : Setting → Option String) : Members :=
  Setting.all.filterMap fun s => (texts s).bind s.member?

theorem eq_of_key?
    {s t : Setting}
    {key : String}
    (hs : s.key? = some key)
    (ht : t.key? = some key) :
    s = t := by
  cases s <;> cases t <;> first | rfl | (cases hs; revert ht; decide) | cases hs

/-! ## Fields -/

/-- Wherever the value stands, it is read as this. -/
def Accepts {α : Type} (reader : PartReader α) (v : Value) (a : α) : Prop :=
  ∀ fuel levels text rest, text.length < fuel → valueForm none (maxLevels - 1) text v rest →
    reader fuel levels text = .ok (a, rest)

section

variable {α : Type} {reader : PartReader α} {v : Value} {a : α}

theorem accepts_readDenoting
    {wanted : String}
    {denote : String → Except String α}
    {s : String}
    (h : denote s = .ok a) :
    Accepts (readDenoting wanted denote) (.text s) a := by
  intro fuel levels text rest hfuel hv
  cases hv with
  | text hquote hread =>
      have htext : textForm text s rest := ⟨_, hquote, hread⟩
      simp only [readDenoting, (readStringValue_eq_ok_iff hfuel).2 htext, h]
  | embedded _ hembedded => cases hembedded

theorem accepts_readNatural
    {wanted : String}
    {bound n : Nat}
    (h : n < bound) :
    Accepts (readNatural wanted bound) (.number (.integer n)) n := by
  intro fuel levels text rest hfuel hv
  cases hv with
  | number hskip hb hread =>
      have hlt : (n : Int) < bound := Int.ofNat_lt.2 h
      simp only [readNatural, hskip, Bool.or_eq_true, decide_eq_true_eq, hb, if_true, hread,
        Int.natCast_nonneg, decide_true, hlt, Bool.and_self, Int.toNat_natCast]
  | embedded _ hembedded => cases hembedded

/-- Only `null` begins with its first letter. -/
theorem ne_of_not_null
    {levels : Nat}
    {text tail rest : Bytes}
    {b : UInt8}
    (hnull : v ≠ .null)
    (hv : valueForm none (levels + 1) text v rest)
    (hskip : skipBlanks text = b :: tail) :
    b ≠ 0x6E := by
  rintro rfl
  cases hv with
  | null => exact hnull rfl
  | number h hb =>
      obtain ⟨rfl, _⟩ := List.cons.inj (hskip.symm.trans h)
      exact absurd hb (by decide)
  | embedded _ hembedded => cases hembedded
  | _ h => exact absurd (List.cons.inj (hskip.symm.trans h)).1 (by decide)

/-- Whether there is a value is told by the first byte. -/
theorem accepts_readOptional
    (h : Accepts reader v a)
    (hnull : v ≠ .null) :
    Accepts (readOptional reader) v (some a) := by
  intro fuel levels text rest hfuel hv
  have hskip : skipBlanks (skipBlanks text) = skipBlanks text := skipBlanks_skipBlanks text
  have hlength := length_skipBlanks_le text
  have hread := h fuel levels (skipBlanks text) rest (by omega)
    (((isPart_valueForm none (maxLevels - 1)).blanks text v rest).2 hv)
  unfold readOptional
  cases hfirst : skipBlanks text with
  | nil =>
      rw [hfirst] at hread
      simp only [hread]
      rfl
  | cons b tail =>
      have hb : b ≠ 0x6E := ne_of_not_null hnull hv hfirst
      rw [hfirst] at hread
      simp only [hb, if_false, hread]
      rfl

theorem takes_setting
    (h : Accepts reader v a)
    (name : String)
    (set : Configuration → α → Configuration)
    (draft : Configuration.Draft) :
    (Configuration.setting name reader set).Takes draft v
      ⟨set draft.settings a, name :: draft.given⟩ := by
  intro fuel levels text rest hfuel hv
  simp only [Configuration.setting, h fuel levels text rest hfuel hv]
  rfl

end

theorem pathValue_eq_ok
    {s : Setting}
    {value : Bytes}
    {p : Path}
    (h : pathValue s value = .ok p) :
    p = value := by
  unfold pathValue at h
  split at h
  · cases h
  · exact (Except.ok.inj h).symm

theorem map_some_eq_ok
    {α : Type}
    {x : Except Refusal α}
    {d : Option α}
    (h : x.map some = .ok d) :
    ∃ a, x = .ok a ∧ d = some a := by
  cases x with
  | error e => cases h
  | ok a => exact ⟨a, rfl, (Except.ok.inj h).symm⟩

/-- A value that is read for a setting stands in an object as its member, and is read from there
by the field of the setting. -/
theorem exists_field
    {s : Setting}
    {key text : String}
    {d : s.Datum}
    (hkey : s.key? = some key)
    (hread : s.read (Utf8.encode text) = .ok d) :
    ∃ field, Configuration.schema.fields.find? (fun f => f.name == key) = some field
      ∧ field.name = key
      ∧ ∀ draft : Configuration.Draft, field.isGiven draft = draft.given.contains key
        ∧ ∀ address, field.Takes draft (s.toValue text)
          ⟨(s.set d ⟨address, draft.settings⟩).configuration, key :: draft.given⟩ := by
  cases s with
  | address => cases hkey
  | notebookDirectory | converterScript =>
      obtain rfl := Option.some.inj hkey
      obtain rfl := pathValue_eq_ok hread
      refine ⟨_, rfl, rfl, fun draft => ⟨rfl, fun _ => takes_setting ?_ _ _ draft⟩⟩
      exact accepts_readDenoting rfl
  | interpreter | author =>
      obtain rfl := Option.some.inj hkey
      obtain rfl := Except.ok.inj ((textValue_encode text).symm.trans hread)
      refine ⟨_, rfl, rfl, fun draft => ⟨rfl, fun _ => takes_setting ?_ _ _ draft⟩⟩
      exact accepts_readDenoting rfl
  | convertTimeout =>
      obtain rfl := Option.some.inj hkey
      obtain ⟨n, hn, rfl⟩ := map_some_eq_ok hread
      obtain ⟨rfl, hlt⟩ := natural_eq_ok hn
      refine ⟨_, rfl, rfl, fun draft => ⟨rfl, fun _ => takes_setting ?_ _ _ draft⟩⟩
      exact accepts_readOptional (accepts_readNatural hlt) (by simp [Setting.toValue])
  | convertRetries =>
      obtain rfl := Option.some.inj hkey
      obtain ⟨rfl, hlt⟩ := ranged_eq_ok hread
      refine ⟨_, rfl, rfl, fun draft => ⟨rfl, fun _ => takes_setting ?_ _ _ draft⟩⟩
      exact accepts_readNatural hlt
  | scanConcurrency | reloadDebounce =>
      obtain rfl := Option.some.inj hkey
      obtain ⟨rfl, hlt⟩ := natural_eq_ok hread
      refine ⟨_, rfl, rfl, fun draft => ⟨rfl, fun _ => takes_setting ?_ _ _ draft⟩⟩
      exact accepts_readNatural hlt
  | staticDirectory =>
      obtain rfl := Option.some.inj hkey
      obtain ⟨p, hp, rfl⟩ := map_some_eq_ok hread
      obtain rfl := pathValue_eq_ok hp
      refine ⟨_, rfl, rfl, fun draft => ⟨rfl, fun _ => takes_setting ?_ _ _ draft⟩⟩
      exact accepts_readOptional (accepts_readDenoting rfl) (by simp [Setting.toValue])

theorem set_configuration
    {s : Setting}
    {key : String}
    (hkey : s.key? = some key)
    (d : s.Datum)
    (address : SocketAddress)
    (c : Configuration) :
    ⟨address, (s.set d ⟨address, c⟩).configuration⟩ = s.set d ⟨address, c⟩ := by
  cases s <;> first | rfl | cases hkey

/-- The members of an object that stand for what a request says are gathered into a configuration
that says the same, and what it said before for all other settings. -/
theorem exists_gathers
    {written : Members}
    {r : Request}
    (hdistinct : (written.map Prod.fst).Nodup)
    (hmembers : ∀ m ∈ written, ∃ s text, Setting.member? s text = some m
      ∧ s.read (Utf8.encode text) = .ok (s.get r))
    (draft : Configuration.Draft)
    (hnew : ∀ m ∈ written, m.1 ∉ draft.given) :
    ∃ draft', Configuration.schema.Gathers draft written draft'
      ∧ (∀ s key, Setting.key? s = some key → key ∈ written.map Prod.fst →
        s.get ⟨r.address, draft'.settings⟩ = s.get r)
      ∧ ∀ s, (∀ key, Setting.key? s = some key → key ∉ written.map Prod.fst) →
        s.get ⟨r.address, draft'.settings⟩ = s.get ⟨r.address, draft.settings⟩ := by
  induction written generalizing draft with
  | nil => exact ⟨draft, .nil draft, by simp, fun _ _ => rfl⟩
  | cons m ms ih =>
      rw [List.forall_mem_cons] at hmembers hnew
      rw [List.map_cons, List.nodup_cons] at hdistinct
      obtain ⟨s, text, hm, hread⟩ := hmembers.1
      obtain ⟨key, hkey, rfl⟩ := Option.map_eq_some_iff.1 hm
      obtain ⟨field, hfield, rfl, htakes⟩ := exists_field hkey hread
      let next : Configuration.Draft :=
        ⟨(s.set (s.get r) ⟨r.address, draft.settings⟩).configuration, field.name :: draft.given⟩
      have hsettings : (⟨r.address, next.settings⟩ : Request)
          = s.set (s.get r) ⟨r.address, draft.settings⟩ := set_configuration hkey _ _ _
      have hgiven : field.isGiven draft = false := by
        rw [(htakes draft).1, List.contains_eq_mem, decide_eq_false hnew.1]
      have hlater : ∀ m ∈ ms, m.1 ∉ next.given := by
        intro m hm hmem
        rcases List.mem_cons.1 hmem with hsame | hmem
        · exact hdistinct.1 (List.mem_map.2 ⟨m, hm, hsame⟩)
        · exact hnew.2 m hm hmem
      obtain ⟨draft', hgathers, hselected, hothers⟩ := ih hdistinct.2 hmembers.2 next hlater
      refine ⟨draft', .cons field hfield hgiven ((htakes draft).2 r.address) hgathers, ?_, ?_⟩
      · intro t key ht hmem
        rcases List.mem_cons.1 hmem with rfl | hmem
        · obtain rfl := eq_of_key? hkey ht
          rw [hothers s fun k hk hmem => hdistinct.1 (Option.some.inj (hk.symm.trans hkey) ▸ hmem),
            hsettings, Setting.get_set]
        · exact hselected t key ht hmem
      · intro t ht
        have hne : t ≠ s := fun he => ht field.name (he ▸ hkey) List.mem_cons_self
        rw [hothers t fun key hk hmem => ht key hk (List.mem_cons_of_mem _ hmem), hsettings,
          Setting.get_set_of_ne hne]

/-! ## Both ways -/

section

variable {texts : Setting → Option String} {m : String × Value}

theorem mem_members_iff :
    m ∈ members texts ↔ ∃ s text, texts s = some text ∧ Setting.member? s text = some m := by
  simp only [members, List.mem_filterMap, mem_all, true_and, Option.bind_eq_some_iff]

/-- An object of settings has no key twice. -/
theorem nodup_members
    (texts : Setting → Option String) :
    ((members texts).map Prod.fst).Nodup := by
  rw [members, List.map_filterMap]
  refine List.Nodup.filterMap (fun s t key hs ht => ?_) (show Setting.all.Nodup by decide)
  have hkey : ∀ u, key ∈ ((texts u).bind u.member?).map Prod.fst → u.key? = some key := by
    intro u hu
    simp only [Setting.member?, Option.mem_def, Option.map_eq_some_iff, Option.bind_eq_some_iff]
      at hu
    obtain ⟨_, ⟨_, _, _, hk, rfl⟩, rfl⟩ := hu
    exact hk
  exact eq_of_key? (hkey s hs) (hkey t ht)

/-- A setting has a member if it is selected. -/
theorem key_mem_iff
    {s : Setting}
    {key : String}
    (hkey : s.key? = some key) :
    key ∈ (members texts).map Prod.fst ↔ texts s ≠ none := by
  rw [List.mem_map, Option.ne_none_iff_exists']
  constructor
  · rintro ⟨m, hm, rfl⟩
    obtain ⟨t, text, ht, hmember⟩ := mem_members_iff.1 hm
    obtain ⟨_, hkey', rfl⟩ := Option.map_eq_some_iff.1 hmember
    exact ⟨text, eq_of_key? hkey hkey' ▸ ht⟩
  · rintro ⟨text, hs⟩
    exact ⟨(key, s.toValue text), mem_members_iff.2 ⟨s, text, hs,
      by rw [Setting.member?, hkey, Option.map_some]⟩, rfl⟩

end

/-- The value of a setting can be written and opens no levels. -/
theorem isWritable_toValue
    {s : Setting}
    {text : String}
    {d : s.Datum}
    (hread : s.read (Utf8.encode text) = .ok d) :
    (s.toValue text).IsRegular ∧ (s.toValue text).HoldsIntegers ∧ (s.toValue text).levels = 0 := by
  have hnumber : ∀ n : Nat, n < Nat.pow 2 64 → (Value.number (.integer n)).IsRegular
      ∧ (Value.number (.integer n)).HoldsIntegers ∧ (Value.number (.integer n)).levels = 0 :=
    fun n hn => ⟨.number _, .number ⟨by omega, Int.ofNat_lt.2 hn⟩, rfl⟩
  cases s with
  | convertTimeout =>
      obtain ⟨n, hn, rfl⟩ := map_some_eq_ok hread
      obtain ⟨rfl, hlt⟩ := natural_eq_ok hn
      exact hnumber _ hlt
  | convertRetries =>
      obtain ⟨rfl, hlt⟩ := ranged_eq_ok hread
      exact hnumber _ (Nat.lt_trans hlt (by decide))
  | scanConcurrency | reloadDebounce =>
      obtain ⟨rfl, hlt⟩ := natural_eq_ok hread
      exact hnumber _ hlt
  | _ => exact ⟨.text text, .text text, rfl⟩

section

variable {texts : Setting → Option String} {r : Request} {written : Members}

/-- What is gathered from the members of the selected settings is what a request says for these
settings, if it says the defaults for all others. -/
theorem gathers_selected
    (hread : ∀ s text, texts s = some text → s.read (Utf8.encode text) = .ok (s.get r))
    (hdefault : ∀ s, texts s = none → s.get r = s.get defaults)
    (hperm : written.Perm (members texts)) :
    ∃ given, Configuration.schema.Gathers {} written ⟨r.configuration, given⟩ := by
  have hkeys := hperm.map Prod.fst
  have hmembers : ∀ m ∈ written, ∃ s text, Setting.member? s text = some m
      ∧ s.read (Utf8.encode text) = .ok (s.get r) := by
    intro m hm
    obtain ⟨s, text, hs, hmember⟩ := mem_members_iff.1 (hperm.mem_iff.1 hm)
    exact ⟨s, text, hmember, hread s text hs⟩
  obtain ⟨⟨settings, given⟩, hgathers, hselected, hothers⟩ := exists_gathers
    (hkeys.nodup_iff.2 (nodup_members texts)) hmembers {} (fun _ _ => List.not_mem_nil)
  have hsame : (⟨r.address, settings⟩ : Request) = r := by
    refine Setting.ext_get fun s => ?_
    cases hkey : s.key? with
    | none => cases s <;> first | rfl | cases hkey
    | some key =>
        cases hs : texts s with
        | some text =>
            exact hselected s key hkey (hkeys.mem_iff.2 ((key_mem_iff hkey).2 (by simp [hs])))
        | none =>
            have hnot : ∀ k, s.key? = some k → k ∉ written.map Prod.fst :=
              fun k hk hmem => (key_mem_iff hk).1 (hkeys.mem_iff.1 hmem) hs
            have hblank : s.get ⟨r.address, {}⟩ = s.get defaults := by
              cases s <;> first | rfl | cases hkey
            rw [hothers s hnot, hdefault s hs, ← hblank]
  obtain rfl := congrArg Request.configuration hsame
  exact ⟨given, hgathers⟩

/-- The members of the selected settings can be written. -/
theorem isObjectOf_selected
    (hread : ∀ s text, texts s = some text → s.read (Utf8.encode text) = .ok (s.get r))
    (hperm : written.Perm (members texts))
    (layout : Layout) :
    IsObjectOf ((Value.object written).render layout) written := by
  have hwritable : ∀ m ∈ written, m.2.IsRegular ∧ m.2.HoldsIntegers ∧ m.2.levels = 0 := by
    intro m hm
    obtain ⟨s, text, hs, hmember⟩ := mem_members_iff.1 (hperm.mem_iff.1 hm)
    obtain ⟨_, _, rfl⟩ := Option.map_eq_some_iff.1 hmember
    exact isWritable_toValue (hread s text hs)
  refine isObjectOf_render (fun m hm => (hwritable m hm).1) (fun m hm => (hwritable m hm).2.1)
    (fun m hm => ?_) layout
  rw [(hwritable m hm).2.2]
  decide

end

/-- **A command line and an object stand for the same configuration.**  A command line is made of
flags, in any of their spellings, beside an environment.  The settings that it selects, by a flag or
by a variable or by both, have texts as their values; a flag counts before a variable.  If the
command line is accepted, then every object with just the members for these settings, however it is
written and in whatever order, is read as the configuration that the command line asks for, and
there are such objects in both layouts.  All other settings have their defaults, and the flags may
stand in any order. -/
theorem sources_agree
    {flags : List Flag}
    {env : Environment}
    {texts : Setting → Option String}
    {r : Request}
    (htexts : ∀ s, value? flags env s = (texts s).map Utf8.encode)
    (h : parse (flags.flatMap Flag.arguments) env = .request r) :
    (∀ text written, IsObjectOf text written → written.Perm (members texts) →
      Configuration.parse text = .ok r.configuration)
      ∧ (∀ (layout : Layout) (written : Members), written.Perm (members texts) →
        IsObjectOf ((Value.object written).render layout) written)
      ∧ (∀ s, texts s = none → s.get r = s.get defaults)
      ∧ ∀ flags' : List Flag, flags'.Perm flags →
        parse (flags'.flatMap Flag.arguments) env = .request r := by
  obtain ⟨_, _, hgiven, habsent⟩ := parse_eq_request_iff.1 h
  have hread : ∀ s text, texts s = some text → s.read (Utf8.encode text) = .ok (s.get r) := by
    intro s text hs
    exact hgiven s _ (by rw [htexts, hs, Option.map_some])
  have hdefault : ∀ s, texts s = none → s.get r = s.get defaults := by
    intro s hs
    exact habsent s (by rw [htexts, hs, Option.map_none])
  refine ⟨?_, ?_, hdefault, fun flags' hperm => parse_perm hperm h⟩
  · intro text written hobject hperm
    obtain ⟨given, hgathers⟩ := gathers_selected hread hdefault hperm
    exact Schema.parse_object hgathers rfl hobject
  · intro layout written hperm
    exact isObjectOf_selected hread hperm layout

/-- Two flags and three variables, of which one does not count. -/
def sampleFlags : List Flag :=
  [⟨.convertTimeout, Utf8.encode "+20", _, .apart⟩,
    ⟨.notebookDirectory, Utf8.encode "/srv", _, .letterJoined rfl (by decide) (by decide)⟩]

/-- The variables beside them. -/
def sampleEnvironment : Environment :=
  [("NOTEBOOK_AUTHOR", Utf8.encode "ann"), ("NOTEBOOK_CONVERT_TIMEOUT", Utf8.encode "5"),
    ("NOTEBOOK_STATIC_DIR", Utf8.encode "/www")]

/-- The values that count. -/
def sampleTexts : Setting → Option String
  | .convertTimeout => some "+20"
  | .notebookDirectory => some "/srv"
  | .author => some "ann"
  | .staticDirectory => some "/www"
  | _ => none

/-- What they ask for. -/
def sampleRequest : Request :=
  { defaults with
    configuration :=
      { notebookDirectory := Utf8.encode "/srv"
        author := "ann"
        convertTimeout := some 20
        staticDirectory := some (Utf8.encode "/www") } }

/-- Two flags and three variables, of which a flag takes the place of one. -/
theorem sources_agree_sample :
    (∀ s, value? sampleFlags sampleEnvironment s = (sampleTexts s).map Utf8.encode)
      ∧ parse (sampleFlags.flatMap Flag.arguments) sampleEnvironment = .request sampleRequest
      ∧ Configuration.parse ((Value.object (members sampleTexts)).render .indented)
        = .ok sampleRequest.configuration := by
  have htexts : ∀ s, value? sampleFlags sampleEnvironment s
      = (sampleTexts s).map Utf8.encode := by
    intro s
    cases s <;> rfl
  have hparse : parse (sampleFlags.flatMap Flag.arguments) sampleEnvironment
      = .request sampleRequest := by
    rfl
  obtain ⟨hobject, hwritten, _⟩ := sources_agree htexts hparse
  exact ⟨htexts, hparse, hobject _ _ (hwritten .indented _ (List.Perm.refl _)) (List.Perm.refl _)⟩

end CommandLine
end LiveNotebooks
