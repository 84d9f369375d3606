import LiveNotebooks.Proofs.Json.Shape
import LiveNotebooks.Proofs.Json.Tokens
import Mathlib.Data.List.Forall2

/-!
# What a text means

The forms of a text, without any reader: where a value may stand, what it is, and what is left
behind it.  Numerals and strings are taken as `readNumber` and `readText` take them; all that is
built from them is described here.

**Embedded texts.**  The parameter `embedded?` tells what becomes of an object whose first key
is `embeddingKey`.  With `none` it is an object like any other, which is the literal meaning of
the text.  With a relation it is the value of the text that is embedded, and with the empty
relation it may not occur at all.

**Results.**
* `collapse_concat`: how one more member changes an object.
* `valueForm_unique`: a text has one meaning.
* `valueForm_of_plain`: without embedded texts all meanings agree.
* `exists_isLiteral`: a text that has a meaning has a literal one, and the same one if that is
  regular.
-/

namespace LiveNotebooks
namespace Json

/-- Which values may stand at the front of a text, blanks before them allowed, and what is
left behind them. -/
abbrev Form (α : Type) := Bytes → α → Bytes → Prop

/-! ## Objects -/

/-- The members of an object, given all members that are written: the keys in the order in
which they appear first, each with the value that is written for it last. -/
def collapse (written : Members) : Members :=
  (written.map Prod.fst).eraseDups.map fun key =>
    (key, (written.reverse.lookup key).getD .null)

theorem map_fst_collapse
    (written : Members) :
    (collapse written).map Prod.fst = (written.map Prod.fst).eraseDups := by
  rw [collapse, List.map_map]
  exact List.map_id _

/-- One more member changes the value of its key, or comes last with a new one. -/
theorem collapse_concat
    (written : Members)
    (key : String)
    (v : Value) :
    collapse (written ++ [(key, v)]) = (addMember (collapse written).reverse key v).reverse := by
  have hvalue : ∀ k, ((written ++ [(key, v)]).reverse.lookup k).getD .null
      = if k = key then v else (written.reverse.lookup k).getD .null := by
    intro k
    rw [List.reverse_append, List.reverse_singleton, List.singleton_append, List.lookup_cons]
    by_cases hk : k = key
    · simp [hk]
    · rw [if_neg hk, beq_false_of_ne hk]
  have hany : (collapse written).reverse.any (fun m => m.1 == key) = true
      ↔ key ∈ written.map Prod.fst := by
    rw [← List.mem_eraseDups, ← map_fst_collapse]
    simp
  have hnew : collapse (written ++ [(key, v)])
      = (written.map Prod.fst ++ [key]).eraseDups.map fun k =>
        (k, if k = key then v else (written.reverse.lookup k).getD .null) := by
    rw [collapse, List.map_append]
    exact List.map_congr_left fun k _ => congrArg (k, ·) (hvalue k)
  rw [hnew, List.eraseDups_append, List.map_append, addMember]
  by_cases hkey : key ∈ written.map Prod.fst
  · have hnone : [key].removeAll (written.map Prod.fst) = [] := by
      simpa [List.removeAll] using hkey
    rw [if_pos (hany.2 hkey), hnone, List.map_reverse, List.reverse_reverse, collapse, List.map_map]
    refine (List.append_nil _).trans (List.map_congr_left fun k _ => ?_)
    by_cases hk : k = key <;> simp [hk]
  · have hone : [key].removeAll (written.map Prod.fst) = [key] := by
      simpa [List.removeAll] using hkey
    rw [if_neg (mt hany.1 hkey), hone, List.reverse_cons, List.reverse_reverse, collapse]
    congr 1
    · refine List.map_congr_left fun k hk => ?_
      have hne : k ≠ key := fun he => hkey (he ▸ List.mem_eraseDups.1 hk)
      rw [if_neg hne]
    · simp [List.eraseDups_cons]

example :
    collapse [("a", .null), ("b", .null), ("a", .boolean true)]
      = [("a", .boolean true), ("b", .null)] := by
  rfl

/-! ## Forms -/

/-- A string in its quotes. -/
def textForm : Form String := fun text s rest =>
  ∃ tail, skipBlanks text = 0x22 :: tail ∧ readText (tail.length + 1) tail = .ok (s, rest)

/-- A key, a colon, and what stands behind it. -/
def memberForm {α : Type} (value : Form α) : Form (String × α) := fun text m rest =>
  ∃ mid after, textForm text m.1 mid ∧ skipBlanks mid = 0x3A :: after ∧ value after m.2 rest

/-- Where the next part begins: at once if it is the first one, else behind a comma. -/
def Next (first : Bool) (text next : Bytes) : Prop :=
  first = true ∧ text = next ∨ first = false ∧ skipBlanks text = 0x2C :: next

/-- Parts with commas between them, up to the closing bracket.  The flag is set in front of the
first part. -/
inductive Parts {α : Type} (part : Form α) (close : UInt8) : Bool → Form (List α)
  | none
      {first : Bool}
      {text rest : Bytes}
      (hclose : skipBlanks text = close :: rest) :
      Parts part close first text [] rest
  | more
      {first : Bool}
      {text next mid rest : Bytes}
      {a : α}
      {as : List α}
      (hnext : Next first text next)
      (hpart : part next a mid)
      (hrest : Parts part close false mid as rest) :
      Parts part close first text (a :: as) rest

/-- A value with parts of the given form.  Without one no list or object may be opened. -/
inductive ValueForm (embedded? : Option (Bytes → Value → Prop)) (part? : Option (Form Value)) :
    Form Value
  | null
      {text rest : Bytes}
      (h : skipBlanks text = 0x6E :: (nullTail ++ rest)) :
      ValueForm embedded? part? text .null rest
  | yes
      {text rest : Bytes}
      (h : skipBlanks text = 0x74 :: (trueTail ++ rest)) :
      ValueForm embedded? part? text (.boolean true) rest
  | no
      {text rest : Bytes}
      (h : skipBlanks text = 0x66 :: (falseTail ++ rest)) :
      ValueForm embedded? part? text (.boolean false) rest
  | number
      {text tail rest : Bytes}
      {b : UInt8}
      {n : Number}
      (h : skipBlanks text = b :: tail)
      (hb : b = 0x2D ∨ (Digits.value? b).isSome = true)
      (hread : readNumber (b :: tail) = .ok (n, rest)) :
      ValueForm embedded? part? text (.number n) rest
  | text
      {text tail rest : Bytes}
      {s : String}
      (h : skipBlanks text = 0x22 :: tail)
      (hread : readText (tail.length + 1) tail = .ok (s, rest)) :
      ValueForm embedded? part? text (.text s) rest
  | array
      {part : Form Value}
      {text tail rest : Bytes}
      {items : List Value}
      (h : skipBlanks text = 0x5B :: tail)
      (hpart : part? = some part)
      (hitems : Parts part 0x5D true tail items rest) :
      ValueForm embedded? part? text (.array items) rest
  | object
      {part : Form Value}
      {text tail rest : Bytes}
      {written : Members}
      (h : skipBlanks text = 0x7B :: tail)
      (hpart : part? = some part)
      (hwritten : Parts (memberForm part) 0x7D true tail written rest)
      (hfirst : embedded?.isSome = true → written.head?.map Prod.fst ≠ some embeddingKey) :
      ValueForm embedded? part? text (.object (collapse written)) rest
  /-- The only member holds the embedded text. -/
  | embedded
      {embedded : Bytes → Value → Prop}
      {text tail rest : Bytes}
      {s : String}
      {v : Value}
      (h : skipBlanks text = 0x7B :: tail)
      (hembedded : embedded? = some embedded)
      (hpart : part?.isSome = true)
      (hwritten : Parts (memberForm textForm) 0x7D true tail [(embeddingKey, s)] rest)
      (hv : embedded (Utf8.encode s) v) :
      ValueForm embedded? part? text v rest

/-- A value that opens at most the given number of levels. -/
def valueForm (embedded? : Option (Bytes → Value → Prop)) : Nat → Form Value
  | 0 => ValueForm embedded? none
  | levels + 1 => ValueForm embedded? (some (valueForm embedded? levels))

/-- A whole text that means a value, and opens at most `maxLevels` levels. -/
def Means (embedded? : Option (Bytes → Value → Prop)) (text : Bytes) (v : Value) : Prop :=
  ∃ rest, valueForm embedded? maxLevels text v rest ∧ skipBlanks rest = []

/-! ## One meaning -/

/-- Nothing of this form stands where the closing bracket does. -/
def Avoids {α : Type} (part : Form α) (close : UInt8) : Prop :=
  ∀ text a rest, part text a rest → ∀ tail, skipBlanks text ≠ close :: tail

/-- A text has at most one meaning of this form. -/
def Unique {α : Type} (form : Form α) : Prop :=
  ∀ text a a' rest rest', form text a rest → form text a' rest' → a = a' ∧ rest = rest'

/-- Where something of the first form stands, something of the second form does, and the two are
related. -/
def Covers {α β : Type} (R : α → β → Prop) (form : Form α) (form' : Form β) : Prop :=
  ∀ text a rest, form text a rest → ∃ b, form' text b rest ∧ R a b

/-- What a text literally is that means a value: an object if this is one, and the same if it is
regular. -/
structure IsLiteral (v v' : Value) : Prop where
  isObject : v.isObject = true → v'.isObject = true
  eq : v'.IsRegular → v' = v

section

variable {α : Type} {part part' : Form α} {part? : Option (Form Value)} {close : UInt8}

theorem avoids_memberForm
    (value : Form α) :
    Avoids (memberForm value) 0x7D := by
  rintro text m rest ⟨_, _, ⟨_, hquote, _⟩, _⟩ tail hclose
  exact absurd (List.cons.inj (hquote.symm.trans hclose)).1 (by decide)

theorem avoids_valueForm
    (embedded? : Option (Bytes → Value → Prop))
    (part? : Option (Form Value)) :
    Avoids (ValueForm embedded? part?) 0x5D := by
  intro text v rest h tail hclose
  cases h with
  | number h hb =>
      obtain ⟨rfl, _⟩ := List.cons.inj (h.symm.trans hclose)
      exact absurd hb (by decide)
  | _ h => exact absurd (List.cons.inj (h.symm.trans hclose)).1 (by decide)

theorem unique_textForm :
    Unique textForm := by
  rintro text s s' rest rest' ⟨tail, h, hread⟩ ⟨tail', h', hread'⟩
  obtain ⟨-, rfl⟩ := List.cons.inj (h.symm.trans h')
  exact Prod.mk.inj (Except.ok.inj (hread.symm.trans hread'))

theorem unique_memberForm
    (hpart : Unique part) :
    Unique (memberForm part) := by
  rintro text ⟨key, a⟩ ⟨key', a'⟩ rest rest' ⟨mid, after, hkey, hcolon, ha⟩
    ⟨mid', after', hkey', hcolon', ha'⟩
  obtain ⟨rfl, rfl⟩ := unique_textForm _ _ _ _ _ hkey hkey'
  obtain ⟨-, rfl⟩ := List.cons.inj (hcolon.symm.trans hcolon')
  obtain ⟨rfl, rfl⟩ := hpart _ _ _ _ _ ha ha'
  exact ⟨rfl, rfl⟩

theorem Next.unique
    {first : Bool}
    {text next next' : Bytes}
    (h : Next first text next)
    (h' : Next first text next') :
    next = next' := by
  rcases h with ⟨rfl, rfl⟩ | ⟨rfl, hcomma⟩
  · rcases h' with ⟨_, rfl⟩ | ⟨hfirst, _⟩
    · rfl
    · cases hfirst
  · rcases h' with ⟨hfirst, _⟩ | ⟨_, hcomma'⟩
    · cases hfirst
    · exact (List.cons.inj (hcomma.symm.trans hcomma')).2

/-- Where the next part begins, the list is not closed. -/
theorem Next.not_close
    {first : Bool}
    {text next mid tail : Bytes}
    {a : α}
    (h : Next first text next)
    (havoids : Avoids part close)
    (hcomma : close ≠ 0x2C)
    (ha : part next a mid) :
    skipBlanks text ≠ close :: tail := by
  rcases h with ⟨_, rfl⟩ | ⟨_, hafter⟩
  · exact havoids _ _ _ ha tail
  · intro hclose
    exact absurd (List.cons.inj (hclose.symm.trans hafter)).1 hcomma

/-- The parts of a bracket, and what is left behind them, can be told in one way only. -/
theorem unique_parts
    (hpart : Unique part)
    (havoids : Avoids part close)
    (hcomma : close ≠ 0x2C)
    (first : Bool) :
    Unique (Parts part close first) := by
  intro text as as' rest rest' h h'
  induction h generalizing as' with
  | none hclose =>
      cases h' with
      | none hclose' => exact ⟨rfl, (List.cons.inj (hclose.symm.trans hclose')).2⟩
      | more hnext ha _ => exact absurd hclose (hnext.not_close havoids hcomma ha)
  | more hnext ha _ ih =>
      cases h' with
      | none hclose => exact absurd hclose (hnext.not_close havoids hcomma ha)
      | more hnext' ha' hrest' =>
          obtain rfl := hnext.unique hnext'
          obtain ⟨rfl, rfl⟩ := hpart _ _ _ _ _ ha ha'
          obtain ⟨rfl, rfl⟩ := ih _ hrest'
          exact ⟨rfl, rfl⟩

/-- The first byte tells the kind of a value.  A number has no first byte of its own, but
shares none with the other kinds. -/
theorem unique_valueForm
    (hpart : ∀ part, part? = some part → Unique part ∧ Avoids part 0x5D) :
    Unique (ValueForm none part?) := by
  intro text v v' rest rest' h h'
  have hsame : ∀ {b b' : UInt8} {tail tail' : Bytes}, skipBlanks text = b :: tail →
      skipBlanks text = b' :: tail' → b = b' ∧ tail = tail' :=
    fun h h' => List.cons.inj (h.symm.trans h')
  have hnumber : ∀ {b b' : UInt8} {tail tail' : Bytes}, skipBlanks text = b :: tail →
      skipBlanks text = b' :: tail' → ¬ (b = 0x2D ∨ (Digits.value? b).isSome = true) →
      ¬ (b' = 0x2D ∨ (Digits.value? b').isSome = true) := by
    intro b b' tail tail' h h' hb
    rwa [← (hsame h h').1]
  cases h with
  | null h =>
      cases h' with
      | null h' => exact ⟨rfl, List.append_cancel_left (hsame h h').2⟩
      | number h' hb => exact absurd hb (hnumber h h' (by decide))
      | _ h' => exact absurd (hsame h h').1 (by decide)
  | yes h =>
      cases h' with
      | yes h' => exact ⟨rfl, List.append_cancel_left (hsame h h').2⟩
      | number h' hb => exact absurd hb (hnumber h h' (by decide))
      | _ h' => exact absurd (hsame h h').1 (by decide)
  | no h =>
      cases h' with
      | no h' => exact ⟨rfl, List.append_cancel_left (hsame h h').2⟩
      | number h' hb => exact absurd hb (hnumber h h' (by decide))
      | _ h' => exact absurd (hsame h h').1 (by decide)
  | number h hb hread =>
      cases h' with
      | number h' _ hread' =>
          obtain ⟨rfl, rfl⟩ := hsame h h'
          obtain ⟨rfl, rfl⟩ := Prod.mk.inj (Except.ok.inj (hread.symm.trans hread'))
          exact ⟨rfl, rfl⟩
      | _ h' => exact absurd hb (hnumber h' h (by decide))
  | text h hread =>
      cases h' with
      | text h' hread' =>
          obtain ⟨-, rfl⟩ := hsame h h'
          obtain ⟨rfl, rfl⟩ := Prod.mk.inj (Except.ok.inj (hread.symm.trans hread'))
          exact ⟨rfl, rfl⟩
      | number h' hb => exact absurd hb (hnumber h h' (by decide))
      | _ h' => exact absurd (hsame h h').1 (by decide)
  | array h hsome hitems =>
      cases h' with
      | array h' hsome' hitems' =>
          obtain ⟨-, rfl⟩ := hsame h h'
          obtain rfl := Option.some.inj (hsome.symm.trans hsome')
          obtain ⟨hunique, havoids⟩ := hpart _ hsome
          obtain ⟨rfl, rfl⟩ :=
            unique_parts hunique havoids (by decide) true _ _ _ _ _ hitems hitems'
          exact ⟨rfl, rfl⟩
      | number h' hb => exact absurd hb (hnumber h h' (by decide))
      | _ h' => exact absurd (hsame h h').1 (by decide)
  | object h hsome hwritten =>
      cases h' with
      | object h' hsome' hwritten' =>
          obtain ⟨-, rfl⟩ := hsame h h'
          obtain rfl := Option.some.inj (hsome.symm.trans hsome')
          obtain ⟨rfl, rfl⟩ := unique_parts (unique_memberForm (hpart _ hsome).1)
            (avoids_memberForm _) (by decide) true _ _ _ _ _ hwritten hwritten'
          exact ⟨rfl, rfl⟩
      | number h' hb => exact absurd hb (hnumber h h' (by decide))
      | embedded _ hembedded => cases hembedded
      | _ h' => exact absurd (hsame h h').1 (by decide)
  | embedded _ hembedded => cases hembedded

theorem avoids_valueForm_levels
    (embedded? : Option (Bytes → Value → Prop))
    (levels : Nat) :
    Avoids (valueForm embedded? levels) 0x5D := by
  cases levels <;> exact avoids_valueForm _ _

theorem valueForm_unique
    (levels : Nat) :
    Unique (valueForm none levels) := by
  induction levels with
  | zero => exact unique_valueForm (by simp)
  | succ levels ih =>
      refine unique_valueForm fun part hpart => ?_
      obtain rfl := Option.some.inj hpart
      exact ⟨ih, avoids_valueForm_levels none levels⟩

/-- A text has one literal meaning. -/
theorem means_unique
    {text : Bytes}
    {v v' : Value}
    (h : Means none text v)
    (h' : Means none text v') :
    v = v' := by
  obtain ⟨_, h, _⟩ := h
  obtain ⟨_, h', _⟩ := h'
  exact (valueForm_unique maxLevels _ _ _ _ _ h h').1

/-! ## Other meanings -/

theorem Parts.mono
    {first : Bool}
    {text rest : Bytes}
    {as : List α}
    (hpart : ∀ text a rest, part text a rest → part' text a rest)
    (h : Parts part close first text as rest) :
    Parts part' close first text as rest := by
  induction h with
  | none hclose => exact .none hclose
  | more hnext ha _ ih => exact .more hnext (hpart _ _ _ ha) ih

theorem memberForm_mono
    (hpart : ∀ text a rest, part text a rest → part' text a rest)
    (text : Bytes)
    (m : String × α)
    (rest : Bytes)
    (h : memberForm part text m rest) :
    memberForm part' text m rest := by
  obtain ⟨mid, after, hkey, hcolon, ha⟩ := h
  exact ⟨mid, after, hkey, hcolon, hpart _ _ _ ha⟩

/-- Without embedded texts a value is the same in all meanings. -/
theorem ValueForm.of_plain
    {part?' : Option (Form Value)}
    {text rest : Bytes}
    {v : Value}
    (hpart : ∀ part, part? = some part → ∃ part', part?' = some part'
      ∧ ∀ text v rest, part text v rest → part' text v rest)
    (embedded? : Option (Bytes → Value → Prop))
    (h : ValueForm (some fun _ _ => False) part? text v rest) :
    ValueForm embedded? part?' text v rest := by
  cases h with
  | null h => exact .null h
  | yes h => exact .yes h
  | no h => exact .no h
  | number h hb hread => exact .number h hb hread
  | text h hread => exact .text h hread
  | array h hsome hitems =>
      obtain ⟨part', hsome', hmono⟩ := hpart _ hsome
      exact .array h hsome' (hitems.mono hmono)
  | object h hsome hwritten hfirst =>
      obtain ⟨part', hsome', hmono⟩ := hpart _ hsome
      exact .object h hsome' (hwritten.mono (memberForm_mono hmono)) fun _ => hfirst rfl
  | embedded _ hembedded _ _ hv =>
      obtain rfl := Option.some.inj hembedded
      exact hv.elim

theorem valueForm_of_plain
    (embedded? : Option (Bytes → Value → Prop))
    (levels : Nat)
    (text : Bytes)
    (v : Value)
    (rest : Bytes)
    (h : valueForm (some fun _ _ => False) levels text v rest) :
    valueForm embedded? levels text v rest := by
  induction levels generalizing text v rest with
  | zero => exact h.of_plain (by simp) embedded?
  | succ levels ih =>
      refine ValueForm.of_plain (fun part hpart => ?_) embedded? h
      obtain rfl := Option.some.inj hpart
      exact ⟨_, rfl, ih⟩

theorem covers_memberForm
    {β : Type}
    {R : α → β → Prop}
    {value' : Form β}
    (h : Covers R part value') :
    Covers (fun m m' => m.1 = m'.1 ∧ R m.2 m'.2) (memberForm part) (memberForm value') := by
  rintro text m rest ⟨mid, after, hkey, hcolon, ha⟩
  obtain ⟨a', ha', hrelated⟩ := h _ _ _ ha
  exact ⟨(m.1, a'), ⟨mid, after, hkey, hcolon, ha'⟩, rfl, hrelated⟩

theorem covers_parts
    {β : Type}
    {R : α → β → Prop}
    {value' : Form β}
    (hpart : Covers R part value')
    (first : Bool) :
    Covers (List.Forall₂ R) (Parts part close first) (Parts value' close first) := by
  intro text as rest h
  induction h with
  | none hclose => exact ⟨[], .none hclose, .nil⟩
  | more hnext ha _ ih =>
      obtain ⟨a', ha', hrelated⟩ := hpart _ _ _ ha
      obtain ⟨as', has', hall⟩ := ih
      exact ⟨a' :: as', .more hnext ha' has', .cons hrelated hall⟩

theorem covers_textForm
    (embedded? : Option (Bytes → Value → Prop))
    (levels : Nat) :
    Covers (fun _ _ => True) textForm (valueForm embedded? levels) := by
  rintro text s rest ⟨tail, h, hread⟩
  cases levels <;> exact ⟨.text s, .text h hread, trivial⟩

/-! ## Literal meanings -/

theorem IsLiteral.refl
    (v : Value) :
    IsLiteral v v :=
  ⟨id, fun _ => rfl⟩

/-- Lists are taken literally item by item. -/
theorem isLiteral_array
    {items items' : List Value}
    (h : List.Forall₂ IsLiteral items items') :
    IsLiteral (.array items) (.array items') := by
  refine ⟨id, fun hregular => congrArg Value.array ?_⟩
  cases hregular with
  | array hitems =>
      induction h with
      | nil => rfl
      | cons hv _ ih =>
          rw [List.forall_mem_cons] at hitems
          rw [hv.eq hitems.1, ih hitems.2]

/-- The values that are written last for a key. -/
theorem lookup_of_isLiteral
    {written written' : Members}
    (h : List.Forall₂ (fun m m' => m.1 = m'.1 ∧ IsLiteral m.2 m'.2) written written')
    (key : String) :
    IsLiteral ((written.lookup key).getD .null) ((written'.lookup key).getD .null) := by
  induction h with
  | nil => exact .refl _
  | @cons m m' written written' hm _ ih =>
      obtain ⟨hkey, hv⟩ := hm
      rw [List.lookup_cons, List.lookup_cons, hkey]
      split
      · exact hv
      · exact ih

/-- Objects are taken literally member by member, before the last value of each key is kept. -/
theorem isLiteral_collapse
    {written written' : Members}
    (h : List.Forall₂ (fun m m' => m.1 = m'.1 ∧ IsLiteral m.2 m'.2) written written') :
    IsLiteral (.object (collapse written)) (.object (collapse written')) := by
  have hkeys : written'.map Prod.fst = written.map Prod.fst := by
    induction h with
    | nil => rfl
    | cons hm _ ih => rw [List.map_cons, List.map_cons, hm.1, ih]
  refine ⟨id, fun hregular => congrArg Value.object ?_⟩
  cases hregular with
  | object _ _ hmembers =>
      simp only [collapse, hkeys] at hmembers ⊢
      refine List.map_congr_left fun key hkey => ?_
      have hvalue := lookup_of_isLiteral (List.forall₂_reverse_iff.2 h) key
      rw [hvalue.eq (hmembers _ (List.mem_map.2 ⟨key, hkey, rfl⟩))]

/-- What has a meaning has a literal one.  An embedded text is literally an object with one
member, which is not regular. -/
theorem ValueForm.exists_literal
    {embedded? : Option (Bytes → Value → Prop)}
    {part?' : Option (Form Value)}
    {text rest : Bytes}
    {v : Value}
    (hpart : ∀ part, part? = some part → ∃ part', part?' = some part'
      ∧ Covers IsLiteral part part' ∧ Covers (fun _ _ => True) textForm part')
    (h : ValueForm embedded? part? text v rest) :
    ∃ v', ValueForm none part?' text v' rest ∧ IsLiteral v v' := by
  cases h with
  | null h => exact ⟨_, .null h, .refl _⟩
  | yes h => exact ⟨_, .yes h, .refl _⟩
  | no h => exact ⟨_, .no h, .refl _⟩
  | number h hb hread => exact ⟨_, .number h hb hread, .refl _⟩
  | text h hread => exact ⟨_, .text h hread, .refl _⟩
  | array h hsome hitems =>
      obtain ⟨part', hsome', hcovers, _⟩ := hpart _ hsome
      obtain ⟨_, hitems', hall⟩ := covers_parts hcovers true _ _ _ hitems
      exact ⟨_, .array h hsome' hitems', isLiteral_array hall⟩
  | object h hsome hwritten =>
      obtain ⟨part', hsome', hcovers, _⟩ := hpart _ hsome
      obtain ⟨_, hwritten', hall⟩ := covers_parts (covers_memberForm hcovers) true _ _ _ hwritten
      exact ⟨_, .object h hsome' hwritten' (by simp), isLiteral_collapse hall⟩
  | embedded h _ hsome hwritten =>
      obtain ⟨part, hsome⟩ := Option.isSome_iff_exists.1 hsome
      obtain ⟨part', hsome', _, hcovers⟩ := hpart _ hsome
      obtain ⟨written', hwritten', hall⟩ :=
        covers_parts (covers_memberForm hcovers) true _ _ _ hwritten
      refine ⟨_, .object h hsome' hwritten' (by simp), fun _ => rfl, fun hregular => ?_⟩
      cases hregular with
      | object _ hfirst _ =>
          obtain _ | ⟨⟨hkey, _⟩, _ | _⟩ := hall
          rw [map_fst_collapse] at hfirst
          exact absurd hkey.symm (by simpa [List.eraseDups_cons] using hfirst)

theorem exists_literal_valueForm
    {embedded? : Option (Bytes → Value → Prop)}
    {levels : Nat}
    {text rest : Bytes}
    {v : Value}
    (h : valueForm embedded? levels text v rest) :
    ∃ v', valueForm none levels text v' rest ∧ IsLiteral v v' := by
  induction levels generalizing text v rest with
  | zero => exact h.exists_literal (by simp)
  | succ levels ih =>
      refine ValueForm.exists_literal (fun part hpart => ?_) h
      obtain rfl := Option.some.inj hpart
      exact ⟨_, rfl, fun _ _ _ hv => ih hv, covers_textForm none levels⟩

end

section

variable {text : Bytes} {v : Value}

theorem means_of_plain
    (embedded? : Option (Bytes → Value → Prop))
    (h : Means (some fun _ _ => False) text v) :
    Means embedded? text v :=
  h.imp fun _ h => ⟨valueForm_of_plain embedded? _ _ _ _ h.1, h.2⟩

theorem exists_isLiteral
    {embedded? : Option (Bytes → Value → Prop)}
    (h : Means embedded? text v) :
    ∃ v', Means none text v' ∧ IsLiteral v v' := by
  obtain ⟨rest, h, hrest⟩ := h
  obtain ⟨v', hv', hliteral⟩ := exists_literal_valueForm h
  exact ⟨v', ⟨rest, hv', hrest⟩, hliteral⟩

/-- What means an object is literally one. -/
theorem exists_literal
    {embedded? : Option (Bytes → Value → Prop)}
    (h : Means embedded? text v) :
    ∃ v', Means none text v' ∧ (v.isObject = true → v'.isObject = true) :=
  (exists_isLiteral h).imp fun _ hv' => ⟨hv'.1, hv'.2.isObject⟩

end

end Json
end LiveNotebooks
