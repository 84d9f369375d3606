import LiveNotebooks.Proofs.Json.Grammar
import LiveNotebooks.Proofs.Json.RoundTrip

/-!
# Texts are read as they are meant

The reader of a whole text gives the value that the text means, with the values of embedded
texts in place, and refuses all other texts.

**Induction.**  Over the fuel, which grows by one from an embedded text to the text around it;
inside over the levels; and inside over the rounds of a loop.  The fuel is above the length of
the text, so it never runs out.

**Results.**
* `parse_eq_ok_iff`: what `parse` reads is what a text means.
* `means_render`: what a written value means.
-/

namespace LiveNotebooks
namespace Json

/-! ## Words and marks -/

section

variable {first : Bool} {text rest : Bytes}

/-- Blanks are skipped at one go. -/
theorem skipBlanks_skipBlanks
    (text : Bytes) :
    skipBlanks (skipBlanks text) = skipBlanks text := by
  induction text with
  | nil => rfl
  | cons b rest ih =>
      by_cases hb : isBlankByte b = true
      · have hskip : skipBlanks (b :: rest) = skipBlanks rest := List.dropWhile_cons_of_pos hb
        rw [hskip, ih]
      · have hstop : skipBlanks (b :: rest) = b :: rest := List.dropWhile_cons_of_neg hb
        rw [hstop, hstop]

theorem length_skipBlanks_le
    (text : Bytes) :
    (skipBlanks text).length ≤ text.length :=
  (List.dropWhile_suffix _).length_le

/-- A word is read just where it stands. -/
theorem readWord_eq_ok_iff
    {word : Bytes} :
    readWord word text = .ok rest ↔ text = word ++ rest := by
  induction word generalizing text with
  | nil => simp [readWord]
  | cons w word ih =>
      cases text with
      | nil => simp [readWord]
      | cons b text =>
          by_cases hb : w = b
          · simp [readWord, hb, ih]
          · simp [readWord, hb, Ne.symm hb]

theorem map_eq_ok_iff
    {α β : Type}
    {x : Except Fault α}
    {f : α → β}
    {b : β} :
    x.map f = .ok b ↔ ∃ a, x = .ok a ∧ f a = b := by
  cases x <;> simp [Except.map]

theorem map_readWord_eq_ok_iff
    {word : Bytes}
    {v w : Value} :
    (readWord word text).map (w, ·) = .ok (v, rest) ↔ text = word ++ rest ∧ w = v := by
  rw [map_eq_ok_iff]
  constructor
  · rintro ⟨after, hword, hsame⟩
    obtain ⟨rfl, rfl⟩ := Prod.mk.inj hsame
    exact ⟨readWord_eq_ok_iff.1 hword, rfl⟩
  · rintro ⟨hword, rfl⟩
    exact ⟨rest, readWord_eq_ok_iff.2 hword, rfl⟩

theorem nextItem_eq_false_iff :
    nextItem first text = .ok (false, rest)
      ↔ skipBlanks text = rest ∧ ∃ tail, rest = 0x5D :: tail := by
  unfold nextItem
  grind

theorem nextItem_eq_true_iff :
    nextItem first text = .ok (true, rest)
      ↔ ∃ next, Next first text next ∧ skipBlanks next = rest
        ∧ ∃ b tail, rest = b :: tail ∧ b ≠ 0x5D := by
  unfold nextItem Next
  cases first <;> grind

theorem closeList_eq_ok_iff :
    closeList text = .ok rest ↔ skipBlanks text = 0x5D :: rest := by
  unfold closeList
  grind

theorem nextKey_eq_false_iff :
    nextKey first text = .ok (false, rest)
      ↔ skipBlanks text = rest ∧ ∃ tail, rest = 0x7D :: tail := by
  unfold nextKey
  grind

theorem nextKey_eq_true_iff :
    nextKey first text = .ok (true, rest)
      ↔ ∃ next, Next first text next ∧ skipBlanks next = 0x22 :: rest := by
  unfold nextKey Next
  cases first <;> grind

theorem closeObject_eq_ok_iff :
    closeObject text = .ok rest ↔ skipBlanks text = 0x7D :: rest := by
  unfold closeObject
  grind

theorem readColon_eq_ok_iff :
    readColon text = .ok rest ↔ skipBlanks text = 0x3A :: rest := by
  unfold readColon
  grind

end

/-! ## Strings and members -/

/-- Up to a length of the text, the reader reads just what the form allows. -/
def ReadsAs {α : Type} (bound : Nat) (reader : Bytes → Reading α) (form : Form α) : Prop :=
  ∀ text, text.length < bound → ∀ a rest, reader text = .ok (a, rest) ↔ form text a rest

/-- What stands in a text is not empty. -/
def Shortens {α : Type} (form : Form α) : Prop :=
  ∀ text a rest, form text a rest → rest.length < text.length

/-- Blanks before a part do not matter, a part is not empty, and it does not begin with the
closing bracket. -/
structure IsPart {α : Type} (part : Form α) (close : UInt8) : Prop where
  blanks : ∀ text a rest, part (skipBlanks text) a rest ↔ part text a rest
  shortens : Shortens part
  avoids : Avoids part close

section

variable {bound fuel : Nat} {first : Bool} {text next tail mid rest : Bytes} {s key : String}
  {v : Value} {value : Bytes → Reading Value} {part : Form Value}

theorem length_tail_lt
    {b : UInt8}
    (h : skipBlanks text = b :: tail) :
    tail.length < text.length := by
  have hle := length_skipBlanks_le text
  rw [h] at hle
  exact hle

theorem length_lt_of_word
    {b : UInt8}
    {word : Bytes}
    (h : skipBlanks text = b :: (word ++ rest)) :
    rest.length < text.length := by
  have htail := length_tail_lt h
  rw [List.length_append] at htail
  omega

theorem textForm_iff
    (hquote : skipBlanks text = 0x22 :: tail)
    (hfuel : tail.length < fuel) :
    textForm text s rest ↔ readText fuel tail = .ok (s, rest) := by
  rw [readText_eq_of_lt hfuel]
  constructor
  · rintro ⟨tail', hquote', hread⟩
    obtain ⟨-, rfl⟩ := List.cons.inj (hquote.symm.trans hquote')
    exact hread
  · exact fun hread => ⟨tail, hquote, hread⟩

theorem length_lt_of_textForm
    (h : textForm text s rest) :
    (Utf8.encode s).length + rest.length + 1 < text.length := by
  obtain ⟨tail, hquote, hread⟩ := h
  have hskip := length_tail_lt hquote
  have htext := length_lt_of_readText hread
  omega

/-- A string is read just as its form tells, if there is fuel for it. -/
theorem readStringValue_eq_ok_iff
    {wanted : String}
    (hfuel : text.length < fuel) :
    readStringValue wanted fuel text = .ok (s, rest) ↔ textForm text s rest := by
  unfold readStringValue
  cases hskip : skipBlanks text with
  | nil => simp [textForm, hskip]
  | cons b tail =>
      have htail := length_tail_lt hskip
      by_cases hb : b = 0x22
      · subst hb
        rw [textForm_iff hskip (Nat.lt_trans htail hfuel)]
        simp
      · simp [textForm, hskip, hb]

/-- A colon may have blanks before it, and what follows it is read. -/
theorem bind_readColon_eq_ok_iff
    {α : Type}
    {reader : Bytes → Reading α}
    {a : α} :
    (readColon text).bind reader = .ok (a, rest)
      ↔ ∃ after, skipBlanks text = 0x3A :: after ∧ reader after = .ok (a, rest) := by
  cases h : readColon text with
  | error fault =>
      have hnone : ∀ after, skipBlanks text ≠ 0x3A :: after := by
        intro after hafter
        rw [readColon_eq_ok_iff.2 hafter] at h
        cases h
      simp [Except.bind, hnone]
  | ok after => simp [Except.bind, readColon_eq_ok_iff.1 h]

/-- A member behind its opening quote. -/
theorem memberForm_iff
    (hvalue : ReadsAs bound value part)
    (hquote : skipBlanks text = 0x22 :: tail)
    (hbound : text.length < bound)
    (hfuel : tail.length < fuel) :
    memberForm part text (key, v) rest
      ↔ ∃ mid, readText fuel tail = .ok (key, mid) ∧ readMemberValue value mid = .ok (v, rest) := by
  refine exists_congr fun mid => ?_
  rw [textForm_iff hquote hfuel, readMemberValue, bind_readColon_eq_ok_iff]
  constructor
  · rintro ⟨after, hkey, hcolon, hv⟩
    have hkeyLength := length_lt_of_readText hkey
    have hafter := length_tail_lt hcolon
    have htail := length_tail_lt hquote
    exact ⟨hkey, after, hcolon, (hvalue after (by omega) v rest).2 hv⟩
  · rintro ⟨hkey, after, hcolon, hv⟩
    have hkeyLength := length_lt_of_readText hkey
    have hafter := length_tail_lt hcolon
    have htail := length_tail_lt hquote
    exact ⟨after, hkey, hcolon, (hvalue after (by omega) v rest).1 hv⟩

theorem exists_quote
    {m : String × Value}
    (h : memberForm part text m rest) :
    ∃ tail, skipBlanks text = 0x22 :: tail := by
  obtain ⟨_, _, ⟨tail, hquote, _⟩, _⟩ := h
  exact ⟨tail, hquote⟩

theorem shortens_textForm :
    Shortens textForm := by
  intro text s rest h
  have hlength := length_lt_of_textForm h
  omega

theorem shortens_memberForm
    {α : Type}
    {part : Form α}
    (h : Shortens part) :
    Shortens (memberForm part) := by
  rintro text m rest ⟨mid, after, hkey, hcolon, ha⟩
  have hkeyLength := shortens_textForm _ _ _ hkey
  have hafter := length_tail_lt hcolon
  have haLength := h _ _ _ ha
  omega

/-! ## Lists and objects -/

theorem Next.length_le
    (h : Next first text next) :
    next.length ≤ text.length := by
  rcases h with ⟨_, rfl⟩ | ⟨_, hcomma⟩
  · exact Nat.le_refl _
  · exact Nat.le_of_lt (length_tail_lt hcomma)

theorem shortens_parts
    {α : Type}
    {part : Form α}
    {close : UInt8}
    (h : Shortens part)
    (first : Bool) :
    Shortens (Parts part close first) := by
  intro text as rest has
  induction has with
  | none hclose => exact length_tail_lt hclose
  | more hnext ha _ ih =>
      exact Nat.lt_of_lt_of_le (Nat.lt_trans ih (h _ _ _ ha)) hnext.length_le

/-- Where a part stands, something stands that does not close the list. -/
theorem IsPart.exists_skipBlanks
    (h : IsPart part 0x5D)
    (hv : part text v rest) :
    ∃ b tail, skipBlanks text = b :: tail ∧ b ≠ 0x5D := by
  cases hskip : skipBlanks text with
  | nil =>
      have hshort := h.shortens _ _ _ ((h.blanks _ _ _).2 hv)
      rw [hskip] at hshort
      exact absurd hshort (Nat.not_lt_zero _)
  | cons b tail => exact ⟨b, tail, rfl, fun hb => h.avoids _ _ _ hv tail (hb ▸ hskip)⟩

/-- The loop over the items reads them one after another. -/
theorem readItems_eq_ok_iff
    (hvalue : ReadsAs bound value part)
    (hpart : IsPart part 0x5D)
    (hbound : text.length < bound)
    (hfuel : text.length < fuel)
    (items : List Value) :
    readItems value fuel first items text = .ok (v, rest)
      ↔ ∃ vs, Parts part 0x5D first text vs rest ∧ v = .array (items.reverse ++ vs) := by
  induction fuel generalizing first items text with
  | zero => exact absurd hfuel (Nat.not_lt_zero _)
  | succ fuel ih =>
      rw [readItems]
      constructor
      · intro h
        split at h
        · cases h
        · next mid hround =>
            obtain ⟨hclose, tail, rfl⟩ := nextItem_eq_false_iff.1 hround
            rw [closeList_eq_ok_iff.2 rfl] at h
            obtain ⟨rfl, rfl⟩ := Prod.mk.inj (Except.ok.inj h)
            exact ⟨[], .none hclose, by rw [List.append_nil]⟩
        · next mid hround =>
            obtain ⟨next, hnext, rfl, _⟩ := nextItem_eq_true_iff.1 hround
            have hlength := hnext.length_le
            have hskip := length_skipBlanks_le next
            split at h
            · cases h
            · next w after hitem =>
                have hw := (hpart.blanks _ _ _).1 ((hvalue _ (by omega) _ _).1 hitem)
                have hafter := hpart.shortens _ _ _ hw
                obtain ⟨vs, hvs, rfl⟩ := (ih (by omega) (by omega) (w :: items)).1 h
                exact ⟨w :: vs, .more hnext hw hvs, by simp⟩
      · rintro ⟨vs, hvs, rfl⟩
        cases hvs with
        | none hclose =>
            rw [nextItem_eq_false_iff.2 ⟨hclose, _, rfl⟩]
            simp only
            rw [closeList_eq_ok_iff.2 rfl, List.append_nil]
            rfl
        | @more _ _ next mid _ w vs hnext hw hvs =>
            have hlength := hnext.length_le
            have hafter := hpart.shortens _ _ _ hw
            have hskip := length_skipBlanks_le next
            rw [nextItem_eq_true_iff.2 ⟨next, hnext, rfl, hpart.exists_skipBlanks hw⟩]
            simp only
            rw [(hvalue _ (by omega) _ _).2 ((hpart.blanks _ _ _).2 hw)]
            exact (ih (by omega) (by omega) (w :: items)).2 ⟨vs, hvs, by simp⟩

/-- The loop over the members reads them one after another, and keeps the last value of each
key. -/
theorem readMembers_eq_ok_iff
    {keyFuel : Nat}
    (hvalue : ReadsAs bound value part)
    (hpart : IsPart part 0x5D)
    (hbound : text.length < bound)
    (hkeyFuel : text.length < keyFuel)
    (hfuel : text.length < fuel)
    (before : Members) :
    readMembers value keyFuel fuel (collapse before).reverse text = .ok (v, rest)
      ↔ ∃ written, Parts (memberForm part) 0x7D false text written rest
        ∧ v = .object (collapse (before ++ written)) := by
  induction fuel generalizing before text with
  | zero => exact absurd hfuel (Nat.not_lt_zero _)
  | succ fuel ih =>
      rw [readMembers]
      constructor
      · intro h
        split at h
        · cases h
        · next mid hround =>
            obtain ⟨hclose, tail, rfl⟩ := nextKey_eq_false_iff.1 hround
            rw [closeObject_eq_ok_iff.2 rfl] at h
            obtain ⟨rfl, rfl⟩ := Prod.mk.inj (Except.ok.inj h)
            exact ⟨[], .none hclose, by rw [List.append_nil, List.reverse_reverse]⟩
        · next tail hround =>
            obtain ⟨next, hnext, hquote⟩ := nextKey_eq_true_iff.1 hround
            have hlength := hnext.length_le
            have htail := length_tail_lt hquote
            split at h
            · cases h
            · next key mid hkey =>
                split at h
                · cases h
                · next w after hw =>
                    have hm : memberForm part next (key, w) after :=
                      (memberForm_iff hvalue hquote (by omega) (by omega)).2 ⟨mid, hkey, hw⟩
                    have hafter := shortens_memberForm hpart.shortens _ _ _ hm
                    rw [← List.reverse_reverse (addMember _ _ _), ← collapse_concat] at h
                    obtain ⟨written, hwritten, rfl⟩ :=
                      (ih (by omega) (by omega) (by omega) _).1 h
                    exact ⟨(key, w) :: written, .more hnext hm hwritten, by simp⟩
      · rintro ⟨written, hwritten, rfl⟩
        cases hwritten with
        | none hclose =>
            rw [nextKey_eq_false_iff.2 ⟨hclose, _, rfl⟩]
            simp only
            rw [closeObject_eq_ok_iff.2 rfl, List.append_nil, List.reverse_reverse]
            rfl
        | @more _ _ next after _ m written hnext hm hwritten =>
            obtain ⟨key, w⟩ := m
            have hlength := hnext.length_le
            have hafter := shortens_memberForm hpart.shortens _ _ _ hm
            obtain ⟨tail, hquote⟩ := exists_quote hm
            have htail := length_tail_lt hquote
            have hkeyBound : tail.length < keyFuel := by omega
            obtain ⟨mid, hkey, hw⟩ := (memberForm_iff hvalue hquote (by omega) hkeyBound).1 hm
            rw [nextKey_eq_true_iff.2 ⟨next, hnext, hquote⟩]
            simp only [hkey, hw]
            rw [← List.reverse_reverse (addMember _ _ _), ← collapse_concat]
            exact (ih (by omega) (by omega) (by omega) _).2 ⟨written, hwritten, by simp⟩

/-! ## Values -/

/-- The readers read parts of the given form and embedded texts with the given meaning, in a
text that is shorter than the fuel. -/
structure PartReaders.ReadAs (readers : PartReaders) (fuel : Nat)
    (embedded : Bytes → Value → Prop) (part : Form Value) : Prop where
  isPart : IsPart part 0x5D
  part : ReadsAs fuel readers.part part
  embedded : ∀ text, text.length + 1 < fuel →
    ∀ v, readers.embedded text = .ok v ↔ embedded text v

theorem reverse_collapse_singleton
    (m : String × Value) :
    (collapse [m]).reverse = [m] := by
  obtain ⟨key, v⟩ := m
  simp [collapse, List.eraseDups_cons]

/-- An embedded text is read from the only member of an object, up to the closing brace. -/
theorem readEmbedded_eq_ok_iff
    (whole : Bytes → Except Error Value)
    (hfuel : text.length < fuel) :
    readEmbedded whole fuel text = .ok (v, rest)
      ↔ ∃ after s mid, skipBlanks text = 0x3A :: after ∧ textForm after s mid
        ∧ whole (Utf8.encode s) = .ok v ∧ skipBlanks mid = 0x7D :: rest := by
  rw [readEmbedded]
  constructor
  · intro h
    split at h
    · cases h
    · next s mid hread =>
        obtain ⟨after, hcolon, hs⟩ := bind_readColon_eq_ok_iff.1 hread
        have hafter := length_tail_lt hcolon
        split at h
        · cases h
        · next w hw =>
            obtain ⟨_, hclose, hsame⟩ := map_eq_ok_iff.1 h
            obtain ⟨rfl, rfl⟩ := Prod.mk.inj hsame
            exact ⟨after, s, mid, hcolon, (readStringValue_eq_ok_iff (by omega)).1 hs, hw,
              closeObject_eq_ok_iff.1 hclose⟩
  · rintro ⟨after, s, mid, hcolon, hs, hv, hclose⟩
    have hafter := length_tail_lt hcolon
    rw [bind_readColon_eq_ok_iff.2
      ⟨after, hcolon, (readStringValue_eq_ok_iff (Nat.lt_trans hafter hfuel)).2 hs⟩]
    simp only [hv, closeObject_eq_ok_iff.2 hclose]
    rfl

section

variable {readers : PartReaders} {embedded : Bytes → Value → Prop}

/-- The parts of an object are its members, or there is one which holds a text. -/
theorem form_of_readObject
    (h : readers.ReadAs fuel embedded part)
    (hfuel : text.length < fuel)
    (hread : readObject readers fuel text = .ok (v, rest)) :
    (∃ written, Parts (memberForm part) 0x7D true text written rest
        ∧ written.head?.map Prod.fst ≠ some embeddingKey ∧ v = .object (collapse written))
      ∨ ∃ s, Parts (memberForm textForm) 0x7D true text [(embeddingKey, s)] rest
        ∧ embedded (Utf8.encode s) v := by
  rw [readObject] at hread
  split at hread
  · cases hread
  · next mid hround =>
      obtain ⟨hclose, tail, rfl⟩ := nextKey_eq_false_iff.1 hround
      rw [closeObject_eq_ok_iff.2 rfl] at hread
      obtain ⟨rfl, rfl⟩ := Prod.mk.inj (Except.ok.inj hread)
      exact .inl ⟨[], .none hclose, by simp, rfl⟩
  · next tail hround =>
      obtain ⟨next, hnext, hquote⟩ := nextKey_eq_true_iff.1 hround
      have hlength := hnext.length_le
      have htail := length_tail_lt hquote
      split at hread
      · cases hread
      · next key mid hkey =>
          split at hread
          · next hembedding =>
              subst hembedding
              have hmid := length_lt_of_readText hkey
              obtain ⟨after, s, close, hcolon, hs, hv, hclose⟩ :=
                (readEmbedded_eq_ok_iff _ (by omega)).1 hread
              have hform := (textForm_iff hquote (by omega)).2 hkey
              have hafter := length_tail_lt hcolon
              have hsLength := length_lt_of_textForm hs
              exact .inr ⟨s, .more hnext ⟨mid, after, hform, hcolon, hs⟩ (.none hclose),
                (h.embedded _ (by omega) _).1 hv⟩
          · next hfirst =>
              split at hread
              · cases hread
              · next w after hw =>
                  have hm := (memberForm_iff h.part hquote (by omega) (by omega)).2 ⟨mid, hkey, hw⟩
                  have hafter := shortens_memberForm h.isPart.shortens _ _ _ hm
                  rw [← reverse_collapse_singleton (key, w)] at hread
                  obtain ⟨written, hwritten, rfl⟩ := (readMembers_eq_ok_iff h.part h.isPart
                    (by omega) (by omega) (by omega) [(key, w)]).1 hread
                  exact .inl ⟨(key, w) :: written, .more hnext hm hwritten, by simpa using hfirst,
                    rfl⟩

/-- An object is read from its members, if the first of them does not embed a text. -/
theorem readObject_of_members
    {written : Members}
    (h : readers.ReadAs fuel embedded part)
    (hfuel : text.length < fuel)
    (hwritten : Parts (memberForm part) 0x7D true text written rest)
    (hfirst : written.head?.map Prod.fst ≠ some embeddingKey) :
    readObject readers fuel text = .ok (.object (collapse written), rest) := by
  rw [readObject]
  cases hwritten with
  | none hclose =>
      rw [nextKey_eq_false_iff.2 ⟨hclose, _, rfl⟩]
      simp only [closeObject_eq_ok_iff.2 (show skipBlanks (0x7D :: rest) = _ from rfl)]
      rfl
  | @more _ _ next after _ m written hnext hm hwritten =>
      obtain ⟨key, w⟩ := m
      have hlength := hnext.length_le
      have hafter := shortens_memberForm h.isPart.shortens _ _ _ hm
      obtain ⟨tail, hquote⟩ := exists_quote hm
      have htail := length_tail_lt hquote
      have hkeyBound : tail.length < fuel := by omega
      obtain ⟨mid, hkey, hw⟩ := (memberForm_iff h.part hquote (by omega) hkeyBound).1 hm
      have hne : key ≠ embeddingKey := by simpa using hfirst
      rw [nextKey_eq_true_iff.2 ⟨next, hnext, hquote⟩]
      simp only [hkey, hne, if_false, hw]
      rw [← reverse_collapse_singleton (key, w)]
      exact (readMembers_eq_ok_iff h.part h.isPart (by omega) (by omega) (by omega) _).2
        ⟨written, hwritten, rfl⟩

/-- An object whose member embeds a text is read as what this text means. -/
theorem readObject_of_embedding
    (h : readers.ReadAs fuel embedded part)
    (hfuel : text.length < fuel)
    (hwritten : Parts (memberForm textForm) 0x7D true text [(embeddingKey, s)] rest)
    (hv : embedded (Utf8.encode s) v) :
    readObject readers fuel text = .ok (v, rest) := by
  rw [readObject]
  cases hwritten with
  | @more _ _ next close _ _ _ hnext hm hnone =>
      obtain ⟨mid, after, hform, hcolon, hs⟩ := hm
      obtain ⟨tail, hquote, _⟩ := id hform
      have hlength := hnext.length_le
      have htail := length_tail_lt hquote
      have hkeyBound : tail.length < fuel := by omega
      have hkey := (textForm_iff hquote hkeyBound).1 hform
      have hmid := length_lt_of_readText hkey
      have hafter := length_tail_lt hcolon
      have hsLength : (Utf8.encode s).length + close.length + 1 < after.length :=
        length_lt_of_textForm hs
      cases hnone with
      | none hclose =>
          rw [nextKey_eq_true_iff.2 ⟨next, hnext, hquote⟩]
          simp only [hkey, if_true]
          exact (readEmbedded_eq_ok_iff _ (by omega)).2
            ⟨after, s, close, hcolon, hs, (h.embedded _ (by omega) _).2 hv, hclose⟩

/-- What is read is a value that stands there. -/
theorem form_of_readValueWith
    {readers? : Option PartReaders}
    {part? : Option (Form Value)}
    (h : Option.Rel (fun readers part => readers.ReadAs fuel embedded part) readers? part?)
    (hfuel : text.length < fuel)
    (hread : readValueWith fuel readers? text = .ok (v, rest)) :
    ValueForm (some embedded) part? text v rest := by
  rw [readValueWith] at hread
  split at hread
  · cases hread
  next b tail hskip =>
    have htail := Nat.lt_trans (length_tail_lt hskip) hfuel
    split at hread
    · next hb =>
        obtain ⟨rfl, rfl⟩ := map_readWord_eq_ok_iff.1 hread
        exact .null (hb ▸ hskip)
    split at hread
    · next hb =>
        obtain ⟨rfl, rfl⟩ := map_readWord_eq_ok_iff.1 hread
        exact .yes (hb ▸ hskip)
    split at hread
    · next hb =>
        obtain ⟨rfl, rfl⟩ := map_readWord_eq_ok_iff.1 hread
        exact .no (hb ▸ hskip)
    split at hread
    · next hb =>
        obtain ⟨⟨n, after⟩, hnumber, hsame⟩ := map_eq_ok_iff.1 hread
        obtain ⟨rfl, rfl⟩ := Prod.mk.inj hsame
        exact .number hskip (by simpa using hb) hnumber
    split at hread
    · next hb =>
        obtain ⟨⟨s, after⟩, htext, hsame⟩ := map_eq_ok_iff.1 hread
        obtain ⟨rfl, rfl⟩ := Prod.mk.inj hsame
        exact .text (hb ▸ hskip) (readText_eq_of_lt htail ▸ htext)
    split at hread
    · next hb =>
        cases h with
        | none => cases hread
        | some h =>
            obtain ⟨vs, hvs, rfl⟩ := (readItems_eq_ok_iff h.part h.isPart htail htail []).1 hread
            exact .array (hb ▸ hskip) rfl hvs
    split at hread
    · next hb =>
        cases h with
        | none => cases hread
        | some h =>
            rcases form_of_readObject h htail hread with
              ⟨written, hwritten, hfirst, rfl⟩ | ⟨s, hwritten, hv⟩
            · exact .object (hb ▸ hskip) rfl hwritten fun _ => hfirst
            · exact .embedded (hb ▸ hskip) rfl rfl hwritten hv
    · cases hread

/-- The first byte of a value sends the reader where it is read. -/
theorem readValueWith_of_form
    {readers? : Option PartReaders}
    {part? : Option (Form Value)}
    (h : Option.Rel (fun readers part => readers.ReadAs fuel embedded part) readers? part?)
    (hfuel : text.length < fuel)
    (hv : ValueForm (some embedded) part? text v rest) :
    readValueWith fuel readers? text = .ok (v, rest) := by
  rw [readValueWith]
  cases hv with
  | null hskip => simp [hskip, map_readWord_eq_ok_iff]
  | yes hskip => simp [hskip, map_readWord_eq_ok_iff]
  | no hskip => simp [hskip, map_readWord_eq_ok_iff]
  | @number _ tail _ b n hskip hb hread =>
      have hne : ∀ c : UInt8, ¬ (c = 0x2D ∨ (Digits.value? c).isSome = true) → b ≠ c :=
        fun c hc he => hc (he ▸ hb)
      have hnull := hne 0x6E (by decide)
      have hyes := hne 0x74 (by decide)
      have hno := hne 0x66 (by decide)
      simp only [hskip, hnull, hyes, hno, if_false, Bool.or_eq_true, decide_eq_true_eq, hb, if_true]
      exact map_eq_ok_iff.2 ⟨_, hread, rfl⟩
  | @text _ tail _ s hskip hread =>
      rw [hskip]
      have htail := Nat.lt_trans (length_tail_lt hskip) hfuel
      exact map_eq_ok_iff.2 ⟨(s, rest), (readText_eq_of_lt htail).trans hread, rfl⟩
  | @array part _ tail _ items hskip hpart hitems =>
      rw [hskip]
      have htail := Nat.lt_trans (length_tail_lt hskip) hfuel
      cases h with
      | none => cases hpart
      | some h =>
          obtain rfl := Option.some.inj hpart
          exact (readItems_eq_ok_iff h.part h.isPart htail htail []).2 ⟨items, hitems, rfl⟩
  | object hskip hpart hwritten hfirst =>
      rw [hskip]
      have htail := Nat.lt_trans (length_tail_lt hskip) hfuel
      cases h with
      | none => cases hpart
      | some h =>
          obtain rfl := Option.some.inj hpart
          exact readObject_of_members h htail hwritten (hfirst rfl)
  | embedded hskip hembedded hpart hwritten hv =>
      rw [hskip]
      have htail := Nat.lt_trans (length_tail_lt hskip) hfuel
      cases h with
      | none => cases hpart
      | some h =>
          obtain rfl := Option.some.inj hembedded
          exact readObject_of_embedding h htail hwritten hv

end

end

/-! ## Texts -/

/-- What is read from a text. -/
def IsRead (text : Bytes) (v : Value) : Prop := parse text = .ok v

section

variable {embedded? : Option (Bytes → Value → Prop)} {part? : Option (Form Value)}
  {embedded : Bytes → Value → Prop} {fuel levels : Nat} {text text' rest : Bytes} {v : Value}

/-- Blanks before a value do not matter. -/
theorem ValueForm.of_skipBlanks
    (hskip : skipBlanks text = skipBlanks text')
    (hv : ValueForm embedded? part? text v rest) :
    ValueForm embedded? part? text' v rest := by
  cases hv with
  | null h => exact .null (hskip ▸ h)
  | yes h => exact .yes (hskip ▸ h)
  | no h => exact .no (hskip ▸ h)
  | number h hb hread => exact .number (hskip ▸ h) hb hread
  | text h hread => exact .text (hskip ▸ h) hread
  | array h hpart hitems => exact .array (hskip ▸ h) hpart hitems
  | object h hpart hwritten hfirst => exact .object (hskip ▸ h) hpart hwritten hfirst
  | embedded h hembedded hpart hwritten hv =>
      exact .embedded (hskip ▸ h) hembedded hpart hwritten hv

/-- A value takes at least one byte. -/
theorem shortens_valueForm
    (hpart : ∀ part, part? = some part → Shortens part) :
    Shortens (ValueForm embedded? part?) := by
  intro text v rest hv
  cases hv with
  | null h => exact length_lt_of_word h
  | yes h => exact length_lt_of_word h
  | no h => exact length_lt_of_word h
  | number h _ hread =>
      have htail := length_tail_lt h
      have hnumber := leaves_readNumber _ _ _ hread
      rw [List.length_cons] at hnumber
      omega
  | text h hread => exact shortens_textForm _ _ _ ⟨_, h, hread⟩
  | array h hsome hitems =>
      exact Nat.lt_trans (shortens_parts (hpart _ hsome) true _ _ _ hitems) (length_tail_lt h)
  | object h hsome hwritten =>
      exact Nat.lt_trans (shortens_parts (shortens_memberForm (hpart _ hsome)) true _ _ _ hwritten)
        (length_tail_lt h)
  | embedded h _ _ hwritten =>
      have hmember := shortens_memberForm shortens_textForm
      exact Nat.lt_trans (shortens_parts hmember true _ _ _ hwritten) (length_tail_lt h)

/-- A value is a part of a list: it does not begin as the list ends, and blanks in front of it do
not count. -/
theorem isPart_valueForm
    (embedded? : Option (Bytes → Value → Prop))
    (levels : Nat) :
    IsPart (valueForm embedded? levels) 0x5D where
  blanks text v rest := by
    cases levels with
    | zero =>
        exact ⟨.of_skipBlanks (skipBlanks_skipBlanks text),
          .of_skipBlanks (skipBlanks_skipBlanks text).symm⟩
    | succ levels =>
        exact ⟨.of_skipBlanks (skipBlanks_skipBlanks text),
          .of_skipBlanks (skipBlanks_skipBlanks text).symm⟩
  shortens := by
    induction levels with
    | zero => exact shortens_valueForm (by simp)
    | succ levels ih =>
        refine shortens_valueForm fun part hpart => ?_
        obtain rfl := Option.some.inj hpart
        exact ih
  avoids := avoids_valueForm_levels embedded? levels

/-- With enough fuel a value is read at every level just as its form tells. -/
theorem readsAs_readLevels
    {reader : Bytes → Except Error Value}
    (h : ∀ text, text.length + 1 < fuel → ∀ v, reader text = .ok v ↔ embedded text v)
    (levels : Nat) :
    ReadsAs fuel (readLevels reader fuel levels) (valueForm (some embedded) levels) := by
  induction levels with
  | zero =>
      intro text htext v rest
      exact ⟨form_of_readValueWith .none htext, readValueWith_of_form .none htext⟩
  | succ levels ih =>
      intro text htext v rest
      have hparts : PartReaders.ReadAs ⟨readLevels reader fuel levels, reader⟩ fuel embedded
          (valueForm (some embedded) levels) :=
        ⟨isPart_valueForm _ levels, ih, h⟩
      exact ⟨form_of_readValueWith (.some hparts) htext, readValueWith_of_form (.some hparts) htext⟩

/-- A whole text is read if nothing but blanks follows. -/
theorem readWhole_eq_ok_iff
    {α : Type}
    {reader : Bytes → Reading α}
    {a : α} :
    readWhole reader text = .ok a ↔ ∃ rest, reader text = .ok (a, rest) ∧ skipBlanks rest = [] := by
  unfold readWhole
  constructor
  · intro h
    split at h
    · cases h
    · next b rest hread =>
        split at h
        · next hskip =>
            obtain rfl := Except.ok.inj h
            exact ⟨rest, hread, hskip⟩
        · cases h
  · rintro ⟨rest, hread, hskip⟩
    simp only [hread, hskip]

/-- An embedded text stands for what is read from it. -/
theorem readsAs_readValue
    (fuel levels : Nat) :
    ReadsAs fuel (readValue fuel levels) (valueForm (some IsRead) levels) := by
  induction fuel using Nat.strongRecOn generalizing levels with
  | ind fuel ih =>
      cases fuel with
      | zero => exact fun text htext => absurd htext (Nat.not_lt_zero _)
      | succ fuel =>
          refine readsAs_readLevels (fun text htext v => ?_) levels
          have hshort : text.length < fuel := Nat.lt_of_succ_lt_succ htext
          rw [readWhole_eq_ok_iff, IsRead, parse, parseWith, readWhole_eq_ok_iff]
          refine exists_congr fun rest => and_congr_left' ?_
          rw [ih fuel (Nat.lt_succ_self _) maxLevels text hshort,
            ih (text.length + 1) htext maxLevels text (Nat.lt_succ_self _)]

/-- **Texts are read as they are meant.**  A text is read just if it means a value, where an
embedded text stands for what is read from it; and then it is read as that value. -/
theorem parse_eq_ok_iff :
    parse text = .ok v ↔ Means (some IsRead) text v := by
  rw [parse, parseWith, readWhole_eq_ok_iff]
  exact exists_congr fun rest =>
    and_congr_left' (readsAs_readValue _ maxLevels text (Nat.lt_succ_self _) v rest)

/-- A written value means itself, and embeds nothing. -/
theorem means_render
    (hregular : v.IsRegular)
    (hints : v.HoldsIntegers)
    (hfits : v.levels ≤ maxLevels)
    (layout : Layout) :
    Means (some fun _ _ => False) (v.render layout) v := by
  have hnone : ∀ text : Bytes, text.length + 1 < (v.render layout).length + 1 → ∀ w,
      (Except.error ⟨.valueMissing, 0, 0⟩ : Except Error Value) = .ok w ↔ False := by
    simp
  have hreads : ReadsAt layout 0 maxLevels
      (readLevels (fun _ => .error ⟨.valueMissing, 0, 0⟩) ((v.render layout).length + 1) maxLevels)
      v := by
    rw [render_eq]
    exact readsAt_readLevels _ hregular hints (Nat.le_succ _)
  have hread := (hreads [] [] (by simp) ⟨rfl, rfl, by simp⟩).ok hfits
  rw [List.nil_append, List.append_nil, ← render_eq] at hread
  exact ⟨[], (readsAs_readLevels hnone maxLevels _ (Nat.lt_succ_self _) v []).1 hread, rfl⟩

end

end Json
end LiveNotebooks
