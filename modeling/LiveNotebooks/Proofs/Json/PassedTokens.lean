import LiveNotebooks.Json.Skip
import LiveNotebooks.Proofs.Json.Literals
import LiveNotebooks.Proofs.Json.Tokens

/-!
# Numerals and strings that are passed over

Whoever passes over a numeral or a string stops where a reader stops that reads it.  A reader of
strings takes a character at a time where the other takes a byte, but the later bytes of a
character are none that ends a string or is refused in it.

**Results.**
* `skipUnsigned_of_readUnsigned`: numerals.
* `skips_of_readText`: strings.
-/

namespace LiveNotebooks

/-! ## Characters of several bytes -/

namespace Utf8

/-- Between the two texts there are only bytes above the ASCII range. -/
inductive Continues : Bytes → Bytes → Prop
  | refl
      (text : Bytes) :
      Continues text text
  | cons
      {b : UInt8}
      {text rest : Bytes}
      (hb : 0x80 ≤ b)
      (h : Continues text rest) :
      Continues (b :: text) rest

theorem le_of_isTail
    {b : UInt8}
    (h : isTail b = true) :
    0x80 ≤ b := by
  simp only [isTail, Bool.and_eq_true, decide_eq_true_eq] at h
  exact h.1

theorem le_of_isSecond
    {a b : UInt8}
    (h : isSecond a b = true) :
    0x80 ≤ b := by
  have hrange : 0x80 ≤ (secondRange a).1 := by
    unfold secondRange
    repeat' split
    all_goals decide
  simp only [isSecond, Bool.and_eq_true, decide_eq_true_eq] at h
  exact UInt8.le_trans hrange h.1

theorem continues_piece2
    (a : UInt8)
    (text : Bytes) :
    Continues text (piece2 a text).2 := by
  unfold piece2
  split
  · split
    · next hb => exact .cons (le_of_isTail hb) (.refl _)
    · exact .refl _
  · exact .refl _

/-- Only bytes above the ASCII range are in front of what follows a piece of three bytes. -/
theorem continues_piece3
    (a : UInt8)
    (text : Bytes) :
    Continues text (piece3 a text).2 := by
  unfold piece3
  split
  · split
    · next hb =>
        refine .cons (le_of_isSecond hb) ?_
        split
        · split
          · next hc => exact .cons (le_of_isTail hc) (.refl _)
          · exact .refl _
        · exact .refl _
    · exact .refl _
  · exact .refl _

/-- Only bytes above the ASCII range are in front of what follows a piece of four bytes. -/
theorem continues_piece4
    (a : UInt8)
    (text : Bytes) :
    Continues text (piece4 a text).2 := by
  unfold piece4
  split
  · split
    · next hb =>
        refine .cons (le_of_isSecond hb) ?_
        split
        · split
          · next hc =>
              refine .cons (le_of_isTail hc) ?_
              split
              · split
                · next hd => exact .cons (le_of_isTail hd) (.refl _)
                · exact .refl _
              · exact .refl _
          · exact .refl _
        · exact .refl _
    · exact .refl _
  · exact .refl _

/-- Behind its first byte a piece has no byte of the ASCII range. -/
theorem continues_piece
    (a : UInt8)
    (text : Bytes) :
    Continues text (piece a text).2 := by
  unfold piece
  repeat' split
  · exact .refl _
  · exact .refl _
  · exact continues_piece2 a text
  · exact continues_piece3 a text
  · exact continues_piece4 a text
  · exact .refl _

end Utf8

namespace Json

/-! ## Digits -/

section

variable {text rest : Bytes} {n m count count' : Nat}

theorem dropDigits_of_not_digit
    (h : startsWithDigit text = false)
    (count : Nat) :
    dropDigits text count = (count, text) := by
  cases text with
  | nil => rfl
  | cons b rest =>
      have hb : (Digits.value? b).isSome = false := h
      rw [dropDigits, hb]
      rfl

theorem dropDigits_cons
    {b : UInt8}
    (h : (Digits.value? b).isSome = true)
    (rest : Bytes)
    (count : Nat) :
    dropDigits (b :: rest) count = dropDigits rest (count + 1) :=
  if_pos h

/-- Only the count depends on where it starts. -/
theorem dropDigits_eq
    (text : Bytes)
    (count : Nat) :
    dropDigits text count = (count + (dropDigits text 0).1, (dropDigits text 0).2) := by
  induction text generalizing count with
  | nil => rfl
  | cons b rest ih =>
      cases hb : (Digits.value? b).isSome with
      | false =>
          have hstop : startsWithDigit (b :: rest) = false := hb
          rw [dropDigits_of_not_digit hstop, dropDigits_of_not_digit hstop]
          rfl
      | true =>
          rw [dropDigits_cons hb, dropDigits_cons hb, ih (count + 1), ih (0 + 1)]
          simp only [Nat.zero_add, Nat.add_assoc]

/-- The digits of a significand are the first ones that are dropped. -/
theorem dropDigits_of_significand
    (h : significand text n count = (m, count', rest)) :
    count ≤ count' ∧ ∀ k, dropDigits text k = dropDigits rest (k + (count' - count)) := by
  have hstop : ∀ {text : Bytes} {n count : Nat}, (n, count, text) = (m, count', rest) →
      count ≤ count' ∧ ∀ k, dropDigits text k = dropDigits rest (k + (count' - count)) := by
    intro text n count h
    cases h
    exact ⟨Nat.le_refl _, fun k => by rw [Nat.sub_self, Nat.add_zero]⟩
  induction text generalizing n count with
  | nil => exact hstop h
  | cons b tail ih =>
      rw [significand] at h
      split at h
      · next d hd =>
          split at h
          · obtain ⟨hle, hdrop⟩ := ih h
            refine ⟨Nat.le_of_succ_le hle, fun k => ?_⟩
            rw [dropDigits_cons (by rw [hd]; rfl), hdrop]
            congr 1
            omega
          · exact hstop h
      · exact hstop h

/-- Reading the digits of an exponent leaves what dropping them leaves. -/
theorem dropDigits_of_exponentDigits
    {e? : Option Nat}
    {e : Nat}
    (h : exponentDigits text e = (e?, rest)) :
    (dropDigits text 0).2 = (dropDigits rest 0).2
      ∧ (e?.isSome = true → startsWithDigit rest = false) := by
  induction text generalizing e with
  | nil =>
      cases h
      exact ⟨rfl, fun _ => rfl⟩
  | cons b tail ih =>
      rw [exponentDigits] at h
      split at h
      · next d hd =>
          have hdrop : (dropDigits (b :: tail) 0).2 = (dropDigits tail 0).2 := by
            rw [dropDigits_cons (by rw [hd]; rfl), dropDigits_eq]
          split at h
          · obtain ⟨hrest, hend⟩ := ih h
            exact ⟨hdrop.trans hrest, hend⟩
          · cases h
            exact ⟨hdrop, fun hsome => by cases hsome⟩
      · next hnone =>
          cases h
          exact ⟨rfl, fun _ => by rw [startsWithDigit, hnone]; rfl⟩

end

/-! ## Numerals -/

section

variable {negative : Bool} {text rest : Bytes} {n : Nat} {x : Number}

theorem eq_of_orTooLarge
    {magnitude? : Option Double}
    (h : orTooLarge negative text magnitude? = .ok (x, rest)) :
    text = rest := by
  cases magnitude? with
  | none => cases h
  | some magnitude =>
      cases h
      rfl

theorem eq_of_readScaled
    {e : Int}
    (h : readScaled negative n e text = .ok (x, rest)) :
    text = rest :=
  eq_of_orTooLarge h

/-- An exponent that is read can be passed over. -/
theorem skipExponent_of_readExponent
    {start : Int}
    (h : readExponent negative n start text = .ok (x, rest)) :
    skipExponent text = .ok rest := by
  unfold readExponent at h
  unfold skipExponent
  cases hsign : (exponentSign text).2 with
  | nil =>
      simp only [hsign] at h
      cases h
  | cons b after =>
      simp only [hsign] at h
      cases hd : Digits.value? b with
      | none =>
          simp only [hd] at h
          cases h
      | some d =>
          simp only [hd, Option.isSome_some, if_true] at h ⊢
          split at h
          · next e behind hdigits =>
              obtain ⟨hdrop, hend⟩ := dropDigits_of_exponentDigits hdigits
              rw [hdrop, dropDigits_of_not_digit (hend rfl), eq_of_readScaled h]
          · next behind hdigits =>
              obtain ⟨hdrop, _⟩ := dropDigits_of_exponentDigits hdigits
              split at h
              · cases h
              · cases h
                rw [hdrop]

theorem skipTail_of_readTail
    {e : Int}
    (h : readTail negative n e text = .ok (x, rest)) :
    skipTail text = .ok rest := by
  unfold readTail at h
  unfold skipTail
  split at h
  · next hexponent =>
      rw [if_pos hexponent]
      exact skipExponent_of_readExponent h
  · next hexponent => rw [if_neg hexponent, eq_of_readScaled h]

/-- Behind the point there must be digits. -/
theorem skipAfterInteger_point
    {count : Nat}
    (h : dropDigits text 0 = (count + 1, rest)) :
    skipAfterInteger (0x2E :: text) = skipTail rest := by
  simp only [skipAfterInteger, if_true, h]

/-- A fraction that is read can be passed over. -/
theorem skipAfterInteger_of_readFraction
    {shift : Nat}
    (h : readFraction negative n shift text = .ok (x, rest)) :
    skipAfterInteger (0x2E :: text) = .ok rest := by
  unfold readFraction at h
  split at h
  next m count behind hdigits =>
    obtain ⟨_, hdrop⟩ := dropDigits_of_significand hdigits
    have hbehind := hdrop 0
    rw [Nat.zero_add, Nat.sub_zero] at hbehind
    simp only at h
    split at h
    · next hmore =>
        cases behind with
        | nil => cases hmore
        | cons b tail =>
            have hb : (Digits.value? b).isSome = true := hmore
            rw [dropDigits_cons hb] at h hbehind
            rw [dropDigits_eq tail] at h hbehind
            rw [Nat.add_right_comm] at hbehind
            rw [skipAfterInteger_point hbehind]
            exact skipTail_of_readTail h
    · next hmore =>
        have hstop : startsWithDigit behind = false := by simpa using hmore
        rw [dropDigits_of_not_digit hstop] at hbehind
        split at h
        · cases h
        · next hcount =>
            obtain ⟨k, rfl⟩ := Nat.exists_eq_add_one_of_ne_zero hcount
            rw [skipAfterInteger_point hbehind]
            exact skipTail_of_readTail h

/-- What is read behind the digits of a number can be passed over. -/
theorem skipAfterInteger_of_readAfterInteger
    (h : readAfterInteger negative n text = .ok (x, rest)) :
    skipAfterInteger text = .ok rest := by
  unfold readAfterInteger at h
  split at h
  · next b after =>
      split at h
      · next hpoint =>
          rw [hpoint]
          exact skipAfterInteger_of_readFraction h
      · next hpoint =>
          rw [skipAfterInteger, if_neg hpoint, skipTail]
          split at h
          · next hexponent =>
              rw [if_pos hexponent]
              exact skipExponent_of_readExponent h
          · next hexponent =>
              cases h
              rw [if_neg hexponent]
  · cases h
    rfl

/-- A numeral behind its sign is passed over as it is read. -/
theorem skipUnsigned_of_readUnsigned
    (h : readUnsigned negative text = .ok (x, rest)) :
    skipUnsigned text = .ok rest := by
  unfold readUnsigned at h
  split at h
  · cases h
  · next b after =>
      cases hd : Digits.value? b with
      | none =>
          simp only [hd] at h
          cases h
      | some d =>
          cases d with
          | zero =>
              simp only [hd] at h
              simp only [skipUnsigned, hd]
              split at h
              · cases h
              · next hzero =>
                  rw [if_neg hzero]
                  exact skipAfterInteger_of_readAfterInteger h
          | succ d =>
              simp only [hd] at h
              simp only [skipUnsigned, hd]
              generalize hdigits : significand after (d + 1) 0 = digits at h
              obtain ⟨m, count, behind⟩ := digits
              obtain ⟨_, hdrop⟩ := dropDigits_of_significand hdigits
              have hbehind : (dropDigits after 0).2 = (dropDigits behind 0).2 := by
                rw [hdrop 0, dropDigits_eq behind]
              rw [hbehind]
              cases hmore : startsWithDigit behind with
              | false =>
                  simp only [hmore, Bool.false_eq_true, if_false] at h
                  rw [dropDigits_of_not_digit hmore]
                  exact skipAfterInteger_of_readAfterInteger h
              | true =>
                  simp only [hmore, if_true] at h
                  cases hleft : (dropDigits behind 0).2 with
                  | nil =>
                      simp only [hleft] at h
                      rw [← eq_of_readScaled h]
                      rfl
                  | cons c tail =>
                      simp only [hleft] at h
                      split at h
                      · next hpoint =>
                          rw [hpoint]
                          exact skipAfterInteger_of_readFraction h
                      · next hpoint =>
                          rw [skipAfterInteger, if_neg hpoint]
                          exact skipTail_of_readTail h

end

/-! ## Strings -/

/-- The rest of a string is passed over, with any fuel above the length of the text. -/
def Skips (text rest : Bytes) : Prop :=
  ∀ fuel, text.length < fuel → skipText fuel text = .ok rest

section

variable {b : UInt8} {text mid rest : Bytes}

theorem skips_quote
    (rest : Bytes) :
    Skips (0x22 :: rest) rest := by
  intro fuel hfuel
  obtain ⟨fuel, rfl⟩ := Nat.exists_eq_add_one_of_ne_zero (Nat.ne_zero_of_lt hfuel)
  rfl

theorem Skips.plain
    (hquote : b ≠ 0x22)
    (hescape : b ≠ 0x5C)
    (hcontrol : ¬ b < 0x20)
    (h : Skips text rest) :
    Skips (b :: text) rest := by
  intro fuel hfuel
  obtain ⟨fuel, rfl⟩ := Nat.exists_eq_add_one_of_ne_zero (Nat.ne_zero_of_lt hfuel)
  rw [skipText, if_neg hquote, if_neg hescape, if_neg hcontrol]
  exact h fuel (Nat.lt_of_succ_lt_succ hfuel)

theorem Skips.escape
    (hread : skipEscape text = .ok mid)
    (hlength : mid.length ≤ text.length)
    (h : Skips mid rest) :
    Skips (0x5C :: text) rest := by
  intro fuel hfuel
  obtain ⟨fuel, rfl⟩ := Nat.exists_eq_add_one_of_ne_zero (Nat.ne_zero_of_lt hfuel)
  rw [List.length_cons] at hfuel
  have hskip : skipText (fuel + 1) (0x5C :: text) = skipText fuel mid := by
    rw [skipText, if_neg (by decide), if_pos rfl, hread]
  rw [hskip]
  exact h fuel (by omega)

/-- Bytes above the ASCII range are passed over with what follows them. -/
theorem Skips.continues
    (hmid : Utf8.Continues text mid)
    (h : Skips mid rest) :
    Skips text rest := by
  induction hmid with
  | refl => exact h
  | @cons b text mid hb _ ih =>
      have hle : 0x80 ≤ b.toNat := UInt8.le_iff_toNat_le.1 hb
      refine (ih h).plain ?_ ?_ ?_
      · rintro rfl
        exact absurd hle (by decide)
      · rintro rfl
        exact absurd hle (by decide)
      · intro hlt
        have hlt := UInt8.lt_iff_toNat_lt.1 hlt
        simp only [UInt8.reduceToNat] at hlt
        omega

theorem Skips.hex
    {n : Nat}
    (hread : readHex4 text = .ok (n, mid))
    (h : Skips mid rest) :
    Skips (0x5C :: 0x75 :: text) rest := by
  have hlength := length_of_readHex4 hread
  refine .escape ?_ ?_ h
  · rw [skipEscape, if_pos rfl, hread]
    rfl
  · rw [List.length_cons]
    omega

/-- The second escape of a pair is passed over like any other. -/
theorem Skips.of_readLowSurrogate
    {high : Nat}
    {c : Char}
    (hread : readLowSurrogate high text = .ok (c, mid))
    (h : Skips mid rest) :
    Skips text rest := by
  unfold readLowSurrogate at hread
  split at hread
  · cases hread
  · split at hread
    · cases hread
    · next hb =>
        obtain rfl := Decidable.not_not.1 hb
        split at hread
        · cases hread
        · split at hread
          · cases hread
          · next hmark =>
              obtain rfl := Decidable.not_not.1 hmark
              split at hread
              · cases hread
              · next hhex =>
                  split at hread
                  · obtain ⟨rfl, rfl⟩ := Prod.mk.inj (Except.ok.inj hread)
                    exact h.hex hhex
                  · cases hread

/-- Behind an escape that is read the string is passed over from there.  A pair of escapes that
stands for one character is passed over one by one. -/
theorem Skips.of_readEscape
    {c : Char}
    (hread : readEscape text = .ok (c, mid))
    (h : Skips mid rest) :
    Skips (0x5C :: text) rest := by
  unfold readEscape at hread
  split at hread
  · cases hread
  · next b after =>
      split at hread
      · next hb =>
          subst hb
          unfold readUnicodeEscape at hread
          split at hread
          · cases hread
          · next n behind hhex =>
              split at hread
              · cases hread
              · split at hread
                · exact (h.of_readLowSurrogate hread).hex hhex
                · cases hread
                  exact h.hex hhex
      · next hb =>
          split at hread
          · next c hshort =>
              cases hread
              refine .escape ?_ (Nat.le_succ _) h
              rw [skipEscape, if_neg hb, if_pos (by rw [hshort]; rfl)]
          · cases hread

/-- A string is passed over as it is read. -/
theorem skips_of_readTextLoop
    {fuel : Nat}
    {chars : List Char}
    {bad : Option Nat}
    {s : String}
    (h : readTextLoop fuel text chars bad = .ok (s, rest)) :
    Skips text rest := by
  induction fuel generalizing text chars bad with
  | zero => cases h
  | succ fuel ih =>
      cases text with
      | nil => cases h
      | cons b text =>
          simp only [readTextLoop] at h
          split at h
          · next hb =>
              subst hb
              split at h
              · cases h
                exact skips_quote rest
              · cases h
          · next hquote =>
              split at h
              · next hb =>
                  subst hb
                  split at h
                  · next hread => exact (ih h).of_readEscape hread
                  · cases h
              · next hescape =>
                  split at h
                  · cases h
                  · next hcontrol =>
                      have hmid := Utf8.continues_piece b text
                      refine Skips.plain hquote hescape hcontrol ?_
                      split at h
                      · next hpiece =>
                          rw [hpiece] at hmid
                          exact (ih h).continues hmid
                      · next hpiece =>
                          rw [hpiece] at hmid
                          exact (ih h).continues hmid

theorem skips_of_readText
    {fuel : Nat}
    {s : String}
    (h : readText fuel text = .ok (s, rest)) :
    Skips text rest :=
  skips_of_readTextLoop h

end

end Json
end LiveNotebooks
