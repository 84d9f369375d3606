import LiveNotebooks.Time.Instant
import LiveNotebooks.Proofs.Time.Calendar
import Mathlib.Algebra.Ring.Nat

/-!
# Instants in their texts

A text is read part by part.  Each part is a numeral of some digits, and reads what the writer
filled in.

**Results.**
* `parse_zuluText`: the text of an instant of which is known is read as this instant.
* `isKnown_of_parse`: each instant that is read is one of these.
-/

namespace LiveNotebooks
namespace Instant

/-- An instant that a text may denote: in a known year, and a leap second at the end of its
minute. -/
structure IsKnown (t : Instant) : Prop where
  nano_lt : t.nano < 2 * 1000000000
  leap : 1000000000 ≤ t.nano → t.second % 60 = 59
  first_le : firstSecond ≤ t.second
  le_last : t.second ≤ lastSecond

instance (t : Instant) : Decidable t.IsKnown :=
  decidable_of_iff (t.nano < 2 * 1000000000 ∧ (1000000000 ≤ t.nano → t.second % 60 = 59)
      ∧ firstSecond ≤ t.second ∧ t.second ≤ lastSecond)
    ⟨fun ⟨hnano, hleap, hfirst, hlast⟩ => ⟨hnano, hleap, hfirst, hlast⟩,
      fun ⟨hnano, hleap, hfirst, hlast⟩ => ⟨hnano, hleap, hfirst, hlast⟩⟩

/-! ## Numerals -/

/-- The digits of a number. -/
structure IsNumeral (cs : List Char) (n : Nat) : Prop where
  ne_nil : cs ≠ []
  digits : ∀ c ∈ cs, c.isDigit = true
  value : Nat.ofDigitChars 10 cs 0 = n

theorem digit?_of_isDigit
    {c : Char}
    (h : c.isDigit = true) :
    digit? c = some (c.toNat - '0'.toNat) := by
  have hbounds : '0' ≤ c ∧ c ≤ '9' := by
    simpa [Char.isDigit, Char.le_def] using h
  simp [digit?, hbounds]

theorem isBlank_of_isDigit
    {c : Char}
    (h : c.isDigit = true) :
    Blank.isBlank c = false := by
  have hbounds : 0x30 ≤ c.toNat ∧ c.toNat ≤ 0x39 := by
    simpa [Char.isDigit, UInt32.le_iff_toNat_le] using h
  simp only [Blank.isBlank, Bool.or_eq_false_iff, Bool.and_eq_false_iff, decide_eq_false_iff_not]
  omega

/-- Decimal digits are digits. -/
theorem isDigit_of_mem_fixed
    {width n : Nat}
    {acc : List Char}
    (hacc : ∀ c ∈ acc, c.isDigit = true) :
    ∀ c ∈ Digits.fixed 10 width n acc, c.isDigit = true := by
  induction width generalizing n acc with
  | zero => exact hacc
  | succ width ih =>
      refine ih fun c hc => ?_
      rcases List.mem_cons.1 hc with rfl | hc
      · rw [Nat.isDigit_digitChar]
        exact decide_eq_true (Nat.mod_lt n (by decide))
      · exact hacc c hc

/-- Digits of a fixed width, read from the left behind the value `start`. -/
theorem ofDigitChars_fixed
    (width n start : Nat)
    (acc : List Char) :
    Nat.ofDigitChars 10 (Digits.fixed 10 width n acc) start
      = Nat.ofDigitChars 10 acc (start * 10 ^ width + n % 10 ^ width) := by
  induction width generalizing n acc with
  | zero => simp [Digits.fixed, Nat.mod_one]
  | succ width ih =>
      rw [Digits.fixed, ih, Nat.ofDigitChars_cons_digitChar_of_lt_ten (Nat.mod_lt n (by decide))]
      congr 1
      rw [Nat.pow_succ, Nat.mul_comm (10 ^ width) 10, Nat.mod_mul]
      rw [Nat.mul_add, ← Nat.mul_assoc, ← Nat.mul_assoc, Nat.mul_comm 10 start]
      omega

/-- A padded number is a numeral. -/
theorem isNumeral_padded
    {width : Nat}
    (hwidth : 0 < width)
    (n : Nat) :
    IsNumeral (Digits.padded width n).toList n := by
  rw [Digits.padded]
  split
  · next h =>
      rw [String.toList_ofList]
      refine ⟨fun hnil => ?_, isDigit_of_mem_fixed (by simp), ?_⟩
      · have hlength := Digits.length_fixed 10 width n []
        rw [hnil] at hlength
        simp at hlength
        omega
      · rw [ofDigitChars_fixed]
        simpa using Nat.mod_eq_of_lt h
  · rw [Digits.decimal, String.toList_ofList]
    exact ⟨Nat.toDigits_ne_nil, fun d => Nat.isDigit_of_mem_toDigits (by decide) (by decide),
      Nat.ofDigitChars_ten_toDigits⟩

theorem length_padded
    {width n : Nat}
    (h : n < 10 ^ width) :
    (Digits.padded width n).toList.length = width := by
  have hfits : n < Nat.pow 10 width := h
  rw [Digits.padded, if_pos hfits, String.toList_ofList, Digits.length_fixed]
  rfl

/-! ## Reading numerals -/

/-- The digits end behind `limit` of them, and in front of anything else. -/
def Ends (limit : Nat) (rest : List Char) : Prop :=
  limit = 0 ∨ ∀ c ∈ rest.head?, digit? c = none

/-- Reading digits ends at what is no digit, or when there may be no more. -/
theorem digits_of_ends
    {limit : Nat}
    {rest : List Char}
    (h : Ends limit rest)
    (n : Nat) :
    digits limit rest n = .ok (n, rest) := by
  cases limit with
  | zero => rfl
  | succ limit =>
      cases rest with
      | nil => rfl
      | cons c rest =>
          have hc : digit? c = none := by
            rcases h with h | h
            · cases h
            · exact h c rfl
          simp [digits, hc]

/-- Digits are read up to where they end; further digits make no smaller number. -/
theorem digits_append
    {limit : Nat}
    {cs rest : List Char}
    {n : Nat}
    (hcs : ∀ c ∈ cs, c.isDigit = true)
    (hlimit : cs.length ≤ limit)
    (hends : Ends (limit - cs.length) rest)
    (hsmall : Nat.ofDigitChars 10 cs n < 2 ^ 63) :
    digits limit (cs ++ rest) n = .ok (Nat.ofDigitChars 10 cs n, rest) := by
  induction cs generalizing limit n with
  | nil => exact digits_of_ends hends n
  | cons c cs ih =>
      cases limit with
      | zero => exact absurd hlimit (by simp)
      | succ limit =>
          rw [List.length_cons] at hlimit hends
          rw [Nat.add_sub_add_right] at hends
          rw [Nat.ofDigitChars_cons] at hsmall ⊢
          have hfits : 10 * n + (c.toNat - '0'.toNat) < Nat.pow 2 63 := by
            rw [Nat.ofDigitChars_eq_ofDigitChars_zero] at hsmall
            have hpos := Nat.pow_pos (a := 10) (n := cs.length) (by decide)
            exact Nat.lt_of_le_of_lt
              (Nat.le_trans (Nat.le_mul_of_pos_left _ hpos) (Nat.le_add_right _ _)) hsmall
          have hmore := ih (fun d hd => hcs d (List.mem_cons_of_mem c hd)) (by omega) hends hsmall
          simp only [List.cons_append, digits, digit?_of_isDigit (hcs c List.mem_cons_self)]
          rw [if_pos hfits, hmore]

/-- The first character of a numeral is a digit. -/
theorem IsNumeral.exists_cons
    {cs : List Char}
    {n : Nat}
    (h : IsNumeral cs n) :
    ∃ c tail, cs = c :: tail ∧ c.isDigit = true := by
  obtain ⟨c, tail, rfl⟩ := List.exists_cons_of_ne_nil h.ne_nil
  exact ⟨c, tail, rfl, h.digits c List.mem_cons_self⟩

theorem numeral_append
    {limit n : Nat}
    {cs : List Char}
    (rest : List Char)
    (h : IsNumeral cs n)
    (hlimit : cs.length ≤ limit)
    (hends : Ends (limit - cs.length) rest)
    (hsmall : n < 2 ^ 63) :
    numeral limit (cs ++ rest) = .ok (n, rest) := by
  have hread := digits_append h.digits hlimit hends (by rwa [h.value])
  rw [h.value] at hread
  obtain ⟨c, tail, rfl, hc⟩ := h.exists_cons
  simp only [List.cons_append] at hread ⊢
  simp only [numeral, digit?_of_isDigit hc, Option.isSome_some, if_true, hread]

/-- No blank stands in front of a numeral. -/
theorem skipBlanks_append
    {n : Nat}
    {cs : List Char}
    (h : IsNumeral cs n)
    (rest : List Char) :
    skipBlanks (cs ++ rest) = cs ++ rest := by
  obtain ⟨c, tail, rfl, hc⟩ := h.exists_cons
  simp [skipBlanks, isBlank_of_isDigit hc]

/-! ## The parts of a text -/

/-- A part of two digits is read again. -/
theorem part_padded
    {low high n : Nat}
    (hlow : low ≤ n)
    (hhigh : n ≤ high)
    (hwidth : high < 100)
    (rest : List Char) :
    part low high ((Digits.padded 2 n).toList ++ rest) = .ok (n, rest) := by
  have hnumeral := isNumeral_padded (show 0 < 2 by decide) n
  have hlength := length_padded (show n < 10 ^ 2 by omega)
  have hread := numeral_append rest hnumeral (Nat.le_of_eq hlength)
    (.inl (by rw [hlength])) (by omega)
  rw [part, skipBlanks_append hnumeral, hread]
  simp [hlow, hhigh]

theorem mark_cons
    {c : Char}
    (h : Blank.isBlank c = false)
    (rest : List Char) :
    mark c (c :: rest) = .ok rest := by
  simp [mark, skipBlanks, h]

/-- What stands behind the year. -/
theorem ends_hyphen
    (limit : Nat)
    (rest : List Char) :
    Ends limit ('-' :: rest) :=
  .inr fun c hc => by
    cases hc
    decide

/-- A year of four digits is read again. -/
theorem year_padded
    {n : Nat}
    (h : n < 10 ^ 4)
    (rest : List Char) :
    year ((Digits.padded 4 n).toList ++ '-' :: rest) = .ok ((n : Int), '-' :: rest) := by
  have hnumeral := isNumeral_padded (show 0 < 4 by decide) n
  have hread := numeral_append ('-' :: rest) hnumeral (Nat.le_of_eq (length_padded h))
    (ends_hyphen _ rest) (by omega)
  obtain ⟨c, tail, hcs, hc⟩ := hnumeral.exists_cons
  rw [year, skipBlanks_append hnumeral]
  rw [hcs, List.cons_append] at hread ⊢
  split
  · next he => exact absurd ((List.cons.inj he).1 ▸ hc) (by decide)
  · next he => exact absurd ((List.cons.inj he).1 ▸ hc) (by decide)
  · rw [hread]
    rfl

/-- Behind a sign all digits belong to the year. -/
theorem numeral_signed
    {n : Nat}
    (h : n < 2 ^ 63)
    (rest : List Char) :
    numeral ((Digits.padded 4 n).toList ++ '-' :: rest).length
      ((Digits.padded 4 n).toList ++ '-' :: rest) = .ok (n, '-' :: rest) :=
  numeral_append ('-' :: rest) (isNumeral_padded (by decide) n) (by simp) (ends_hyphen _ rest) h

/-- A written year is read back up to the dash. -/
theorem year_yearText
    {y : Int}
    (h : y.natAbs < 2 ^ 63)
    (rest : List Char) :
    year ((yearText y).toList ++ '-' :: rest) = .ok (y, '-' :: rest) := by
  rw [yearText]
  split
  · next hfour =>
      simp only [Bool.and_eq_true, decide_eq_true_eq] at hfour
      rw [year_padded (by omega), Int.toNat_of_nonneg hfour.1]
  · split
    · next hnegative =>
        have hback : -(y.natAbs : Int) = y := by omega
        have hsign : year ('-' :: ((Digits.padded 4 y.natAbs).toList ++ '-' :: rest))
            = .ok (-(y.natAbs : Int), '-' :: rest) :=
          congrArg (Except.map fun r : Nat × List Char => (-(r.1 : Int), r.2))
            (numeral_signed h rest)
        rw [hback] at hsign
        simpa using hsign
    · next hpositive =>
        have hback : (y.natAbs : Int) = y := by omega
        have hsign : year ('+' :: ((Digits.padded 4 y.natAbs).toList ++ '-' :: rest))
            = .ok ((y.natAbs : Int), '-' :: rest) :=
          congrArg (Except.map fun r : Nat × List Char => ((r.1 : Int), r.2))
            (numeral_signed h rest)
        rw [hback] at hsign
        simpa using hsign

theorem boundedYear_yearText
    {y : Int}
    (hlow : -2147483648 ≤ y)
    (hhigh : y < 2147483648)
    (rest : List Char) :
    boundedYear ((yearText y).toList ++ '-' :: rest) = .ok (y, '-' :: rest) := by
  rw [boundedYear, year_yearText (by omega)]
  simp [hlow, hhigh]

/-- Behind the point stand three digits, six or nine. -/
theorem fraction_padded
    (width n : Nat)
    (hwidth : 0 < width)
    (hnine : width ≤ 9)
    (hn : n < 10 ^ width) :
    fraction ('.' :: ((Digits.padded width n).toList ++ ['Z']))
      = .ok (n * 10 ^ (9 - width), ['Z']) := by
  have hlength := length_padded hn
  have hsmall : n < 2 ^ 63 :=
    Nat.lt_of_lt_of_le hn (Nat.le_trans (Nat.pow_le_pow_right (by decide) hnine) (by decide))
  have hread := numeral_append ['Z'] (isNumeral_padded hwidth n)
    (show _ ≤ 9 by omega) (.inr fun c hc => by cases hc; decide) hsmall
  have hzulu : ['Z'].dropWhile (fun c => (digit? c).isSome) = ['Z'] := by decide
  simp only [fraction, hread, List.length_append, hlength, List.length_singleton,
    Nat.add_sub_cancel, hzulu]
  rfl

/-- A written fraction is read back up to the mark of the offset. -/
theorem fraction_fractionText
    {nano : Nat}
    (h : nano < 1000000000) :
    fraction ((fractionText nano).toList ++ ['Z']) = .ok (nano, ['Z']) := by
  rw [fractionText]
  split
  · next hzero =>
      rw [hzero]
      rfl
  · split
    · next hmillis =>
        have hread := fraction_padded 3 (nano / 1000000) (by decide) (by decide)
          (by omega)
        have hback : nano / 1000000 * 10 ^ (9 - 3) = nano := by omega
        rw [hback] at hread
        simpa using hread
    · split
      · next hmicros =>
          have hread := fraction_padded 6 (nano / 1000) (by decide) (by decide)
            (by omega)
          have hback : nano / 1000 * 10 ^ (9 - 6) = nano := by omega
          rw [hback] at hread
          simpa using hread
      · have hread := fraction_padded 9 nano (by decide) (by decide)
          (by omega)
        simpa using hread

theorem offset_zulu : offset ['Z'] = .ok (0, []) := by
  simp [offset, skipBlanks, Blank.isBlank]

/-! ## The text of an instant -/

theorem yearKnown_iff
    {d : Calendar.Date}
    (h : d.isValid = true)
    (second : Int)
    (hday : d.toDays = second / 86400) :
    yearKnown d.year = true ↔ firstSecond ≤ second ∧ second ≤ lastSecond := by
  have hfirst := Calendar.toDays_lt_iff h (-262143)
  have hlast := Calendar.toDays_lt_iff h 262143
  simp only [yearKnown, Bool.and_eq_true, decide_eq_true_eq, firstSecond, lastSecond]
  omega

/-- Day, time of the day and fraction are put together again.  A leap second is the sixty-first
one of its minute, and no other second is. -/
theorem ofLocal_text
    {t : Instant}
    (h : t.IsKnown) :
    ofLocal (Calendar.Date.ofDays (t.second / 86400)) ((t.second % 86400).toNat / 3600)
      ((t.second % 86400).toNat / 60 % 60)
      ((t.second % 86400).toNat % 60 + t.nano / 1000000000) (t.nano % 1000000000) 0 = .ok t := by
  have hvalid := Calendar.isValid_ofDays (t.second / 86400)
  have hdays := Calendar.toDays_ofDays (t.second / 86400)
  have hknown := (yearKnown_iff hvalid t.second hdays).2 ⟨h.first_le, h.le_last⟩
  obtain ⟨hnano, hleap, hfirst, hlast⟩ := h
  simp only [ofLocal, hvalid, hknown, hdays, Bool.and_self, Bool.not_true, Bool.false_eq_true,
    if_false]
  obtain ⟨leap, hvalue⟩ : ∃ leap, leap = t.nano / 1000000000 := ⟨_, rfl⟩
  have hclock : (if (t.second % 86400).toNat % 60 + leap = 60 then 1 else 0) = leap := by
    split <;> omega
  rw [← hvalue, hclock, if_neg (by decide)]
  have hsecond : t.second / 86400 * 86400
      + ((t.second % 86400).toNat / 3600 * 3600 + (t.second % 86400).toNat / 60 % 60 * 60
        + ((t.second % 86400).toNat % 60 + leap - leap) : Nat) - 0 = t.second := by omega
  have hfraction : t.nano % 1000000000 + leap * 1000000000 = t.nano := by omega
  rw [hsecond, hfraction]
  simp [hfirst, hlast]

/-- The text of an instant of which is known is read as this instant. -/
theorem parse_zuluText
    {t : Instant}
    (h : t.IsKnown) :
    parse t.zuluText = .ok t := by
  have hvalid := Calendar.isValid_ofDays (t.second / 86400)
  have hyear := (yearKnown_iff hvalid t.second (Calendar.toDays_ofDays _)).2
    ⟨h.first_le, h.le_last⟩
  simp only [yearKnown, Bool.and_eq_true, decide_eq_true_eq] at hyear
  simp only [Calendar.Date.isValid, Bool.and_eq_true, decide_eq_true_eq] at hvalid
  have hday := Calendar.daysInMonth_le (Calendar.Date.ofDays (t.second / 86400)).year
    (Calendar.Date.ofDays (t.second / 86400)).month
  have hlocal := ofLocal_text h
  have hfraction := fraction_fractionText (show t.nano % 1000000000 < 1000000000 by omega)
  obtain ⟨hnano, hleap, _, _⟩ := h
  have hmonth := part_padded hvalid.1.1.1 hvalid.1.1.2 (by decide)
  have hdate := part_padded hvalid.1.2 (Nat.le_trans hvalid.2 hday) (by decide)
  have hhour := part_padded (Nat.zero_le _)
    (show (t.second % 86400).toNat / 3600 ≤ 23 by omega) (by decide)
  have hminute := part_padded (Nat.zero_le _)
    (show (t.second % 86400).toNat / 60 % 60 ≤ 59 by omega) (by decide)
  have hsecond := part_padded (Nat.zero_le _)
    (show (t.second % 86400).toNat % 60 + t.nano / 1000000000 ≤ 60 by omega) (by decide)
  have hhyphen := mark_cons (c := '-') (by decide)
  have hcolon := mark_cons (c := ':') (by decide)
  have hread : read t.zuluText.toList = .ok (t, []) := by
    simp only [zuluText, text, String.toList_append, List.append_assoc, read]
    change (boundedYear ((yearText _).toList ++ '-' :: _)).bind _ = _
    rw [boundedYear_yearText (by omega) (by omega)]
    simp [bind, Except.bind, hhyphen, hcolon, hmonth, hdate, hhour, hminute, hsecond, separator,
      hfraction, offset_zulu, hlocal, skipBlanks, pure, Except.pure]
  rw [parse, hread]
  rfl

/-! ## The instants that are read -/

theorem digit?_lt
    {c : Char}
    {d : Nat}
    (h : digit? c = some d) :
    d < 10 := by
  rw [digit?] at h
  split at h
  · next hc =>
      simp only [Bool.and_eq_true, decide_eq_true_eq, Char.le_def, UInt32.le_iff_toNat_le] at hc
      have hle : c.toNat ≤ '9'.toNat := hc.2
      have hnine : '9'.toNat = '0'.toNat + 9 := rfl
      cases h
      omega
  · cases h

/-- So many digits, so large a number. -/
theorem digits_eq_ok
    {limit n m : Nat}
    {text rest : List Char}
    (h : digits limit text n = .ok (m, rest)) :
    ∃ k ≤ limit, text.length = rest.length + k ∧ m < (n + 1) * 10 ^ k := by
  induction limit generalizing text n with
  | zero =>
      cases h
      exact ⟨0, Nat.le_refl 0, rfl, by omega⟩
  | succ limit ih =>
      cases text with
      | nil =>
          cases h
          exact ⟨0, Nat.zero_le _, rfl, by omega⟩
      | cons c text =>
          rw [digits] at h
          split at h
          · cases h
            exact ⟨0, Nat.zero_le _, rfl, by omega⟩
          · next d hd =>
              have hd := digit?_lt hd
              split at h
              · obtain ⟨k, hk, hlength, hlt⟩ := ih h
                refine ⟨k + 1, by omega, by rw [List.length_cons, hlength]; omega, ?_⟩
                rw [Nat.pow_succ, Nat.mul_comm (10 ^ k), ← Nat.mul_assoc]
                exact Nat.lt_of_lt_of_le hlt (Nat.mul_le_mul_right _ (by omega))
              · cases h

theorem numeral_eq_ok
    {limit m : Nat}
    {text rest : List Char}
    (h : numeral limit text = .ok (m, rest)) :
    ∃ k ≤ limit, text.length = rest.length + k ∧ m < 10 ^ k := by
  cases text with
  | nil => cases h
  | cons c text =>
      simp only [numeral] at h
      split at h
      · simpa using digits_eq_ok h
      · cases h

/-- A part of a date is no greater than it may be. -/
theorem part_le
    {low high n : Nat}
    {text rest : List Char}
    (h : part low high text = .ok (n, rest)) :
    n ≤ high := by
  rw [part] at h
  split at h
  · cases h
  · split at h
    · next hbounds =>
        simp only [Bool.and_eq_true, decide_eq_true_eq] at hbounds
        cases h
        exact hbounds.2
    · cases h

/-- A fraction is less than a second. -/
theorem fraction_lt
    {text rest : List Char}
    {nano : Nat}
    (h : fraction text = .ok (nano, rest)) :
    nano < 1000000000 := by
  unfold fraction at h
  split at h
  · split at h
    · cases h
    · next hnumeral =>
        obtain ⟨k, hk, hlength, hlt⟩ := numeral_eq_ok hnumeral
        cases h
        rw [hlength, Nat.add_sub_cancel_left]
        calc _ < 10 ^ k * 10 ^ (9 - k) := Nat.mul_lt_mul_of_pos_right hlt (Nat.pow_pos (by decide))
          _ = 10 ^ 9 := by rw [← Nat.pow_add, Nat.add_sub_cancel' hk]
  · cases h
    decide

theorem offsetSize_mod
    {text rest : List Char}
    {size : Nat}
    (h : offsetSize text = .ok (size, rest)) :
    size % 60 = 0 := by
  rw [offsetSize] at h
  split at h
  · cases h
  · split at h
    · cases h
    · cases h
      omega

/-- An offset is made of whole minutes. -/
theorem offset_emod
    {text rest : List Char}
    {shift : Int}
    (h : offset text = .ok (shift, rest)) :
    shift % 60 = 0 := by
  have hsize {more : List Char} {sign : Nat → Int}
      (hsign : ∀ n, sign n = n ∨ sign n = -(n : Int))
      (h : (offsetSize more).map (fun r => (sign r.1, r.2)) = .ok (shift, rest)) :
      shift % 60 = 0 := by
    cases hread : offsetSize more with
    | error fault =>
        rw [hread] at h
        cases h
    | ok r =>
        rw [hread] at h
        cases h
        have hmod := offsetSize_mod hread
        rcases hsign r.1 with hr | hr <;> rw [hr] <;> omega
  rw [offset] at h
  split at h
  · cases h
  · split at h
    · cases h
      rfl
    · split at h
      · cases h
        rfl
      · split at h
        · exact hsize (fun n => .inl rfl) h
        · split at h
          · exact hsize (fun n => .inr rfl) h
          · cases h

/-- A local time gives a known instant, if it gives one. -/
theorem isKnown_of_ofLocal
    {d : Calendar.Date}
    {hour minute second nano : Nat}
    {shift : Int}
    {t : Instant}
    (hsecond : second ≤ 60)
    (hnano : nano < 1000000000)
    (hshift : shift % 60 = 0)
    (h : ofLocal d hour minute second nano shift = .ok t) :
    t.IsKnown := by
  simp only [ofLocal] at h
  obtain ⟨leap, hleap⟩ : ∃ leap, (if second = 60 then 1 else 0) = leap := ⟨_, rfl⟩
  have hcases : leap = 0 ∨ leap = 1 ∧ second = 60 := by
    split at hleap <;> omega
  rw [hleap] at h
  split at h
  · cases h
  · split at h
    · cases h
    · split at h
      · next hrange =>
          simp only [Bool.and_eq_true, decide_eq_true_eq] at hrange
          cases h
          refine ⟨?_, fun hlarge => ?_, hrange.1, hrange.2⟩
          · simp only
            omega
          · simp only at hlarge ⊢
            omega
      · cases h

theorem bind_eq_ok_iff
    {ε α β : Type}
    {x : Except ε α}
    {f : α → Except ε β}
    {b : β} :
    x.bind f = .ok b ↔ ∃ a, x = .ok a ∧ f a = .ok b := by
  cases x <;> simp [Except.bind]

/-- Each instant that is read is one of which is known. -/
theorem isKnown_of_parse
    {s : String}
    {t : Instant}
    (h : parse s = .ok t) :
    t.IsKnown := by
  cases hread : read s.toList with
  | error fault =>
      rw [parse, hread] at h
      cases h
  | ok r =>
      rw [parse, hread] at h
      cases h
      simp only [read, bind, bind_eq_ok_iff] at hread
      obtain ⟨_, _, _, _, _, _, _, _, _, _, _, _, _, _, _, _, _, _, _, _, second, hsecond,
        nano, hfraction, shift, hoffset, hread⟩ := hread
      split at hread
      · cases hread
      · obtain ⟨_, hlocal, hr⟩ := bind_eq_ok_iff.1 hread
        cases hr
        exact isKnown_of_ofLocal (part_le hsecond) (fraction_lt hfraction) (offset_emod hoffset)
          hlocal

end Instant
end LiveNotebooks
