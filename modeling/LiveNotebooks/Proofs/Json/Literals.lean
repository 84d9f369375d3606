import LiveNotebooks.Json.Printer
import LiveNotebooks.Proofs.Text.Utf8

/-!
# Strings and integers are read as they are written

A string is written character by character, and `readTextLoop` takes one character a round,
so the proof is an induction on the characters.  An integer is read digit by digit, and its
significand is the number itself for as long as it has 64 bits.

**Results.**
* `readText_quotedTail`: a written string is read again, whatever follows it.
* `readNumber_signed`: so is an integer of 64 bits, unless the numeral goes on behind it.
-/

namespace LiveNotebooks
namespace Json

/-! ## Strings -/

/-- A string as it is written, behind its opening quote. -/
def quotedTail (s : String) : Bytes := s.toList.flatMap escape ++ [0x22]

/-- A written string is a quote, its characters and a quote. -/
theorem toBytes_writeText
    (s : String)
    (out : Output) :
    (writeText s out).toBytes = out.toBytes ++ 0x22 :: quotedTail s := by
  have hchars : ∀ (chars : List Char) (out : Output),
      (chars.foldl (fun out c => out.append (escape c)) out).toBytes
        = out.toBytes ++ chars.flatMap escape := by
    intro chars
    induction chars with
    | nil => simp
    | cons c chars ih =>
        intro out
        simp [ih, List.append_assoc]
  simp [writeText, quotedTail, hchars]

/-- A short escape is read back, and it is not the mark of an escape by number. -/
theorem shortEscapeChar?_of_shortEscape?
    {c : Char}
    {b : UInt8}
    (h : shortEscape? c = some b) :
    b ≠ 0x75 ∧ shortEscapeChar? b = some c := by
  have hcontrol : ∀ n, c.toNat = n → Char.ofNat n = c := fun n => Utf8.ofNat_eq
  unfold shortEscape? at h
  split at h
  · next hc => cases h; subst hc; decide
  · split at h
    · next hc => cases h; subst hc; decide
    · split at h
      · next hc => cases h; rw [← hcontrol _ hc]; decide
      · split at h
        · next hc => cases h; rw [← hcontrol _ hc]; decide
        · split at h
          · next hc => cases h; subst hc; decide
          · split at h
            · next hc => cases h; subst hc; decide
            · split at h
              · next hc => cases h; subst hc; decide
              · cases h

def hexByte (d : Nat) : UInt8 := UInt8.ofNat (Nat.digitChar d).toNat

theorem hexByte_spec :
    ∀ d < 16, String.utf8EncodeChar (Nat.digitChar d) = [hexByte d]
      ∧ Digits.hexValue? (hexByte d) = some d := by
  decide

/-- What stands before the digits of an escape by number. -/
theorem encode_mark :
    Utf8.encode "\\u" = [0x5C, 0x75] :=
  rfl

/-- A number with four hexadecimal digits is read back. -/
theorem readHex4_hex
    {n : Nat}
    (h : n < 0x10000)
    (rest : Bytes) :
    readHex4 (Utf8.encode (Digits.hex 4 n) ++ rest) = .ok (n, rest) := by
  obtain ⟨ha, hva⟩ := hexByte_spec (n / 16 / 16 / 16 % 16) (by omega)
  obtain ⟨hb, hvb⟩ := hexByte_spec (n / 16 / 16 % 16) (by omega)
  obtain ⟨hc, hvc⟩ := hexByte_spec (n / 16 % 16) (by omega)
  obtain ⟨hd, hvd⟩ := hexByte_spec (n % 16) (by omega)
  have hdigits : Utf8.encode (Digits.hex 4 n) ++ rest
      = hexByte (n / 16 / 16 / 16 % 16) :: hexByte (n / 16 / 16 % 16) :: hexByte (n / 16 % 16)
        :: hexByte (n % 16) :: rest := by
    simp [Utf8.encode, Digits.hex, Digits.fixed, ha, hb, hc, hd]
  have hvalue : ((n / 16 / 16 / 16 % 16 * 16 + n / 16 / 16 % 16) * 16 + n / 16 % 16) * 16 + n % 16
      = n := by
    omega
  simp only [hdigits, readHex4, hva, hvb, hvc, hvd, hvalue]

theorem readEscape_hex
    {c : Char}
    (h : c.toNat < 0x20)
    (rest : Bytes) :
    readEscape (0x75 :: Utf8.encode (Digits.hex 4 c.toNat) ++ rest) = .ok (c, rest) := by
  have hlow : ¬ (0xDC00 ≤ c.toNat ∧ c.toNat ≤ 0xDFFF) := by omega
  have hhigh : ¬ (0xD800 ≤ c.toNat ∧ c.toNat ≤ 0xDBFF) := by omega
  simp [readEscape, readUnicodeEscape, readHex4_hex (show c.toNat < 0x10000 by omega), hlow,
    hhigh, Char.ofNat_toNat]

/-- One round of the loop reads one character. -/
theorem readTextLoop_escape
    (c : Char)
    (fuel : Nat)
    (rest : Bytes)
    (chars : List Char) :
    readTextLoop (fuel + 1) (escape c ++ rest) chars none
      = readTextLoop fuel rest (c :: chars) none := by
  unfold escape
  cases hshort : shortEscape? c with
  | some b =>
      obtain ⟨hnumber, hchar⟩ := shortEscapeChar?_of_shortEscape? hshort
      have hread : readEscape (b :: rest) = .ok (c, rest) := by
        simp only [readEscape, if_neg hnumber, hchar]
      simp [readTextLoop, hread]
  | none =>
      by_cases hcontrol : c.toNat < 0x20
      · have hbytes : Utf8.encode ("\\u" ++ Digits.hex 4 c.toNat)
            = 0x5C :: 0x75 :: Utf8.encode (Digits.hex 4 c.toNat) := by
          rw [Utf8.encode_append, encode_mark, List.cons_append, List.singleton_append]
        have hread := readEscape_hex hcontrol rest
        simp only [List.cons_append] at hread
        simp [hcontrol, hbytes, readTextLoop, hread]
      · obtain ⟨first, tail, hencodes⟩ := Utf8.exists_encodes c
        have hne : ∀ d : Char, d.toNat < 0x80 → c ≠ d → first.toNat ≠ d.toNat := by
          intro d hd hcd hfirst
          rcases hencodes.first with hsame | hlarge
          · exact hcd (Char.toNat_inj.1 (hsame.symm.trans hfirst))
          · omega
        have hquote : first ≠ 0x22 := by
          rintro rfl
          refine hne '"' (by decide) ?_ rfl
          rintro rfl
          cases hshort
        have hbackslash : first ≠ 0x5C := by
          rintro rfl
          refine hne '\\' (by decide) ?_ rfl
          rintro rfl
          cases hshort
        have hlarge : ¬ first < 0x20 := by
          rw [UInt8.lt_iff_toNat_lt]
          simp only [UInt8.reduceToNat]
          rcases hencodes.first with hsame | hlarge <;> omega
        simp [hcontrol, hencodes.written, readTextLoop, hquote, hbackslash, hlarge, hencodes.read]

/-- The loop reads all characters that were written. -/
theorem readTextLoop_flatMap_escape
    {cs : List Char}
    {fuel : Nat}
    (hfuel : cs.length < fuel)
    (rest : Bytes)
    (chars : List Char) :
    readTextLoop fuel (cs.flatMap escape ++ 0x22 :: rest) chars none
      = .ok (String.ofList (chars.reverse ++ cs), rest) := by
  induction cs generalizing fuel chars with
  | nil =>
      obtain ⟨fuel, rfl⟩ := Nat.exists_eq_add_one_of_ne_zero (Nat.ne_of_gt hfuel)
      simp [readTextLoop]
  | cons c cs ih =>
      obtain ⟨fuel, rfl⟩ := Nat.exists_eq_add_one_of_ne_zero (Nat.ne_zero_of_lt hfuel)
      rw [List.flatMap_cons, List.append_assoc, readTextLoop_escape,
        ih (Nat.lt_of_succ_lt_succ hfuel), List.reverse_cons, List.append_assoc,
        List.singleton_append]

theorem escape_ne_nil
    (c : Char) :
    escape c ≠ [] := by
  unfold escape
  split
  · exact List.cons_ne_nil _ _
  · split
    · simp [Utf8.encode_append, encode_mark]
    · obtain ⟨first, tail, hencodes⟩ := Utf8.exists_encodes c
      simp [hencodes.written]

theorem length_le_flatMap_escape
    (cs : List Char) :
    cs.length ≤ (cs.flatMap escape).length := by
  induction cs with
  | nil => exact Nat.le_refl 0
  | cons c cs ih =>
      have hc := List.length_pos_iff.2 (escape_ne_nil c)
      simp only [List.flatMap_cons, List.length_append, List.length_cons]
      omega

/-- A written string is read again. -/
theorem readText_quotedTail
    {s : String}
    {fuel : Nat}
    (hfuel : (quotedTail s).length ≤ fuel)
    (rest : Bytes) :
    readText fuel (quotedTail s ++ rest) = .ok (s, rest) := by
  have hlength := length_le_flatMap_escape s.toList
  rw [quotedTail, List.length_append, List.length_singleton] at hfuel
  rw [readText, quotedTail, List.append_assoc, List.singleton_append,
    readTextLoop_flatMap_escape (by omega)]
  simp

/-! ## Integers -/

/-- No numeral goes on here. -/
def EndsNumber (rest : Bytes) : Prop :=
  startsWithDigit rest = false ∧ startsWithExponent rest = false ∧ rest.head? ≠ some 0x2E

theorem toNat_of_isDigit
    {c : Char}
    (h : c.isDigit = true) :
    0x30 ≤ c.toNat ∧ c.toNat ≤ 0x39 := by
  simpa [Char.isDigit, UInt32.le_iff_toNat_le] using h

/-- A character that is a digit is one byte, with the value of the digit. -/
theorem exists_digit
    {c : Char}
    (h : c.isDigit = true) :
    ∃ b, String.utf8EncodeChar c = [b] ∧ Digits.value? b = some (c.toNat - '0'.toNat) := by
  obtain ⟨hlow, hhigh⟩ := toNat_of_isDigit h
  have hb := Utf8.toNat_ofNat_of_lt (show c.toNat < 0x100 by omega)
  refine ⟨_, (Utf8.encodes_one (by omega)).written, ?_⟩
  rw [Digits.value?, if_pos, hb]
  · rfl
  · simp only [Bool.and_eq_true, decide_eq_true_eq, UInt8.le_iff_toNat_le, hb, UInt8.reduceToNat]
    exact ⟨hlow, hhigh⟩

/-- More digits make no smaller number. -/
theorem le_ofDigitChars
    (cs : List Char)
    (n : Nat) :
    n ≤ Nat.ofDigitChars 10 cs n := by
  induction cs generalizing n with
  | nil => exact Nat.le_refl n
  | cons c cs ih =>
      rw [Nat.ofDigitChars_cons]
      exact Nat.le_trans (by omega) (ih _)

/-- The digits of a small number are read one by one, up to what is no digit. -/
theorem significand_digits
    {cs : List Char}
    {n : Nat}
    {rest : Bytes}
    (hcs : ∀ c ∈ cs, c.isDigit = true)
    (hsmall : Nat.ofDigitChars 10 cs n < Nat.pow 2 64)
    (hrest : startsWithDigit rest = false)
    (count : Nat) :
    significand (cs.flatMap String.utf8EncodeChar ++ rest) n count
      = (Nat.ofDigitChars 10 cs n, count + cs.length, rest) := by
  induction cs generalizing n count with
  | nil =>
      cases rest with
      | nil => rfl
      | cons b rest =>
          have hvalue : Digits.value? b = none := by simpa [startsWithDigit] using hrest
          simp [significand, hvalue]
  | cons c cs ih =>
      obtain ⟨b, hb, hvalue⟩ := exists_digit (hcs c List.mem_cons_self)
      rw [Nat.ofDigitChars_cons] at hsmall ⊢
      have hfits := Nat.lt_of_le_of_lt (le_ofDigitChars cs _) hsmall
      have hmore := ih (fun d hd => hcs d (List.mem_cons_of_mem c hd)) hsmall (count + 1)
      simp only [List.flatMap_cons, hb, List.nil_append, List.cons_append, significand, hvalue,
        if_pos hfits, hmore, List.length_cons]
      rw [Nat.add_assoc, Nat.add_comm 1]

/-- The numeral of a positive number begins with a digit that is not zero. -/
theorem exists_toDigits
    {n : Nat}
    (h : 0 < n) :
    ∃ c cs, Nat.toDigits 10 n = c :: cs ∧ c ≠ '0' := by
  induction n using Nat.strongRecOn with
  | ind n ih =>
      rcases Nat.lt_or_ge n 10 with hsmall | hlarge
      · have hne : ∀ d < 10, 0 < d → Nat.digitChar d ≠ '0' := by decide
        exact ⟨_, [], Nat.toDigits_of_lt_base hsmall, hne n hsmall h⟩
      · obtain ⟨c, cs, hdigits, hc⟩ := ih (n / 10) (by omega) (by omega)
        rw [Nat.toDigits_of_base_le (by decide) hlarge, hdigits]
        exact ⟨c, _, List.cons_append, hc⟩

theorem readAfterInteger_of_endsNumber
    {rest : Bytes}
    (hrest : EndsNumber rest)
    (negative : Bool)
    (n : Nat) :
    readAfterInteger negative n rest = .ok (ofSignificand negative n, rest) := by
  obtain ⟨_, hexponent, hpoint⟩ := hrest
  cases rest with
  | nil => rfl
  | cons b rest =>
      have hb : b ≠ 0x2E := by simpa using hpoint
      simp [readAfterInteger, hb, hexponent]

/-- A numeral without a sign is read again. -/
theorem readUnsigned_decimal
    {n : Nat}
    {rest : Bytes}
    (hn : n < Nat.pow 2 64)
    (hrest : EndsNumber rest)
    (negative : Bool) :
    readUnsigned negative (Utf8.encode (Digits.decimal n) ++ rest)
      = .ok (ofSignificand negative n, rest) := by
  rcases Nat.eq_zero_or_pos n with rfl | hpos
  · have hbytes : Utf8.encode (Digits.decimal 0) = [0x30] := rfl
    have hzero : Digits.value? 0x30 = some 0 := rfl
    simp [hbytes, readUnsigned, hzero, hrest.1, readAfterInteger_of_endsNumber hrest]
  · obtain ⟨c, cs, hdigits, hc⟩ := exists_toDigits hpos
    have hall : ∀ d ∈ c :: cs, d.isDigit = true := by
      rw [← hdigits]
      exact fun d => Nat.isDigit_of_mem_toDigits (by decide) (by decide)
    have hvalue : Nat.ofDigitChars 10 cs (c.toNat - '0'.toNat) = n := by
      have hread := Nat.ofDigitChars_ten_toDigits (n := n)
      rwa [hdigits, Nat.ofDigitChars_cons, Nat.mul_zero, Nat.zero_add] at hread
    obtain ⟨b, hb, hdigit⟩ := exists_digit (hall c List.mem_cons_self)
    have hmore := significand_digits (fun d hd => hall d (List.mem_cons_of_mem c hd))
      (by rwa [hvalue]) hrest.1 0
    obtain ⟨d, hd⟩ : ∃ d, c.toNat - '0'.toNat = d + 1 := by
      refine Nat.exists_eq_add_one_of_ne_zero fun hzero => hc (Char.toNat_inj.1 ?_)
      exact Nat.le_antisymm (Nat.sub_eq_zero_iff_le.1 hzero)
        (toNat_of_isDigit (hall c List.mem_cons_self)).1
    rw [hd] at hdigit hmore hvalue
    simp only [Utf8.encode, Digits.decimal, String.toList_ofList, hdigits, List.flatMap_cons, hb,
      List.cons_append, List.nil_append, readUnsigned, hdigit, hmore, hvalue, hrest.1]
    exact readAfterInteger_of_endsNumber hrest negative n

/-- A numeral without a sign begins with a digit. -/
theorem exists_decimal
    (n : Nat) :
    ∃ b tail, Utf8.encode (Digits.decimal n) = b :: tail ∧ (Digits.value? b).isSome = true := by
  obtain ⟨c, cs, hdigits⟩ := List.exists_cons_of_ne_nil (Nat.toDigits_ne_nil (n := n) (b := 10))
  have hc : c.isDigit = true :=
    Nat.isDigit_of_mem_toDigits (b := 10) (n := n) (by decide) (by decide) (by simp [hdigits])
  obtain ⟨b, hb, hvalue⟩ := exists_digit hc
  refine ⟨b, cs.flatMap String.utf8EncodeChar, ?_, by simp [hvalue]⟩
  simp [Utf8.encode, Digits.decimal, hdigits, hb]

/-- A numeral begins with a minus sign or a digit. -/
theorem exists_signed
    (n : Int) :
    ∃ b tail, Utf8.encode (Digits.signed n) = b :: tail
      ∧ (b = 0x2D ∨ (Digits.value? b).isSome = true) := by
  cases n with
  | ofNat m =>
      obtain ⟨b, tail, hbytes, hb⟩ := exists_decimal m
      exact ⟨b, tail, hbytes, .inr hb⟩
  | negSucc m => exact ⟨_, _, Utf8.encode_append _ _, .inl rfl⟩

/-- The integers that numbers may hold. -/
def IsInteger (n : Int) : Prop := -(Nat.pow 2 63 : Nat) ≤ n ∧ n < (Nat.pow 2 64 : Nat)

/-- A written integer is read again. -/
theorem readNumber_signed
    {n : Int}
    {rest : Bytes}
    (hn : IsInteger n)
    (hrest : EndsNumber rest) :
    readNumber (Utf8.encode (Digits.signed n) ++ rest) = .ok (.integer n, rest) := by
  obtain ⟨hlow, hhigh⟩ := hn
  cases n with
  | ofNat m =>
      have hread := readUnsigned_decimal (Int.ofNat_lt.1 hhigh) hrest false
      obtain ⟨b, tail, hbytes, hb⟩ := exists_decimal m
      have hminus : b ≠ 0x2D := by
        rintro rfl
        cases hb
      rw [hbytes] at hread
      rw [Digits.signed, hbytes]
      exact (if_neg hminus).trans hread
  | negSucc m =>
      have hm : m + 1 ≤ Nat.pow 2 63 := by omega
      have hsign : ofSignificand true (m + 1) = .integer (Int.negSucc m) := by
        simp only [ofSignificand, Nat.zero_lt_succ, hm, decide_true, Bool.and_self, if_true,
          Int.negSucc_eq, Int.natCast_add, Int.cast_ofNat_Int]
      have hminus : Utf8.encode "-" = [0x2D] := rfl
      rw [Digits.signed, Utf8.encode_append, hminus, List.singleton_append, List.cons_append,
        readNumber, if_pos rfl, ← hsign]
      exact readUnsigned_decimal (Nat.lt_of_le_of_lt hm (by decide)) hrest true

end Json
end LiveNotebooks
