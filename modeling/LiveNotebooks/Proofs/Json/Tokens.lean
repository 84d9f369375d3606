import LiveNotebooks.Json.Number
import LiveNotebooks.Json.Text
import Mathlib.Algebra.Ring.Nat

/-!
# Numerals and strings of a text

A reader of numerals or strings takes something off the text and leaves the rest.  A string has
at most as many bytes as its numeral or escapes in the text, so a text that is embedded in a
string is shorter than the text around it.

**Results.**
* `leaves_readNumber`: a numeral is not empty.
* `readText_eq_of_lt`: fuel above the length of the text never runs out.
* `length_lt_of_readText`: a string is shorter than its source.
-/

namespace LiveNotebooks

namespace Utf8

/-- The least number of bytes that a piece takes. -/
def Piece.size : Piece → Nat
  | .character c => c.utf8Size
  | .broken _ => 1

theorem Piece.size_pos
    (p : Piece) :
    0 < p.size := by
  cases p with
  | character c => exact c.utf8Size_pos
  | broken bytes => exact Nat.one_pos

theorem toNat_ofNat_le
    (n : Nat) :
    (Char.ofNat n).toNat ≤ n := by
  by_cases hvalid : n.isValidChar
  · rw [Char.ofNat, dif_pos hvalid]
    exact Nat.le_of_eq rfl
  · rw [Char.ofNat, dif_neg hvalid]
    exact Nat.zero_le n

/-- Characters with low codes are written with few bytes. -/
theorem utf8Size_le
    (c : Char) :
    (c.toNat < 0x80 → c.utf8Size ≤ 1)
      ∧ (c.toNat < 0x800 → c.utf8Size ≤ 2)
      ∧ (c.toNat < 0x10000 → c.utf8Size ≤ 3) := by
  simp only [Char.utf8Size, UInt32.le_iff_toNat_le, Char.toNat_val, UInt32.toNat_ofNatLT]
  split
  · omega
  · split
    · omega
    · split <;> omega

theorem tailBits_lt_of_isTail
    {b : UInt8}
    (h : isTail b = true) :
    tailBits b < 0x40 := by
  simp only [isTail, Bool.and_eq_true, decide_eq_true_eq, UInt8.le_iff_toNat_le,
    UInt8.reduceToNat] at h
  unfold tailBits
  omega

theorem tailBits_lt_of_isSecond
    {a b : UInt8}
    (h : isSecond a b = true) :
    tailBits b < 0x40 := by
  have hrange : (secondRange a).2.toNat ≤ 0xBF := by
    unfold secondRange
    repeat' split
    all_goals decide
  simp only [isSecond, Bool.and_eq_true, decide_eq_true_eq, UInt8.le_iff_toNat_le] at h
  unfold tailBits
  omega

section

variable {a : UInt8} {text : Bytes}

theorem size_broken_le
    (bytes : Bytes)
    {rest : Bytes}
    (h : rest.length ≤ text.length) :
    (Piece.broken bytes).size + rest.length ≤ text.length + 1 := by
  simp only [Piece.size]
  omega

/-- A piece of two bytes takes no more bytes than there are. -/
theorem size_piece2_le
    (ha : a < 0xE0) :
    (piece2 a text).1.size + (piece2 a text).2.length ≤ text.length + 1 := by
  have hfirst : a.toNat < 0xE0 := UInt8.lt_iff_toNat_lt.1 ha
  unfold piece2
  split
  · next b rest =>
      split
      · next hb =>
          have htail := tailBits_lt_of_isTail hb
          have hsize := (utf8Size_le _).2.1 (Nat.lt_of_le_of_lt
            (toNat_ofNat_le ((a.toNat - 0xC0) * 0x40 + tailBits b)) (by omega))
          simp only [Piece.size, List.length_cons]
          omega
      · exact size_broken_le _ (by simp)
  · exact size_broken_le _ (by simp)

/-- A piece of three bytes takes no more bytes than there are. -/
theorem size_piece3_le
    (ha : a < 0xF0) :
    (piece3 a text).1.size + (piece3 a text).2.length ≤ text.length + 1 := by
  have hfirst : a.toNat < 0xF0 := UInt8.lt_iff_toNat_lt.1 ha
  unfold piece3
  split
  · next b rest =>
      split
      · next hb =>
          have hsecond := tailBits_lt_of_isSecond hb
          split
          · next c rest =>
              split
              · next hc =>
                  have htail := tailBits_lt_of_isTail hc
                  have hsize := (utf8Size_le _).2.2 (Nat.lt_of_le_of_lt (toNat_ofNat_le
                    (((a.toNat - 0xE0) * 0x40 + tailBits b) * 0x40 + tailBits c)) (by omega))
                  simp only [Piece.size, List.length_cons]
                  omega
              · exact size_broken_le _ (by simp)
          · exact size_broken_le _ (by simp)
      · exact size_broken_le _ (by simp)
  · exact size_broken_le _ (by simp)

theorem size_piece4_le
    (a : UInt8)
    (text : Bytes) :
    (piece4 a text).1.size + (piece4 a text).2.length ≤ text.length + 1 := by
  unfold piece4
  repeat' split
  all_goals simp only [Piece.size, List.length_cons, List.length_nil]
  · refine Nat.le_trans (Nat.add_le_add_right (Char.utf8Size_le_four _) _) ?_
    omega
  all_goals omega

/-- A piece takes at least the bytes of its character. -/
theorem size_piece_le
    (a : UInt8)
    (text : Bytes) :
    (piece a text).1.size + (piece a text).2.length ≤ text.length + 1 := by
  unfold piece
  split
  · next ha =>
      have hsize := (utf8Size_le _).1 (Nat.lt_of_le_of_lt (toNat_ofNat_le a.toNat)
        (UInt8.lt_iff_toNat_lt.1 ha))
      simp only [Piece.size]
      omega
  · split
    · exact size_broken_le _ (by simp)
    · split
      · next ha => exact size_piece2_le ha
      · split
        · next ha => exact size_piece3_le ha
        · split
          · exact size_piece4_le a text
          · exact size_broken_le _ (by simp)

end

end Utf8

namespace Json

/-- A reading leaves at most the given number of bytes. -/
def Leaves {α : Type} (bound : Nat) (reading : Reading α) : Prop :=
  ∀ a rest, reading = .ok (a, rest) → rest.length ≤ bound

section

variable {α : Type} {bound : Nat} {text rest : Bytes}

theorem leaves_error
    (bound : Nat)
    (fault : Fault) :
    Leaves bound (.error fault : Reading α) := by
  intro a rest h
  cases h

theorem leaves_ok
    {a : α}
    (h : rest.length ≤ bound) :
    Leaves bound (.ok (a, rest)) := by
  intro a' rest' he
  cases he
  exact h

theorem Leaves.mono
    {bound' : Nat}
    {reading : Reading α}
    (h : Leaves bound reading)
    (hle : bound ≤ bound') :
    Leaves bound' reading :=
  fun a rest he => Nat.le_trans (h a rest he) hle

/-! ## Numerals -/

theorem length_dropDigits_le
    (text : Bytes)
    (count : Nat) :
    (dropDigits text count).2.length ≤ text.length := by
  induction text generalizing count with
  | nil => exact Nat.le_refl _
  | cons b rest ih =>
      rw [dropDigits]
      split
      · exact Nat.le_succ_of_le (ih _)
      · exact Nat.le_refl _

/-- Reading digits never goes back. -/
theorem length_significand_le
    (text : Bytes)
    (n count : Nat) :
    (significand text n count).2.2.length ≤ text.length := by
  induction text generalizing n count with
  | nil => exact Nat.le_refl _
  | cons b rest ih =>
      rw [significand]
      split
      · split
        · exact Nat.le_succ_of_le (ih _ _)
        · exact Nat.le_refl _
      · exact Nat.le_refl _

/-- Reading the digits of an exponent never goes back. -/
theorem length_exponentDigits_le
    (text : Bytes)
    (e : Nat) :
    (exponentDigits text e).2.length ≤ text.length := by
  induction text generalizing e with
  | nil => exact Nat.le_refl _
  | cons b rest ih =>
      rw [exponentDigits]
      split
      · split
        · exact Nat.le_succ_of_le (ih _)
        · exact Nat.le_succ _
      · exact Nat.le_refl _

/-- Reading a sign never goes back. -/
theorem length_exponentSign_le
    (text : Bytes) :
    (exponentSign text).2.length ≤ text.length := by
  cases text with
  | nil => exact Nat.le_refl _
  | cons b rest =>
      rw [exponentSign]
      split
      · exact Nat.le_succ _
      · split
        · exact Nat.le_succ _
        · exact Nat.le_refl _

theorem leaves_orTooLarge
    (negative : Bool)
    (rest : Bytes)
    (x : Option Double) :
    Leaves rest.length (orTooLarge negative rest x) := by
  cases x with
  | none => exact leaves_error _ _
  | some x => exact leaves_ok (Nat.le_refl _)

theorem leaves_readScaled
    (negative : Bool)
    (n : Nat)
    (e : Int)
    (rest : Bytes) :
    Leaves rest.length (readScaled negative n e rest) :=
  leaves_orTooLarge negative rest (scale? n e)

/-- Reading an exponent never goes back. -/
theorem leaves_readExponent
    (negative : Bool)
    (n : Nat)
    (start : Int)
    (text : Bytes) :
    Leaves text.length (readExponent negative n start text) := by
  have hsign := length_exponentSign_le text
  unfold readExponent
  simp only
  split
  · exact leaves_error _ _
  · next b rest hrest =>
      rw [hrest, List.length_cons] at hsign
      split
      · exact leaves_error _ _
      · next d _ =>
          have hdigits := length_exponentDigits_le rest d
          split
          · next e after hexponent =>
              simp only [hexponent] at hdigits
              exact (leaves_readScaled _ _ _ _).mono (by omega)
          · next after hexponent =>
              simp only [hexponent] at hdigits
              split
              · exact leaves_error _ _
              · exact leaves_ok (Nat.le_trans (length_dropDigits_le after 0) (by omega))

theorem leaves_readTail
    (negative : Bool)
    (n : Nat)
    (e : Int)
    (text : Bytes) :
    Leaves text.length (readTail negative n e text) := by
  unfold readTail
  split
  · exact (leaves_readExponent _ _ _ _).mono (by simp)
  · exact leaves_readScaled _ _ _ _

/-- Reading a fraction never goes back. -/
theorem leaves_readFraction
    (negative : Bool)
    (n shift : Nat)
    (text : Bytes) :
    Leaves text.length (readFraction negative n shift text) := by
  have hdigits := length_significand_le text n 0
  unfold readFraction
  split
  next m count rest hrest =>
    rw [hrest] at hdigits
    simp only
    split
    · exact (leaves_readTail _ _ _ _).mono (Nat.le_trans (length_dropDigits_le rest 0) hdigits)
    · split
      · exact leaves_error _ _
      · exact (leaves_readTail _ _ _ _).mono hdigits

/-- Reading what follows the digits of a number never goes back. -/
theorem leaves_readAfterInteger
    (negative : Bool)
    (n : Nat)
    (text : Bytes) :
    Leaves text.length (readAfterInteger negative n text) := by
  unfold readAfterInteger
  split
  · split
    · exact (leaves_readFraction _ _ _ _).mono (Nat.le_succ _)
    · split
      · exact (leaves_readExponent _ _ _ _).mono (Nat.le_succ _)
      · exact leaves_ok (Nat.le_refl _)
  · exact leaves_ok (Nat.le_refl _)

/-- A numeral has a digit behind its sign. -/
theorem leaves_readUnsigned
    (negative : Bool)
    (text : Bytes) :
    Leaves (text.length - 1) (readUnsigned negative text) := by
  unfold readUnsigned
  split
  · exact leaves_error _ _
  · next b rest =>
      rw [List.length_cons, Nat.add_sub_cancel]
      split
      · exact leaves_error _ _
      · split
        · exact leaves_error _ _
        · exact leaves_readAfterInteger _ _ _
      · next d _ _ =>
          have hdigits := length_significand_le rest d 0
          split
          next n count after hafter =>
            simp only [hafter] at hdigits
            split
            · have hdrop := length_dropDigits_le after 0
              simp only
              split
              · next c more hmore =>
                  rw [hmore] at hdrop ⊢
                  have hleft := Nat.le_trans hdrop hdigits
                  split
                  · exact (leaves_readFraction _ _ _ _).mono (Nat.le_of_succ_le hleft)
                  · exact (leaves_readTail _ _ _ _).mono hleft
              · exact (leaves_readScaled _ _ _ _).mono (Nat.zero_le _)
            · exact (leaves_readAfterInteger _ _ _).mono hdigits

/-- A numeral is not empty. -/
theorem leaves_readNumber
    (text : Bytes) :
    Leaves (text.length - 1) (readNumber text) := by
  unfold readNumber
  split
  · split
    · exact (leaves_readUnsigned _ _).mono (by simp)
    · exact leaves_readUnsigned _ _
  · exact leaves_error _ _

/-! ## Strings -/

theorem length_of_readHex4
    {n : Nat}
    (h : readHex4 text = .ok (n, rest)) :
    rest.length + 4 = text.length := by
  unfold readHex4 at h
  split at h
  · split at h
    · cases h
      rfl
    · cases h
  · cases h

/-- A character from two escapes is no longer than the second escape. -/
theorem size_of_readLowSurrogate
    {high : Nat}
    {c : Char}
    (h : readLowSurrogate high text = .ok (c, rest)) :
    c.utf8Size + rest.length ≤ text.length := by
  have hsize := Char.utf8Size_le_four c
  unfold readLowSurrogate at h
  split at h
  · cases h
  · split at h
    · cases h
    · split at h
      · cases h
      · split at h
        · cases h
        · split at h
          · cases h
          · next hread =>
              have hlength := length_of_readHex4 hread
              split at h
              · obtain ⟨rfl, rfl⟩ := Prod.mk.inj (Except.ok.inj h)
                simp only [List.length_cons]
                omega
              · cases h

/-- A character from an escape by number is no longer than the escape. -/
theorem size_of_readUnicodeEscape
    {c : Char}
    (h : readUnicodeEscape text = .ok (c, rest)) :
    c.utf8Size + rest.length ≤ text.length := by
  have hsize := Char.utf8Size_le_four c
  unfold readUnicodeEscape at h
  split at h
  · cases h
  · next hread =>
      have hlength := length_of_readHex4 hread
      split at h
      · cases h
      · split at h
        · have hlow := size_of_readLowSurrogate h
          omega
        · cases h
          omega

theorem utf8Size_of_shortEscapeChar?
    {b : UInt8}
    {c : Char}
    (h : shortEscapeChar? b = some c) :
    c.utf8Size = 1 := by
  unfold shortEscapeChar? at h
  repeat' split at h
  all_goals cases h
  all_goals decide

/-- An escape takes at least the bytes of the character that it stands for. -/
theorem size_of_readEscape
    {c : Char}
    (h : readEscape text = .ok (c, rest)) :
    c.utf8Size + rest.length ≤ text.length := by
  unfold readEscape at h
  split at h
  · cases h
  · split at h
    · exact Nat.le_succ_of_le (size_of_readUnicodeEscape h)
    · split at h
      · next hshort =>
          have hsize := utf8Size_of_shortEscapeChar? hshort
          cases h
          rw [hsize, List.length_cons]
          omega
      · cases h

theorem length_encode
    (s : String) :
    (Utf8.encode s).length = (s.toList.map Char.utf8Size).sum := by
  simp only [Utf8.encode, List.length_flatMap, String.length_utf8EncodeChar]

/-- A string has fewer bytes than its source with the closing quote. -/
theorem size_of_readTextLoop
    {fuel : Nat}
    {chars : List Char}
    {bad : Option Nat}
    {s : String}
    (h : readTextLoop fuel text chars bad = .ok (s, rest)) :
    (Utf8.encode s).length + rest.length < (chars.map Char.utf8Size).sum + text.length := by
  induction fuel generalizing text chars bad with
  | zero => cases h
  | succ fuel ih =>
      cases text with
      | nil => cases h
      | cons b text =>
          simp only [readTextLoop] at h
          split at h
          · split at h
            · cases h
              rw [length_encode, String.toList_ofList, List.map_reverse, List.sum_reverse,
                List.length_cons]
              omega
            · cases h
          · split at h
            · split at h
              · next c after hread =>
                  have hescape := size_of_readEscape hread
                  have hlater := ih h
                  rw [List.map_cons, List.sum_cons] at hlater
                  rw [List.length_cons]
                  omega
              · cases h
            · split at h
              · cases h
              · have hpiece := Utf8.size_piece_le b text
                split at h
                · next c after hread =>
                    have hlater := ih h
                    rw [hread] at hpiece
                    simp only [Utf8.Piece.size] at hpiece
                    rw [List.map_cons, List.sum_cons] at hlater
                    rw [List.length_cons]
                    omega
                · next bytes after hread =>
                    have hlater := ih h
                    rw [hread] at hpiece
                    simp only [Utf8.Piece.size] at hpiece
                    rw [List.length_cons]
                    omega

/-- Fuel above the length of the text never runs out. -/
theorem readTextLoop_eq_of_lt
    {fuel fuel' : Nat}
    (h : text.length < fuel)
    (h' : text.length < fuel')
    (chars : List Char)
    (bad : Option Nat) :
    readTextLoop fuel text chars bad = readTextLoop fuel' text chars bad := by
  induction fuel generalizing fuel' text chars bad with
  | zero => exact absurd h (Nat.not_lt_zero _)
  | succ fuel ih =>
      obtain ⟨fuel', rfl⟩ : ∃ k, fuel' = k + 1 := ⟨fuel' - 1, by omega⟩
      cases text with
      | nil => rfl
      | cons b text =>
          rw [List.length_cons, Nat.add_lt_add_iff_right] at h h'
          have hread : ∀ after : Bytes, after.length ≤ text.length → ∀ chars bad,
              readTextLoop fuel after chars bad = readTextLoop fuel' after chars bad :=
            fun after hafter => ih (Nat.lt_of_le_of_lt hafter h) (Nat.lt_of_le_of_lt hafter h')
          simp only [readTextLoop]
          split
          · rfl
          · split
            · split
              · next c after hescape =>
                  have hsize := size_of_readEscape hescape
                  exact hread after (by omega) _ _
              · rfl
            · split
              · rfl
              · have hafter : (Utf8.piece b text).2.length ≤ text.length := by
                  have hsize := Utf8.size_piece_le b text
                  have hpos := (Utf8.piece b text).1.size_pos
                  omega
                split
                · next c after hpiece =>
                    rw [hpiece] at hafter
                    exact hread after hafter _ _
                · next bytes after hpiece =>
                    rw [hpiece] at hafter
                    exact hread after hafter _ _

/-- A string is shorter than its source. -/
theorem length_lt_of_readText
    {fuel : Nat}
    {s : String}
    (h : readText fuel text = .ok (s, rest)) :
    (Utf8.encode s).length + rest.length < text.length := by
  have hsize := size_of_readTextLoop h
  rwa [List.map_nil, List.sum_nil, Nat.zero_add] at hsize

theorem readText_eq_of_lt
    {fuel : Nat}
    (h : text.length < fuel) :
    readText fuel text = readText (text.length + 1) text :=
  readTextLoop_eq_of_lt h (Nat.lt_succ_self _) [] none

end

end Json
end LiveNotebooks
