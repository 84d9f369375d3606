import LiveNotebooks.Text.Utf8
import Mathlib.Data.String.Basic

/-!
# Characters are read as they are written

The bytes of a character are one piece of every text that starts with them, and this piece is
the character.  So no other character, quote or bracket begins inside them.

**Results.**
* `exists_encodes`: the first byte of a character, and how the rest is read behind it.
* `encode_lt_encode_iff`: the order of texts is that of their bytes.
-/

namespace LiveNotebooks
namespace Utf8

/-- The character is written as `first` and `tail`, and this is how it is read. -/
structure Encodes (c : Char) (first : UInt8) (tail : Bytes) : Prop where
  written : String.utf8EncodeChar c = first :: tail
  read : ∀ rest, piece first (tail ++ rest) = (.character c, rest)
  /-- Only the characters of one byte have a first byte below `0x80`. -/
  first : first.toNat = c.toNat ∨ 0x80 ≤ c.toNat ∧ 0x80 ≤ first.toNat

theorem toNat_ofNat_of_lt
    {n : Nat}
    (h : n < 0x100) :
    (UInt8.ofNat n).toNat = n := by
  rw [UInt8.toNat_ofNat']
  exact Nat.mod_eq_of_lt h

theorem isTail_ofNat
    (n : Nat) :
    isTail (UInt8.ofNat (n % 64 + 128)) = true := by
  have hlow : 0x80 ≤ n % 64 + 128 := Nat.le_add_left _ _
  have hhigh : n % 64 + 128 ≤ 0xBF := by omega
  rw [← toNat_ofNat_of_lt (show n % 64 + 128 < 0x100 by omega)] at hlow hhigh
  exact Bool.and_eq_true_iff.2
    ⟨decide_eq_true (UInt8.le_iff_toNat_le.2 hlow), decide_eq_true (UInt8.le_iff_toNat_le.2 hhigh)⟩

theorem tailBits_ofNat
    (n : Nat) :
    tailBits (UInt8.ofNat (n % 64 + 128)) = n % 64 := by
  have hbyte : (UInt8.ofNat (n % 64 + 128)).toNat = n % 64 + 128 := toNat_ofNat_of_lt (by omega)
  unfold tailBits
  rw [hbyte]
  omega

/-- The second byte is in the range that the first byte leaves to it. -/
theorem isSecond_of_toNat
    {a b : UInt8}
    (hlow : 0x80 ≤ b.toNat)
    (hhigh : b.toNat ≤ 0xBF)
    (hlong : a.toNat = 0xE0 → 0xA0 ≤ b.toNat)
    (hsurrogate : a.toNat = 0xED → b.toNat ≤ 0x9F)
    (hlonger : a.toNat = 0xF0 → 0x90 ≤ b.toNat)
    (hlast : a.toNat = 0xF4 → b.toNat ≤ 0x8F) :
    isSecond a b = true := by
  simp only [isSecond, secondRange, ← UInt8.toNat_inj, Bool.and_eq_true, decide_eq_true_eq,
    UInt8.le_iff_toNat_le, UInt8.reduceToNat]
  split
  · next h => exact ⟨hlong h, hhigh⟩
  · split
    · next h => exact ⟨hlow, hsurrogate h⟩
    · split
      · next h => exact ⟨hlonger h, hhigh⟩
      · split
        · next h => exact ⟨hlow, hlast h⟩
        · exact ⟨hlow, hhigh⟩

section

variable {c : Char}

theorem valid_toNat
    (c : Char) :
    c.toNat < 0xD800 ∨ 0xDFFF < c.toNat ∧ c.toNat < 0x110000 :=
  c.valid

theorem ofNat_eq
    {n : Nat}
    (h : c.toNat = n) :
    Char.ofNat n = c := by
  rw [← h, Char.ofNat_toNat]

/-- Characters up to U+007F are written with one byte. -/
theorem encodes_one
    (h : c.toNat ≤ 0x7F) :
    Encodes c (UInt8.ofNat c.toNat) [] := by
  have ha := toNat_ofNat_of_lt (show c.toNat < 0x100 by omega)
  refine ⟨if_pos h, fun rest => ?_, .inl ha⟩
  have hlow : UInt8.ofNat c.toNat < 0x80 := by
    rw [UInt8.lt_iff_toNat_lt, ha]
    simp only [UInt8.reduceToNat]
    omega
  rw [piece, if_pos hlow, ha, Char.ofNat_toNat]
  rfl

/-- Characters up to U+07FF are written with two bytes. -/
theorem encodes_two
    (hlow : 0x7F < c.toNat)
    (h : c.toNat ≤ 0x7FF) :
    Encodes c (UInt8.ofNat (c.toNat / 64 % 32 + 192)) [UInt8.ofNat (c.toNat % 64 + 128)] := by
  have ha := toNat_ofNat_of_lt (show c.toNat / 64 % 32 + 192 < 0x100 by omega)
  refine ⟨(if_neg (Nat.not_le.2 hlow)).trans (if_pos h), fun rest => ?_, .inr ⟨by omega, by omega⟩⟩
  have hpiece : piece2 (UInt8.ofNat (c.toNat / 64 % 32 + 192))
      (UInt8.ofNat (c.toNat % 64 + 128) :: rest) = (.character c, rest) := by
    simp only [piece2, isTail_ofNat, if_true, ha, tailBits_ofNat]
    rw [ofNat_eq (c := c) (by omega)]
  rw [piece, if_neg, if_neg, if_pos]
  · exact hpiece
  all_goals
    simp only [UInt8.lt_iff_toNat_lt, ha, UInt8.reduceToNat]
    omega

/-- Characters up to U+FFFF are written with three bytes; none of them is a surrogate. -/
theorem encodes_three
    (hlow : 0x7FF < c.toNat)
    (h : c.toNat ≤ 0xFFFF) :
    Encodes c (UInt8.ofNat (c.toNat / 4096 % 16 + 224))
      [UInt8.ofNat (c.toNat / 64 % 64 + 128), UInt8.ofNat (c.toNat % 64 + 128)] := by
  have ha := toNat_ofNat_of_lt (show c.toNat / 4096 % 16 + 224 < 0x100 by omega)
  have hb := toNat_ofNat_of_lt (show c.toNat / 64 % 64 + 128 < 0x100 by omega)
  have hone : ¬ c.toNat ≤ 0x7F := by omega
  refine ⟨(if_neg hone).trans ((if_neg (Nat.not_le.2 hlow)).trans (if_pos h)),
    fun rest => ?_, .inr ⟨by omega, by omega⟩⟩
  have hsecond : isSecond (UInt8.ofNat (c.toNat / 4096 % 16 + 224))
      (UInt8.ofNat (c.toNat / 64 % 64 + 128)) = true := by
    have hvalid := valid_toNat c
    apply isSecond_of_toNat <;> rw [hb] <;> omega
  have hpiece : piece3 (UInt8.ofNat (c.toNat / 4096 % 16 + 224))
      (UInt8.ofNat (c.toNat / 64 % 64 + 128) :: UInt8.ofNat (c.toNat % 64 + 128) :: rest)
      = (.character c, rest) := by
    simp only [piece3, hsecond, isTail_ofNat, if_true, ha, tailBits_ofNat]
    rw [ofNat_eq (c := c) (by omega)]
  rw [piece, if_neg, if_neg, if_neg, if_pos]
  · exact hpiece
  all_goals
    simp only [UInt8.lt_iff_toNat_lt, ha, UInt8.reduceToNat]
    omega

/-- All other characters are written with four bytes. -/
theorem encodes_four
    (hlow : 0xFFFF < c.toNat) :
    Encodes c (UInt8.ofNat (c.toNat / 262144 % 8 + 240))
      [UInt8.ofNat (c.toNat / 4096 % 64 + 128), UInt8.ofNat (c.toNat / 64 % 64 + 128),
        UInt8.ofNat (c.toNat % 64 + 128)] := by
  have ha := toNat_ofNat_of_lt (show c.toNat / 262144 % 8 + 240 < 0x100 by omega)
  have hb := toNat_ofNat_of_lt (show c.toNat / 4096 % 64 + 128 < 0x100 by omega)
  have hvalid := valid_toNat c
  have hone : ¬ c.toNat ≤ 0x7F := by omega
  have htwo : ¬ c.toNat ≤ 0x7FF := by omega
  refine ⟨(if_neg hone).trans ((if_neg htwo).trans (if_neg (Nat.not_le.2 hlow))),
    fun rest => ?_, .inr ⟨by omega, by omega⟩⟩
  have hsecond : isSecond (UInt8.ofNat (c.toNat / 262144 % 8 + 240))
      (UInt8.ofNat (c.toNat / 4096 % 64 + 128)) = true := by
    apply isSecond_of_toNat <;> rw [hb] <;> omega
  have hpiece : piece4 (UInt8.ofNat (c.toNat / 262144 % 8 + 240))
      (UInt8.ofNat (c.toNat / 4096 % 64 + 128) :: UInt8.ofNat (c.toNat / 64 % 64 + 128)
        :: UInt8.ofNat (c.toNat % 64 + 128) :: rest)
      = (.character c, rest) := by
    simp only [piece4, hsecond, isTail_ofNat, if_true, ha, tailBits_ofNat]
    rw [ofNat_eq (c := c) (by omega)]
  rw [piece, if_neg, if_neg, if_neg, if_neg, if_pos]
  · exact hpiece
  all_goals
    simp only [UInt8.lt_iff_toNat_lt, ha, UInt8.reduceToNat]
    omega

end

/-- The four lengths in which characters are written. -/
inductive Written (c : Char) : Bytes → Prop
  | one
      (h : c.toNat ≤ 0x7F) :
      Written c [UInt8.ofNat c.toNat]
  | two
      (hlow : 0x7F < c.toNat)
      (h : c.toNat ≤ 0x7FF) :
      Written c [UInt8.ofNat (c.toNat / 64 % 32 + 192), UInt8.ofNat (c.toNat % 64 + 128)]
  | three
      (hlow : 0x7FF < c.toNat)
      (h : c.toNat ≤ 0xFFFF) :
      Written c
        [UInt8.ofNat (c.toNat / 4096 % 16 + 224), UInt8.ofNat (c.toNat / 64 % 64 + 128),
          UInt8.ofNat (c.toNat % 64 + 128)]
  | four
      (hlow : 0xFFFF < c.toNat) :
      Written c
        [UInt8.ofNat (c.toNat / 262144 % 8 + 240), UInt8.ofNat (c.toNat / 4096 % 64 + 128),
          UInt8.ofNat (c.toNat / 64 % 64 + 128), UInt8.ofNat (c.toNat % 64 + 128)]

/-- Every character is written in one of the four ways. -/
theorem written_encodeChar
    (c : Char) :
    Written c (String.utf8EncodeChar c) := by
  rcases Nat.lt_or_ge 0x7F c.toNat with h1 | h1
  · rcases Nat.lt_or_ge 0x7FF c.toNat with h2 | h2
    · rcases Nat.lt_or_ge 0xFFFF c.toNat with h3 | h3
      · rw [(encodes_four h3).written]
        exact .four h3
      · rw [(encodes_three h2 h3).written]
        exact .three h2 h3
    · rw [(encodes_two h1 h2).written]
      exact .two h1 h2
  · rw [(encodes_one h1).written]
    exact .one h1

/-- Every character is read as it is written. -/
theorem exists_encodes
    (c : Char) :
    ∃ first tail, Encodes c first tail := by
  generalize String.utf8EncodeChar c = bytes, written_encodeChar c = h
  cases h with
  | one h => exact ⟨_, _, encodes_one h⟩
  | two hlow h => exact ⟨_, _, encodes_two hlow h⟩
  | three hlow h => exact ⟨_, _, encodes_three hlow h⟩
  | four hlow => exact ⟨_, _, encodes_four hlow⟩

/-! ## Order -/

theorem ofNat_lt_ofNat_iff
    {m n : Nat}
    (hm : m < 0x100)
    (hn : n < 0x100) :
    UInt8.ofNat m < UInt8.ofNat n ↔ m < n := by
  rw [UInt8.lt_iff_toNat_lt, toNat_ofNat_of_lt hm, toNat_ofNat_of_lt hn]

theorem ofNat_eq_ofNat_iff
    {m n : Nat}
    (hm : m < 0x100)
    (hn : n < 0x100) :
    UInt8.ofNat m = UInt8.ofNat n ↔ m = n := by
  rw [← UInt8.toNat_inj, toNat_ofNat_of_lt hm, toNat_ofNat_of_lt hn]

/-- The bytes of a greater character are greater, whatever follows.  Both are compared by their
digits to the base 64. -/
theorem encodeChar_append_lt
    {c d : Char}
    (h : c < d)
    (rest rest' : Bytes) :
    String.utf8EncodeChar c ++ rest < String.utf8EncodeChar d ++ rest' := by
  have hlt : c.toNat < d.toNat := h
  have hc := valid_toNat c
  have hd := valid_toNat d
  generalize String.utf8EncodeChar c = first, written_encodeChar c = hfirst
  generalize String.utf8EncodeChar d = second, written_encodeChar d = hsecond
  cases hfirst <;> cases hsecond <;>
    simp (disch := omega) only [List.cons_append, List.nil_append, List.cons_lt_cons_iff,
      ofNat_lt_ofNat_iff, ofNat_eq_ofNat_iff]
  case four.four =>
    have hdigits : ∀ n < 0x110000, ∃ p q r s, n = ((p * 64 + q) * 64 + r) * 64 + s
        ∧ q < 64 ∧ r < 64 ∧ s < 64 ∧ n / 262144 % 8 = p ∧ n / 4096 % 64 = q ∧ n / 64 % 64 = r
        ∧ n % 64 = s :=
      fun n hn => ⟨_, _, _, _, by omega, by omega, by omega, by omega, rfl, rfl, rfl, rfl⟩
    obtain ⟨p, q, r, s, hcs, hq, hr, hs, h3, h2, h1, h0⟩ := hdigits c.toNat (by omega)
    obtain ⟨p', q', r', s', hds, hq', hr', hs', h3', h2', h1', h0'⟩ := hdigits d.toNat (by omega)
    rw [h3, h2, h1, h0, h3', h2', h1', h0']
    clear h3 h2 h1 h0 h3' h2' h1' h0'
    omega
  all_goals omega

/-- Texts are in the same order as their bytes. -/
theorem flatMap_encodeChar_lt
    {cs ds : List Char}
    (h : cs < ds) :
    cs.flatMap String.utf8EncodeChar < ds.flatMap String.utf8EncodeChar := by
  induction h with
  | @nil d ds =>
      obtain ⟨first, tail, hencodes⟩ := exists_encodes d
      rw [List.flatMap_nil, List.flatMap_cons, hencodes.written]
      exact .nil
  | rel h => exact encodeChar_append_lt h _ _
  | @cons c cs ds _ ih =>
      rw [List.flatMap_cons, List.flatMap_cons]
      exact List.append_left_lt ih

/-- Texts are ordered as their bytes are. -/
theorem encode_lt_encode_iff
    {s t : String} :
    encode s < encode t ↔ s < t := by
  constructor
  · intro h
    rcases lt_trichotomy s t with hlt | rfl | hgt
    · exact hlt
    · exact absurd h (List.lt_irrefl _)
    · exact absurd (flatMap_encodeChar_lt hgt) (List.lt_asymm h)
  · exact flatMap_encodeChar_lt

end Utf8
end LiveNotebooks
