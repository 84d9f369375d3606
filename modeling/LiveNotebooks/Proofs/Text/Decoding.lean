import LiveNotebooks.Proofs.Text.Utf8

/-!
# What bytes are a text

A piece of a text that is a character consists of the bytes of this character, as the ranges of the
first two bytes leave no other way to write it.  So a list of bytes is read as a text just if it is
what this text is written as.

**Induction.**  The pieces are taken off one by one, and each takes a byte at least, so the fuel
that is the length of the list never runs out.

**Result.**  `decode?_eq_some_iff`: which bytes are read as a text.
-/

namespace LiveNotebooks
namespace Utf8

/-! ## Characters -/

theorem toNat_ofNat_of_valid
    {n : Nat}
    (h : n < 0xD800 ∨ 0xDFFF < n ∧ n < 0x110000) :
    (Char.ofNat n).toNat = n := by
  rw [Char.ofNat, dif_pos h]
  rfl

theorem eq_ofNat_iff
    {b : UInt8}
    {n : Nat}
    (hn : n < 0x100) :
    b = UInt8.ofNat n ↔ b.toNat = n := by
  rw [← UInt8.toNat_inj, toNat_ofNat_of_lt hn]

theorem range_of_isTail
    {b : UInt8}
    (h : isTail b = true) :
    0x80 ≤ b.toNat ∧ b.toNat ≤ 0xBF := by
  simpa [isTail, UInt8.le_iff_toNat_le] using h

/-- The range of a second byte, which depends on the four extreme first bytes. -/
theorem range_of_isSecond
    {a b : UInt8}
    (h : isSecond a b = true) :
    0x80 ≤ b.toNat ∧ b.toNat ≤ 0xBF
      ∧ (a.toNat = 0xE0 → 0xA0 ≤ b.toNat)
      ∧ (a.toNat = 0xED → b.toNat ≤ 0x9F)
      ∧ (a.toNat = 0xF0 → 0x90 ≤ b.toNat)
      ∧ (a.toNat = 0xF4 → b.toNat ≤ 0x8F) := by
  simp only [isSecond, secondRange, ← UInt8.toNat_inj, Bool.and_eq_true, decide_eq_true_eq,
    UInt8.le_iff_toNat_le, UInt8.reduceToNat] at h
  repeat' split at h
  all_goals
    simp only [UInt8.reduceToNat] at h
    omega

section

variable {a : UInt8} {c : Char} {rest after : Bytes}

/-- A character that is read from two bytes is written with them. -/
theorem eq_encodeChar_of_piece2
    (hlow : 0xC2 ≤ a.toNat)
    (hhigh : a.toNat < 0xE0)
    (h : piece2 a rest = (.character c, after)) :
    a :: rest = String.utf8EncodeChar c ++ after := by
  unfold piece2 at h
  split at h
  · next b tail =>
      split at h
      · next hb =>
          obtain ⟨hc, rfl⟩ := Prod.mk.inj h
          have hrange := range_of_isTail hb
          have hcode : c.toNat = (a.toNat - 0xC0) * 0x40 + tailBits b := by
            rw [← Piece.character.inj hc]
            exact toNat_ofNat_of_valid (by unfold tailBits; omega)
          unfold tailBits at hcode
          have hfirst : a = UInt8.ofNat (c.toNat / 64 % 32 + 192) :=
            (eq_ofNat_iff (by omega)).2 (by omega)
          have hsecond : b = UInt8.ofNat (c.toNat % 64 + 128) :=
            (eq_ofNat_iff (by omega)).2 (by omega)
          rw [(encodes_two (c := c) (by omega) (by omega)).written, ← hfirst, ← hsecond]
          rfl
      · cases h
  · cases h

/-- A character that is read from three bytes is written with them; it is no surrogate. -/
theorem eq_encodeChar_of_piece3
    (hlow : 0xE0 ≤ a.toNat)
    (hhigh : a.toNat < 0xF0)
    (h : piece3 a rest = (.character c, after)) :
    a :: rest = String.utf8EncodeChar c ++ after := by
  unfold piece3 at h
  split at h
  · next b tail =>
      split at h
      · next hb =>
          split at h
          · next d tail =>
              split at h
              · next hd =>
                  obtain ⟨hc, rfl⟩ := Prod.mk.inj h
                  have hrange := range_of_isSecond hb
                  have hlast := range_of_isTail hd
                  have hcode : c.toNat
                      = ((a.toNat - 0xE0) * 0x40 + tailBits b) * 0x40 + tailBits d := by
                    rw [← Piece.character.inj hc]
                    exact toNat_ofNat_of_valid (by unfold tailBits; omega)
                  unfold tailBits at hcode
                  have hfirst : a = UInt8.ofNat (c.toNat / 4096 % 16 + 224) :=
                    (eq_ofNat_iff (by omega)).2 (by omega)
                  have hsecond : b = UInt8.ofNat (c.toNat / 64 % 64 + 128) :=
                    (eq_ofNat_iff (by omega)).2 (by omega)
                  have hthird : d = UInt8.ofNat (c.toNat % 64 + 128) :=
                    (eq_ofNat_iff (by omega)).2 (by omega)
                  rw [(encodes_three (c := c) (by omega) (by omega)).written, ← hfirst, ← hsecond,
                    ← hthird]
                  rfl
              · cases h
          · cases h
      · cases h
  · cases h

/-- A character that is read from four bytes is written with them. -/
theorem eq_encodeChar_of_piece4
    (hlow : 0xF0 ≤ a.toNat)
    (hhigh : a.toNat < 0xF5)
    (h : piece4 a rest = (.character c, after)) :
    a :: rest = String.utf8EncodeChar c ++ after := by
  unfold piece4 at h
  split at h
  · next b tail =>
      split at h
      · next hb =>
          split at h
          · next d tail =>
              split at h
              · next hd =>
                  split at h
                  · next e tail =>
                      split at h
                      · next he =>
                          obtain ⟨hc, rfl⟩ := Prod.mk.inj h
                          have hrange := range_of_isSecond hb
                          have hthird := range_of_isTail hd
                          have hlast := range_of_isTail he
                          have hcode : c.toNat
                              = (((a.toNat - 0xF0) * 0x40 + tailBits b) * 0x40 + tailBits d) * 0x40
                                + tailBits e := by
                            rw [← Piece.character.inj hc]
                            exact toNat_ofNat_of_valid (by unfold tailBits; omega)
                          unfold tailBits at hcode
                          have h1 : a = UInt8.ofNat (c.toNat / 262144 % 8 + 240) :=
                            (eq_ofNat_iff (by omega)).2 (by omega)
                          have h2 : b = UInt8.ofNat (c.toNat / 4096 % 64 + 128) :=
                            (eq_ofNat_iff (by omega)).2 (by omega)
                          have h3 : d = UInt8.ofNat (c.toNat / 64 % 64 + 128) :=
                            (eq_ofNat_iff (by omega)).2 (by omega)
                          have h4 : e = UInt8.ofNat (c.toNat % 64 + 128) :=
                            (eq_ofNat_iff (by omega)).2 (by omega)
                          rw [(encodes_four (c := c) (by omega)).written, ← h1, ← h2, ← h3, ← h4]
                          rfl
                      · cases h
                  · cases h
              · cases h
          · cases h
      · cases h
  · cases h

/-- A piece that is a character consists of its bytes. -/
theorem eq_encodeChar_of_piece
    (h : piece a rest = (.character c, after)) :
    a :: rest = String.utf8EncodeChar c ++ after := by
  simp only [piece, UInt8.lt_iff_toNat_lt, UInt8.reduceToNat] at h
  split at h
  · next hlow =>
      obtain ⟨hc, rfl⟩ := Prod.mk.inj h
      have hcode : c.toNat = a.toNat := by
        rw [← Piece.character.inj hc]
        exact toNat_ofNat_of_valid (by omega)
      rw [(encodes_one (c := c) (by omega)).written, hcode]
      simp
  · split at h
    · cases h
    · split at h
      · exact eq_encodeChar_of_piece2 (by omega) (by omega) h
      · split at h
        · exact eq_encodeChar_of_piece3 (by omega) (by omega) h
        · split at h
          · exact eq_encodeChar_of_piece4 (by omega) (by omega) h
          · cases h

end

/-! ## Texts -/

/-- The pieces of a text, the first one in front. -/
def piecesFrom : Nat → Bytes → List Piece
  | 0, _ => []
  | _, [] => []
  | fuel + 1, a :: rest => (piece a rest).1 :: piecesFrom fuel (piece a rest).2

/-- The pieces are collected in reverse. -/
theorem piecesOnto_eq
    (fuel : Nat)
    (text : Bytes)
    (acc : List Piece) :
    piecesOnto fuel text acc = (piecesFrom fuel text).reverse ++ acc := by
  induction fuel generalizing text acc with
  | zero => rfl
  | succ fuel ih =>
      cases text with
      | nil => rfl
      | cons a rest =>
          rw [piecesFrom, List.reverse_cons, List.append_assoc]
          exact ih _ _

theorem decode?_eq
    (text : Bytes) :
    decode? text = ((piecesFrom text.length text).mapM Piece.toChar?).map String.ofList := by
  rw [decode?, pieces, piecesOnto_eq, List.append_nil, List.reverse_reverse]

/-- A text that is read without loss is that of its characters. -/
theorem mapM_piecesFrom
    {fuel : Nat}
    {text : Bytes}
    {cs : List Char}
    (hfuel : text.length ≤ fuel)
    (h : (piecesFrom fuel text).mapM Piece.toChar? = some cs) :
    text = cs.flatMap String.utf8EncodeChar := by
  induction fuel generalizing text cs with
  | zero =>
      obtain rfl := List.eq_nil_of_length_eq_zero (Nat.le_zero.1 hfuel)
      obtain rfl : [] = cs := by simpa [piecesFrom] using h
      rfl
  | succ fuel ih =>
      cases text with
      | nil =>
          obtain rfl : [] = cs := by simpa [piecesFrom] using h
          rfl
      | cons a rest =>
          simp only [piecesFrom, List.mapM_cons, Option.bind_eq_bind, Option.bind_eq_some_iff,
            Option.pure_def, Option.some.injEq] at h
          obtain ⟨c, hc, ds, hds, rfl⟩ := h
          cases hpiece : (piece a rest).1 with
          | broken bytes =>
              rw [hpiece] at hc
              cases hc
          | character d =>
              rw [hpiece] at hc
              cases hc
              have hbytes := eq_encodeChar_of_piece
                (show piece a rest = (.character c, (piece a rest).2) from Prod.ext hpiece rfl)
              have hpos := String.length_utf8EncodeChar c ▸ c.utf8Size_pos
              have hlength := congrArg List.length hbytes
              rw [List.length_append] at hlength
              have hrest := ih (show (piece a rest).2.length ≤ fuel by omega) hds
              rw [hbytes, List.flatMap_cons, ← hrest]

/-- The characters of a written text are read back. -/
theorem mapM_piecesFrom_flatMap
    {fuel : Nat}
    {cs : List Char}
    (hfuel : (cs.flatMap String.utf8EncodeChar).length ≤ fuel) :
    (piecesFrom fuel (cs.flatMap String.utf8EncodeChar)).mapM Piece.toChar? = some cs := by
  induction cs generalizing fuel with
  | nil => cases fuel <;> rfl
  | cons c cs ih =>
      obtain ⟨first, tail, hencodes⟩ := exists_encodes c
      simp only [List.flatMap_cons, hencodes.written, List.cons_append, List.length_cons,
        List.length_append] at hfuel ⊢
      obtain ⟨fuel, rfl⟩ := Nat.exists_eq_add_one_of_ne_zero (Nat.ne_zero_of_lt hfuel)
      have hrest := ih (show (cs.flatMap String.utf8EncodeChar).length ≤ fuel by omega)
      simp only [piecesFrom, hencodes.read, List.mapM_cons, hrest]
      rfl

/-- **Which bytes are read as a text.** -/
theorem decode?_eq_some_iff
    {text : Bytes}
    {s : String} :
    decode? text = some s ↔ text = encode s := by
  rw [decode?_eq, Option.map_eq_some_iff]
  constructor
  · rintro ⟨cs, hcs, rfl⟩
    rw [encode, String.toList_ofList]
    exact mapM_piecesFrom (Nat.le_refl _) hcs
  · rintro rfl
    exact ⟨s.toList, mapM_piecesFrom_flatMap (Nat.le_refl _), String.ofList_toList⟩

theorem encode_injective :
    Function.Injective encode := by
  intro s s' h
  have hdecode : decode? (encode s) = some s' := decode?_eq_some_iff.2 h
  rw [decode?_eq_some_iff.2 rfl] at hdecode
  exact Option.some.inj hdecode

end Utf8
end LiveNotebooks
