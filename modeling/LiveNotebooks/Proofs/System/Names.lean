import LiveNotebooks.System.Path

/-!
# Names of files

The name of a path is the text of its last part.  A part holds no slash, and reading it as a
text brings none in, whatever its bytes are.

**Results.**
* `Utf8.slash_not_mem_decodeLossy`: a slash in a text stands for a slash among the bytes.
* `Path.isVisible_of_name`: what names a path that is not hidden is visible.
-/

namespace LiveNotebooks
namespace Utf8

theorem ofNat_ne_slash
    {n : Nat}
    (h : n ≠ 0x2F) :
    Char.ofNat n ≠ '/' := by
  by_cases hvalid : n.isValidChar
  · rw [Char.ofNat, dif_pos hvalid]
    intro he
    have hnat : n = 0x2F := congrArg Char.toNat he
    exact h hnat
  · rw [Char.ofNat, dif_neg hvalid]
    decide

/-- Longer characters have large codes, since their second bytes exclude overlong forms. -/
theorem pos_of_isSecond
    {a b first : UInt8}
    (hnarrow : first = 0xE0 ∨ first = 0xF0)
    (hfirst : first ≤ a)
    (h : isSecond a b = true) :
    0 < (a.toNat - first.toNat) * 0x40 + tailBits b := by
  have hle := UInt8.le_iff_toNat_le.1 hfirst
  by_cases he : a = first
  · subst he
    have hb : 0x90 ≤ b.toNat := by
      rcases hnarrow with rfl | rfl <;>
        simp [isSecond, secondRange, UInt8.le_iff_toNat_le] at h <;> omega
    unfold tailBits
    omega
  · have hne : a.toNat ≠ first.toNat := fun hnat => he (UInt8.toNat_inj.1 hnat)
    omega

/-- A piece that is no slash, in front of what follows it in a text. -/
structure Reads (text : Bytes) (p : Piece × Bytes) : Prop where
  noSlash : p.1.toChar ≠ '/'
  suffix : p.2 <:+ text

theorem reads_character
    {n : Nat}
    {text rest : Bytes}
    (hn : n ≠ 0x2F)
    (hrest : rest <:+ text) :
    Reads text (.character (Char.ofNat n), rest) :=
  ⟨ofNat_ne_slash hn, hrest⟩

theorem reads_broken
    {text rest : Bytes}
    (bytes : Bytes)
    (hrest : rest <:+ text) :
    Reads text (.broken bytes, rest) := by
  have hchar : (Piece.broken bytes).toChar = '\uFFFD' := rfl
  exact ⟨by rw [hchar]; decide, hrest⟩

theorem reads_piece2
    {a : UInt8}
    (ha : 0xC2 ≤ a)
    (text : Bytes) :
    Reads text (piece2 a text) := by
  have hle : 0xC2 ≤ a.toNat := UInt8.le_iff_toNat_le.1 ha
  unfold piece2
  split
  · split
    · exact reads_character (by omega) (List.suffix_cons _ _)
    · exact reads_broken _ List.suffix_rfl
  · exact reads_broken _ List.suffix_rfl

/-- A piece of three bytes is no slash. -/
theorem reads_piece3
    {a : UInt8}
    (ha : 0xE0 ≤ a)
    (text : Bytes) :
    Reads text (piece3 a text) := by
  have hfirst : (0xE0 : UInt8).toNat = 0xE0 := rfl
  match text with
  | [] => exact reads_broken _ List.suffix_rfl
  | b :: rest =>
      cases hsecond : isSecond a b with
      | false =>
          simp only [piece3, hsecond, Bool.false_eq_true, if_false]
          exact reads_broken _ List.suffix_rfl
      | true =>
          have hpos := pos_of_isSecond (.inl rfl) ha hsecond
          match rest with
          | [] =>
              simp only [piece3, hsecond, if_true]
              exact reads_broken _ (List.suffix_cons _ _)
          | c :: rest =>
              simp only [piece3, hsecond, if_true]
              have hrest : rest <:+ b :: c :: rest :=
                (List.suffix_cons c rest).trans (List.suffix_cons b _)
              split
              · exact reads_character (by omega) hrest
              · exact reads_broken _ (List.suffix_cons _ _)

/-- A piece of four bytes is no slash. -/
theorem reads_piece4
    {a : UInt8}
    (ha : 0xF0 ≤ a)
    (text : Bytes) :
    Reads text (piece4 a text) := by
  have hfirst : (0xF0 : UInt8).toNat = 0xF0 := rfl
  match text with
  | [] => exact reads_broken _ List.suffix_rfl
  | b :: rest =>
      cases hsecond : isSecond a b with
      | false =>
          simp only [piece4, hsecond, Bool.false_eq_true, if_false]
          exact reads_broken _ List.suffix_rfl
      | true =>
          have hpos := pos_of_isSecond (.inr rfl) ha hsecond
          match rest with
          | [] =>
              simp only [piece4, hsecond, if_true]
              exact reads_broken _ (List.suffix_cons _ _)
          | [c] =>
              simp only [piece4, hsecond, if_true]
              split
              · exact reads_broken _ ⟨[b, c], rfl⟩
              · exact reads_broken _ ⟨[b], rfl⟩
          | c :: d :: rest =>
              simp only [piece4, hsecond, if_true]
              split
              · split
                · exact reads_character (by omega) ⟨[b, c, d], rfl⟩
                · exact reads_broken _ ⟨[b, c], rfl⟩
              · exact reads_broken _ ⟨[b], rfl⟩

/-- What stands at the front is no slash, unless its first byte is one. -/
theorem reads_piece
    {a : UInt8}
    (ha : a ≠ 0x2F)
    (text : Bytes) :
    Reads text (piece a text) := by
  have hne : a.toNat ≠ 0x2F := fun hnat => ha (UInt8.toNat_inj.1 hnat)
  unfold piece
  split
  · exact reads_character hne List.suffix_rfl
  · split
    · exact reads_broken _ List.suffix_rfl
    · next hlow =>
        split
        · exact reads_piece2 (UInt8.not_lt.1 hlow) text
        · next hlow =>
            split
            · exact reads_piece3 (UInt8.not_lt.1 hlow) text
            · next hlow =>
                split
                · exact reads_piece4 (UInt8.not_lt.1 hlow) text
                · exact reads_broken _ List.suffix_rfl

/-- A text without a slash has no slash among its characters. -/
theorem piecesOnto_ne_slash
    {fuel : Nat}
    {text : Bytes}
    {acc : List Piece}
    (htext : 0x2F ∉ text)
    (hacc : ∀ p ∈ acc, p.toChar ≠ '/') :
    ∀ p ∈ piecesOnto fuel text acc, p.toChar ≠ '/' := by
  induction fuel generalizing text acc with
  | zero => exact hacc
  | succ fuel ih =>
      cases text with
      | nil => exact hacc
      | cons a rest =>
          obtain ⟨hne, hrest⟩ := not_or.1 (mt List.mem_cons.2 htext)
          have hreads := reads_piece (Ne.symm hne) rest
          refine ih (fun hmem => hrest (hreads.suffix.subset hmem)) ?_
          intro p hp
          rcases List.mem_cons.1 hp with rfl | hp
          · exact hreads.noSlash
          · exact hacc p hp

/-- Pieces are added to those that are there. -/
theorem length_piecesOnto_ge
    (fuel : Nat)
    (text : Bytes)
    (acc : List Piece) :
    acc.length ≤ (piecesOnto fuel text acc).length := by
  induction fuel generalizing text acc with
  | zero => exact Nat.le_refl _
  | succ fuel ih =>
      cases text with
      | nil => exact Nat.le_refl _
      | cons a rest =>
          have hrest := ih (piece a rest).2 ((piece a rest).1 :: acc)
          exact Nat.le_trans (Nat.le_succ _) hrest

/-- A slash in a text stands for a slash among the bytes. -/
theorem slash_not_mem_decodeLossy
    {text : Bytes}
    (h : 0x2F ∉ text) :
    '/' ∉ (decodeLossy text).toList := by
  have hpieces : ∀ p ∈ pieces text, p.toChar ≠ '/' := by
    intro p hp
    exact piecesOnto_ne_slash h (by simp) p (List.mem_reverse.1 hp)
  simpa [decodeLossy] using hpieces

/-- Bytes are read as some text. -/
theorem decodeLossy_ne_empty
    {text : Bytes}
    (h : text ≠ []) :
    decodeLossy text ≠ "" := by
  cases text with
  | nil => exact absurd rfl h
  | cons a rest =>
      have hlength := length_piecesOnto_ge rest.length (piece a rest).2 [(piece a rest).1]
      intro he
      have hnil : pieces (a :: rest) = [] := by
        simpa [decodeLossy] using congrArg String.toList he
      have hzero : (piecesOnto rest.length (piece a rest).2 [(piece a rest).1]).length = 0 := by
        simpa [pieces, piecesOnto] using hnil
      simp only [List.length_cons, List.length_nil] at hlength
      omega

end Utf8

namespace Path

/-- The parts between separators have no separator in them. -/
theorem sep_not_mem_splitAt
    {sep : UInt8}
    {text part : Bytes}
    (h : part ∈ splitAt sep text) :
    sep ∉ part := by
  induction text generalizing part with
  | nil =>
      obtain rfl : part = [] := by simpa [splitAt] using h
      simp
  | cons b rest ih =>
      simp only [splitAt] at h
      split at h
      · rcases List.mem_cons.1 h with rfl | h
        · simp
        · exact ih h
      · next hb =>
          split at h
          · obtain rfl : part = [b] := by simpa using h
            simpa using Ne.symm hb
          · next first others hsplit =>
              rcases List.mem_cons.1 h with rfl | h
              · have hfirst : sep ∉ first := ih (by rw [hsplit]; simp)
                simpa [hfirst] using Ne.symm hb
              · exact ih (by rw [hsplit]; simp [h])

/-- The last part of a path is not empty and holds no slash. -/
theorem part_of_fileName
    {path : Path}
    {part : Bytes}
    (h : fileName path = some part) :
    part ≠ [] ∧ 0x2F ∉ part := by
  simp only [fileName] at h
  split at h
  · next last hlast =>
      split at h
      · cases h
      · cases h
        obtain ⟨hmem, hcounts⟩ := List.mem_filter.1 (List.mem_of_getLast? hlast)
        obtain ⟨hne, _⟩ : part ≠ [] ∧ part ≠ dot := by simpa using hcounts
        exact ⟨hne, sep_not_mem_splitAt hmem⟩
  · cases h

end Path

/-- A name that is not empty, holds no slash and is not hidden. -/
structure IsVisible (name : String) : Prop where
  ne_empty : name ≠ ""
  noSlash : '/' ∉ name.toList
  notHidden : name.toList.head? ≠ some '.'

/-- What names a path that is not hidden is visible. -/
theorem Path.isVisible_of_name
    {path : Path}
    {name : String}
    (hname : Path.name path = some name)
    (hhidden : Path.isHidden path = false) :
    IsVisible name := by
  obtain ⟨part, hpart, rfl⟩ := Option.map_eq_some_iff.1 hname
  obtain ⟨hne, hslash⟩ := Path.part_of_fileName hpart
  refine ⟨Utf8.decodeLossy_ne_empty hne, Utf8.slash_not_mem_decodeLossy hslash, ?_⟩
  simpa [Path.isHidden, hname] using hhidden

end LiveNotebooks
