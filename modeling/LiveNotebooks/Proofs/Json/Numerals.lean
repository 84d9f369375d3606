import LiveNotebooks.Proofs.Json.PassedTokens
import LiveNotebooks.Proofs.Number.Shortest

/-!
# Written numbers are numerals

A numeral is an integer without leading zeros, possibly with a fraction and an exponent.  All
numbers are written as numerals, integers of any size and doubles with any bit pattern, and
numerals are passed over.

**Results.**
* `skipUnsigned_numeral`: a numeral is passed over.
* `isNumeral_decimalText`: a decimal that is not zero is written as a numeral.
* `exists_numeral`: what a number is written as.
-/

namespace LiveNotebooks
namespace Json

/-! ## Numerals -/

def IsDigits (ds : Bytes) : Prop := ∀ b ∈ ds, (Digits.value? b).isSome = true

/-- A point and some digits, or nothing. -/
inductive IsFraction : Bytes → Prop
  | none : IsFraction []
  | some
      {ds : Bytes}
      (hne : ds ≠ [])
      (hds : IsDigits ds) :
      IsFraction (0x2E :: ds)

/-- A mark, a sign and some digits, or nothing. -/
inductive IsExponent : Bytes → Prop
  | none : IsExponent []
  | some
      {sign : UInt8}
      {ds : Bytes}
      (hsign : sign = 0x2B ∨ sign = 0x2D)
      (hne : ds ≠ [])
      (hds : IsDigits ds) :
      IsExponent (0x65 :: sign :: ds)

/-- A numeral without a sign. -/
inductive IsNumeral : Bytes → Prop
  | intro
      {b : UInt8}
      {d : Nat}
      {ds fraction exponent : Bytes}
      (hb : Digits.value? b = some d)
      (hds : IsDigits ds)
      (hzero : d = 0 → ds = [])
      (hfraction : IsFraction fraction)
      (hexponent : IsExponent exponent) :
      IsNumeral (b :: (ds ++ (fraction ++ exponent)))

section

variable {ds exponent fraction text rest : Bytes}

theorem dropDigits_append
    (hds : IsDigits ds)
    (hrest : startsWithDigit rest = false)
    (count : Nat) :
    dropDigits (ds ++ rest) count = (count + ds.length, rest) := by
  induction ds generalizing count with
  | nil => exact dropDigits_of_not_digit hrest count
  | cons b ds ih =>
      obtain ⟨hb, hds⟩ := List.forall_mem_cons.1 hds
      rw [List.cons_append, dropDigits_cons hb, ih hds, List.length_cons, Nat.add_assoc,
        Nat.add_comm 1]

/-- An exponent is passed over up to what ends the number. -/
theorem skipTail_exponent
    (hexponent : IsExponent exponent)
    (hrest : EndsNumber rest) :
    skipTail (exponent ++ rest) = .ok rest := by
  cases hexponent with
  | none =>
      rw [List.nil_append, skipTail, hrest.2.1]
      rfl
  | @some sign ds hsign hne hds =>
      cases ds with
      | nil => exact absurd rfl hne
      | cons b ds =>
          obtain ⟨hb, hds⟩ := List.forall_mem_cons.1 hds
          have hstop : (exponentSign (sign :: (b :: ds ++ rest))).2 = b :: (ds ++ rest) := by
            rcases hsign with rfl | rfl <;> rfl
          have hskip : skipTail (0x65 :: sign :: (b :: ds) ++ rest)
              = skipExponent (sign :: (b :: ds ++ rest)) := rfl
          rw [hskip, skipExponent, hstop]
          simp only [hb, if_true, dropDigits_append hds hrest.1]

theorem skipAfterInteger_of_head?
    (h : text.head? ≠ some 0x2E) :
    skipAfterInteger text = skipTail text := by
  cases text with
  | nil => rfl
  | cons b rest => exact if_neg fun hb => h (congrArg some hb)

theorem startsWithDigit_exponent
    (hexponent : IsExponent exponent)
    (hrest : EndsNumber rest) :
    startsWithDigit (exponent ++ rest) = false := by
  cases hexponent with
  | none => exact hrest.1
  | some => rfl

/-- A fraction and an exponent are passed over up to what ends the number. -/
theorem skipAfterInteger_fraction
    (hfraction : IsFraction fraction)
    (hexponent : IsExponent exponent)
    (hrest : EndsNumber rest) :
    skipAfterInteger (fraction ++ (exponent ++ rest)) = .ok rest := by
  cases hfraction with
  | none =>
      rw [List.nil_append, skipAfterInteger_of_head?, skipTail_exponent hexponent hrest]
      cases hexponent with
      | none => exact hrest.2.2
      | some => exact fun h => absurd (Option.some.inj h) (by decide)
  | @some ds hne hds =>
      obtain ⟨k, hk⟩ := Nat.exists_eq_add_one_of_ne_zero (mt List.length_eq_zero_iff.1 hne)
      rw [List.cons_append, skipAfterInteger, if_pos rfl,
        dropDigits_append hds (startsWithDigit_exponent hexponent hrest), hk, Nat.zero_add]
      exact skipTail_exponent hexponent hrest

/-- A numeral is passed over. -/
theorem skipUnsigned_numeral
    (h : IsNumeral text)
    (hrest : EndsNumber rest) :
    skipUnsigned (text ++ rest) = .ok rest := by
  cases h with
  | @intro b d ds fraction exponent hb hds hzero hfraction hexponent =>
      have hafter := skipAfterInteger_fraction hfraction hexponent hrest
      have hstop : startsWithDigit (fraction ++ (exponent ++ rest)) = false := by
        cases hfraction with
        | none => simpa using startsWithDigit_exponent hexponent hrest
        | some => rfl
      rw [List.cons_append, List.append_assoc, List.append_assoc, skipUnsigned]
      cases d with
      | zero =>
          obtain rfl := hzero rfl
          simp only [hb, List.nil_append, hstop, Bool.false_eq_true, if_false]
          exact hafter
      | succ d =>
          simp only [hb, dropDigits_append hds hstop]
          exact hafter

end

/-! ## Numbers -/

theorem isDigits_flatMap
    {cs : List Char}
    (h : ∀ c ∈ cs, c.isDigit = true) :
    IsDigits (cs.flatMap String.utf8EncodeChar) := by
  intro b hb
  obtain ⟨c, hc, hb⟩ := List.mem_flatMap.1 hb
  obtain ⟨b', hencode, hvalue⟩ := exists_digit (h c hc)
  rw [hencode, List.mem_singleton] at hb
  rw [hb, hvalue]
  rfl

theorem flatMap_ne_nil
    {cs : List Char}
    (hne : cs ≠ [])
    (h : ∀ c ∈ cs, c.isDigit = true) :
    cs.flatMap String.utf8EncodeChar ≠ [] := by
  cases cs with
  | nil => exact absurd rfl hne
  | cons c cs =>
      obtain ⟨b, hencode, _⟩ := exists_digit (h c List.mem_cons_self)
      rw [List.flatMap_cons, hencode]
      exact List.cons_ne_nil _ _

theorem encode_ofList
    (cs : List Char) :
    Utf8.encode (String.ofList cs) = cs.flatMap String.utf8EncodeChar := by
  rw [Utf8.encode, String.toList_ofList]

/-- Digits of which the first one is not zero, a fraction and an exponent make a numeral. -/
theorem isNumeral_ofList
    {c : Char}
    {cs : List Char}
    {fraction exponent : String}
    (hdigits : ∀ d ∈ c :: cs, d.isDigit = true)
    (hzero : c ≠ '0' ∨ cs = [])
    (hfraction : IsFraction (Utf8.encode fraction))
    (hexponent : IsExponent (Utf8.encode exponent)) :
    IsNumeral (Utf8.encode (String.ofList (c :: cs) ++ (fraction ++ exponent))) := by
  obtain ⟨hc, hcs⟩ := List.forall_mem_cons.1 hdigits
  obtain ⟨b, hencode, hvalue⟩ := exists_digit hc
  rw [Utf8.encode_append, Utf8.encode_append, encode_ofList, List.flatMap_cons, hencode,
    List.singleton_append, List.cons_append]
  refine .intro hvalue (isDigits_flatMap hcs) (fun hd => ?_) hfraction hexponent
  rcases hzero with hne | rfl
  · refine absurd (Char.toNat_inj.1 ?_) hne
    exact Nat.le_antisymm (Nat.sub_eq_zero_iff_le.1 hd) (toNat_of_isDigit hc).1
  · rfl

theorem isFraction_empty :
    IsFraction (Utf8.encode "") :=
  .none

theorem isExponent_empty :
    IsExponent (Utf8.encode "") :=
  .none

theorem isFraction_ofList
    {cs : List Char}
    (hne : cs ≠ [])
    (h : ∀ c ∈ cs, c.isDigit = true) :
    IsFraction (Utf8.encode ("." ++ String.ofList cs)) := by
  have hpoint : Utf8.encode "." = [0x2E] := rfl
  rw [Utf8.encode_append, hpoint, encode_ofList, List.singleton_append]
  exact .some (flatMap_ne_nil hne h) (isDigits_flatMap h)

theorem isDigit_of_mem
    {n : Nat}
    {c : Char}
    (h : c ∈ Nat.toDigits 10 n) :
    c.isDigit = true :=
  Nat.isDigit_of_mem_toDigits (by decide) (by decide) h

theorem isExponent_decimal
    {mark : String}
    (hmark : mark = "e-" ∨ mark = "e+")
    (n : Nat) :
    IsExponent (Utf8.encode (mark ++ Digits.decimal n)) := by
  have hne := flatMap_ne_nil (Nat.toDigits_ne_nil (n := n) (b := 10)) fun _ => isDigit_of_mem
  have hdigits : IsDigits ((Nat.toDigits 10 n).flatMap String.utf8EncodeChar) :=
    isDigits_flatMap fun _ => isDigit_of_mem
  rw [Utf8.encode_append, Digits.decimal, encode_ofList]
  rcases hmark with rfl | rfl
  · exact .some (.inr rfl) hne hdigits
  · exact .some (.inl rfl) hne hdigits

/-- The decimal digits of a number are a numeral. -/
theorem isNumeral_decimal
    (n : Nat) :
    IsNumeral (Utf8.encode (Digits.decimal n)) := by
  have hall : ∀ c ∈ Nat.toDigits 10 n, c.isDigit = true := fun c => isDigit_of_mem
  have hlead : ∀ c cs, Nat.toDigits 10 n = c :: cs → (c ≠ '0' ∨ cs = []) →
      IsNumeral (Utf8.encode (Digits.decimal n)) := by
    intro c cs hdigits hzero
    rw [hdigits] at hall
    have hnumeral := isNumeral_ofList hall hzero isFraction_empty isExponent_empty
    rwa [String.append_empty, String.append_empty, ← hdigits] at hnumeral
  rcases Nat.eq_zero_or_pos n with rfl | hpos
  · exact hlead '0' [] rfl (.inr rfl)
  · obtain ⟨c, cs, hdigits, hc⟩ := exists_toDigits hpos
    exact hlead c cs hdigits (.inl hc)

theorem isDigit_zeros
    (n : Nat) :
    ∀ c ∈ List.replicate n '0', c.isDigit = true := by
  intro c hc
  rw [List.eq_of_mem_replicate hc]
  rfl

section

variable {c : Char} {cs : List Char}

/-- All digits stand in front of the point. -/
theorem isNumeral_large
    (hall : ∀ d ∈ c :: cs, d.isDigit = true)
    (hc : c ≠ '0')
    (n : Nat) :
    IsNumeral (Utf8.encode (String.ofList (c :: cs ++ List.replicate n '0') ++ ".0")) := by
  have hwhole : ∀ d ∈ c :: (cs ++ List.replicate n '0'), d.isDigit = true :=
    fun d hd => (List.mem_append.1 hd).elim (hall d) (isDigit_zeros n d)
  have hfraction : IsFraction (Utf8.encode ".0") :=
    isFraction_ofList (List.cons_ne_nil '0' []) (isDigit_zeros 1)
  have hnumeral := isNumeral_ofList hwhole (.inl hc) hfraction isExponent_empty
  rwa [String.append_empty] at hnumeral

/-- The point stands among the digits. -/
theorem isNumeral_mixed
    (hall : ∀ d ∈ c :: cs, d.isDigit = true)
    (hc : c ≠ '0')
    {n : Nat}
    (hfront : n ≠ 0)
    (hbehind : n ≤ cs.length) :
    IsNumeral (Utf8.encode (String.ofList ((c :: cs).take n) ++ "."
      ++ String.ofList ((c :: cs).drop n))) := by
  obtain ⟨k, rfl⟩ := Nat.exists_eq_add_one_of_ne_zero hfront
  have hwhole : ∀ d ∈ c :: cs.take k, d.isDigit = true :=
    fun d hd => hall d (List.mem_of_mem_take (i := k + 1) hd)
  have hfraction : IsFraction (Utf8.encode ("." ++ String.ofList (cs.drop k))) :=
    isFraction_ofList (by rw [ne_eq, List.drop_eq_nil_iff]; omega) fun d hd =>
      hall d (List.mem_cons_of_mem c (List.mem_of_mem_drop hd))
  have hnumeral := isNumeral_ofList hwhole (.inl hc) hfraction isExponent_empty
  rwa [String.append_empty, ← String.append_assoc] at hnumeral

/-- The point stands in front of the digits. -/
theorem isNumeral_small
    (hall : ∀ d ∈ c :: cs, d.isDigit = true)
    (n : Nat) :
    IsNumeral (Utf8.encode ("0." ++ String.ofList (List.replicate n '0' ++ c :: cs))) := by
  have hfraction : IsFraction
      (Utf8.encode ("." ++ String.ofList (List.replicate n '0' ++ c :: cs))) :=
    isFraction_ofList (by simp) fun d hd =>
      (List.mem_append.1 hd).elim (isDigit_zeros n d) (hall d)
  have hnumeral := isNumeral_ofList (isDigit_zeros 1) (.inr rfl) hfraction isExponent_empty
  rwa [String.append_empty, ← String.append_assoc] at hnumeral

/-- The point stands behind the first digit, if there are more. -/
theorem isNumeral_scientific
    (hall : ∀ d ∈ c :: cs, d.isDigit = true)
    (hc : c ≠ '0')
    {mark : String}
    (hmark : mark = "e-" ∨ mark = "e+")
    (n : Nat) :
    IsNumeral (Utf8.encode (String.ofList ((c :: cs).take 1)
      ++ (if (c :: cs).length = 1 then "" else ".") ++ String.ofList ((c :: cs).drop 1) ++ mark
      ++ Digits.decimal n)) := by
  obtain ⟨hfirst, hcs⟩ := List.forall_mem_cons.1 hall
  have hwhole : ∀ d ∈ [c], d.isDigit = true := List.forall_mem_singleton.2 hfirst
  have hexponent := isExponent_decimal hmark n
  cases cs with
  | nil =>
      have hnumeral := isNumeral_ofList hwhole (.inl hc) isFraction_empty hexponent
      simpa [String.append_assoc] using hnumeral
  | cons c' cs =>
      have hfraction : IsFraction (Utf8.encode ("." ++ String.ofList (c' :: cs))) :=
        isFraction_ofList (List.cons_ne_nil c' cs) hcs
      have hnumeral := isNumeral_ofList hwhole (.inl hc) hfraction hexponent
      simpa [String.append_assoc] using hnumeral

end

/-- A decimal that is not zero is written as a numeral. -/
theorem isNumeral_decimalText
    {d : Shortest.Decimal}
    (h : 0 < d.digits) :
    IsNumeral (Utf8.encode (decimalText d)) := by
  obtain ⟨c, cs, hdigits, hc⟩ := exists_toDigits h
  have hall : ∀ c ∈ Nat.toDigits 10 d.digits, c.isDigit = true := fun c => isDigit_of_mem
  unfold decimalText
  simp only [hdigits]
  rw [hdigits] at hall
  split
  · exact isNumeral_large hall hc _
  · split
    · next hwhole hpoint =>
        simp only [Bool.and_eq_true, decide_eq_true_eq, List.length_cons] at hwhole hpoint
        refine isNumeral_mixed hall hc ?_ ?_ <;> rw [List.length_cons] <;> omega
    · split
      · exact isNumeral_small hall _
      · exact isNumeral_scientific hall hc (by split <;> simp) _

/-- A number is written as a numeral, possibly behind a minus sign. -/
theorem exists_numeral
    (n : Number) :
    ∃ text, IsNumeral text
      ∧ (Utf8.encode n.render = text ∨ Utf8.encode n.render = 0x2D :: text) := by
  have hminus : ∀ s : String, Utf8.encode ("-" ++ s) = 0x2D :: Utf8.encode s :=
    fun s => Utf8.encode_append "-" s
  cases n with
  | integer n =>
      cases n with
      | ofNat m => exact ⟨_, isNumeral_decimal m, .inl rfl⟩
      | negSucc m => exact ⟨_, isNumeral_decimal (m + 1), .inr (hminus _)⟩
  | double x =>
      have hmagnitude : IsNumeral (Utf8.encode
          (if x.isZero then "0.0" else decimalText (Shortest.ofDouble x))) := by
        split
        · have hfraction : IsFraction (Utf8.encode ".0") :=
            isFraction_ofList (List.cons_ne_nil '0' []) (isDigit_zeros 1)
          have hnumeral := isNumeral_ofList (isDigit_zeros 1) (.inr rfl) hfraction isExponent_empty
          rwa [String.append_empty] at hnumeral
        · next hzero =>
            exact isNumeral_decimalText (Shortest.digits_ofDouble_pos (by simpa using hzero))
      refine ⟨_, hmagnitude, ?_⟩
      rw [Number.render, doubleText]
      cases x.isNegative with
      | false => exact .inl (congrArg Utf8.encode String.empty_append)
      | true => exact .inr (hminus _)

end Json
end LiveNotebooks
