import LiveNotebooks.Proofs.Json.Numerals
import LiveNotebooks.Proofs.Json.Objects

/-!
# Values are passed over

Where a value stands, whoever passes over it stops behind it.  It does not matter how the value is
written, how deep it is and which numbers it holds.

**Measure.**  The passage opens a list without reading a byte, and reads at least one byte in every
other round.  So the rounds that it takes are fewer than twice the bytes that it reads.

**Induction.**  Over the levels of the value, and inside over the parts of a list or an object.  The
stack is arbitrary, so a part is passed over inside the brackets around it as it is on its own.

**Results.**
* `length_le_of_skipValue`: nothing is added to a text.
* `skipValue_of_readValue`: what is read can be passed over.
* `stands_passed`: what is written can be passed over.
-/

namespace LiveNotebooks
namespace Json

/-! ## What is left -/

section

variable {text rest : Bytes}

/-- Passing over an exponent never goes back. -/
theorem length_le_of_skipExponent
    (h : skipExponent text = .ok rest) :
    rest.length ≤ text.length := by
  have hsign := length_exponentSign_le text
  unfold skipExponent at h
  split at h
  · cases h
  · next b after hrest =>
      rw [hrest, List.length_cons] at hsign
      split at h
      · cases h
        exact Nat.le_trans (length_dropDigits_le after 0) (by omega)
      · cases h

theorem length_le_of_skipTail
    (h : skipTail text = .ok rest) :
    rest.length ≤ text.length := by
  unfold skipTail at h
  split at h
  · exact Nat.le_trans (length_le_of_skipExponent h) (by simp)
  · cases h
    exact Nat.le_refl _

/-- Passing over what follows the digits of a number never goes back. -/
theorem length_le_of_skipAfterInteger
    (h : skipAfterInteger text = .ok rest) :
    rest.length ≤ text.length := by
  unfold skipAfterInteger at h
  split at h
  · next b after =>
      split at h
      · have hdigits := length_dropDigits_le after 0
        split at h
        · cases h
        · next hdrop =>
            rw [hdrop] at hdigits
            exact Nat.le_trans (length_le_of_skipTail h) (Nat.le_succ_of_le hdigits)
      · exact length_le_of_skipTail h
  · cases h
    exact Nat.le_refl _

/-- A numeral has at least one digit. -/
theorem length_lt_of_skipUnsigned
    (h : skipUnsigned text = .ok rest) :
    rest.length < text.length := by
  unfold skipUnsigned at h
  split at h
  · cases h
  · next b after =>
      refine Nat.lt_succ_of_le ?_
      split at h
      · cases h
      · split at h
        · cases h
        · exact length_le_of_skipAfterInteger h
      · exact Nat.le_trans (length_le_of_skipAfterInteger h) (length_dropDigits_le after 0)

/-- Passing over an escape never goes back. -/
theorem length_le_of_skipEscape
    (h : skipEscape text = .ok rest) :
    rest.length ≤ text.length := by
  unfold skipEscape at h
  split at h
  · cases h
  · next b after =>
      split at h
      · obtain ⟨⟨n, left⟩, hhex, rfl⟩ := map_eq_ok_iff.1 h
        have hlength := length_of_readHex4 hhex
        simp only [List.length_cons]
        omega
      · split at h
        · cases h
          exact Nat.le_succ _
        · cases h

/-- Passing over a string never goes back. -/
theorem length_le_of_skipText
    {fuel : Nat}
    (h : skipText fuel text = .ok rest) :
    rest.length ≤ text.length := by
  induction fuel generalizing text with
  | zero => cases h
  | succ fuel ih =>
      cases text with
      | nil => cases h
      | cons b text =>
          refine Nat.le_succ_of_le ?_
          rw [skipText] at h
          split at h
          · cases h
            exact Nat.le_refl _
          · split at h
            · split at h
              · next hescape => exact Nat.le_trans (ih h) (length_le_of_skipEscape hescape)
              · cases h
            · split at h
              · cases h
              · exact ih h

/-- Passing over a key never goes back. -/
theorem length_le_of_skipKeyIn
    {fuel : Nat}
    {bracket : Bracket}
    (h : skipKeyIn fuel bracket text = .ok rest) :
    rest.length ≤ text.length := by
  cases bracket with
  | list =>
      cases h
      exact Nat.le_refl _
  | object =>
      rw [skipKeyIn, skipKey] at h
      split at h
      · cases h
      · next b tail hskip =>
          have htail := length_tail_lt hskip
          split at h
          · cases htext : skipText fuel tail with
            | error fault =>
                rw [htext] at h
                cases h
            | ok mid =>
                rw [htext] at h
                have hmid := length_le_of_skipText htext
                have hrest := length_tail_lt (readColon_eq_ok_iff.1 h)
                omega
          · cases h

/-- Passing over a value that is no bracket, or the opening of one, never goes back. -/
theorem length_le_of_skipScalar
    {fuel : Nat}
    {bracket? : Option Bracket}
    (h : skipScalar fuel text = .ok (bracket?, rest)) :
    rest.length ≤ text.length := by
  have hword : ∀ {word tail : Bytes}, tail.length < text.length →
      (readWord word tail).map (none, ·) = .ok (bracket?, rest) → rest.length ≤ text.length := by
    intro word tail htail h
    obtain ⟨after, hread, hsame⟩ := map_eq_ok_iff.1 h
    obtain ⟨-, rfl⟩ := Prod.mk.inj hsame
    rw [readWord_eq_ok_iff.1 hread, List.length_append] at htail
    omega
  have hmap : ∀ {x : Except Fault Bytes}, (∀ after, x = .ok after → after.length ≤ text.length) →
      x.map (none, ·) = .ok (bracket?, rest) → rest.length ≤ text.length := by
    intro x hx h
    obtain ⟨after, hread, hsame⟩ := map_eq_ok_iff.1 h
    obtain ⟨-, rfl⟩ := Prod.mk.inj hsame
    exact hx after hread
  rw [skipScalar] at h
  split at h
  · cases h
  · next b tail hskip =>
      have htail := length_tail_lt hskip
      split at h
      · exact hword htail h
      split at h
      · exact hword htail h
      split at h
      · exact hword htail h
      split at h
      · exact hmap (fun _ hread => by have := length_lt_of_skipUnsigned hread; omega) h
      split at h
      · refine hmap (fun _ hread => ?_) h
        have hlength := length_lt_of_skipUnsigned hread
        rw [List.length_cons] at hlength
        omega
      split at h
      · exact hmap (fun _ hread => by have := length_le_of_skipText hread; omega) h
      split at h
      · cases h
        exact Nat.le_of_lt htail
      split at h
      · cases h
        exact Nat.le_of_lt htail
      · cases h

/-- Passing over whatever is open never goes back. -/
theorem length_le_of_skipLoop
    {keyFuel fuel : Nat}
    {position : Position}
    {stack : List Bracket}
    (h : skipLoop keyFuel fuel position stack text = .ok rest) :
    rest.length ≤ text.length := by
  induction fuel generalizing position stack text with
  | zero => cases h
  | succ fuel ih =>
      cases position with
      | value =>
          rw [skipLoop] at h
          split at h
          · cases h
          · next hscalar => exact Nat.le_trans (ih h) (length_le_of_skipScalar hscalar)
          · next hscalar => exact Nat.le_trans (ih h) (length_le_of_skipScalar hscalar)
      | opened =>
          cases stack with
          | nil =>
              cases h
              exact Nat.le_refl _
          | cons bracket stack =>
              rw [skipLoop] at h
              split at h
              · cases h
              · next b tail hskip =>
                  have htail := length_tail_lt hskip
                  split at h
                  · exact Nat.le_trans (ih h) (Nat.le_of_lt htail)
                  · split at h
                    · cases h
                    · next hkey =>
                        have hlength := length_le_of_skipKeyIn hkey
                        rw [List.length_cons] at hlength
                        have hrest := ih h
                        omega
      | behindValue =>
          cases stack with
          | nil =>
              cases h
              exact Nat.le_refl _
          | cons bracket stack =>
              rw [skipLoop] at h
              split at h
              · cases h
              · next b tail hskip =>
                  have htail := length_tail_lt hskip
                  split at h
                  · split at h
                    · cases h
                    · next hkey =>
                        have hlength := length_le_of_skipKeyIn hkey
                        have hrest := ih h
                        omega
                  · split at h
                    · exact Nat.le_trans (ih h) (Nat.le_of_lt htail)
                    · cases h

theorem length_le_of_skipValue
    {fuel : Nat}
    (h : skipValue fuel text = .ok rest) :
    rest.length ≤ text.length :=
  length_le_of_skipLoop h

end

/-! ## Rounds -/

/-- Where the passage stands. -/
structure Place where
  position : Position
  stack : List Bracket
  text : Bytes

/-- The rounds take the passage from one place to another. -/
def Runs (keyFuel rounds : Nat) (start stop : Place) : Prop :=
  ∀ fuel, skipLoop keyFuel (rounds + fuel) start.position start.stack start.text
    = skipLoop keyFuel fuel stop.position stop.stack stop.text

/-- The position in front of the next part of a bracket. -/
def Position.next (first : Bool) : Position := if first then .opened else .behindValue

section

variable {keyFuel rounds rounds' : Nat} {start middle stop : Place} {bracket : Bracket}
  {stack : List Bracket} {text tail mid rest : Bytes}

theorem Runs.trans
    (h : Runs keyFuel rounds start middle)
    (h' : Runs keyFuel rounds' middle stop) :
    Runs keyFuel (rounds + rounds') start stop := by
  intro fuel
  rw [Nat.add_assoc, h, h']

theorem runs_scalar
    (h : skipScalar keyFuel text = .ok (none, rest))
    (stack : List Bracket) :
    Runs keyFuel 1 ⟨.value, stack, text⟩ ⟨.behindValue, stack, rest⟩ := by
  intro fuel
  simp only [Nat.add_comm 1, skipLoop, h]

theorem runs_bracket
    (h : skipScalar keyFuel text = .ok (some bracket, rest))
    (stack : List Bracket) :
    Runs keyFuel 1 ⟨.value, stack, text⟩ ⟨.opened, bracket :: stack, rest⟩ := by
  intro fuel
  simp only [Nat.add_comm 1, skipLoop, h]

/-- A closing bracket takes its bracket off the stack. -/
theorem runs_close
    (h : skipBlanks text = bracket.closing :: rest)
    (first : Bool)
    (stack : List Bracket) :
    Runs keyFuel 1 ⟨.next first, bracket :: stack, text⟩ ⟨.behindValue, stack, rest⟩ := by
  have hcomma : bracket.closing ≠ 0x2C := by
    cases bracket <;> decide
  intro fuel
  cases first with
  | true => simp only [Position.next, Nat.add_comm 1, skipLoop, h, if_true]
  | false =>
      simp only [Position.next, Bool.false_eq_true, if_false, Nat.add_comm 1, skipLoop, h, hcomma,
        if_true]

theorem runs_first
    {b : UInt8}
    (hskip : skipBlanks text = b :: tail)
    (hb : b ≠ bracket.closing)
    (hkey : skipKeyIn keyFuel bracket (skipBlanks text) = .ok rest)
    (stack : List Bracket) :
    Runs keyFuel 1 ⟨.opened, bracket :: stack, text⟩ ⟨.value, bracket :: stack, rest⟩ := by
  intro fuel
  rw [hskip] at hkey
  simp only [Nat.add_comm 1, skipLoop, hskip, hb, if_false, hkey]

theorem runs_comma
    (hskip : skipBlanks text = 0x2C :: tail)
    (hkey : skipKeyIn keyFuel bracket tail = .ok rest)
    (stack : List Bracket) :
    Runs keyFuel 1 ⟨.behindValue, bracket :: stack, text⟩ ⟨.value, bracket :: stack, rest⟩ := by
  intro fuel
  simp only [Nat.add_comm 1, skipLoop, hskip, if_true, hkey]

end

/-! ## Values and parts -/

/-- A value is passed over, whatever brackets it stands in. -/
def Passes (text rest : Bytes) : Prop :=
  ∃ rounds, 0 < rounds
    ∧ rounds + 2 * rest.length < 2 * (skipBlanks text).length
    ∧ ∀ keyFuel stack, (skipBlanks text).length < keyFuel →
      Runs keyFuel rounds ⟨.value, stack, text⟩ ⟨.behindValue, stack, rest⟩

/-- A part of the innermost bracket is passed over, with its key if it has one. -/
def PassesPart (bracket : Bracket) (text rest : Bytes) : Prop :=
  ∃ mid, (skipBlanks mid).length ≤ (skipBlanks text).length
    ∧ (∀ keyFuel, (skipBlanks text).length < keyFuel → skipKeyIn keyFuel bracket text = .ok mid)
    ∧ Passes mid rest

/-- What is left of a bracket is passed over, and its end. -/
def Closes (bracket : Bracket) (first : Bool) (text rest : Bytes) : Prop :=
  ∃ rounds, rounds + 2 * rest.length ≤ 2 * text.length
    ∧ ∀ keyFuel stack, text.length < keyFuel →
      Runs keyFuel rounds ⟨.next first, bracket :: stack, text⟩ ⟨.behindValue, stack, rest⟩

/-- Whatever stands here is passed over. -/
def passed {α : Type} : Form α := fun text _ rest => Passes text rest

/-- What has this form is passed over inside the bracket. -/
structure IsPassedIn {α : Type} (bracket : Bracket) (part : Form α) : Prop where
  blanks : ∀ text a rest, part text a rest → part (skipBlanks text) a rest
  begins : ∀ text a rest, part text a rest →
    ∃ b tail, skipBlanks text = b :: tail ∧ b ≠ bracket.closing
  passes : ∀ text a rest, part text a rest → PassesPart bracket text rest

section

variable {α : Type} {bracket : Bracket} {part : Form α} {first : Bool}
  {text text' tail mid rest : Bytes}

theorem skipScalar_congr
    (h : skipBlanks text = skipBlanks text')
    (keyFuel : Nat) :
    skipScalar keyFuel text = skipScalar keyFuel text' := by
  rw [skipScalar, skipScalar, h]

/-- Blanks before a value are passed over. -/
theorem Passes.congr
    (h : Passes text rest)
    (hskip : skipBlanks text = skipBlanks text') :
    Passes text' rest := by
  obtain ⟨rounds, hpos, hrounds, hruns⟩ := h
  rw [hskip] at hrounds hruns
  refine ⟨rounds, hpos, hrounds, fun keyFuel stack hfuel fuel => ?_⟩
  obtain ⟨rounds, rfl⟩ := Nat.exists_eq_add_one_of_ne_zero (Nat.ne_zero_of_lt hpos)
  rw [← hruns keyFuel stack hfuel fuel, Nat.add_right_comm]
  simp only [skipLoop, skipScalar_congr hskip]

/-- Where a value is passed over, no list is closed. -/
theorem Passes.begins
    (h : Passes text rest) :
    ∃ b tail, skipBlanks text = b :: tail ∧ b ≠ 0x5D := by
  obtain ⟨rounds, hpos, _, hruns⟩ := h
  obtain ⟨rounds, rfl⟩ := Nat.exists_eq_add_one_of_ne_zero (Nat.ne_zero_of_lt hpos)
  have hstop : skipLoop ((skipBlanks text).length + 1) (rounds + 1 + 1) .value [] text = .ok rest :=
    hruns _ [] (Nat.lt_succ_self _) 1
  rw [skipLoop] at hstop
  cases hskip : skipBlanks text with
  | nil => simp [skipScalar, hskip] at hstop
  | cons b tail =>
      refine ⟨b, tail, rfl, ?_⟩
      rintro rfl
      simp [skipScalar, hskip, Digits.value?] at hstop

/-- A value in a text of its own is passed over. -/
theorem skipValue_of_passes
    {fuel : Nat}
    (h : Passes text rest)
    (hfuel : text.length < fuel) :
    skipValue fuel text = .ok rest := by
  obtain ⟨rounds, _, hrounds, hruns⟩ := h
  have hskip := length_skipBlanks_le text
  obtain ⟨more, hmore⟩ := Nat.exists_eq_add_of_le (show rounds + 1 ≤ 2 * fuel by omega)
  rw [skipValue, hmore, Nat.add_assoc, hruns fuel [] (by omega) (1 + more), Nat.add_comm 1]
  rfl

/-! ## Brackets -/

theorem isPassedIn_passed :
    IsPassedIn .list (passed : Form α) where
  blanks text _ _ h := Passes.congr h (skipBlanks_skipBlanks text).symm
  begins _ _ _ h := Passes.begins h
  passes text _ _ h := ⟨text, Nat.le_refl _, fun _ _ => rfl, h⟩

theorem skipKey_of_textForm
    {s : String}
    {fuel : Nat}
    (h : textForm text s mid)
    (hcolon : skipBlanks mid = 0x3A :: rest)
    (hfuel : (skipBlanks text).length < fuel) :
    skipKey fuel text = .ok rest := by
  obtain ⟨tail, hquote, hread⟩ := h
  rw [hquote] at hfuel
  rw [skipKey, hquote]
  simp only [if_true, skips_of_readText hread fuel (Nat.lt_of_succ_lt hfuel)]
  exact readColon_eq_ok_iff.2 hcolon

/-- A member is passed over by its key, the colon and its value. -/
theorem isPassedIn_memberForm :
    IsPassedIn .object (memberForm (passed : Form α)) where
  blanks text m rest h := by
    obtain ⟨mid, after, ⟨tail, hquote, hread⟩, hcolon, hv⟩ := h
    exact ⟨mid, after, ⟨tail, (skipBlanks_skipBlanks text).trans hquote, hread⟩, hcolon, hv⟩
  begins text m rest h := by
    obtain ⟨_, _, ⟨tail, hquote, _⟩, _⟩ := h
    exact ⟨0x22, tail, hquote, by decide⟩
  passes text m rest h := by
    obtain ⟨mid, after, hkey, hcolon, hv⟩ := h
    refine ⟨after, ?_, fun fuel hfuel => skipKey_of_textForm hkey hcolon hfuel, hv⟩
    obtain ⟨tail, hquote, hread⟩ := hkey
    have hmid := length_lt_of_readText hread
    have hafter := length_tail_lt hcolon
    have hskip := length_skipBlanks_le after
    rw [hquote, List.length_cons]
    omega

/-- Parts that are passed over are passed over one after another. -/
theorem closes_of_parts
    (hpart : IsPassedIn bracket part)
    {as : List α}
    (h : Parts part bracket.closing first text as rest) :
    Closes bracket first text rest := by
  induction h with
  | @none first text rest hclose =>
      have hlength := length_tail_lt hclose
      exact ⟨1, by omega, fun keyFuel stack _ => runs_close hclose first stack⟩
  | @more first text next mid rest a as hnext ha _ ih =>
      obtain ⟨rounds', hrounds', hruns'⟩ := ih
      have hskip := length_skipBlanks_le next
      rcases hnext with ⟨rfl, rfl⟩ | ⟨rfl, hcomma⟩
      · obtain ⟨b, tail, hbegins, hb⟩ := hpart.begins _ _ _ ha
        obtain ⟨value, hvalue, hkey, rounds, _, hrounds, hruns⟩ :=
          hpart.passes _ _ _ (hpart.blanks _ _ _ ha)
        rw [skipBlanks_skipBlanks] at hvalue hkey
        refine ⟨1 + (rounds + rounds'), by omega, fun keyFuel stack hfuel => ?_⟩
        exact (runs_first hbegins hb (hkey keyFuel (by omega)) stack).trans
          ((hruns keyFuel (bracket :: stack) (by omega)).trans (hruns' keyFuel stack (by omega)))
      · have hlength := length_tail_lt hcomma
        obtain ⟨value, hvalue, hkey, rounds, _, hrounds, hruns⟩ := hpart.passes _ _ _ ha
        refine ⟨1 + (rounds + rounds'), by omega, fun keyFuel stack hfuel => ?_⟩
        exact (runs_comma hcomma (hkey keyFuel (by omega)) stack).trans
          ((hruns keyFuel (bracket :: stack) (by omega)).trans (hruns' keyFuel stack (by omega)))

/-- What opens a bracket is passed over with all that stands in it. -/
theorem passes_of_closes
    (bracket : Bracket)
    (hopens : ∀ keyFuel, skipScalar keyFuel text = .ok (some bracket, tail))
    (hlength : tail.length < (skipBlanks text).length)
    (h : Closes bracket true tail rest) :
    Passes text rest := by
  obtain ⟨rounds, hrounds, hruns⟩ := h
  refine ⟨1 + rounds, by omega, by omega, fun keyFuel stack hfuel => ?_⟩
  exact (runs_bracket (hopens keyFuel) stack).trans (hruns keyFuel stack (by omega))

theorem passes_list
    {as : List α}
    (hskip : skipBlanks text = 0x5B :: tail)
    (h : Parts passed 0x5D true tail as rest) :
    Passes text rest := by
  refine passes_of_closes .list (fun keyFuel => ?_) ?_
    (closes_of_parts isPassedIn_passed h)
  · simp [skipScalar, hskip, Digits.value?]
  · rw [hskip]
    exact Nat.lt_succ_self _

theorem passes_object
    {ms : List (String × α)}
    (hskip : skipBlanks text = 0x7B :: tail)
    (h : Parts (memberForm passed) 0x7D true tail ms rest) :
    Passes text rest := by
  refine passes_of_closes .object (fun keyFuel => ?_) ?_
    (closes_of_parts isPassedIn_memberForm h)
  · simp [skipScalar, hskip, Digits.value?]
  · rw [hskip]
    exact Nat.lt_succ_self _

/-! ## Values without brackets -/

theorem passes_scalar
    (h : ∀ keyFuel, (skipBlanks text).length < keyFuel →
      skipScalar keyFuel text = .ok (none, rest))
    (hlength : rest.length < (skipBlanks text).length) :
    Passes text rest :=
  ⟨1, Nat.one_pos, by omega, fun keyFuel stack hfuel => runs_scalar (h keyFuel hfuel) stack⟩

theorem passes_null
    (hskip : skipBlanks text = 0x6E :: (nullTail ++ rest)) :
    Passes text rest := by
  refine passes_scalar (fun keyFuel _ => ?_) ?_
  · simp [skipScalar, hskip, map_eq_ok_iff, readWord_eq_ok_iff]
  · simp only [hskip, List.length_cons, List.length_append]
    omega

theorem passes_boolean
    (hskip : skipBlanks text = 0x74 :: (trueTail ++ rest)
      ∨ skipBlanks text = 0x66 :: (falseTail ++ rest)) :
    Passes text rest := by
  rcases hskip with hskip | hskip
  all_goals
    refine passes_scalar (fun keyFuel _ => ?_) ?_
    · simp [skipScalar, hskip, map_eq_ok_iff, readWord_eq_ok_iff]
    · simp only [hskip, List.length_cons, List.length_append]
      omega

theorem passes_text
    (hskip : skipBlanks text = 0x22 :: tail)
    (h : Skips tail rest) :
    Passes text rest := by
  have hlength := length_le_of_skipText (h (tail.length + 1) (Nat.lt_succ_self _))
  refine passes_scalar (fun keyFuel hfuel => ?_) ?_
  · rw [hskip, List.length_cons] at hfuel
    have hread := h keyFuel (Nat.lt_of_succ_lt hfuel)
    simp [skipScalar, hskip, Digits.value?, hread, Except.map]
  · rw [hskip]
    exact Nat.lt_succ_of_le hlength

theorem passes_negative
    (hskip : skipBlanks text = 0x2D :: tail)
    (h : skipUnsigned tail = .ok rest) :
    Passes text rest := by
  have hlength := length_lt_of_skipUnsigned h
  refine passes_scalar (fun keyFuel _ => ?_) ?_
  · simp [skipScalar, hskip, h, Except.map]
  · rw [hskip]
    exact Nat.lt_succ_of_lt hlength

/-- A number is passed over; no word and no sign begins as a number does. -/
theorem passes_unsigned
    {b : UInt8}
    (hskip : skipBlanks text = b :: tail)
    (hb : (Digits.value? b).isSome = true)
    (h : skipUnsigned (b :: tail) = .ok rest) :
    Passes text rest := by
  have hne : ∀ c : UInt8, ¬ (Digits.value? c).isSome = true → b ≠ c :=
    fun c hc he => hc (he ▸ hb)
  have hnull := hne 0x6E (by decide)
  have hyes := hne 0x74 (by decide)
  have hno := hne 0x66 (by decide)
  have hsign := hne 0x2D (by decide)
  refine passes_scalar (fun keyFuel _ => ?_) ?_
  · simp only [skipScalar, hskip, hnull, hyes, hno, hsign, if_false, hb, if_true, h, Except.map]
  · rw [hskip]
    exact length_lt_of_skipUnsigned h

end

/-! ## What is read -/

section

variable {embedded? : Option (Bytes → Value → Prop)} {part? : Option (Form Value)}
  {text rest : Bytes} {v : Value}

/-- Whatever has the form of a value is passed over, if its parts are. -/
theorem passes_valueForm_of_part
    (hpart : ∀ part, part? = some part → ∀ text v rest, part text v rest → Passes text rest)
    (h : ValueForm embedded? part? text v rest) :
    Passes text rest := by
  cases h with
  | null h => exact passes_null h
  | yes h => exact passes_boolean (.inl h)
  | no h => exact passes_boolean (.inr h)
  | @number _ tail _ b n h hb hread =>
      rw [readNumber] at hread
      split at hread
      · next hsign =>
          subst hsign
          exact passes_negative h (skipUnsigned_of_readUnsigned hread)
      · next hsign =>
          exact passes_unsigned h (hb.resolve_left hsign) (skipUnsigned_of_readUnsigned hread)
  | text h hread => exact passes_text h (skips_of_readText hread)
  | array h hsome hitems => exact passes_list h (hitems.mono (hpart _ hsome))
  | object h hsome hwritten =>
      exact passes_object h (hwritten.mono (memberForm_mono (hpart _ hsome)))
  | embedded h _ _ hwritten =>
      refine passes_object h (hwritten.mono (memberForm_mono ?_))
      rintro text s rest ⟨tail, hquote, hread⟩
      exact passes_text hquote (skips_of_readText hread)

/-- Where a value stands, it is passed over. -/
theorem passes_valueForm
    {levels : Nat}
    (h : valueForm embedded? levels text v rest) :
    Passes text rest := by
  induction levels generalizing text v rest with
  | zero => exact passes_valueForm_of_part (by simp) h
  | succ levels ih =>
      refine passes_valueForm_of_part (fun part hpart text v rest hv => ?_) h
      obtain rfl := Option.some.inj hpart
      exact ih hv

/-- **What is read can be passed over.** -/
theorem skipValue_of_readValue
    {fuel levels : Nat}
    (h : readValue fuel levels text = .ok (v, rest))
    (hfuel : text.length < fuel) :
    skipValue fuel text = .ok rest :=
  skipValue_of_passes (passes_valueForm ((readsAs_readValue fuel levels _ hfuel v rest).1 h)) hfuel

end

/-! ## What is written -/

section

variable {layout : Layout} {level : Nat} {form : Form Value} {gap rest : Bytes}

/-- The items behind the first one stand where they are written. -/
theorem parts_itemBytes
    {vs : List Value}
    (h : ∀ v ∈ vs, Stands layout level form v)
    (outer : Nat)
    (rest : Bytes) :
    Parts form 0x5D false
      (itemBytes layout vs level ++ (layout.lineBytes outer ++ 0x5D :: rest)) vs rest := by
  induction vs with
  | nil => exact .none (skipBlanks_line rfl)
  | cons v vs ih =>
      rw [List.forall_mem_cons] at h
      have hv := h.1 (layout.lineBytes level) _ isBlankByte_of_mem_lineBytes
        (endsNumber_items layout vs level outer rest)
      rw [itemBytes, List.cons_append, List.append_assoc, List.append_assoc]
      exact .more (.inr ⟨rfl, rfl⟩) hv (ih h.2)

/-- The items of a written list stand in it one after another. -/
theorem exists_parts_list
    {items : List Value}
    (h : ∀ v ∈ items, Stands layout (level + 1) form v)
    (rest : Bytes) :
    ∃ tail, valueBytes layout (.array items) level ++ rest = 0x5B :: tail
      ∧ Parts form 0x5D true tail items rest := by
  cases items with
  | nil => exact ⟨0x5D :: rest, rfl, .none rfl⟩
  | cons v vs =>
      rw [List.forall_mem_cons] at h
      have hv := h.1 (layout.lineBytes (level + 1)) _ isBlankByte_of_mem_lineBytes
        (endsNumber_items layout vs (level + 1) level rest)
      refine ⟨_, ?_, .more (.inl ⟨rfl, rfl⟩) hv (parts_itemBytes h.2 level rest)⟩
      rw [valueBytes]
      simp only [List.cons_append, List.append_assoc, List.nil_append]

theorem skipBlanks_written
    {b : UInt8}
    {tail : Bytes}
    (hgap : ∀ b ∈ gap, isBlankByte b = true)
    (hb : isBlankByte b = false) :
    skipBlanks (gap ++ b :: tail) = b :: tail := by
  rw [skipBlanks_append hgap, skipBlanks_cons hb]

/-- A number that is written stands at its place and is passed over. -/
theorem stands_passed_number
    (n : Number) :
    Stands layout level passed (.number n) := by
  intro gap rest hgap hrest
  obtain ⟨text, hnumeral, hwritten⟩ := exists_numeral n
  have hskip := skipUnsigned_numeral hnumeral hrest
  rw [valueBytes]
  rcases hwritten with hwritten | hwritten
  · cases hnumeral with
    | @intro b d ds fraction exponent hb =>
        have hdigit : (Digits.value? b).isSome = true := by
          rw [hb]
          rfl
        rw [hwritten]
        exact passes_unsigned (skipBlanks_written hgap (isBlankByte_of_digit hdigit).1) hdigit hskip
  · rw [hwritten]
    exact passes_negative (skipBlanks_written hgap rfl) hskip

theorem stands_passed_text
    (s : String) :
    Stands layout level passed (.text s) := by
  intro gap rest hgap _
  have hread := readText_quotedTail (Nat.le_refl (quotedTail s).length) rest
  exact passes_text (skipBlanks_written hgap rfl) (skips_of_readText hread)

mutual

/-- **What is written can be passed over**, with any contents. -/
theorem stands_passed
    (layout : Layout) :
    (v : Value) → (level : Nat) → Stands layout level passed v
  | .null, _ => fun _ _ hgap _ => passes_null (skipBlanks_written hgap rfl)
  | .boolean true, _ => fun _ _ hgap _ => passes_boolean (.inl (skipBlanks_written hgap rfl))
  | .boolean false, _ => fun _ _ hgap _ => passes_boolean (.inr (skipBlanks_written hgap rfl))
  | .number n, _ => stands_passed_number n
  | .text s, _ => stands_passed_text s
  | .array items, level => fun gap rest hgap _ => by
      obtain ⟨tail, htext, hitems⟩ :=
        exists_parts_list (stands_passed_items layout items (level + 1)) rest
      rw [htext]
      exact passes_list (skipBlanks_written hgap rfl) hitems
  | .object members, level => fun gap rest hgap _ => by
      obtain ⟨tail, htext, hmembers⟩ :=
        exists_parts_object (stands_passed_members layout members (level + 1)) rest
      rw [htext]
      exact passes_object (skipBlanks_written hgap rfl) hmembers

theorem stands_passed_items
    (layout : Layout) :
    (vs : List Value) → (level : Nat) → ∀ v ∈ vs, Stands layout level passed v
  | [], _ => by simp
  | v :: vs, level =>
      List.forall_mem_cons.2 ⟨stands_passed layout v level, stands_passed_items layout vs level⟩

theorem stands_passed_members
    (layout : Layout) :
    (ms : Members) → (level : Nat) → ∀ m ∈ ms, Stands layout level passed m.2
  | [], _ => by simp
  | (_, v) :: ms, level =>
      List.forall_mem_cons.2 ⟨stands_passed layout v level, stands_passed_members layout ms level⟩

end

end

end Json
end LiveNotebooks
