import LiveNotebooks.Number.Shortest
import Mathlib.Algebra.Ring.Nat

/-!
# Shortest decimals have digits

The search for the shortest decimal of a double ends with a decimal: one of the grids that are
tried is so fine that a point of it lies in the interval of the double.

**Algorithm.**  The last grid that is tried has a step below the distance from the double to the
lower end of its interval.  This is seen from the logarithms, where `10 ^ 3` is just below
`2 ^ 10`, and `10 ^ 28` is just above `2 ^ 93`.

**Results.**
* `isSome_gridPoint?`: a fine grid meets the interval.
* `digits_ofDouble_pos`: the shortest decimal of a double that is not zero is not zero.
-/

namespace LiveNotebooks
namespace Shortest

/-! ## Grids -/

section

variable {i : Interval} {step scale n : Nat}

/-- No point of the grid is zero. -/
theorem pos_of_gridPoint?
    (h : gridPoint? i step scale = some n) :
    0 < n := by
  unfold gridPoint? at h
  simp only at h
  split at h
  · next hboth =>
      obtain ⟨hbelow, _⟩ : (0 < i.value * scale / step ∧ _) ∧ _ := by
        simpa only [Bool.and_eq_true, decide_eq_true_eq] using hboth
      obtain rfl := Option.some.inj h
      unfold Double.roundDiv
      split
      · exact hbelow.1
      · split <;> omega
  · split at h
    · next hbelow =>
        obtain rfl := Option.some.inj h
        simp only [Bool.and_eq_true, decide_eq_true_eq] at hbelow
        exact hbelow.1
    · split at h
      · obtain rfl := Option.some.inj h
        exact Nat.succ_pos _
      · cases h

theorem contains_of_between
    (hlow : i.low * scale < n)
    (hhigh : n < i.high * scale) :
    i.contains n scale = true := by
  unfold Interval.contains
  split
  · simp [Nat.le_of_lt hlow, Nat.le_of_lt hhigh]
  · simp [hlow, hhigh]

/-- A grid meets the interval if its step is no longer than the lower half of the interval. -/
theorem isSome_gridPoint?
    (hstep : 0 < step)
    (hscale : 0 < scale)
    (hfine : step ≤ (i.value - i.low) * scale)
    (hhigh : i.value < i.high) :
    (gridPoint? i step scale).isSome = true := by
  have hhalf : (i.value - i.low) * scale = i.value * scale - i.low * scale :=
    Nat.sub_mul _ _ _
  have hdiv := Nat.div_add_mod (i.value * scale) step
  have hmod := Nat.mod_lt (i.value * scale) hstep
  rw [Nat.mul_comm] at hdiv
  have hpos : 0 < i.value * scale / step := Nat.div_pos (by omega) hstep
  have hvalue : i.value * scale < i.high * scale := Nat.mul_lt_mul_of_pos_right hhigh hscale
  have hbelow : i.contains (i.value * scale / step * step) scale = true :=
    contains_of_between (by omega) (by omega)
  unfold gridPoint?
  simp only [hpos, hbelow, decide_true, Bool.and_self, Bool.true_and, if_true]
  split <;> rfl

end

/-- The search finds a grid that meets the interval. -/
theorem digits_search_pos
    {i : Interval}
    {tries : Nat}
    {p : Int}
    (hlast : (grid? i (p - tries)).isSome = true) :
    0 < (search i (tries + 1) p).digits := by
  have hfound : ∀ (q : Int) (n : Nat), grid? i q = some n → 0 < n := by
    intro q n h
    cases q <;> exact pos_of_gridPoint? h
  induction tries generalizing p with
  | zero =>
      obtain ⟨n, hn⟩ := Option.isSome_iff_exists.1 hlast
      rw [Int.natCast_zero, Int.sub_zero] at hn
      rw [search, hn]
      exact hfound p n hn
  | succ tries ih =>
      rw [search]
      split
      · next n hn => exact hfound p n hn
      · refine ih ?_
        rwa [Int.sub_sub, Int.add_comm, ← Int.natCast_succ]

/-! ## The last grid -/

theorem pow_ten_le
    {p n : Nat}
    (h : 10 * p ≤ 3 * n) :
    10 ^ p ≤ 2 ^ n := by
  refine (Nat.pow_le_pow_iff_left (n := 3) (by decide)).1 ?_
  calc (10 ^ p) ^ 3 = 1000 ^ p := by rw [← Nat.pow_mul, Nat.mul_comm, Nat.pow_mul]
    _ ≤ 1024 ^ p := Nat.pow_le_pow_left (by decide) p
    _ = 2 ^ (10 * p) := by rw [Nat.pow_mul]
    _ ≤ 2 ^ (3 * n) := Nat.pow_le_pow_right (by decide) h
    _ = (2 ^ n) ^ 3 := by rw [Nat.mul_comm, Nat.pow_mul]

theorem le_pow_ten
    {p n : Nat}
    (h : 28 * n ≤ 93 * p) :
    2 ^ n ≤ 10 ^ p := by
  refine (Nat.pow_le_pow_iff_left (n := 28) (by decide)).1 ?_
  calc (2 ^ n) ^ 28 = 2 ^ (28 * n) := by rw [← Nat.pow_mul, Nat.mul_comm]
    _ ≤ 2 ^ (93 * p) := Nat.pow_le_pow_right (by decide) h
    _ = (2 ^ 93) ^ p := Nat.pow_mul _ _ _
    _ ≤ (10 ^ 28) ^ p := Nat.pow_le_pow_left (by decide) p
    _ = (10 ^ p) ^ 28 := by rw [← Nat.pow_mul, Nat.mul_comm, Nat.pow_mul]

section

variable {x : Double}

/-- A number that is not zero has a significand. -/
theorem significand_pos
    (h : x.isZero = false) :
    0 < x.significand := by
  have hbits : x.magnitudeBits ≠ 0 := by simpa [Double.isZero] using h
  have hdiv := Nat.div_add_mod x.magnitudeBits (Nat.pow 2 52)
  unfold Double.significand Double.exponentField Double.fraction
  split
  · next hzero =>
      rw [hzero, Nat.mul_zero, Nat.zero_add] at hdiv
      omega
  · exact Nat.add_pos_left (by decide) _

theorem step_le_units
    (h : x.isZero = false) :
    x.step ≤ x.units :=
  Nat.le_mul_of_pos_left _ (significand_pos h)

/-- The lower half of the interval is as long as the distance to the next double, or longer. -/
theorem step_le_half
    (h : x.isZero = false) :
    x.step ≤ (Interval.ofDouble x).value - (Interval.ofDouble x).low := by
  have hstep := step_le_units h
  unfold Interval.ofDouble
  simp only
  split <;> omega

theorem value_lt_high
    (x : Double) :
    (Interval.ofDouble x).value < (Interval.ofDouble x).high := by
  have hstep : 0 < x.step := Nat.pow_pos (by decide)
  unfold Interval.ofDouble
  simp only
  omega

theorem exponentField_lt
    (x : Double) :
    x.exponentField < 2048 := by
  have hbits : x.magnitudeBits < Nat.pow 2 63 := Nat.mod_lt _ (by decide)
  exact Nat.div_lt_of_lt_mul hbits

/-- The significand has 53 bits. -/
theorem log2_units_le
    (h : x.isZero = false) :
    x.units.log2 ≤ 52 + (x.exponentField - 1) := by
  have hpos : x.units ≠ 0 :=
    Nat.ne_zero_of_lt (Nat.lt_of_lt_of_le (Nat.pow_pos (by decide)) (step_le_units h))
  have hfraction : x.fraction < 2 ^ 52 := Nat.mod_lt _ (by decide)
  have hsignificand : x.significand < 2 ^ 53 := by
    unfold Double.significand
    split
    · omega
    · simp only [Nat.pow_eq]
      omega
  have hunits : x.units < 2 ^ (53 + (x.exponentField - 1)) := by
    rw [Nat.pow_add]
    exact Nat.mul_lt_mul_of_pos_right hsignificand (Nat.pow_pos (by decide))
  have hlog := Nat.lt_of_le_of_lt (Nat.log2_self_le hpos) hunits
  have hlt := (Nat.pow_lt_pow_iff_right (by decide)).1 hlog
  omega

theorem exists_quartersPerOne :
    ∃ k, quartersPerOne = 2 ^ k ∧ k = 1076 := by
  unfold quartersPerOne Double.unitsPerOne
  generalize hn : 1074 = n
  exact ⟨n + 2, by rw [Nat.pow_eq, Nat.pow_add, Nat.mul_comm], by omega⟩

/-- The last grid that is tried meets the interval. -/
theorem isSome_lastGrid
    (h : x.isZero = false) :
    (grid? (Interval.ofDouble x) (startExponent x - (23 : Nat))).isSome = true := by
  have hhalf := step_le_half h
  have hhigh := value_lt_high x
  have hlog := log2_units_le h
  have hfield := exponentField_lt x
  have hstep : x.step = 2 ^ (x.exponentField - 1) := rfl
  have hstart : startExponent x = ((x.units.log2 : Int) - 1073) * 30103 / 100000 + 2 := rfl
  obtain ⟨e, he⟩ : ∃ e, e = x.exponentField - 1 := ⟨_, rfl⟩
  rw [← he] at hlog hstep
  obtain ⟨k, hquarters, hk⟩ := exists_quartersPerOne
  have hpos : 0 < quartersPerOne := hquarters ▸ Nat.pow_pos (by decide)
  cases hp : startExponent x - (23 : Nat) with
  | ofNat p =>
      rw [Int.ofNat_eq_natCast] at hp
      have hfits : 10 ^ p ≤ 2 ^ (e - k) := pow_ten_le (by omega)
      refine isSome_gridPoint? (Nat.mul_pos hpos (Nat.pow_pos (by decide))) (by decide) ?_ hhigh
      calc quartersPerOne * 10 ^ p ≤ 2 ^ k * 2 ^ (e - k) := hquarters ▸ Nat.mul_le_mul_left _ hfits
        _ = x.step := by rw [hstep, ← Nat.pow_add, Nat.add_sub_cancel' (by omega)]
        _ ≤ _ := (Nat.mul_one _).symm ▸ hhalf
  | negSucc p =>
      rw [Int.negSucc_eq] at hp
      have hfits : 2 ^ (k - e) ≤ 10 ^ (p + 1) := le_pow_ten (by omega)
      refine isSome_gridPoint? hpos (Nat.pow_pos (by decide)) ?_ hhigh
      calc quartersPerOne = 2 ^ k := hquarters
        _ ≤ 2 ^ (e + (k - e)) := Nat.pow_le_pow_right (by decide) (by omega)
        _ = x.step * 2 ^ (k - e) := by rw [hstep, Nat.pow_add]
        _ ≤ x.step * 10 ^ (p + 1) := Nat.mul_le_mul_left _ hfits
        _ ≤ _ := Nat.mul_le_mul_right _ hhalf

/-- **The shortest decimal of a double that is not zero is not zero.** -/
theorem digits_ofDouble_pos
    (h : x.isZero = false) :
    0 < (ofDouble x).digits :=
  digits_search_pos (isSome_lastGrid h)

end

end Shortest
end LiveNotebooks
