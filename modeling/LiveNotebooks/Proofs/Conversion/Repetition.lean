import LiveNotebooks.Conversion.Retry
import Mathlib.Algebra.Ring.Nat

/-!
# How an attempt is repeated

A conversion makes one attempt after another.  After a failure it warns, pauses and goes on with
a pause that is twice as long, until an attempt succeeds or no more may be made.

**Algorithm.**  `Retry.judge` makes one turn; `Reaches` and `Ends` follow a conversion turn by
turn, with all that it does.  The numbers of the turns are words: the attempts are counted in 32
bits, and a pause has 64 bits for its seconds.

**Results.**
* `reaches_iff`: where a conversion stands after some turns.
* `ends_iff`: what a conversion does, from its start to its end.
* `run_eq`: what comes of a conversion, whether it is broken off or not.
* `neverOverflows_iff`: when all its numbers stay in their range, and when it is broken off.
* `conversion_course`: what comes of a conversion whose numbers do.
-/

namespace LiveNotebooks
namespace Retry

/-- What a conversion does. -/
inductive Deed where
  /-- The attempt that follows the given number of failures. -/
  | attempt (failures : Nat)
  | warn (line : LogLine)
  /-- A pause in milliseconds. -/
  | pause (length : Nat)

namespace Deed

def line? : Deed → Option LogLine
  | warn line => some line
  | _ => none

def pause? : Deed → Option Nat
  | pause length => some length
  | _ => none

end Deed

section

variable (retries : Nat) (path : Path) (attempt : Nat → ConversionResult)

/-- A conversion that has done this so far and goes on with another attempt. -/
inductive Reaches : List Deed → Retry → Prop
  | start : Reaches [] .start
  | again
      {deeds : List Deed}
      {r next : Retry}
      {line : LogLine}
      {pause : Nat}
      (h : Reaches deeds r)
      (hjudge : judge retries path r (attempt r.failures) = .again line pause next) :
      Reaches (deeds ++ [.attempt r.failures, .warn line, .pause pause]) next

/-- A conversion that has done this from its start to its end. -/
inductive Ends : List Deed → ConversionResult → Prop
  | intro
      {deeds : List Deed}
      {r : Retry}
      {result : ConversionResult}
      (h : Reaches retries path attempt deeds r)
      (hjudge : judge retries path r (attempt r.failures) = .settled result) :
      Ends (deeds ++ [.attempt r.failures]) result

/-- The numbers are in their range when a failure has been counted and its pause doubled. -/
structure Fits (next : Retry) : Prop where
  /-- The counted failures have 32 bits, -/
  failures : next.failures < Nat.pow 2 32
  /-- and so has the number of attempts that the warning tells. -/
  attempts : retries + 1 < Nat.pow 2 32
  pause : next.pause < pauseBound

/-- The numbers of a conversion stay in their range, turn by turn. -/
def NeverOverflows : Prop :=
  ∀ {deeds : List Deed} {r next : Retry} {line : LogLine} {pause : Nat},
    Reaches retries path attempt deeds r →
      judge retries path r (attempt r.failures) = .again line pause next → Fits retries next

/-- The attempt with which a conversion ends: the first that succeeds, or the last allowed. -/
structure IsLast (n : Nat) : Prop where
  allowed : n ≤ retries
  failed : ∀ j < n, ∃ e, attempt j = .error e
  last : n = retries ∨ ∃ v, attempt n = .ok v

/-- What is done in the turn after `j` failures, when the conversion does not end with it. -/
def turn (j : Nat) : List Deed :=
  match attempt j with
  | .ok _ => []
  | .error e =>
      [.attempt j, .warn (warning path (j + 1) retries e), .pause (basePause * Nat.pow 2 j)]

/-- A conversion behind `n` failures. -/
def behind (n : Nat) : Retry := ⟨n, basePause * Nat.pow 2 n⟩

end

section

variable {retries n : Nat} {path : Path} {attempt : Nat → ConversionResult} {deeds : List Deed}
  {r next : Retry} {line : LogLine} {pause : Nat} {result result' : ConversionResult}

/-! ## One turn -/

/-- A failure is repeated while there are repetitions left. -/
theorem judge_eq_again_iff :
    judge retries path r result = .again line pause next
      ↔ ∃ e, result = .error e ∧ r.failures < retries
        ∧ line = warning path (r.failures + 1) retries e ∧ pause = r.pause
        ∧ next = ⟨r.failures + 1, r.pause * 2⟩ := by
  cases result with
  | ok v => simp [judge]
  | error e =>
      by_cases hleft : r.failures < retries
      · simp only [judge, hleft, if_true, Verdict.again.injEq, Except.error.injEq, true_and,
          exists_eq_left']
        constructor
        · rintro ⟨rfl, rfl, rfl⟩
          exact ⟨rfl, rfl, rfl⟩
        · rintro ⟨rfl, rfl, rfl⟩
          exact ⟨rfl, rfl, rfl⟩
      · simp [judge, hleft]

/-- Everything else ends the conversion. -/
theorem judge_eq_settled_iff :
    judge retries path r result = .settled result'
      ↔ result' = result ∧ (retries ≤ r.failures ∨ ∃ v, result = .ok v) := by
  cases result with
  | ok v => simp [judge, eq_comm]
  | error e =>
      by_cases hleft : r.failures < retries
      · simp [judge, hleft, Nat.not_le.2 hleft]
      · simp [judge, hleft, Nat.not_lt.1 hleft, eq_comm]

theorem behind_succ
    (n : Nat) :
    behind (n + 1) = ⟨(behind n).failures + 1, (behind n).pause * 2⟩ := by
  simp only [behind, Nat.mul_assoc]
  rfl

theorem turn_of_error
    {j : Nat}
    {e : ConversionError}
    (he : attempt j = .error e) :
    turn retries path attempt j
      = [.attempt j, .warn (warning path (j + 1) retries e), .pause (behind j).pause] := by
  simp only [turn, he]
  rfl

/-- There is one last attempt. -/
theorem IsLast.unique
    {m : Nat}
    (hm : IsLast retries attempt m)
    (hn : IsLast retries attempt n) :
    m = n := by
  have hle : ∀ {i k}, IsLast retries attempt i → IsLast retries attempt k → i ≤ k := by
    intro i k hi hk
    refine Nat.not_lt.1 fun hlt => ?_
    obtain ⟨e, he⟩ := hi.failed k hlt
    rcases hk.last with rfl | ⟨v, hv⟩
    · exact Nat.not_le.2 hlt hi.allowed
    · rw [hv] at he
      cases he
  exact Nat.le_antisymm (hle hm hn) (hle hn hm)

/-! ## A whole conversion -/

/-- After some turns a conversion stands behind as many failures. -/
theorem reaches_iff :
    Reaches retries path attempt deeds r
      ↔ ∃ n ≤ retries, (∀ j < n, ∃ e, attempt j = .error e) ∧ r = behind n
        ∧ deeds = (List.range n).flatMap (turn retries path attempt) := by
  constructor
  · intro h
    induction h with
    | start => exact ⟨0, Nat.zero_le _, by simp, rfl, rfl⟩
    | again h hjudge ih =>
        obtain ⟨n, _, hfailed, rfl, rfl⟩ := ih
        obtain ⟨e, he, hleft, rfl, rfl, rfl⟩ := judge_eq_again_iff.1 hjudge
        have he : attempt n = .error e := he
        refine ⟨n + 1, hleft, fun j hj => ?_, (behind_succ n).symm, ?_⟩
        · rcases Nat.lt_succ_iff_lt_or_eq.1 hj with hj | rfl
          · exact hfailed j hj
          · exact ⟨e, he⟩
        · rw [List.range_succ, List.flatMap_append, List.flatMap_singleton, turn_of_error he]
          rfl
  · rintro ⟨n, hn, hfailed, rfl, rfl⟩
    induction n with
    | zero => exact .start
    | succ n ih =>
        obtain ⟨e, he⟩ := hfailed n (Nat.lt_succ_self n)
        have hbefore := ih (Nat.le_of_succ_le hn) fun j hj => hfailed j (Nat.lt_succ_of_lt hj)
        have hjudge : judge retries path (behind n) (attempt (behind n).failures)
            = .again (warning path (n + 1) retries e) (behind n).pause (behind (n + 1)) :=
          judge_eq_again_iff.2 ⟨e, he, hn, rfl, rfl, behind_succ n⟩
        rw [List.range_succ, List.flatMap_append, List.flatMap_singleton, turn_of_error he]
        exact hbefore.again hjudge

/-- A conversion does one turn after another, and ends with its last attempt. -/
theorem ends_iff :
    Ends retries path attempt deeds result
      ↔ ∃ n, IsLast retries attempt n ∧ result = attempt n
        ∧ deeds = (List.range n).flatMap (turn retries path attempt) ++ [.attempt n] := by
  constructor
  · rintro ⟨hreaches, hjudge⟩
    obtain ⟨n, hn, hfailed, rfl, rfl⟩ := reaches_iff.1 hreaches
    obtain ⟨rfl, hend⟩ := judge_eq_settled_iff.1 hjudge
    exact ⟨n, ⟨hn, hfailed, hend.imp (Nat.le_antisymm hn) id⟩, rfl, rfl⟩
  · rintro ⟨n, hlast, rfl, rfl⟩
    exact .intro (reaches_iff.2 ⟨n, hlast.allowed, hlast.failed, rfl, rfl⟩)
      (judge_eq_settled_iff.2 ⟨rfl, hlast.last.imp (fun h => Nat.le_of_eq h.symm) id⟩)

/-! ## The range of the numbers -/

/-- A pause can be doubled 66 times. -/
theorem pause_behind_lt_iff :
    (behind n).pause < pauseBound ↔ n ≤ 66 := by
  constructor
  · intro h
    refine Nat.not_lt.1 fun hlong => Nat.not_le.2 h ?_
    calc pauseBound ≤ basePause * Nat.pow 2 67 := by decide
      _ ≤ basePause * Nat.pow 2 n :=
          Nat.mul_le_mul_left _ (Nat.pow_le_pow_right (by decide) hlong)
  · intro h
    calc basePause * Nat.pow 2 n ≤ basePause * Nat.pow 2 66 :=
          Nat.mul_le_mul_left _ (Nat.pow_le_pow_right (by decide) h)
      _ < pauseBound := by decide

/-- A conversion computes new numbers behind each failure that is repeated. -/
theorem neverOverflows_iff_fits :
    NeverOverflows retries path attempt
      ↔ ∀ n < retries, (∀ j ≤ n, ∃ e, attempt j = .error e) → Fits retries (behind (n + 1)) := by
  constructor
  · intro h n hn hfailed
    obtain ⟨e, he⟩ := hfailed n (Nat.le_refl n)
    have hreaches : Reaches retries path attempt _ (behind n) :=
      reaches_iff.2 ⟨n, Nat.le_of_lt hn, fun j hj => hfailed j (Nat.le_of_lt hj), rfl, rfl⟩
    exact h hreaches (judge_eq_again_iff.2 ⟨e, he, hn, rfl, rfl, behind_succ n⟩)
  · intro h deeds r next line pause hreaches hjudge
    obtain ⟨n, _, hfailed, rfl, _⟩ := reaches_iff.1 hreaches
    obtain ⟨e, he, hn, _, _, rfl⟩ := judge_eq_again_iff.1 hjudge
    rw [← behind_succ]
    refine h n hn fun j hj => ?_
    rcases Nat.lt_or_eq_of_le hj with hj | rfl
    · exact hfailed j hj
    · exact ⟨e, he⟩

theorem exists_error_of_not_ok
    (h : ¬ ∃ v, result = .ok v) :
    ∃ e, result = .error e := by
  cases result with
  | ok v => exact absurd ⟨v, rfl⟩ h
  | error e => exact ⟨e, rfl⟩

end

/-! ## What comes of a conversion -/

section

variable {retries n : Nat} {path : Path} {attempt : Nat → ConversionResult} {r next : Retry}
  {line : LogLine} {result : ConversionResult}

/-- What a conversion tells that has ended with the attempt after `n` failures: its result, a
warning for each failure before the last attempt, and the pauses, each twice as long as the
one before. -/
structure Tells (retries : Nat) (path : Path) (attempt : Nat → ConversionResult) (n : Nat)
    (run : Run) : Prop where
  ending : run.ending = .finished (attempt n)
  attempts : run.attempts = n + 1
  warnings : run.log.length = n
  warning : ∀ j < n, ∃ e, attempt j = .error e ∧ run.log[j]? = some (.warning
    ("conversion of " ++ Path.display path ++ " failed (attempt " ++ Digits.decimal (j + 1) ++ "/"
      ++ Digits.decimal (retries + 1) ++ "): " ++ e.message))
  pauses : run.pauses = (List.range n).map fun j => 200 * Nat.pow 2 j
  total : run.pauses.sum = 200 * (Nat.pow 2 n - 1)

/-- The doubled pauses sum up to the next pause, less the first. -/
theorem sum_pauses
    (n : Nat) :
    ((List.range n).map fun j => 200 * Nat.pow 2 j).sum = 200 * (Nat.pow 2 n - 1) := by
  induction n with
  | zero => rfl
  | succ n ih =>
      have hpos : 0 < Nat.pow 2 n := Nat.pow_pos (by decide)
      have hdouble : Nat.pow 2 (n + 1) = Nat.pow 2 n * 2 := rfl
      rw [List.range_succ, List.map_append, List.sum_append, ih, List.map_singleton,
        List.sum_singleton, hdouble]
      omega

/-- Attempts that are repeated come to a last one. -/
theorem exists_isLast
    (retries : Nat)
    (attempt : Nat → ConversionResult) :
    ∃ n, IsLast retries attempt n := by
  induction retries with
  | zero => exact ⟨0, Nat.le_refl 0, fun j hj => absurd hj (Nat.not_lt_zero j), .inl rfl⟩
  | succ retries ih =>
      obtain ⟨n, hallowed, hfailed, hlast⟩ := ih
      by_cases hok : ∃ v, attempt n = .ok v
      · exact ⟨n, Nat.le_succ_of_le hallowed, hfailed, .inr hok⟩
      · obtain rfl := hlast.resolve_right hok
        refine ⟨n + 1, Nat.le_refl _, fun j hj => ?_, .inl rfl⟩
        rcases Nat.lt_succ_iff_lt_or_eq.1 hj with hj | rfl
        · exact hfailed j hj
        · exact exists_error_of_not_ok hok

/-- How a conversion ends whose last attempt comes after `n` failures. -/
def endingBehind (attempt : Nat → ConversionResult) (n : Nat) : Ending :=
  if n ≤ 66 then .finished (attempt n) else .panicked overflowMessage

/-- A conversion that does not go on has made its last attempt. -/
theorem runFrom_of_settled
    (hjudge : judge retries path r (attempt r.failures) = .settled result)
    (left : Nat) :
    runFrom retries path attempt left r = ⟨.finished result, 1, [], []⟩ := by
  cases left with
  | zero =>
      obtain ⟨rfl, _⟩ := judge_eq_settled_iff.1 hjudge
      rfl
  | succ left => simp only [runFrom, hjudge]

/-- A conversion that goes on, and comes to its end, is one turn in front of what is left. -/
theorem exists_rest_of_again
    {left pause : Nat}
    (hleft : r.failures + left = retries)
    (hjudge : judge retries path r (attempt r.failures) = .again line pause next)
    (hending : (runFrom retries path attempt left r).ending = .finished result) :
    ∃ rest, left = rest + 1
      ∧ runFrom retries path attempt left r
        = (runFrom retries path attempt rest next).behind line pause := by
  obtain ⟨_, _, hmore, _⟩ := judge_eq_again_iff.1 hjudge
  obtain ⟨rest, rfl⟩ : ∃ rest, left = rest + 1 := ⟨left - 1, by omega⟩
  refine ⟨rest, rfl, ?_⟩
  simp only [runFrom, hjudge] at hending ⊢
  by_cases hshort : next.pause < pauseBound
  · rw [if_pos hshort]
  · rw [if_neg hshort] at hending
    cases hending

/-- The last attempt is followed by no turn. -/
theorem runFrom_of_isLast
    (hlast : IsLast retries attempt n)
    (hshort : n ≤ 66)
    (left : Nat) :
    runFrom retries path attempt left (behind n)
      = ⟨endingBehind attempt n, min n 66 - n + 1,
        ((List.range' n (min n 67 - n)).flatMap (turn retries path attempt)).filterMap Deed.line?,
        ((List.range' n (min n 67 - n)).flatMap (turn retries path attempt)).filterMap
          Deed.pause?⟩ := by
  have hjudge : judge retries path (behind n) (attempt (behind n).failures)
      = .settled (attempt n) :=
    judge_eq_settled_iff.2 ⟨rfl, hlast.last.imp (fun h => Nat.le_of_eq h.symm) id⟩
  have hturns : min n 67 - n = 0 := by omega
  have hattempts : min n 66 - n = 0 := by omega
  rw [runFrom_of_settled hjudge]
  simp only [endingBehind, hshort, if_true, hturns, hattempts]
  rfl

/-- From any turn on, what is logged and paused is what the turns that are left log and pause;
there are 67 at most. -/
theorem runFrom_behind
    (hlast : IsLast retries attempt n)
    {j left : Nat}
    (hleft : j + left = retries)
    (hj : j ≤ n)
    (hshort : j ≤ 66) :
    runFrom retries path attempt left (behind j)
      = ⟨endingBehind attempt n, min n 66 - j + 1,
        ((List.range' j (min n 67 - j)).flatMap (turn retries path attempt)).filterMap Deed.line?,
        ((List.range' j (min n 67 - j)).flatMap (turn retries path attempt)).filterMap
          Deed.pause?⟩ := by
  induction left generalizing j with
  | zero =>
      obtain rfl : j = n := by
        have := hlast.allowed
        omega
      exact runFrom_of_isLast hlast hshort 0
  | succ left ih =>
      rcases Nat.lt_or_eq_of_le hj with hj | rfl
      · obtain ⟨e, he⟩ := hlast.failed j hj
        have hjudge : judge retries path (behind j) (attempt (behind j).failures)
            = .again (warning path (j + 1) retries e) (behind j).pause (behind (j + 1)) :=
          judge_eq_again_iff.2 ⟨e, he, by simp only [behind]; omega, rfl, rfl, behind_succ j⟩
        have hturns : List.range' j (min n 67 - j)
            = j :: List.range' (j + 1) (min n 67 - (j + 1)) := by
          rw [show min n 67 - j = min n 67 - (j + 1) + 1 by omega, List.range'_succ]
        rw [runFrom, hjudge]
        simp only [hturns, List.flatMap_cons, List.filterMap_append, turn_of_error he]
        rcases Nat.lt_or_eq_of_le hshort with hmore | rfl
        · have hpause : (behind (j + 1)).pause < pauseBound := pause_behind_lt_iff.2 hmore
          have hcount : min n 66 - (j + 1) + 1 + 1 = min n 66 - j + 1 := by omega
          simp only [hpause, if_true, ih (j := j + 1) (by omega) hj hmore, Run.behind, hcount]
          rfl
        · have hpause : ¬ (behind 67).pause < pauseBound :=
            fun h => absurd (pause_behind_lt_iff.1 h) (by decide)
          have hnone : min n 67 - 67 = 0 := by omega
          have hone : min n 66 - 66 = 0 := by omega
          simp only [hpause, if_false, endingBehind, Nat.not_le.2 hj, hnone, hone]
          rfl
      · exact runFrom_of_isLast hlast hshort (left + 1)

/-- What a conversion does, whether it comes to its last attempt or not. -/
theorem run_eq
    (path : Path)
    (hlast : IsLast retries attempt n) :
    run retries path attempt
      = ⟨endingBehind attempt n, min n 66 + 1,
        ((List.range (min n 67)).flatMap (turn retries path attempt)).filterMap Deed.line?,
        ((List.range (min n 67)).flatMap (turn retries path attempt)).filterMap Deed.pause?⟩ := by
  rw [List.range_eq_range']
  exact runFrom_behind (j := 0) hlast (Nat.zero_add retries) (Nat.zero_le n) (Nat.zero_le 66)

/-- The lines and the pauses of turns in which all attempts fail. -/
theorem filterMap_turns
    (retries : Nat)
    (path : Path)
    (hfailed : ∀ j < n, ∃ e, attempt j = .error e) :
    let deeds := (List.range n).flatMap (turn retries path attempt)
    (deeds.filterMap Deed.line?).length = n
      ∧ (∀ j < n, ∃ e, attempt j = .error e
        ∧ (deeds.filterMap Deed.line?)[j]? = some (warning path (j + 1) retries e))
      ∧ deeds.filterMap Deed.pause? = (List.range n).map fun j => 200 * Nat.pow 2 j := by
  induction n with
  | zero => exact ⟨rfl, fun j hj => absurd hj (Nat.not_lt_zero j), rfl⟩
  | succ n ih =>
      obtain ⟨hlength, hlines, hpauses⟩ := ih fun j hj => hfailed j (Nat.lt_succ_of_lt hj)
      obtain ⟨e, he⟩ := hfailed n (Nat.lt_succ_self n)
      simp only [List.range_succ, List.flatMap_append, List.flatMap_singleton, List.map_append,
        List.filterMap_append, turn_of_error he]
      refine ⟨?_, fun j hj => ?_, ?_⟩
      · rw [List.length_append, hlength]
        rfl
      · rcases Nat.lt_succ_iff_lt_or_eq.1 hj with hj | rfl
        · rw [List.getElem?_append_left (by omega)]
          exact hlines j hj
        · refine ⟨e, he, ?_⟩
          rw [List.getElem?_append_right (by omega), hlength, Nat.sub_self]
          rfl
      · rw [hpauses]
        rfl

end

/-! ## Conversions that are broken off -/

/-- A conversion that a pause has broken off: the pauses have been doubled 67 times, and every
failure up to there has been told. -/
structure BreaksOff (retries : Nat) (path : Path) (attempt : Nat → ConversionResult)
    (run : Run) : Prop where
  ending : run.ending = .panicked "overflow when multiplying duration by scalar"
  attempts : run.attempts = 67
  warnings : run.log.length = 67
  warning : ∀ j < 67, ∃ e, attempt j = .error e
    ∧ run.log[j]? = some (warning path (j + 1) retries e)
  pauses : run.pauses = (List.range 67).map fun j => 200 * Nat.pow 2 j

section

variable {retries n : Nat} {path : Path} {attempt : Nat → ConversionResult}

/-- A conversion is broken off if its last attempt would come after 67 failures or more. -/
theorem breaksOff_of_lt
    (path : Path)
    (hlast : IsLast retries attempt n)
    (hlong : 66 < n) :
    BreaksOff retries path attempt (run retries path attempt) := by
  have hfailed : ∀ j < 67, ∃ e, attempt j = .error e :=
    fun j hj => hlast.failed j (Nat.lt_of_lt_of_le hj hlong)
  obtain ⟨hlength, hlines, hpauses⟩ := filterMap_turns retries path hfailed
  rw [run_eq path hlast, Nat.min_eq_right hlong, Nat.min_eq_right (Nat.le_of_lt hlong)]
  exact ⟨if_neg (Nat.not_le.2 hlong), rfl, hlength, hlines, hpauses⟩

theorem ending_of_le
    (path : Path)
    (hlast : IsLast retries attempt n)
    (hshort : n ≤ 66) :
    (run retries path attempt).ending = .finished (attempt n) := by
  rw [run_eq path hlast]
  exact if_pos hshort

theorem attempts_le
    (retries : Nat)
    (path : Path)
    (attempt : Nat → ConversionResult) :
    (run retries path attempt).attempts ≤ 67 := by
  obtain ⟨n, hlast⟩ := exists_isLast retries attempt
  rw [run_eq path hlast]
  exact Nat.succ_le_succ (Nat.min_le_right n 66)

/-- A result is that of an attempt. -/
theorem exists_attempt_of_finished
    {result : ConversionResult}
    (h : (run retries path attempt).ending = .finished result) :
    ∃ k, result = attempt k := by
  obtain ⟨n, hlast⟩ := exists_isLast retries attempt
  rw [run_eq path hlast, endingBehind] at h
  split at h
  · exact ⟨n, (Ending.finished.inj h).symm⟩
  · cases h

/-- A conversion is broken off if and only if its first 67 failures are all repeated. -/
theorem breaksOff_iff :
    BreaksOff retries path attempt (run retries path attempt)
      ↔ 66 < retries ∧ ∀ j ≤ 66, ∃ e, attempt j = .error e := by
  obtain ⟨n, hlast⟩ := exists_isLast retries attempt
  constructor
  · intro h
    have hlong : 66 < n := by
      refine Nat.not_le.1 fun hshort => ?_
      have hsame := (ending_of_le path hlast hshort).symm.trans h.ending
      cases hsame
    exact ⟨Nat.lt_of_lt_of_le hlong hlast.allowed,
      fun j hj => hlast.failed j (Nat.lt_of_le_of_lt hj hlong)⟩
  · rintro ⟨hmany, hfailed⟩
    refine breaksOff_of_lt path hlast (Nat.not_le.1 fun hshort => ?_)
    rcases hlast.last with rfl | ⟨v, hv⟩
    · exact Nat.not_le.2 hmany hshort
    · obtain ⟨e, he⟩ := hfailed n hshort
      rw [hv] at he
      cases he

theorem breaksOff_or_finished :
    BreaksOff retries path attempt (run retries path attempt)
      ∨ ∃ result, (run retries path attempt).ending = .finished result := by
  obtain ⟨n, hlast⟩ := exists_isLast retries attempt
  by_cases hshort : n ≤ 66
  · exact .inr ⟨_, ending_of_le path hlast hshort⟩
  · exact .inl (breaksOff_of_lt path hlast (Nat.not_le.1 hshort))

/-- No number leaves its range just if no failure is repeated, or the number of all attempts is
a word and at most 66 failures are repeated. -/
theorem staysInRange_iff
    (hretries : retries < Nat.pow 2 32) :
    NeverOverflows retries path attempt
      ↔ (retries = 0 ∨ ∃ v, attempt 0 = .ok v)
        ∨ retries + 1 < Nat.pow 2 32 ∧ (retries ≤ 66 ∨ ∃ j ≤ 66, ∃ v, attempt j = .ok v) := by
  rw [neverOverflows_iff_fits]
  constructor
  · intro h
    by_cases hnone : retries = 0 ∨ ∃ v, attempt 0 = .ok v
    · exact .inl hnone
    · obtain ⟨hsome, hfirst⟩ := not_or.1 hnone
      have hfits := h 0 (Nat.pos_of_ne_zero hsome) fun j hj => by
        rw [Nat.le_zero.1 hj]
        exact exists_error_of_not_ok hfirst
      refine .inr ⟨hfits.attempts, ?_⟩
      by_cases hmany : retries ≤ 66
      · exact .inl hmany
      · refine .inr (Classical.byContradiction fun hfailed => ?_)
        have hlong := (h 66 (Nat.not_le.1 hmany) fun j hj =>
          exists_error_of_not_ok fun hok => hfailed ⟨j, hj, hok⟩).pause
        exact absurd (pause_behind_lt_iff.1 hlong) (by decide)
  · intro h n hn hfailed
    have hnot : ∀ j v, attempt j = .ok v → n < j := by
      intro j v hok
      refine Nat.lt_of_not_le fun hj => ?_
      obtain ⟨e, he⟩ := hfailed j hj
      rw [hok] at he
      cases he
    rcases h with (rfl | ⟨v, hok⟩) | ⟨htotal, hfew⟩
    · exact absurd hn (Nat.not_lt_zero n)
    · exact absurd (hnot 0 v hok) (Nat.not_lt_zero n)
    · refine ⟨Nat.lt_of_le_of_lt hn hretries, htotal, pause_behind_lt_iff.2 ?_⟩
      rcases hfew with hfew | ⟨j, hj, v, hok⟩
      · exact Nat.le_trans hn hfew
      · exact Nat.le_trans (hnot j v hok) hj

end

/-- **The numbers of a conversion.**  Where the settings are words of 32 bits, no number of a
conversion leaves its range just if no failure is repeated, or the number of all attempts is a
word as well and at most 66 failures are repeated.  A conversion whose first 67 failures are all
repeated is broken off by its pause, and all others come to an end with a result. -/
theorem neverOverflows_iff
    {retries : Nat}
    (hretries : retries < Nat.pow 2 32)
    (path : Path)
    (attempt : Nat → ConversionResult) :
    (NeverOverflows retries path attempt
      ↔ (retries = 0 ∨ ∃ v, attempt 0 = .ok v)
        ∨ retries + 1 < Nat.pow 2 32 ∧ (retries ≤ 66 ∨ ∃ j ≤ 66, ∃ v, attempt j = .ok v))
      ∧ (BreaksOff retries path attempt (run retries path attempt)
        ↔ 66 < retries ∧ ∀ j ≤ 66, ∃ e, attempt j = .error e)
      ∧ (BreaksOff retries path attempt (run retries path attempt)
        ∨ ∃ result, (run retries path attempt).ending = .finished result) :=
  ⟨staysInRange_iff hretries, breaksOff_iff, breaksOff_or_finished⟩

/-- Attempts that all fail, since the process cannot be started. -/
def hopeless (_ : Nat) : ConversionResult := .error (.spawn (.system ⟨2⟩))

theorem neverOverflows_iff_hopeless :
    66 < Nat.pow 2 32
      ∧ NeverOverflows 66 [0x2F, 0x61] hopeless
      ∧ ¬ BreaksOff 66 [0x2F, 0x61] hopeless (run 66 [0x2F, 0x61] hopeless) := by
  have hretries : 66 < Nat.pow 2 32 := by decide
  obtain ⟨hnever, hbreaks, _⟩ := neverOverflows_iff hretries [0x2F, 0x61] hopeless
  exact ⟨hretries, hnever.2 (.inr ⟨by decide, .inl (Nat.le_refl 66)⟩),
    fun h => Nat.lt_irrefl 66 (hbreaks.1 h).1⟩

/-- Two ways out of the range: a pause that has been doubled 67 times, with which the
conversion is broken off, and the number of all attempts, which the first warning tells as
zero. -/
theorem exists_overflow :
    ¬ NeverOverflows 67 [0x2F, 0x61] hopeless
      ∧ BreaksOff 67 [0x2F, 0x61] hopeless (run 67 [0x2F, 0x61] hopeless)
      ∧ ¬ NeverOverflows (Nat.pow 2 32 - 1) [0x2F, 0x61] hopeless
      ∧ shownAttempts (Nat.pow 2 32 - 1) = 0 := by
  refine ⟨fun h => ?_, breaksOff_iff.2 ⟨by decide, fun j _ => ⟨_, rfl⟩⟩, fun h => ?_, by decide⟩
  · have hlong := (neverOverflows_iff_fits.1 h 66 (by decide) fun j _ => ⟨_, rfl⟩).pause
    exact absurd (pause_behind_lt_iff.1 hlong) (by decide)
  · have htotal := (neverOverflows_iff_fits.1 h 0 (by decide) fun j _ => ⟨_, rfl⟩).attempts
    exact absurd htotal (by decide)

/-! ## Conversions in their range -/

section

variable {retries n : Nat} {path : Path} {attempt : Nat → ConversionResult}

/-- A conversion whose numbers stay in their range comes to its last attempt. -/
theorem NeverOverflows.le_of_isLast
    (h : NeverOverflows retries path attempt)
    (hlast : IsLast retries attempt n) :
    n ≤ 66 := by
  refine Nat.not_lt.1 fun hlong => ?_
  have hfits := neverOverflows_iff_fits.1 h 66 (Nat.lt_of_lt_of_le hlong hlast.allowed)
    fun j hj => hlast.failed j (Nat.lt_of_le_of_lt hj hlong)
  exact absurd (pause_behind_lt_iff.1 hfits.pause) (by decide)

/-- **What comes of a conversion.**  A conversion whose numbers stay in their range ends, and
in one way only: it does one turn after another and ends with the first attempt that succeeds,
or with the last one that is allowed, without another pause.  Its result is what this attempt
gives, and it tells each failure before. -/
theorem conversion_course
    (h : NeverOverflows retries path attempt) :
    ∃ n,
      IsLast retries attempt n
        ∧ (∀ deeds result,
          Ends retries path attempt deeds result
            ↔ result = attempt n
              ∧ deeds = (List.range n).flatMap (turn retries path attempt) ++ [.attempt n])
        ∧ Tells retries path attempt n (run retries path attempt) := by
  obtain ⟨n, hlast⟩ := exists_isLast retries attempt
  have hfits : ∀ j < n, Fits retries (behind (j + 1)) := fun j hj =>
    neverOverflows_iff_fits.1 h j (Nat.lt_of_lt_of_le hj hlast.allowed)
      fun i hi => hlast.failed i (Nat.lt_of_le_of_lt hi hj)
  have hshort := h.le_of_isLast hlast
  obtain ⟨hlength, hlines, hpauses⟩ := filterMap_turns retries path hlast.failed
  refine ⟨n, hlast, fun deeds result => ?_, ?_⟩
  · rw [ends_iff]
    constructor
    · rintro ⟨m, hm, rfl, rfl⟩
      obtain rfl := hm.unique hlast
      exact ⟨rfl, rfl⟩
    · rintro ⟨rfl, rfl⟩
      exact ⟨n, hlast, rfl, rfl⟩
  · rw [run_eq path hlast, Nat.min_eq_left hshort, Nat.min_eq_left (Nat.le_succ_of_le hshort)]
    refine ⟨if_pos hshort, rfl, hlength, fun j hj => ?_, hpauses, ?_⟩
    · obtain ⟨e, he, hline⟩ := hlines j hj
      have hshown : shownAttempts retries = retries + 1 := Nat.mod_eq_of_lt (hfits j hj).attempts
      rw [hline, warning, hshown]
      exact ⟨e, he, rfl⟩
    · rw [hpauses, sum_pauses]

end

/-- The second attempt succeeds. -/
def hopelessAtFirst : Nat → ConversionResult
  | 0 => hopeless 0
  | _ => .ok (.object [])

/-- The first attempt fails, and the second one gives an object. -/
theorem conversion_course_hopelessAtFirst :
    NeverOverflows 2 [0x2F, 0x61] hopelessAtFirst
      ∧ Tells 2 [0x2F, 0x61] hopelessAtFirst 1 (run 2 [0x2F, 0x61] hopelessAtFirst) := by
  have hfits : NeverOverflows 2 [0x2F, 0x61] hopelessAtFirst :=
    neverOverflows_iff_fits.2 fun n hn _ =>
      ⟨Nat.lt_of_le_of_lt hn (by decide), by decide,
        pause_behind_lt_iff.2 (Nat.le_trans hn (by decide))⟩
  obtain ⟨n, hlast, _, htells⟩ := conversion_course hfits
  obtain rfl : n = 1 :=
    hlast.unique ⟨by decide, fun j hj => ⟨_, congrArg hopelessAtFirst (Nat.lt_one_iff.1 hj)⟩,
      .inr ⟨_, rfl⟩⟩
  exact ⟨hfits, htells⟩

end Retry
end LiveNotebooks
