import LiveNotebooks.Time.Calendar

/-!
# Days and their numbers

The days are numbered by eras of four centuries, in which a year starts in March.  A day of an era
is looked up by what the years would come to without their leap days.

**Results.**
* `isIn_yearOfEra`: the year in which a day of an era is found is the one that it is in.
* `toDays_ofDays`, `isValid_ofDays`: the day with a number is a day of the calendar, and has this
  number.
* `toDays_lt_iff`: a day comes before the first day of a year just if it is in an earlier year.
-/

namespace LiveNotebooks
namespace Calendar

/-- The year of an era that a day of the era is in. -/
def yearOfEra (dayOfEra : Int) : Int :=
  (dayOfEra - dayOfEra / 1460 + dayOfEra / 36524 - dayOfEra / 146096) / 365

/-- A day of an era is a day of one of its years.  A year starts in March, so its last day may be
a leap day. -/
structure IsIn (dayOfEra year dayOfYear : Int) : Prop where
  year_nonneg : 0 ≤ year
  year_lt : year < 400
  day_nonneg : 0 ≤ dayOfYear
  day_le : dayOfYear ≤ 365
  sum : year * 365 + year / 4 - year / 100 + dayOfYear = dayOfEra
  leap : dayOfYear = 365 → (year + 1) % 4 = 0 ∧ ((year + 1) % 100 ≠ 0 ∨ (year + 1) % 400 = 0)

/-- A day of a century, counted by four years and what is left of them. -/
theorem isIn_of_century
    (century four left : Int)
    (hcentury : 0 ≤ century ∧ century ≤ 3)
    (hleft : 0 ≤ left ∧ left < 1460)
    (hday : 0 ≤ 1460 * four + left - 24 * century ∧ 1460 * four + left - 24 * century < 36524) :
    ∃ year, yearOfEra (36500 * century + 1460 * four + left) = year
      ∧ IsIn (36500 * century + 1460 * four + left) year
        (36500 * century + 1460 * four + left - (365 * year + year / 4 - year / 100)) := by
  have hgroups : (36500 * century + 1460 * four + left) / 1460 = 25 * century + four := by omega
  have hcenturies : (36500 * century + 1460 * four + left) / 36524 = century := by omega
  have hera : (36500 * century + 1460 * four + left) / 146096 = 0 := by omega
  rw [yearOfEra, hgroups, hcenturies, hera]
  obtain ⟨y, hy⟩ : ∃ y, y = (left - four - 24 * century) / 365 := ⟨_, rfl⟩
  refine ⟨100 * century + 4 * four + y, by omega, ?_⟩
  rcases Int.lt_or_le (left - four - 24 * century) 0 with hlast | hlater
  · obtain rfl : y = -1 := by omega
    have hquarter : (100 * century + 4 * four + -1) / 4 = 25 * century + four - 1 := by omega
    have hhundred : (100 * century + 4 * four + -1) / 100 = century := by omega
    rw [hquarter, hhundred]
    constructor <;> omega
  · have hquarter : (100 * century + 4 * four + y) / 4 = 25 * century + four := by omega
    have hhundred : (100 * century + 4 * four + y) / 100 = century := by omega
    rw [hquarter, hhundred]
    constructor <;> omega

/-- A day of an era is in its year, be it the leap day of the last one. -/
theorem isIn_yearOfEra
    {dayOfEra : Int}
    (h : 0 ≤ dayOfEra ∧ dayOfEra < 146097) :
    IsIn dayOfEra (yearOfEra dayOfEra)
      (dayOfEra - (365 * yearOfEra dayOfEra + yearOfEra dayOfEra / 4
        - yearOfEra dayOfEra / 100)) := by
  by_cases hlast : dayOfEra = 146096
  · subst hlast
    constructor <;> decide
  · obtain ⟨year, hyear, hin⟩ := isIn_of_century (dayOfEra / 36524)
      ((dayOfEra % 36524 + 24 * (dayOfEra / 36524)) / 1460)
      ((dayOfEra % 36524 + 24 * (dayOfEra / 36524)) % 1460) (by omega) (by omega) (by omega)
    have hday : 36500 * (dayOfEra / 36524)
        + 1460 * ((dayOfEra % 36524 + 24 * (dayOfEra / 36524)) / 1460)
        + (dayOfEra % 36524 + 24 * (dayOfEra / 36524)) % 1460 = dayOfEra := by omega
    rw [hday] at hyear hin
    rw [hyear]
    exact hin

/-- A day of a year that starts in March, with the number of its month. -/
structure IsDay (dayOfYear month day : Int) : Prop where
  month_eq : month = (5 * dayOfYear + 2) / 153
  month_nonneg : 0 ≤ month
  month_le : month ≤ 11
  day_pos : 1 ≤ day
  sum : (153 * month + 2) / 5 + day - 1 = dayOfYear

/-- What the day with a number is made of. -/
theorem ofDays_cases
    (days : Int) :
    ∃ era year dayOfYear month day : Int,
      IsIn (days + 719468 - era * 146097) year dayOfYear
        ∧ IsDay dayOfYear month day
        ∧ Date.ofDays days
          = if month < 10 then ⟨year + era * 400, (month + 3).toNat, day.toNat⟩
            else ⟨year + era * 400 + 1, (month - 9).toNat, day.toNat⟩ := by
  have hera : 0 ≤ (days + 719468) % 146097 ∧ (days + 719468) % 146097 < 146097 := by omega
  have hin := isIn_yearOfEra hera
  obtain ⟨dayOfYear, hday⟩ : ∃ dayOfYear, dayOfYear = (days + 719468) % 146097
      - (365 * yearOfEra ((days + 719468) % 146097)
        + yearOfEra ((days + 719468) % 146097) / 4
        - yearOfEra ((days + 719468) % 146097) / 100) := ⟨_, rfl⟩
  rw [← hday] at hin
  refine ⟨(days + 719468) / 146097, yearOfEra ((days + 719468) % 146097), dayOfYear,
    (5 * dayOfYear + 2) / 153, dayOfYear - (153 * ((5 * dayOfYear + 2) / 153) + 2) / 5 + 1,
    ?_, ?_, ?_⟩
  · have hsame : days + 719468 - (days + 719468) / 146097 * 146097 = (days + 719468) % 146097 := by
      omega
    rw [hsame]
    exact hin
  · have hlow := hin.day_nonneg
    have hhigh := hin.day_le
    constructor <;> omega
  · rw [hday]
    rfl

/-- The number of the day with a number is this number. -/
theorem toDays_ofDays
    (days : Int) :
    (Date.ofDays days).toDays = days := by
  obtain ⟨era, year, dayOfYear, month, day, hin, hday, hdate⟩ := ofDays_cases days
  obtain ⟨hyear, hyear', _, _, hsum, _⟩ := hin
  obtain ⟨_, hmonth, hmonth', hpos, hday⟩ := hday
  rw [hdate]
  split
  · next h =>
      simp only [Date.toDays]
      have hlater : ¬ (month + 3).toNat ≤ 2 := by omega
      simp only [if_neg hlater]
      omega
  · next h =>
      simp only [Date.toDays]
      have hearlier : (month - 9).toNat ≤ 2 := by omega
      simp only [if_pos hearlier]
      omega

/-- The months from March to December are as long as their days are numbered. -/
theorem day_le_of_month_lt
    {dayOfYear month day : Int}
    (hday : IsDay dayOfYear month day)
    (hmonth : month < 10)
    (year : Int) :
    day.toNat ≤ daysInMonth year (month + 3).toNat := by
  obtain ⟨hstart, hlow, _, hpos, hsum⟩ := hday
  have hcases : month = 0 ∨ month = 1 ∨ month = 2 ∨ month = 3 ∨ month = 4 ∨ month = 5 ∨ month = 6
      ∨ month = 7 ∨ month = 8 ∨ month = 9 := by omega
  rcases hcases with h | h | h | h | h | h | h | h | h | h <;> rw [h] at hstart hsum ⊢ <;>
    simp [daysInMonth] <;> omega

/-- So are January and February, which has a leap day in a leap year. -/
theorem day_le_of_le_month
    {dayOfYear month day : Int}
    (year : Int)
    (hday : IsDay dayOfYear month day)
    (hmonth : 10 ≤ month)
    (hle : dayOfYear ≤ 365)
    (hleap : dayOfYear = 365 → isLeap year = true) :
    day.toNat ≤ daysInMonth year (month - 9).toNat := by
  obtain ⟨hstart, _, hhigh, hpos, hsum⟩ := hday
  have hcases : month = 10 ∨ month = 11 := by omega
  rcases hcases with h | h
  · rw [h] at hsum ⊢
    simp [daysInMonth]
    omega
  · rw [h] at hsum ⊢
    cases hyear : isLeap year with
    | true =>
        simp [daysInMonth, hyear]
        omega
    | false =>
        have hne : dayOfYear ≠ 365 := fun he => by rw [hleap he] at hyear; cases hyear
        simp [daysInMonth, hyear]
        omega

/-- The calendar has the day with a number. -/
theorem isValid_ofDays
    (days : Int) :
    (Date.ofDays days).isValid = true := by
  obtain ⟨era, year, dayOfYear, month, day, hin, hday, hdate⟩ := ofDays_cases days
  have hpos := hday.day_pos
  have hlow := hday.month_nonneg
  have hhigh := hday.month_le
  rw [hdate]
  split
  · next hmonth =>
      have hle := day_le_of_month_lt hday hmonth (year + era * 400)
      simp only [Date.isValid, Bool.and_eq_true, decide_eq_true_eq]
      omega
  · next hmonth =>
      have hle := day_le_of_le_month (year + era * 400 + 1) hday (by omega) hin.day_le
        fun hlast => by
          obtain ⟨hfour, hcentury⟩ := hin.leap hlast
          simp only [isLeap, Bool.and_eq_true, Bool.or_eq_true, decide_eq_true_eq, ne_eq]
          omega
      simp only [Date.isValid, Bool.and_eq_true, decide_eq_true_eq]
      omega

/-! ## Years -/

theorem daysInMonth_le
    (year : Int)
    (month : Nat) :
    daysInMonth year month ≤ 31 := by
  unfold daysInMonth
  split
  · split <;> omega
  · split <;> omega

/-- The days in front of a year that starts in March. -/
def daysBefore (year : Int) : Int := 365 * year + year / 4 - year / 100 + year / 400

theorem daysBefore_lt
    {year later : Int}
    (h : year < later) :
    daysBefore year + 365 ≤ daysBefore later := by
  have hquarters : ∀ y : Int, y / 4 = 25 * (y / 100) + y % 100 / 4 := fun y => by omega
  rw [daysBefore, daysBefore, hquarters year, hquarters later]
  omega

theorem toDays_eq
    (d : Date) :
    d.toDays
      = if d.month ≤ 2 then
          daysBefore (d.year - 1) + ((153 * ((d.month : Int) + 9) + 2) / 5 + d.day - 1) - 719468
        else daysBefore d.year + ((153 * ((d.month : Int) - 3) + 2) / 5 + d.day - 1) - 719468 := by
  split
  · next h =>
      simp only [Date.toDays, if_pos h, daysBefore]
      omega
  · next h =>
      simp only [Date.toDays, if_neg h, daysBefore]
      omega

theorem toDays_first
    (year : Int) :
    (Date.mk year 1 1).toDays = daysBefore (year - 1) + 306 - 719468 := by
  rw [toDays_eq]
  simp

/-- A day comes before the first day of a year just if it is in an earlier year. -/
theorem toDays_lt_iff
    {d : Date}
    (hd : d.isValid = true)
    (year : Int) :
    d.toDays < (Date.mk year 1 1).toDays ↔ d.year < year := by
  simp only [Date.isValid, Bool.and_eq_true, decide_eq_true_eq] at hd
  obtain ⟨⟨⟨hmonth, hmonth'⟩, hpos⟩, hle⟩ := hd
  have hlength := daysInMonth_le d.year d.month
  rw [toDays_first, toDays_eq]
  constructor
  · intro hlt
    rcases Int.lt_or_le d.year year with hearlier | hlater
    · exact hearlier
    · exfalso
      have hown := daysBefore_lt (show d.year - 1 < d.year by omega)
      have hbefore : daysBefore (year - 1) ≤ daysBefore (d.year - 1) := by
        rcases Int.lt_or_eq_of_le hlater with h | rfl
        · have hyears := daysBefore_lt (show year - 1 < d.year - 1 by omega)
          omega
        · exact Int.le_refl _
      split at hlt <;> omega
  · intro hearlier
    split
    · have hbefore := daysBefore_lt (show d.year - 1 < year - 1 by omega)
      omega
    · rcases Int.lt_or_eq_of_le (show d.year ≤ year - 1 by omega) with hlt | heq
      · have hbefore := daysBefore_lt hlt
        omega
      · rw [heq]
        omega

end Calendar
end LiveNotebooks
