import AjoCloud.Lib.Calendar
import Mathlib

/-!
# The months of the calendar

The fields of a day and the number of a day are inverse to each other, month follows month without a
gap, and what the setters of a `Date` do is said in months.
-/

namespace AjoCloud.Lib.Calendar

/-- The leap years of the Gregorian calendar. -/
def IsLeapYear (year : Int) : Prop := year % 4 = 0 ∧ (year % 100 ≠ 0 ∨ year % 400 = 0)

instance (year : Int) : Decidable (IsLeapYear year) := inferInstanceAs (Decidable (_ ∧ _))

/-- The length of the month `month + 1`: thirty days hath September. -/
def daysInMonth (year month : Int) : Int :=
  if month = 1 then if IsLeapYear year then 29 else 28
  else if month = 3 ∨ month = 5 ∨ month = 8 ∨ month = 10 then 30 else 31

/-- The length of a month that is counted from the year zero. -/
def monthLength (months : Int) : Int := daysInMonth (months / 12) (months % 12)

/-- The number of the first day of a month that is counted from the year zero. -/
def firstDay (months : Int) : Int := dayOfCivil (months / 12) (months % 12) 1

/-! ## Years that begin in March -/

/-- The days before a year that begins in March. -/
def daysBefore (year : Int) : Int :=
  year / 400 * 146097 + (year % 400 * 365 + year % 400 / 4 - year % 400 / 100)

theorem daysBefore_eq (year : Int) :
    daysBefore year = 365 * year + year / 4 - year / 100 + year / 400 := by
  unfold daysBefore
  omega

/-- The leap day comes last. -/
theorem daysBefore_succ (year : Int) :
    daysBefore (year + 1) = daysBefore year + if IsLeapYear (year + 1) then 366 else 365 := by
  rw [daysBefore_eq, daysBefore_eq]
  by_cases hleap : IsLeapYear (year + 1)
  · rw [if_pos hleap]
    unfold IsLeapYear at hleap
    omega
  · rw [if_neg hleap]
    unfold IsLeapYear at hleap
    omega

/-- The number of a day, by the month from March on. -/
theorem dayOfCivil_eq (months date : Int) :
    dayOfCivil (months / 12) (months % 12) date =
      daysBefore ((months - 2) / 12) + (153 * ((months - 2) % 12) + 2) / 5 + date - 1 - 719468 := by
  unfold dayOfCivil daysBefore
  by_cases hearly : months % 12 ≤ 1
  · have hyear : months / 12 - 1 = (months - 2) / 12 := by omega
    have hmonth : months % 12 + 10 = (months - 2) % 12 := by omega
    simp only [if_pos hearly, hyear, hmonth]
    ring
  · have hyear : months / 12 = (months - 2) / 12 := by omega
    have hmonth : months % 12 - 2 = (months - 2) % 12 := by omega
    simp only [if_neg hearly, hyear, hmonth]
    ring

/-- The months from March to January have the lengths of the formula. -/
theorem monthLength_of_not_february {months : Int} (h : (months - 2) % 12 < 11) :
    monthLength months =
      (153 * ((months - 2) % 12 + 1) + 2) / 5 - (153 * ((months - 2) % 12) + 2) / 5 := by
  have hmonth : months % 12 = ((months - 2) % 12 + 2) % 12 := by omega
  have hnonneg : 0 ≤ (months - 2) % 12 := by omega
  unfold monthLength daysInMonth
  rw [hmonth]
  generalize (months - 2) % 12 = m at h hnonneg
  interval_cases m <;> rfl

/-- February ends the year. -/
theorem monthLength_of_february {months : Int} (h : (months - 2) % 12 = 11) :
    monthLength months = if IsLeapYear ((months - 2) / 12 + 1) then 29 else 28 := by
  have hmonth : months % 12 = 1 := by omega
  have hyear : months / 12 = (months - 2) / 12 + 1 := by omega
  unfold monthLength daysInMonth
  rw [if_pos hmonth, hyear]

theorem monthLength_bounds (months : Int) : 28 ≤ monthLength months ∧ monthLength months ≤ 31 := by
  unfold monthLength daysInMonth
  split
  · split
    · decide
    · decide
  · split
    · decide
    · decide

/-- Month follows month. -/
theorem firstDay_succ (months : Int) : firstDay (months + 1) = firstDay months + monthLength months := by
  unfold firstDay
  rw [dayOfCivil_eq, dayOfCivil_eq]
  by_cases hfebruary : (months - 2) % 12 < 11
  · have hyear : (months + 1 - 2) / 12 = (months - 2) / 12 := by omega
    have hmonth : (months + 1 - 2) % 12 = (months - 2) % 12 + 1 := by omega
    rw [monthLength_of_not_february hfebruary, hyear, hmonth]
    ring
  · have hlast : (months - 2) % 12 = 11 := by omega
    have hyear : (months + 1 - 2) / 12 = (months - 2) / 12 + 1 := by omega
    have hmonth : (months + 1 - 2) % 12 = 0 := by omega
    rw [monthLength_of_february hlast, hyear, hmonth, hlast, daysBefore_succ]
    split
    · omega
    · omega

theorem firstDay_strictMono : StrictMono firstDay := by
  refine strictMono_int_of_lt_succ fun months ↦ ?_
  rw [firstDay_succ]
  have := (monthLength_bounds months).1
  omega

/-- A month ends before a later one begins. -/
theorem firstDay_add_monthLength_le {months later : Int} (h : months < later) :
    firstDay months + monthLength months ≤ firstDay later := by
  rw [← firstDay_succ]
  exact firstDay_strictMono.monotone h

/-! ## The fields of a day -/

/-- The year of an era of 146 097 days, of which the hundredth years have no leap day, but for the
last. -/
theorem yearOfEra_div {c q r d e : Int} (hc : 0 ≤ c ∧ c < 4) (hq : 0 ≤ q ∧ q < 25)
    (hr : 0 ≤ r ∧ r < 4) (hd : 0 ≤ d) (hlast : d < 365 ∨ d = 365 ∧ r = 3 ∧ (q < 24 ∨ c = 3))
    (he : e = 36524 * c + (1461 * q + 365 * r + d)) :
    (e - e / 1460 + e / 36524 - e / 146096) / 365 = 100 * c + 4 * q + r := by
  have hcentury : e / 36524 - e / 146096 = c := by
    obtain ⟨w, hw⟩ : ∃ w, w = 1461 * q + 365 * r + d := ⟨_, rfl⟩
    have hfits : 0 ≤ w ∧ w < 36524 ∨ w = 36524 ∧ c = 3 := by omega
    rw [← hw] at he
    clear hw hlast
    rcases hfits with ⟨hnonneg, hlt⟩ | ⟨rfl, rfl⟩
    · have hquotient : e / 36524 = c := by omega
      have hzero : e / 146096 = 0 := by omega
      omega
    · subst he
      rfl
  have hsum : e - e / 1460 + e / 36524 - e / 146096 = e - e / 1460 + c := by omega
  have hleap : e / 1460 = 25 * c + q + (24 * c + q + 365 * r + d) / 1460 := by
    clear hlast hsum hcentury
    omega
  -- The last day of a leap year is one day too many, and only it.
  have hrest : 0 ≤ d - (24 * c + q + 365 * r + d) / 1460 ∧
      d - (24 * c + q + 365 * r + d) / 1460 < 365 := by
    clear hleap he hsum hcentury
    rcases hlast with hshort | ⟨rfl, rfl, -⟩
    · omega
    · omega
  rw [hsum, hleap]
  clear hlast hsum hcentury hleap
  generalize (24 * c + q + 365 * r + d) / 1460 = f at *
  omega

/-- The year of an era, from the day of it. -/
theorem yearOfEra_eq {year doy e : Int} (hyear : 0 ≤ year ∧ year < 400) (hdoy : 0 ≤ doy)
    (hlast : doy < 365 ∨ doy = 365 ∧ IsLeapYear (year + 1))
    (he : e = year * 365 + year / 4 - year / 100 + doy) :
    (e - e / 1460 + e / 36524 - e / 146096) / 365 = year := by
  have hsplit : year = 100 * (year / 100) + 4 * (year % 100 / 4) + year % 4 := by omega
  have hleap : IsLeapYear (year + 1) → year % 4 = 3 ∧ (year % 100 / 4 < 24 ∨ year / 100 = 3) := by
    rintro ⟨hfourth, hhundredth⟩
    clear he hlast hsplit
    omega
  have hcycles : e = 36524 * (year / 100) + (1461 * (year % 100 / 4) + 365 * (year % 4) + doy) := by
    clear hlast hleap
    omega
  have h := yearOfEra_div (by omega) (by omega) (by omega) hdoy
    (hlast.imp_right fun h ↦ ⟨h.1, hleap h.2⟩) hcycles
  rw [← hsplit] at h
  exact h

/-- The month from March on, from the day of the year. -/
theorem monthFromMarch_eq {m date : Int} (hfirst : 1 ≤ date)
    (hlast : date ≤ (153 * (m + 1) + 2) / 5 - (153 * m + 2) / 5) :
    (5 * ((153 * m + 2) / 5 + date - 1) + 2) / 153 = m := by
  omega

/-- The fields of a day are those it is the day of. -/
theorem civilOfDay_firstDay {months date : Int} (hfirst : 1 ≤ date) (hlast : date ≤ monthLength months) :
    civilOfDay (firstDay months + date - 1) = (months / 12, months % 12, date) := by
  obtain ⟨m, hm⟩ : ∃ m, m = (months - 2) % 12 := ⟨_, rfl⟩
  obtain ⟨y, hy⟩ : ∃ y, y = (months - 2) / 12 := ⟨_, rfl⟩
  have hm' : 0 ≤ m ∧ m < 12 := by omega
  have hmonth : date ≤ (153 * (m + 1) + 2) / 5 - (153 * m + 2) / 5 := by
    by_cases hfebruary : m < 11
    · rw [monthLength_of_not_february (hm ▸ hfebruary), ← hm] at hlast
      exact hlast
    · have := (monthLength_bounds months).2
      obtain rfl : m = 11 := by omega
      rw [monthLength_of_february hm.symm] at hlast
      split at hlast
      · omega
      · omega
  have hyear : (153 * m + 2) / 5 + date - 1 < 365 ∨
      (153 * m + 2) / 5 + date - 1 = 365 ∧ IsLeapYear (y % 400 + 1) := by
    by_cases hfebruary : m < 11
    · left
      omega
    · obtain rfl : m = 11 := by omega
      rw [monthLength_of_february hm.symm, ← hy] at hlast
      split at hlast
      · next hleap =>
          have hera : IsLeapYear (y % 400 + 1) := by
            unfold IsLeapYear at hleap ⊢
            omega
          simp only [hera, and_true]
          omega
      · left
        omega
  rw [firstDay, dayOfCivil_eq, ← hm, ← hy]
  generalize hdoy : (153 * m + 2) / 5 + date - 1 = doy at hyear
  obtain ⟨e, he⟩ : ∃ e, e = y % 400 * 365 + y % 400 / 4 - y % 400 / 100 + doy := ⟨_, rfl⟩
  have hshifted : daysBefore y + (153 * m + 2) / 5 + 1 - 1 - 719468 + date - 1 + 719468 =
      y / 400 * 146097 + e := by
    unfold daysBefore
    omega
  have hlong : 0 ≤ doy ∧ doy ≤ 365 := by omega
  have hera : (y / 400 * 146097 + e) % 146097 = e := by
    clear hyear hshifted hdoy
    omega
  have hcount : (y / 400 * 146097 + e) / 146097 = y / 400 := by
    clear hyear hshifted hdoy
    omega
  have hof := yearOfEra_eq ⟨by omega, by omega⟩ hlong.1 hyear he
  have hday : e - (365 * (y % 400) + y % 400 / 4 - y % 400 / 100) = doy := by
    clear hyear hof hera hcount hshifted
    omega
  have hmonths := monthFromMarch_eq hfirst hmonth
  unfold civilOfDay
  simp only [hshifted, hera, hcount, hof, hday]
  rw [← hdoy, hmonths]
  by_cases hlate : m < 10
  · have hnot : ¬ m + 2 ≤ 1 := by omega
    rw [if_pos hlate, if_neg hnot, Prod.mk.injEq, Prod.mk.injEq]
    omega
  · have hearly : m - 10 ≤ 1 := by omega
    rw [if_neg hlate, if_pos hearly, Prod.mk.injEq, Prod.mk.injEq]
    omega

/-- Every day is a day of a month. -/
theorem exists_firstDay (d : Int) :
    ∃ months date, 1 ≤ date ∧ date ≤ monthLength months ∧ d = firstDay months + date - 1 := by
  induction d with
  | zero => exact ⟨12 * 1970, 1, by decide, by decide, by decide⟩
  | succ d ih =>
      obtain ⟨months, date, hfirst, hlast, hd⟩ := ih
      by_cases hnext : date < monthLength months
      · exact ⟨months, date + 1, by omega, by omega, by omega⟩
      · have hlength := (monthLength_bounds (months + 1)).1
        have hsucc := firstDay_succ months
        exact ⟨months + 1, 1, by omega, by omega, by omega⟩
  | pred d ih =>
      obtain ⟨months, date, hfirst, hlast, hd⟩ := ih
      by_cases hprevious : 1 < date
      · exact ⟨months, date - 1, by omega, by omega, by omega⟩
      · have hlength := (monthLength_bounds (months - 1)).1
        have hsucc := firstDay_succ (months - 1)
        rw [sub_add_cancel] at hsucc
        exact ⟨months - 1, monthLength (months - 1), by omega, by omega, by omega⟩

/-! ## The fields of a time -/

/-- The month of a time, counted from the year zero. -/
def monthOf (t : Int) : Int := 12 * utcFullYear t + utcMonth t

/-- The fields of a time that is on the day of a month. -/
theorem fields_eq {t months date : Int} (hfirst : 1 ≤ date) (hlast : date ≤ monthLength months)
    (hday : day t = firstDay months + date - 1) : monthOf t = months ∧ utcDate t = date := by
  rw [monthOf, utcFullYear, utcMonth, utcDate, hday, civilOfDay_firstDay hfirst hlast]
  exact ⟨Int.mul_ediv_add_emod months 12, rfl⟩

/-- The day of a time is that of its fields. -/
theorem day_eq (t : Int) : 1 ≤ utcDate t ∧ utcDate t ≤ monthLength (monthOf t) ∧
    day t = firstDay (monthOf t) + utcDate t - 1 := by
  obtain ⟨months, date, hfirst, hlast, hday⟩ := exists_firstDay (day t)
  obtain ⟨hmonths, hdate⟩ := fields_eq hfirst hlast hday
  rw [hmonths, hdate]
  exact ⟨hfirst, hlast, hday⟩

theorem utcMonth_eq (t : Int) : utcMonth t = monthOf t % 12 ∧ utcFullYear t = monthOf t / 12 := by
  obtain ⟨hfirst, hlast, hday⟩ := day_eq t
  generalize monthOf t = months at hlast hday
  rw [utcMonth, utcFullYear, hday, civilOfDay_firstDay hfirst hlast]
  exact ⟨rfl, rfl⟩

theorem monthLength_monthOf (t : Int) : monthLength (monthOf t) = daysInMonth (utcFullYear t) (utcMonth t) := by
  rw [monthLength, (utcMonth_eq t).1, (utcMonth_eq t).2]

theorem timeWithinDay_bounds (t : Int) : 0 ≤ timeWithinDay t ∧ timeWithinDay t < msPerDay := by
  unfold timeWithinDay msPerDay
  omega

theorem makeDate_day (t : Int) : makeDate (day t) (timeWithinDay t) = t := by
  unfold makeDate day timeWithinDay
  rw [mul_comm]
  exact Int.mul_ediv_add_emod t msPerDay

theorem day_makeDate {d time : Int} (h : 0 ≤ time ∧ time < msPerDay) : day (makeDate d time) = d := by
  unfold day makeDate
  unfold msPerDay at h ⊢
  omega

theorem makeDay_eq (year month date : Int) :
    makeDay year month date = firstDay (12 * year + month) + date - 1 := by
  have hyear : (12 * year + month) / 12 = year + month / 12 := by omega
  have hmonth : (12 * year + month) % 12 = month % 12 := by omega
  rw [makeDay, firstDay, hyear, hmonth]

/-! ## The setters -/

/-- Setting the date moves by days. -/
theorem setUtcDate_eq (t date : Int) : setUtcDate t date = t + (date - utcDate t) * msPerDay := by
  rw [setUtcDate, makeDay_eq]
  have hday := (day_eq t).2.2
  have ht := makeDate_day t
  unfold monthOf at hday
  unfold makeDate msPerDay at *
  rw [hday] at ht
  omega

/-- Setting the date to one that the month has sets it. -/
theorem fields_setUtcDate {t date : Int} (hfirst : 1 ≤ date) (hlast : date ≤ monthLength (monthOf t)) :
    monthOf (setUtcDate t date) = monthOf t ∧ utcDate (setUtcDate t date) = date := by
  refine fields_eq hfirst hlast ?_
  rw [setUtcDate, makeDay_eq, day_makeDate (timeWithinDay_bounds t), monthOf]

/-- Setting the month sets it if it has the date. -/
theorem fields_setUtcMonth {t month : Int} (h : utcDate t ≤ monthLength (12 * utcFullYear t + month)) :
    monthOf (setUtcMonth t month) = 12 * utcFullYear t + month ∧
      utcDate (setUtcMonth t month) = utcDate t := by
  refine fields_eq (day_eq t).1 h ?_
  rw [setUtcMonth, makeDay_eq, day_makeDate (timeWithinDay_bounds t)]

/-- The day before the first of the next month is the last of the month. -/
theorem utcDate_utc_zero (year month : Int) :
    utcDate (utc year (month + 1) 0) = monthLength (12 * year + month) := by
  have hbounds := monthLength_bounds (12 * year + month)
  have hday : day (utc year (month + 1) 0) =
      firstDay (12 * year + month) + monthLength (12 * year + month) - 1 := by
    rw [utc, day_makeDate (by decide), makeDay_eq, ← add_assoc, firstDay_succ]
    ring
  exact (fields_eq (by omega) (le_refl _) hday).2

/-- Of two times in different months, the one in the later month is later. -/
theorem lt_of_monthOf_lt {s t : Int} (h : monthOf s < monthOf t) : s < t := by
  obtain ⟨-, hlast, hs⟩ := day_eq s
  obtain ⟨hfirst, -, ht⟩ := day_eq t
  have hle := firstDay_add_monthLength_le h
  have hday : day s < day t := by omega
  unfold day msPerDay at hday
  omega

end AjoCloud.Lib.Calendar
