/-!
# Civil dates

The proleptic Gregorian calendar.  A date and its day number, counted from
1 January 1970, determine each other.  Years are counted from March, so that
the leap day is the last day of its year, and grouped into eras of 400 years,
all of which have 146097 days.
-/

namespace ClusterHub

/-- A year, a month from 1 and a day of the month from 1. -/
structure Date where
  year : Int
  month : Nat
  day : Nat
deriving DecidableEq, Repr, Inhabited

namespace Date

/-- Days in an era of 400 years. -/
def eraDays : Int := 146097

/-- Days from the start of the first era to 1 January 1970. -/
def epochShift : Int := 719468

/-- Days of an era that come before its year number `year`, years counted from
March. -/
def daysBeforeYear (year : Int) : Int :=
  365 * year + year / 4 - year / 100

/-- Days of a year that come before its month number `month`, months counted
from March. -/
def daysBeforeMonth (month : Int) : Int :=
  (153 * month + 2) / 5

/-- The day number of a date.  A day past the end of its month runs on into
the following month. -/
def toDayNumber (date : Date) : Int :=
  let month : Int := if date.month ≤ 2 then date.month + 9 else date.month - 3
  let year := if date.month ≤ 2 then date.year - 1 else date.year
  let dayOfYear := daysBeforeMonth month + (date.day - 1)
  (year / 400) * eraDays + (daysBeforeYear (year % 400) + dayOfYear) - epochShift

/-- The year of an era that a day of the era falls into.  The last century of
an era and the last year of four are one day longer than the others. -/
def yearOfDay (day : Int) : Int :=
  let century := min (day / 36524) 3
  let inCentury := day - 36524 * century
  let cycle := inCentury / 1461
  let inCycle := inCentury - 1461 * cycle
  100 * century + 4 * cycle + min (inCycle / 365) 3

/-- The date that has a given day number. -/
def ofDayNumber (number : Int) : Date :=
  let shifted := number + epochShift
  let dayOfEra := shifted % eraDays
  let yearOfEra := yearOfDay dayOfEra
  let dayOfYear := dayOfEra - daysBeforeYear yearOfEra
  let month := (5 * dayOfYear + 2) / 153
  let day := dayOfYear - daysBeforeMonth month + 1
  let year := (shifted / eraDays) * 400 + yearOfEra
  if month < 10 then ⟨year, (month + 3).toNat, day.toNat⟩
  else ⟨year + 1, (month - 9).toNat, day.toNat⟩

/-- Whether a date is in the calendar: it is the name of its own day. -/
def isValid (date : Date) : Bool :=
  1 ≤ date.month && date.month ≤ 12 && ofDayNumber date.toDayNumber == date

/-- The parts that a day of an era is split into. -/
private theorem era_split {n : Int} (low : 0 ≤ n) (high : n < 146097) :
    let year := yearOfDay n
    let day := n - daysBeforeYear year
    0 ≤ year ∧ year < 400 ∧ 0 ≤ day ∧ day ≤ 365 := by
  simp only [daysBeforeYear, yearOfDay]
  generalize centuryEq : min (n / 36524) 3 = century
  have centuryBounds : 0 ≤ century ∧ century ≤ 3 ∧ 36524 * century ≤ n ∧
      n - 36524 * century ≤ 36524 := by omega
  generalize cycleEq : (n - 36524 * century) / 1461 = cycle
  have cycleBounds : 0 ≤ cycle ∧ cycle ≤ 24 := by omega
  generalize lastEq : min ((n - 36524 * century - 1461 * cycle) / 365) 3 = last
  have lastBounds : 0 ≤ last ∧ last ≤ 3 := by omega
  have quarter : (100 * century + 4 * cycle + last) / 4 = 25 * century + cycle := by omega
  have hundredth : (100 * century + 4 * cycle + last) / 100 = century := by omega
  rw [quarter, hundredth]
  omega

private theorem month_split {n : Int} (low : 0 ≤ n) (high : n ≤ 365) :
    let month := (5 * n + 2) / 153
    let day := n - daysBeforeMonth month + 1
    0 ≤ month ∧ month ≤ 11 ∧ 1 ≤ day ∧ day ≤ 31 := by
  simp only [daysBeforeMonth]
  omega

/-- Every day number is that of its date. -/
@[simp]
theorem toDayNumber_ofDayNumber (number : Int) :
    (ofDayNumber number).toDayNumber = number := by
  have dayLow : 0 ≤ (number + epochShift) % eraDays :=
    Int.emod_nonneg _ (by decide)
  have dayHigh : (number + epochShift) % eraDays < 146097 :=
    Int.emod_lt_of_pos _ (by decide)
  have whole := Int.mul_ediv_add_emod (number + epochShift) eraDays
  obtain ⟨yearLow, yearHigh, restLow, restHigh⟩ := era_split dayLow dayHigh
  obtain ⟨monthLow, monthHigh, oneLow, oneHigh⟩ := month_split restLow restHigh
  simp only [ofDayNumber]
  generalize (number + epochShift) % eraDays = dayOfEra at *
  generalize (number + epochShift) / eraDays = era at *
  generalize yearOfDay dayOfEra = year at *
  generalize hday : dayOfEra - daysBeforeYear year = dayOfYear at *
  generalize (5 * dayOfYear + 2) / 153 = month at *
  have yearPart : (era * 400 + year) / 400 = era ∧ (era * 400 + year) % 400 = year := by omega
  by_cases early : month < 10
  · have monthBack : ((month + 3).toNat : Int) = month + 3 := by omega
    have late : ¬ (month + 3).toNat ≤ 2 := by omega
    simp only [early, if_true, toDayNumber, late, if_false, monthBack, yearPart]
    rw [show month + 3 - 3 = month by omega]
    simp only [eraDays, epochShift] at *
    omega
  · have monthBack : ((month - 9).toNat : Int) = month - 9 := by omega
    have soon : (month - 9).toNat ≤ 2 := by omega
    simp only [early, if_false, toDayNumber, soon, if_true, monthBack]
    rw [show era * 400 + year + 1 - 1 = era * 400 + year by omega]
    simp only [yearPart]
    rw [show month - 9 + 9 = month by omega]
    simp only [eraDays, epochShift] at *
    omega

/-- The month and the day of the month are in range. -/
theorem bounds_ofDayNumber (number : Int) :
    1 ≤ (ofDayNumber number).month ∧ (ofDayNumber number).month ≤ 12 ∧
      1 ≤ (ofDayNumber number).day ∧ (ofDayNumber number).day ≤ 31 := by
  have dayLow : 0 ≤ (number + epochShift) % eraDays :=
    Int.emod_nonneg _ (by decide)
  have dayHigh : (number + epochShift) % eraDays < 146097 :=
    Int.emod_lt_of_pos _ (by decide)
  obtain ⟨-, -, restLow, restHigh⟩ := era_split dayLow dayHigh
  obtain ⟨monthLow, monthHigh, oneLow, oneHigh⟩ := month_split restLow restHigh
  simp only [ofDayNumber]
  split <;> refine ⟨?_, ?_, ?_, ?_⟩ <;> simp only <;> omega

/-- The date of a day number is in the calendar. -/
@[simp]
theorem isValid_ofDayNumber (number : Int) : (ofDayNumber number).isValid = true := by
  have bounds := bounds_ofDayNumber number
  simp [isValid, bounds.1, bounds.2.1]

end Date

end ClusterHub
