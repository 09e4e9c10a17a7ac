/-
The conversion of an xsd:dateTime (`sopc_date_time.c`).

`SOPC_Time_FromXsdDateTime` gives the 100 nanoseconds since 1601 of a date that
`SOPC_tm_FromXsdDateTime` has read.  The dates are those of the proleptic
Gregorian calendar, in which a day has a number, an instant a number of seconds,
and the conversion is the number of seconds, clamped at both ends.

A date is here what the numbers in a text without a fraction are converted to,
on which the checks are made; how they are found in the characters is left out.
-/
import Mathlib

namespace S2opc.DateTime

/-! ## The calendar -/

def isLeap (year : Int) : Prop := year % 4 = 0 ∧ (year % 100 ≠ 0 ∨ year % 400 = 0)

instance (year : Int) : Decidable (isLeap year) := inferInstanceAs (Decidable (_ ∧ _))

/-- The days of a month, which is 1 for January. -/
def daysInMonth (year : Int) (month : Nat) : Int :=
  if month = 2 then if isLeap year then 29 else 28
  else if month = 4 ∨ month = 6 ∨ month = 9 ∨ month = 11 then 30
  else 31

/-- The days from 1601-01-01 to the first day of a year. -/
def daysBeforeYear (year : Int) : Int :=
  365 * (year - 1601) + (year - 1601) / 4 - (year - 1601) / 100 + (year - 1601) / 400

theorem daysBeforeYear_succ (year : Int) :
    daysBeforeYear (year + 1) = daysBeforeYear year + if isLeap year then 366 else 365 := by
  unfold daysBeforeYear isLeap
  split_ifs <;> omega

/-- The days from 1601-01-01 to a day. -/
def dayNumber (year : Int) (month day : Nat) : Int :=
  daysBeforeYear year + ((List.range (month - 1)).map fun k => daysInMonth year (k + 1)).sum +
    day - 1

/-! ## Dates -/

/-- `SOPC_tm`; a date without an offset has the offset 0. -/
structure Tm where
  year : Int
  month : Nat
  day : Nat
  hour : Nat
  minute : Nat
  second : Nat
  utcNegOff : Bool
  utcHourOff : Nat
  utcMinOff : Nat

namespace Tm

variable (tm : Tm)

/-- The checks of `SOPC_tm_FromXsdDateTime`. -/
def fromXsdDateTime : Bool :=
  if tm.year < -32768 ∨ tm.year > 32767 then false
  else if tm.month < 1 ∨ tm.month > 12 then false
  else if tm.day < 1 ∨ tm.day > 31 then false
  else if tm.day > 30 ∧ (tm.month = 4 ∨ tm.month = 6 ∨ tm.month = 9 ∨ tm.month = 11) then false
  else if tm.day > 28 ∧ tm.month = 2 ∧
      (tm.year.tmod 4 ≠ 0 ∨ tm.year.tmod 100 = 0 ∧ tm.year.tmod 400 ≠ 0) then false
  else if tm.day > 29 ∧ tm.month = 2 then false
  else if tm.hour > 24 then false
  else if tm.minute > 59 then false
  else if tm.second > 59 then false
  else if tm.hour = 24 ∧ (tm.minute ≠ 0 ∨ tm.second ≠ 0) then false
  else if tm.utcHourOff > 14 then false
  else if tm.utcMinOff > 59 ∨ tm.utcHourOff = 14 ∧ tm.utcMinOff ≠ 0 then false
  else true

/-- The offset in seconds. -/
def offset : Int := tm.utcHourOff * 3600 + tm.utcMinOff * 60

end Tm

/-! ## The conversion -/

/-- How a function ends that fails an assertion. -/
inductive Stop where
  | assertion

/-- `monthDaysElapsed`. -/
def monthDaysElapsed : List Int := [0, 31, 59, 90, 120, 151, 181, 212, 243, 273, 304, 334]

variable (tm : Tm)

variable {year : Int} {month day : Nat}

/-- The days before a month are those of the table, and a leap day. -/
theorem dayNumber_eq (hmonth : 1 ≤ month) (hmonth' : month ≤ 12) :
    dayNumber year month day = daysBeforeYear year + monthDaysElapsed.getD (month - 1) 0 +
      (if 2 < month ∧ isLeap year then 1 else 0) + day - 1 := by
  unfold dayNumber
  by_cases hleap : isLeap year <;> interval_cases month <;>
    simp [List.range_succ, daysInMonth, monthDaysElapsed, hleap] <;> omega

/-- The day after a day of the calendar. -/
def nextDay (year : Int) (month day : Nat) : Int × Nat × Nat :=
  if (day : Int) < daysInMonth year month then (year, month, day + 1)
  else if month < 12 then (year, month + 1, 1)
  else (year + 1, 1, 1)

/-- The days are numbered one after the other, from the first day of 1601. -/
theorem dayNumber_nextDay (hmonth : 1 ≤ month) (hmonth' : month ≤ 12)
    (hday : (day : Int) ≤ daysInMonth year month) :
    dayNumber 1601 1 1 = 0 ∧
      dayNumber (nextDay year month day).1 (nextDay year month day).2.1
        (nextDay year month day).2.2 = dayNumber year month day + 1 := by
  refine ⟨by decide, ?_⟩
  unfold nextDay
  split_ifs with hlast hyear
  · simp only [dayNumber]
    omega
  · obtain ⟨k, rfl⟩ : ∃ k, month = k + 1 := ⟨month - 1, by omega⟩
    simp only [dayNumber, Nat.add_sub_cancel, List.range_succ, List.map_append, List.sum_append,
      List.map_singleton, List.sum_singleton]
    omega
  · obtain rfl : month = 12 := by omega
    norm_num [daysInMonth] at hlast hday
    rw [@dayNumber_eq _ 1 1 (by omega) (by omega), @dayNumber_eq _ 12 day (by omega) (by omega),
      daysBeforeYear_succ]
    by_cases hleap : isLeap year <;> simp [monthDaysElapsed, hleap] <;> omega

variable {tm}

/-- What the checks say of a date that they accept. -/
structure Accepted (tm : Tm) : Prop where
  month : 1 ≤ tm.month ∧ tm.month ≤ 12
  day : 1 ≤ tm.day ∧ (tm.day : Int) ≤ daysInMonth tm.year tm.month
  time : 3600 * tm.hour + 60 * tm.minute + tm.second ≤ 86400
  offset : 0 ≤ tm.offset ∧ tm.offset ≤ 50400

theorem accepted (h : tm.fromXsdDateTime = true) : Accepted tm := by
  simp only [Tm.fromXsdDateTime, Bool.if_false_left, Bool.and_eq_true, Bool.not_eq_true',
    decide_eq_false_iff_not, and_true, ← Int.dvd_iff_tmod_eq_zero, ne_eq] at h
  obtain ⟨-, hmonth, hday, hday', hfeb, hfeb', hhour, hminute, hsecond, hlast, hoff, hoff'⟩ := h
  refine ⟨by omega, ⟨by omega, ?_⟩, by omega, by unfold Tm.offset; omega⟩
  unfold daysInMonth isLeap
  split_ifs <;> omega

end S2opc.DateTime
