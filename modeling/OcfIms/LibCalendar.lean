import Mathlib

/-!
# Days and dates

The Gregorian calendar as ECMAScript computes with it: days are counted from the first of January
1970, in both directions, and months from 0. A day number can be made of any year, month and date,
also ones out of range, which roll over into the next months and years. A date that exists is got
back from its day number, and no other is.
-/

namespace CalendarLib

/-! ## Years -/

def inLeapYear (y : Int) : Bool := y % 4 == 0 && (y % 100 != 0 || y % 400 == 0)

def daysInYear (y : Int) : Int := if inLeapYear y then 366 else 365

/-- The day number of the first day of a year. -/
def dayFromYear (y : Int) : Int :=
  365 * (y - 1970) + (y - 1969) / 4 - (y - 1901) / 100 + (y - 1601) / 400

/-- The last year that has begun; the mean year is 146097 days in 400, and the estimate is at most a
year off. -/
def yearFromDay (day : Int) : Int :=
  let y := 1970 + 400 * day / 146097
  if dayFromYear (y + 1) ≤ day then y + 1 else if dayFromYear y ≤ day then y else y - 1

theorem inLeapYear_iff {y : Int} :
    inLeapYear y = true ↔ y % 4 = 0 ∧ (y % 100 ≠ 0 ∨ y % 400 = 0) := by
  simp [inLeapYear]

theorem dayFromYear_succ (y : Int) : dayFromYear (y + 1) = dayFromYear y + daysInYear y := by
  rw [daysInYear]
  split
  · have hleap := inLeapYear_iff.mp ‹_›
    simp only [dayFromYear]
    omega
  · have hcommon := mt inLeapYear_iff.mpr ‹_›
    simp only [dayFromYear]
    omega

theorem daysInYear_bounds (y : Int) : 365 ≤ daysInYear y ∧ daysInYear y ≤ 366 := by
  rw [daysInYear]
  split <;> omega

theorem dayFromYear_mono {y y' : Int} (h : y ≤ y') : dayFromYear y ≤ dayFromYear y' := by
  obtain ⟨n, rfl⟩ := Int.le.dest h
  induction n with
  | zero => simp
  | succ n ih =>
      have hsucc := dayFromYear_succ (y + n)
      have hdays := daysInYear_bounds (y + n)
      have hle := ih (by omega)
      rw [Int.natCast_succ, ← Int.add_assoc, hsucc]
      omega

/-- The estimate is off by a year at most. -/
theorem dayFromYear_estimate (day : Int) :
    dayFromYear (1970 + 400 * day / 146097 - 1) ≤ day ∧
      day < dayFromYear (1970 + 400 * day / 146097 + 1 + 1) := by
  simp only [dayFromYear]
  omega

theorem yearFromDay_spec (day : Int) :
    dayFromYear (yearFromDay day) ≤ day ∧ day < dayFromYear (yearFromDay day + 1) := by
  obtain ⟨hbefore, hafter⟩ := dayFromYear_estimate day
  simp only [yearFromDay]
  split
  · exact ⟨‹_›, hafter⟩
  · split
    · exact ⟨‹_›, by omega⟩
    · refine ⟨hbefore, ?_⟩
      rw [Int.sub_add_cancel]
      omega

theorem yearFromDay_eq {day y : Int} (hbegun : dayFromYear y ≤ day) (hday : day < dayFromYear (y + 1)) :
    yearFromDay day = y := by
  obtain ⟨hlow, hhigh⟩ := yearFromDay_spec day
  rcases lt_trichotomy (yearFromDay day) y with h | h | h
  · have hmono := dayFromYear_mono (show yearFromDay day + 1 ≤ y by omega)
    omega
  · exact h
  · have hmono := dayFromYear_mono (show y + 1 ≤ yearFromDay day by omega)
    omega

/-- A day of a year or a later one is in that year or a later one. -/
theorem le_yearFromDay {day y : Int} (h : dayFromYear y ≤ day) : y ≤ yearFromDay day := by
  by_contra hlt
  have hmono := dayFromYear_mono (show yearFromDay day + 1 ≤ y by omega)
  have hhigh := (yearFromDay_spec day).2
  omega

/-! ## Months -/

def daysInMonth (leap : Bool) : Nat → Int
  | 1 => if leap then 29 else 28
  | 3 => 30
  | 5 => 30
  | 8 => 30
  | 10 => 30
  | _ => 31

/-- The day of the year that a month begins with. -/
def dayFromMonth (leap : Bool) : Nat → Int
  | 0 => 0
  | m + 1 => dayFromMonth leap m + daysInMonth leap m

/-- The last of the months up to `m` that has begun. -/
def monthUpTo (leap : Bool) (dayInYear : Int) : Nat → Nat
  | 0 => 0
  | m + 1 => if dayFromMonth leap (m + 1) ≤ dayInYear then m + 1 else monthUpTo leap dayInYear m

theorem daysInMonth_pos (leap : Bool) (m : Nat) : 28 ≤ daysInMonth leap m := by
  rw [daysInMonth.eq_def]
  split <;> (try split) <;> omega

theorem daysInMonth_le (leap : Bool) (m : Nat) : daysInMonth leap m ≤ 31 := by
  rw [daysInMonth.eq_def]
  split <;> (try split) <;> omega

theorem dayFromMonth_mono (leap : Bool) {m m' : Nat} (h : m ≤ m') :
    dayFromMonth leap m ≤ dayFromMonth leap m' := by
  induction h with
  | refl => exact le_refl _
  | step _ ih =>
      rename_i n _
      have hpos := daysInMonth_pos leap n
      simp only [dayFromMonth]
      omega

theorem dayFromMonth_twelve (y : Int) : dayFromMonth (inLeapYear y) 12 = daysInYear y := by
  rw [daysInYear]
  cases inLeapYear y <;> rfl

theorem monthUpTo_eq {leap : Bool} {k : Int} {m : Nat} (hbegun : dayFromMonth leap m ≤ k)
    (hday : k < dayFromMonth leap (m + 1)) : ∀ n, m ≤ n → monthUpTo leap k n = m
  | 0, h => by
      rw [Nat.le_zero.mp h]
      rfl
  | n + 1, h => by
      rw [monthUpTo]
      split
      · by_contra hne
        have hmono := dayFromMonth_mono leap (show m + 1 ≤ n + 1 by omega)
        omega
      · refine monthUpTo_eq hbegun hday n ?_
        by_contra hlt
        have heq : m = n + 1 := by omega
        subst heq
        exact ‹¬ _› hbegun

/-! ## Dates -/

/-- The months and the date of a day within its year. -/
def monthFromDay (day : Int) : Nat :=
  monthUpTo (inLeapYear (yearFromDay day)) (day - dayFromYear (yearFromDay day)) 11

def dateFromDay (day : Int) : Int :=
  day - dayFromYear (yearFromDay day) -
    dayFromMonth (inLeapYear (yearFromDay day)) (monthFromDay day) + 1

/-- The day number of a year, month and date; months out of range count on in other years, and dates
in other months. -/
def makeDay (year month date : Int) : Int :=
  let ym := year + month / 12
  let mn := (month % 12).toNat
  dayFromYear ym + dayFromMonth (inLeapYear ym) mn + date - 1

/-- The calendar has this date; months count from 0. -/
structure IsDate (year : Int) (month : Nat) (date : Int) : Prop where
  inYear : month < 12
  first : 1 ≤ date
  last : date ≤ daysInMonth (inLeapYear year) month

section Dates

variable {year date : Int} {month : Nat}

theorem makeDay_of_lt (h : month < 12) :
    makeDay year month date =
      dayFromYear year + dayFromMonth (inLeapYear year) month + date - 1 := by
  have hyear : year + (month : Int) / 12 = year := by omega
  have hmonth : ((month : Int) % 12).toNat = month := by omega
  simp only [makeDay, hyear, hmonth]

/-- A date that exists is in its year. -/
theorem IsDate.yearFromDay (h : IsDate year month date) :
    yearFromDay (makeDay year month date) = year := by
  have hbegun := dayFromMonth_mono (inLeapYear year) (Nat.zero_le month)
  have hended := dayFromMonth_mono (inLeapYear year) (show month + 1 ≤ 12 from h.inYear)
  rw [dayFromMonth_twelve] at hended
  have hfirst := h.first
  have hlast := h.last
  simp only [dayFromMonth] at hbegun hended
  rw [makeDay_of_lt h.inYear]
  refine yearFromDay_eq (by omega) ?_
  rw [dayFromYear_succ]
  omega

theorem IsDate.monthFromDay (h : IsDate year month date) :
    monthFromDay (makeDay year month date) = month := by
  have hfirst := h.first
  have hlast := h.last
  rw [CalendarLib.monthFromDay, h.yearFromDay, makeDay_of_lt h.inYear]
  refine monthUpTo_eq (by omega) ?_ 11 (by have := h.inYear; omega)
  simp only [dayFromMonth]
  omega

theorem IsDate.dateFromDay (h : IsDate year month date) :
    dateFromDay (makeDay year month date) = date := by
  rw [CalendarLib.dateFromDay, h.yearFromDay, h.monthFromDay, makeDay_of_lt h.inYear]
  omega

/-- A day that some month begins with, and what follows, is in the year of that month or later. -/
theorem le_yearFromDay_makeDay (hmonth : month < 12) (hfirst : 1 ≤ date) :
    year ≤ CalendarLib.yearFromDay (makeDay year month date) := by
  have hbegun := dayFromMonth_mono (inLeapYear year) (Nat.zero_le month)
  simp only [dayFromMonth] at hbegun
  rw [makeDay_of_lt hmonth]
  exact le_yearFromDay (by omega)

/-- Whatever the month and the date, the day is at most a year after the date of a first of January. -/
theorem makeDay_bounds (year month date : Int) :
    dayFromYear (year + month / 12) + date - 1 ≤ makeDay year month date ∧
      makeDay year month date ≤ dayFromYear (year + month / 12) + date + 365 := by
  have hmonth : (month % 12).toNat ≤ 12 := by omega
  have hlow := dayFromMonth_mono (inLeapYear (year + month / 12)) (Nat.zero_le (month % 12).toNat)
  have hhigh := dayFromMonth_mono (inLeapYear (year + month / 12)) hmonth
  rw [dayFromMonth_twelve] at hhigh
  have hdays := (daysInYear_bounds (year + month / 12)).2
  simp only [dayFromMonth] at hlow
  simp only [makeDay]
  omega

end Dates

/-! ## Times -/

def msPerDay : Int := 86400000

def msPerHour : Int := 3600000

def msPerMinute : Int := 60000

/-- The time value of a time on a day. -/
def makeTime (day hour minute : Int) : Int := day * msPerDay + (hour * msPerHour + minute * msPerMinute)

def dayFromTime (t : Int) : Int := t / msPerDay

def hourFromTime (t : Int) : Int := t / msPerHour % 24

def minFromTime (t : Int) : Int := t / msPerMinute % 60

section Times

variable {day hour minute : Int}

/-- The clock shows this time at some point of the day. -/
structure IsTime (hour minute : Int) : Prop where
  hours : 0 ≤ hour ∧ hour < 24
  minutes : 0 ≤ minute ∧ minute < 60

theorem IsTime.dayFromTime (h : IsTime hour minute) :
    dayFromTime (makeTime day hour minute) = day := by
  obtain ⟨hhour, hminute⟩ := h
  simp only [CalendarLib.dayFromTime, makeTime, msPerDay, msPerHour, msPerMinute]
  omega

theorem IsTime.hourFromTime (h : IsTime hour minute) :
    hourFromTime (makeTime day hour minute) = hour := by
  obtain ⟨hhour, hminute⟩ := h
  simp only [CalendarLib.hourFromTime, makeTime, msPerDay, msPerHour, msPerMinute]
  omega

theorem IsTime.minFromTime (h : IsTime hour minute) :
    minFromTime (makeTime day hour minute) = minute := by
  obtain ⟨hhour, hminute⟩ := h
  simp only [CalendarLib.minFromTime, makeTime, msPerDay, msPerHour, msPerMinute]
  omega

end Times

end CalendarLib
