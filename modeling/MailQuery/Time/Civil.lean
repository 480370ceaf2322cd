/-!
# The calendar

Days are counted from 1970-01-01 in the proleptic Gregorian calendar, in which year 0 precedes
year 1. `Date.dayNumber` counts the days up to a date and `Date.ofDayNumber` finds the date of a
day.
-/

namespace MailQuery

/-- A day of the calendar, by year, month and day of the month. -/
structure Date where
  year : Int
  month : Nat
  day : Nat
deriving DecidableEq, Repr

namespace Date

/-- Whether a year has a 29th of February. -/
def isLeap (year : Int) : Bool := year % 4 == 0 && (year % 100 != 0 || year % 400 == 0)

/-- The number of days of each month, in order. -/
def monthLengths (year : Int) : List Nat :=
  [31, if isLeap year then 29 else 28, 31, 30, 31, 30, 31, 31, 30, 31, 30, 31]

/-- The number of days of a month, none for a number that is no month's. -/
def daysInMonth (year : Int) (month : Nat) : Nat :=
  if month = 0 then 0 else (monthLengths year).getD (month - 1) 0

/-- Whether the calendar has the date. -/
def Exists (d : Date) : Prop := 1 ≤ d.day ∧ d.day ≤ daysInMonth d.year d.month

instance (d : Date) : Decidable d.Exists := by unfold Exists; infer_instance

/-- The number of days from the first of January of year 1 to that of `year`. -/
def daysBeforeYear (year : Int) : Int :=
  let y := year - 1
  365 * y + y / 4 - y / 100 + y / 400

/-- The number of days of the year before a month. -/
def daysBeforeMonth (year : Int) (month : Nat) : Nat :=
  ((monthLengths year).take (month - 1)).foldl Nat.add 0

/-- The number of the day 1970-01-01, counted from the first day of year 1. -/
def epochDay : Int := 719162

/-- The number of days from 1970-01-01 to a date. -/
def dayNumber (d : Date) : Int :=
  daysBeforeYear d.year + daysBeforeMonth d.year d.month + d.day - 1 - epochDay

/-- The year that holds a day, counted from the first day of year 1. -/
def yearOf (day : Int) : Int :=
  let guess := (day * 400) / 146097 + 1
  if day < daysBeforeYear guess then guess - 1
  else if daysBeforeYear (guess + 1) ≤ day then guess + 1
  else guess

/-- The month, counted from `month`, and the day of the month that lies `offset` days on. -/
def monthOf (month offset : Nat) : List Nat → Nat × Nat
  | [] => (month, offset + 1)
  | length :: lengths =>
    if offset < length then (month, offset + 1) else monthOf (month + 1) (offset - length) lengths

/-- The date that lies a number of days after 1970-01-01. -/
def ofDayNumber (n : Int) : Date :=
  let day := n + epochDay
  let year := yearOf day
  let (month, dayOfMonth) := monthOf 1 (day - daysBeforeYear year).toNat (monthLengths year)
  ⟨year, month, dayOfMonth⟩

/-- The day of the week, counted from Monday as 0. -/
def weekday (d : Date) : Nat := ((d.dayNumber + 3) % 7).toNat

/-- The date a number of months later, on the last day of its month where that month is too short. -/
def addMonths (d : Date) (months : Int) : Date :=
  let total := d.year * 12 + (d.month - 1 : Int) + months
  let year := total / 12
  let month := (total % 12).toNat + 1
  ⟨year, month, min d.day (daysInMonth year month)⟩

/-- The first and the last year that dates are kept for. -/
def firstYear : Int := -262143

/-- The last year that dates are kept for. -/
def lastYear : Int := 262142

/-- Whether dates are kept for a year. -/
def YearInRange (year : Int) : Prop := firstYear ≤ year ∧ year ≤ lastYear

instance (year : Int) : Decidable (YearInRange year) := by unfold YearInRange; infer_instance

/-- The date with the given parts, if the calendar has it and dates are kept for its year. -/
def ofParts? (year : Int) (month day : Nat) : Option Date :=
  let d : Date := ⟨year, month, day⟩
  if d.Exists ∧ YearInRange year then some d else none

example : (Date.mk 1970 1 1).dayNumber = 0 := by decide

example : ofDayNumber 19782 = ⟨2024, 2, 29⟩ := by decide

example : ofDayNumber (-1) = ⟨1969, 12, 31⟩ := by decide

end Date

end MailQuery
