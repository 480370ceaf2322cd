import MailQuery.Clamp
import MailQuery.Time.Civil

/-!
# Moments

A moment is a number of seconds since the start of 1970 in universal time, which is also local time
everywhere in this library. Moments that lie outside the years for which dates are kept have
no date.
-/

namespace MailQuery

/-- The number of seconds of a day. -/
def secondsPerDay : Int := 86400

/-- A time of day. -/
structure TimeOfDay where
  hour : Nat
  minute : Nat
  second : Nat
deriving DecidableEq, Repr

/-- The seconds since midnight. A leap second is the same as the second before it. -/
def TimeOfDay.seconds (t : TimeOfDay) : Nat := t.hour * 3600 + t.minute * 60 + min t.second 59

/-- Whether a clock can show the time; it shows second 60 in a leap second. -/
def TimeOfDay.Exists (t : TimeOfDay) : Prop := t.hour < 24 ∧ t.minute < 60 ∧ t.second ≤ 60

instance (t : TimeOfDay) : Decidable t.Exists := by unfold TimeOfDay.Exists; infer_instance

/-- The second that a day starts with. -/
def Date.midnight (d : Date) : Int := d.dayNumber * secondsPerDay

/-- The day of a moment, if dates are kept for it. -/
def dateOfMoment? (time : Int) : Option Date :=
  let d := Date.ofDayNumber (time / secondsPerDay)
  if Date.YearInRange d.year then some d else none

/-- The moment a number of calendar months later, where both days have dates. -/
def shiftMonths? (time months : Int) : Option Int := do
  let d ← dateOfMoment? time
  let moved := d.addMonths months
  if Date.YearInRange moved.year then
    some (moved.midnight + time % secondsPerDay)
  else none

/-- The moment a number of calendar months later. Where there is no such date a month counts as
thirty days. -/
def addMonths (time months : Int64) : Int64 :=
  if months = 0 then time
  else
    match shiftMonths? time.toInt months.toInt with
    | some t => Int64.ofInt t
    | none => addClamped time (mulClamped months (Int64.ofInt (30 * secondsPerDay)))

/-- A date as the decimal number `YYYYMMDD`. -/
def Date.packed (d : Date) : Int := d.year * 10000 + d.month * 100 + d.day

/-- The day of a moment as the decimal number `YYYYMMDD`, and 0 where it has no date. -/
def packedDate (time : Int64) : Int64 :=
  Int64.ofInt ((dateOfMoment? time.toInt).elim 0 Date.packed)

/-- The midnight of the day that the decimal number `YYYYMMDD` writes, if there is such a day. -/
def midnightOfPacked? (n : Int64) : Option Int64 :=
  let year := n.toInt.tdiv 10000
  let month := (n.toInt.tdiv 100).tmod 100
  let day := n.toInt.tmod 100
  if month < 0 ∨ day < 0 then none
  else (Date.ofParts? year month.toNat day.toNat).map fun d => Int64.ofInt d.midnight

end MailQuery
