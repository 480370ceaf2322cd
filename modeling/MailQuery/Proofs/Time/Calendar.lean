import Mathlib.Algebra.GroupWithZero.Nat
import Mathlib.Algebra.Order.BigOperators.Group.List
import Mathlib.Algebra.Order.Group.Nat
import MailQuery.Time.Civil

/-!
# Dates and days

The calendar goes from dates to days and back, and the two directions are inverse: every day has a date of the calendar
with its number (`exists_ofDayNumber`), and every date of the calendar is found again from its number
(`ofDayNumber_dayNumber`).

The second is a matter of order. `Before` compares dates by year, month and day of the month. The number of the day grows
with it (`Before.dayNumber_lt`), and of two different dates one is before the other (`before_or_eq_or_before`), so that no
two dates have one number.
-/

namespace MailQuery

namespace Date

/-! ### Years -/

/-- The number of days of a year. -/
def yearLength (year : Int) : Nat := if isLeap year then 366 else 365

theorem isLeap_iff {year : Int} : isLeap year = true ↔ year % 4 = 0 ∧ (year % 100 ≠ 0 ∨ year % 400 = 0) := by
  simp [isLeap]

theorem daysBeforeYear_succ (year : Int) : daysBeforeYear (year + 1) = daysBeforeYear year + yearLength year := by
  have hleap := @isLeap_iff year
  simp only [daysBeforeYear, yearLength]
  by_cases h : isLeap year = true
  · have := hleap.1 h
    rw [if_pos h]
    omega
  · have := mt hleap.2 h
    rw [if_neg h]
    omega

theorem daysBeforeYear_le {year year' : Int} (h : year ≤ year') : daysBeforeYear year ≤ daysBeforeYear year' := by
  simp only [daysBeforeYear]
  omega

/-- The year that is found for a day holds it. The guess that it starts with is off by one at most. -/
theorem yearOf_spec (day : Int) : daysBeforeYear (yearOf day) ≤ day ∧ day < daysBeforeYear (yearOf day + 1) := by
  have hlow : daysBeforeYear (day * 400 / 146097) ≤ day := by
    simp only [daysBeforeYear]
    omega
  have hhigh : day < daysBeforeYear (day * 400 / 146097 + 1 + 1 + 1) := by
    simp only [daysBeforeYear]
    omega
  simp only [yearOf]
  split
  · next h => exact ⟨by simpa using hlow, by simpa using h⟩
  · next h =>
    split
    · next h' => exact ⟨h', hhigh⟩
    · next h' => exact ⟨Int.not_lt.1 h, Int.not_le.1 h'⟩

/-! ### Months -/

theorem sum_take_succ_getD (lengths : List Nat) (i : Nat) :
    (lengths.take (i + 1)).sum = (lengths.take i).sum + lengths.getD i 0 := by
  rw [List.take_add_one, List.sum_append, List.getD_eq_getElem?_getD]
  cases lengths[i]? <;> simp

theorem sum_monthLengths (year : Int) : (monthLengths year).sum = yearLength year := by
  unfold monthLengths yearLength
  split <;> rfl

theorem daysBeforeMonth_eq_sum (year : Int) (month : Nat) :
    daysBeforeMonth year month = ((monthLengths year).take (month - 1)).sum := List.sum_eq_foldl.symm

theorem daysBeforeMonth_succ {year : Int} {month : Nat} (h : 1 ≤ month) :
    daysBeforeMonth year (month + 1) = daysBeforeMonth year month + daysInMonth year month := by
  obtain ⟨i, rfl⟩ := Nat.exists_eq_add_of_le' h
  rw [daysBeforeMonth_eq_sum, daysBeforeMonth_eq_sum, daysInMonth, if_neg (Nat.succ_ne_zero i)]
  exact sum_take_succ_getD _ i

theorem daysBeforeMonth_le {year : Int} {month month' : Nat} (h : month ≤ month') :
    daysBeforeMonth year month ≤ daysBeforeMonth year month' := by
  rw [daysBeforeMonth_eq_sum, daysBeforeMonth_eq_sum]
  exact (List.take_sublist_take_left (Nat.sub_le_sub_right h 1)).sum_le_sum fun _ _ => Nat.zero_le _

theorem daysBeforeMonth_le_yearLength (year : Int) (month : Nat) : daysBeforeMonth year month ≤ yearLength year := by
  rw [daysBeforeMonth_eq_sum, ← sum_monthLengths]
  exact (List.take_sublist _ _).sum_le_sum fun _ _ => Nat.zero_le _

theorem daysInMonth_le (year : Int) (month : Nat) : daysInMonth year month ≤ 31 := by
  have hlengths : ∀ length ∈ monthLengths year, length ≤ 31 := by
    unfold monthLengths
    split <;> decide
  unfold daysInMonth
  split
  · exact Nat.zero_le _
  · rw [List.getD_eq_getElem?_getD]
    cases hmonth : (monthLengths year)[month - 1]? with
    | none => exact Nat.zero_le _
    | some length => exact hlengths length (List.mem_of_getElem? hmonth)

/-- The month that is found for a day of the year, and the day of the month. -/
theorem monthOf_spec (month : Nat) {offset : Nat} {lengths : List Nat} (h : offset < lengths.sum) :
    ∃ i day, monthOf month offset lengths = (month + i, day) ∧ 1 ≤ day ∧ day ≤ lengths.getD i 0 ∧
      (lengths.take i).sum + day = offset + 1 := by
  induction lengths generalizing month offset with
  | nil => cases h
  | cons length lengths ih =>
    rw [monthOf]
    split
    · next hfirst => exact ⟨0, offset + 1, rfl, Nat.le_add_left 1 offset, hfirst, by simp⟩
    · next hlater =>
      rw [List.sum_cons] at h
      have hrest : offset - length < lengths.sum := by omega
      obtain ⟨i, day, hmonth, hday, hlength, hsum⟩ := ih (month + 1) hrest
      refine ⟨i + 1, day, ?_, hday, hlength, ?_⟩
      · rw [hmonth, Nat.add_right_comm, Nat.add_assoc]
      · rw [List.take_succ_cons, List.sum_cons]
        omega

/-! ### From days to dates -/

/-- **Every day has a date of the calendar**, of which it is the day. -/
theorem exists_ofDayNumber (n : Int) : (ofDayNumber n).Exists ∧ (ofDayNumber n).dayNumber = n := by
  obtain ⟨hlow, hhigh⟩ := yearOf_spec (n + epochDay)
  rw [daysBeforeYear_succ] at hhigh
  have hoffset : (n + epochDay - daysBeforeYear (yearOf (n + epochDay))).toNat <
      (monthLengths (yearOf (n + epochDay))).sum := by
    rw [sum_monthLengths]
    omega
  obtain ⟨i, day, hmonth, hday, hlength, hsum⟩ := monthOf_spec 1 hoffset
  have hdate : ofDayNumber n = ⟨yearOf (n + epochDay), 1 + i, day⟩ := by
    simp only [ofDayNumber, hmonth]
  rw [hdate]
  constructor
  · refine ⟨hday, ?_⟩
    simpa [daysInMonth, Nat.add_comm] using hlength
  · simp only [dayNumber, daysBeforeMonth_eq_sum, Nat.add_sub_cancel_left]
    omega

/-! ### The order of dates -/

theorem Exists.month_pos {d : Date} (h : d.Exists) : 1 ≤ d.month := by
  obtain ⟨hday, hlength⟩ := h
  by_contra hzero
  rw [daysInMonth, if_pos (by omega)] at hlength
  omega

theorem Exists.month_le {d : Date} (h : d.Exists) : d.month ≤ 12 := by
  obtain ⟨hday, hlength⟩ := h
  by_contra hlate
  rw [daysInMonth, if_neg (by omega), List.getD_eq_getElem?_getD,
    List.getElem?_eq_none (show 12 ≤ d.month - 1 by omega)] at hlength
  exact absurd (Nat.le_trans hday hlength) (by decide)

theorem Exists.day_le {d : Date} (h : d.Exists) : d.day ≤ 31 := Nat.le_trans h.2 (daysInMonth_le _ _)

/-- A date is one of the days of its year. -/
theorem Exists.dayNumber_lt {d : Date} (h : d.Exists) :
    daysBeforeYear d.year ≤ d.dayNumber + epochDay ∧ d.dayNumber + epochDay < daysBeforeYear (d.year + 1) := by
  have hmonth : daysBeforeMonth d.year d.month + daysInMonth d.year d.month ≤ yearLength d.year := by
    rw [← daysBeforeMonth_succ h.month_pos]
    exact daysBeforeMonth_le_yearLength _ _
  obtain ⟨hday, hlength⟩ := h
  rw [daysBeforeYear_succ, dayNumber]
  omega

/-- The order of dates by their parts. -/
def Before (d d' : Date) : Prop :=
  d.year < d'.year ∨ d.year = d'.year ∧ (d.month < d'.month ∨ d.month = d'.month ∧ d.day < d'.day)

theorem before_or_eq_or_before (d d' : Date) : d.Before d' ∨ d = d' ∨ d'.Before d := by
  obtain ⟨year, month, day⟩ := d
  obtain ⟨year', month', day'⟩ := d'
  simp only [Before, mk.injEq]
  omega

/-- The days of a date lie before those of any later one. -/
theorem Before.dayNumber_lt {d d' : Date} (h : d.Before d') (hd : d.Exists) (hd' : d'.Exists) :
    d.dayNumber < d'.dayNumber := by
  obtain hyear | ⟨hyear, hmonth | ⟨hmonth, hday⟩⟩ := h
  · have := hd.dayNumber_lt.2
    have := hd'.dayNumber_lt.1
    have := daysBeforeYear_le (Int.add_one_le_iff.2 hyear)
    omega
  · have hmonths : daysBeforeMonth d.year d.month + daysInMonth d.year d.month ≤ daysBeforeMonth d.year d'.month := by
      rw [← daysBeforeMonth_succ hd.month_pos]
      exact daysBeforeMonth_le hmonth
    have := hd.2
    have := hd'.1
    rw [dayNumber, dayNumber, ← hyear]
    omega
  · rw [dayNumber, dayNumber, ← hyear, ← hmonth]
    omega

theorem eq_of_dayNumber_eq {d d' : Date} (hd : d.Exists) (hd' : d'.Exists) (h : d.dayNumber = d'.dayNumber) : d = d' := by
  obtain hbefore | heq | hafter := before_or_eq_or_before d d'
  · exact absurd h (Int.ne_of_lt (hbefore.dayNumber_lt hd hd'))
  · exact heq
  · exact absurd h.symm (Int.ne_of_lt (hafter.dayNumber_lt hd' hd))

/-- **A date of the calendar is found from the number of its day.** -/
theorem ofDayNumber_dayNumber {d : Date} (h : d.Exists) : ofDayNumber d.dayNumber = d :=
  eq_of_dayNumber_eq (exists_ofDayNumber _).1 h (exists_ofDayNumber _).2

end Date

end MailQuery
