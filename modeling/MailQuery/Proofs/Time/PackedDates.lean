import MailQuery.Proofs.Time.Calendar
import MailQuery.Search.Dates

/-!
# Packed dates

A date is packed into the decimal number `YYYYMMDD`. The numbers are in the order of the dates, of negative years too
(`Date.packed_lt_packed_iff`), so that moments are compared by their packed days as by their days. A number with a year of
four digits or more is unpacked to the date that it was packed from (`midnightOfPacked?_eq_some_iff`).

Moments have a date from the first midnight of the first year on, up to the last second of the last year
(`isSome_dateOfMoment?_iff`). `packedDates_agree` is the main statement.
-/

namespace MailQuery

namespace Date

/-! ### The order of packed dates -/

theorem Before.packed_lt {d d' : Date} (h : d.Before d') (hd : d.Exists) (hd' : d'.Exists) : d.packed < d'.packed := by
  have := hd.month_pos
  have := hd'.month_pos
  have := hd.month_le
  have := hd'.month_le
  have := hd.day_le
  have := hd'.day_le
  have := hd'.1
  rw [packed, packed]
  obtain hyear | ⟨hyear, hmonth | ⟨hmonth, hday⟩⟩ := h
  · omega
  · omega
  · omega

/-- **Packed dates are in the order of their days.** -/
theorem packed_lt_packed_iff {d d' : Date} (hd : d.Exists) (hd' : d'.Exists) :
    d.packed < d'.packed ↔ d.dayNumber < d'.dayNumber := by
  obtain hbefore | rfl | hafter := before_or_eq_or_before d d'
  · exact iff_of_true (hbefore.packed_lt hd hd') (hbefore.dayNumber_lt hd hd')
  · exact iff_of_false (Int.lt_irrefl _) (Int.lt_irrefl _)
  · exact iff_of_false (Int.lt_asymm (hafter.packed_lt hd' hd)) (Int.lt_asymm (hafter.dayNumber_lt hd' hd))

/-- Packed dates are small enough to be subtracted without passing the ends of the range. -/
theorem packed_bounds {d : Date} (hd : d.Exists) (hyear : YearInRange d.year) :
    -10000000000 < d.packed ∧ d.packed < 10000000000 := by
  have := hd.month_le
  have := hd.day_le
  simp only [YearInRange, firstYear, lastYear] at hyear
  rw [packed]
  omega

/-! ### The years for which dates are kept -/

/-- The day that a year starts with. -/
def newYear (year : Int) : Date := ⟨year, 1, 1⟩

theorem dayNumber_newYear (year : Int) : (newYear year).dayNumber = daysBeforeYear year - epochDay := by
  rw [dayNumber, daysBeforeMonth_eq_sum]
  simp [newYear]

theorem newYear_le_iff {d : Date} (h : d.Exists) {year : Int} :
    (newYear year).dayNumber ≤ d.dayNumber ↔ year ≤ d.year := by
  obtain ⟨hlow, hhigh⟩ := h.dayNumber_lt
  rw [dayNumber_newYear]
  constructor
  · intro hle
    by_contra hyear
    have := daysBeforeYear_le (Int.add_one_le_iff.2 (Int.not_le.1 hyear))
    omega
  · intro hyear
    have := daysBeforeYear_le hyear
    omega

/-- Dates are kept for the days from one new year to another. -/
theorem yearInRange_iff {d : Date} (h : d.Exists) :
    YearInRange d.year ↔
      (newYear firstYear).dayNumber ≤ d.dayNumber ∧ d.dayNumber < (newYear (lastYear + 1)).dayNumber := by
  rw [YearInRange, newYear_le_iff h, ← Int.not_le, newYear_le_iff h]
  omega

end Date

open Date

/-! ### Moments with dates -/

/-- A moment for which a date is kept. -/
def IsDated (t : Int64) : Prop :=
  (newYear firstYear).midnight ≤ t.toInt ∧ t.toInt < (newYear (lastYear + 1)).midnight

instance (t : Int64) : Decidable (IsDated t) := by unfold IsDated; infer_instance

/-- The number of the day of a moment. -/
def dayOf (t : Int64) : Int := t.toInt / secondsPerDay

/-- The moments with dates are those from midnight to midnight. -/
theorem isDated_iff {t : Int64} : IsDated t ↔ YearInRange (ofDayNumber (dayOf t)).year := by
  obtain ⟨hexists, hnumber⟩ := exists_ofDayNumber (dayOf t)
  rw [yearInRange_iff hexists, hnumber, IsDated, midnight, midnight, dayOf, secondsPerDay]
  omega

theorem dateOfMoment?_eq {t : Int64} (h : IsDated t) : dateOfMoment? t.toInt = some (ofDayNumber (dayOf t)) :=
  if_pos (isDated_iff.1 h)

theorem isSome_dateOfMoment?_iff {t : Int64} : (dateOfMoment? t.toInt).isSome = true ↔ IsDated t := by
  rw [isDated_iff, dateOfMoment?]
  show (if YearInRange (ofDayNumber (dayOf t)).year then some (ofDayNumber (dayOf t)) else none).isSome = true ↔ _
  split
  · next h => exact iff_of_true rfl h
  · next h => exact iff_of_false Bool.false_ne_true h

/-- What a moment is packed to. -/
theorem toInt_packedDate {t : Int64} (h : IsDated t) : (packedDate t).toInt = (ofDayNumber (dayOf t)).packed := by
  obtain ⟨hlow, hhigh⟩ := packed_bounds (exists_ofDayNumber (dayOf t)).1 (isDated_iff.1 h)
  rw [packedDate, dateOfMoment?_eq h, Option.elim_some]
  exact Int64.toInt_ofInt_of_le (by omega) (by omega)

theorem packedDate_bounds {t : Int64} (h : IsDated t) :
    -10000000000 < (packedDate t).toInt ∧ (packedDate t).toInt < 10000000000 := by
  rw [toInt_packedDate h]
  exact packed_bounds (exists_ofDayNumber (dayOf t)).1 (isDated_iff.1 h)

/-- **Packed days are in the order of the days.** -/
theorem packedDate_lt_iff {t t' : Int64} (h : IsDated t) (h' : IsDated t') :
    (packedDate t).toInt < (packedDate t').toInt ↔ dayOf t < dayOf t' := by
  obtain ⟨hexists, hnumber⟩ := exists_ofDayNumber (dayOf t)
  obtain ⟨hexists', hnumber'⟩ := exists_ofDayNumber (dayOf t')
  rw [toInt_packedDate h, toInt_packedDate h', packed_lt_packed_iff hexists hexists', hnumber, hnumber']

/-! ### Unpacking -/

theorem Date.Exists.toInt_midnight {d : Date} (h : d.Exists) (hyear : YearInRange d.year) :
    (Int64.ofInt d.midnight).toInt = d.midnight := by
  obtain ⟨hlow, hhigh⟩ := (yearInRange_iff h).1 hyear
  have hfirst : (newYear firstYear).dayNumber = -96465292 := by decide
  have hlast : (newYear (lastYear + 1)).dayNumber = 95026237 := by decide
  rw [hfirst] at hlow
  rw [hlast] at hhigh
  refine Int64.toInt_ofInt_of_le ?_ ?_
  · rw [midnight, secondsPerDay]
    omega
  · rw [midnight, secondsPerDay]
    omega

/-- The date that a number is unpacked to, whether the calendar has it or not. -/
def Date.unpacked (n : Int) : Date := ⟨n / 10000, (n / 100 % 100).toNat, (n % 100).toNat⟩

theorem Date.packed_unpacked (n : Int) : (unpacked n).packed = n := by
  show n / 10000 * 10000 + ((n / 100 % 100).toNat : Int) * 100 + ((n % 100).toNat : Int) = n
  omega

theorem Date.Exists.unpacked_packed {d : Date} (h : d.Exists) : unpacked d.packed = d := by
  have := h.month_le
  have := h.day_le
  obtain ⟨year, month, day⟩ := d
  simp only [unpacked, packed, mk.injEq] at *
  omega

/-- A number with a year of four digits or more. -/
theorem midnightOfPacked?_eq {n : Int64} (hn : 9999999 < n.toInt) :
    midnightOfPacked? n =
      if (unpacked n.toInt).Exists ∧ YearInRange (unpacked n.toInt).year then
        some (Int64.ofInt (unpacked n.toInt).midnight)
      else none := by
  have hquotient : n.toInt.tdiv 100 = n.toInt / 100 := Int.tdiv_eq_ediv_of_nonneg (by omega)
  rw [midnightOfPacked?, hquotient, Int.tdiv_eq_ediv_of_nonneg (by omega), Int.tmod_eq_emod_of_nonneg (by omega),
    Int.tmod_eq_emod_of_nonneg (by omega)]
  refine (if_neg (by omega)).trans ?_
  show (if (unpacked n.toInt).Exists ∧ YearInRange (unpacked n.toInt).year then some (unpacked n.toInt)
    else none).map (fun d => Int64.ofInt d.midnight) = _
  split
  · rfl
  · rfl

/-- **A number is unpacked to the midnight of the date that packs to it**, if there is one. -/
theorem midnightOfPacked?_eq_some_iff {n m : Int64} (hn : 9999999 < n.toInt) :
    midnightOfPacked? n = some m ↔
      ∃ d : Date, d.Exists ∧ YearInRange d.year ∧ d.packed = n.toInt ∧ Int64.ofInt d.midnight = m := by
  rw [midnightOfPacked?_eq hn]
  constructor
  · intro h
    split at h
    · next hkept => exact ⟨unpacked n.toInt, hkept.1, hkept.2, packed_unpacked _, Option.some.inj h⟩
    · cases h
  · rintro ⟨d, hexists, hyear, hpacked, rfl⟩
    rw [← hpacked, hexists.unpacked_packed, if_pos ⟨hexists, hyear⟩]

theorem makeTime_of_number? {v : Value} {n : Int64} (hv : v.number? = some n) (hn : 9999999 < n) :
    makeTime v = (midnightOfPacked? n).getD (-1) := by
  cases v with
  | int _ | time _ =>
    obtain rfl := Option.some.inj hv
    exact if_pos hn
  | _ => cases hv

/-- The numbers above 9999999 that name a moment are the packed dates, and what they name is midnight. -/
theorem makeTime_ne_iff {v : Value} {n : Int64} (hv : v.number? = some n) (hn : 9999999 < n) :
    makeTime v ≠ -1 ↔ ∃ d : Date, d.Exists ∧ YearInRange d.year ∧ d.packed = n.toInt ∧
      (makeTime v).toInt = d.midnight := by
  have hn' : 9999999 < n.toInt := Int64.lt_iff_toInt_lt.1 hn
  have hmidnight : ∀ d : Date, d.midnight ≠ -1 := by
    intro d
    rw [midnight, secondsPerDay]
    omega
  constructor
  · intro h
    rw [makeTime_of_number? hv hn] at h ⊢
    cases hm : midnightOfPacked? n with
    | none => simp [hm] at h
    | some m =>
      obtain ⟨d, hexists, hyear, hpacked, rfl⟩ := (midnightOfPacked?_eq_some_iff hn').1 hm
      exact ⟨d, hexists, hyear, hpacked, hexists.toInt_midnight hyear⟩
  · rintro ⟨d, -, -, -, hd⟩ h
    rw [h] at hd
    exact hmidnight d hd.symm

/-! ### Agreement -/

theorem dayOf_of_toInt {t : Int64} {d : Date} (h : t.toInt = d.midnight) : dayOf t = d.dayNumber := by
  rw [dayOf, h, midnight]
  exact Int.mul_ediv_cancel _ (by decide)

/-- The midnight of a date is packed to the date. -/
theorem toInt_packedDate_midnight {t : Int64} {d : Date} (hexists : d.Exists) (hyear : YearInRange d.year)
    (h : t.toInt = d.midnight) : (packedDate t).toInt = d.packed := by
  have hdate : ofDayNumber (dayOf t) = d := by
    rw [dayOf_of_toInt h, ofDayNumber_dayNumber hexists]
  rw [toInt_packedDate (isDated_iff.2 (hdate ▸ hyear)), hdate]

theorem packedDate_eq_iff {t t' : Int64} (h : IsDated t) (h' : IsDated t') :
    (packedDate t).toInt = (packedDate t').toInt ↔ dayOf t = dayOf t' := by
  have hlt := packedDate_lt_iff h h'
  have hgt := packedDate_lt_iff h' h
  omega

/-- The difference of packed dates stays within the range of integers. -/
theorem toInt_compareDate {a b : Value} {t t' : Int64} (ha : a.number? = some t) (hb : b.number? = some t')
    (h : IsDated t) (h' : IsDated t') :
    (compareDate a b).toInt = (packedDate t).toInt - (packedDate t').toInt := by
  have := packedDate_bounds h
  have := packedDate_bounds h'
  have hdifference : compareDate a b = packedDate t - packedDate t' := by
    rw [compareDate, ha, hb]
  rw [hdifference, Int64.toInt_sub]
  exact Int.bmod_eq_of_le (by omega) (by omega)

/-- **Packed dates agree with moments and keep their order.** The moments that have a date are those between two
midnights. A number above 9999999 names a moment if it packs a date of the calendar for which dates are kept; the moment
is a midnight then, and is packed to the number again. A later moment is packed to no smaller number, and to the same one
on the same day only, in negative years too. So a comparison of dates tells which of two days is before the other. -/
theorem packedDates_agree :
    (∀ t : Int64, (dateOfMoment? t.toInt).isSome = true ↔ IsDated t) ∧
    (∀ (v : Value) (n : Int64), v.number? = some n → 9999999 < n →
      (makeTime v ≠ -1 ↔ ∃ d : Date, d.Exists ∧ YearInRange d.year ∧ d.packed = n.toInt) ∧
      (makeTime v ≠ -1 → secondsPerDay ∣ (makeTime v).toInt ∧ packedDate (makeTime v) = n)) ∧
    (∀ t t' : Int64, IsDated t → IsDated t' → t ≤ t' →
      packedDate t ≤ packedDate t' ∧ (packedDate t = packedDate t' ↔ dayOf t = dayOf t')) ∧
    (∀ (a b : Value) (t t' : Int64), a.number? = some t → b.number? = some t' → IsDated t → IsDated t' →
      (compareDate a b < 0 ↔ dayOf t < dayOf t') ∧ (compareDate a b = 0 ↔ dayOf t = dayOf t') ∧
      (0 < compareDate a b ↔ dayOf t' < dayOf t)) := by
  refine ⟨fun t => isSome_dateOfMoment?_iff, fun v n hv hn => ⟨?_, fun h => ?_⟩, fun t t' ht ht' hle => ⟨?_, ?_⟩,
    fun a b t t' ha hb ht ht' => ?_⟩
  · rw [makeTime_ne_iff hv hn]
    constructor
    · rintro ⟨d, hexists, hyear, hpacked, -⟩
      exact ⟨d, hexists, hyear, hpacked⟩
    · rintro ⟨d, hexists, hyear, hpacked⟩
      have hmidnight := (midnightOfPacked?_eq_some_iff (Int64.lt_iff_toInt_lt.1 hn)).2 ⟨d, hexists, hyear, hpacked, rfl⟩
      refine ⟨d, hexists, hyear, hpacked, ?_⟩
      rw [makeTime_of_number? hv hn, hmidnight]
      exact hexists.toInt_midnight hyear
  · obtain ⟨d, hexists, hyear, hpacked, hmidnight⟩ := (makeTime_ne_iff hv hn).1 h
    refine ⟨⟨d.dayNumber, ?_⟩, ?_⟩
    · rw [hmidnight, midnight, Int.mul_comm]
    · rw [← Int64.toInt_inj, toInt_packedDate_midnight hexists hyear hmidnight, hpacked]
  · rw [Int64.le_iff_toInt_le, ← Int.not_lt, packedDate_lt_iff ht' ht, Int.not_lt]
    exact Int.ediv_le_ediv (by decide) (Int64.le_iff_toInt_le.1 hle)
  · rw [← Int64.toInt_inj, packedDate_eq_iff ht ht']
  · have hlt := packedDate_lt_iff ht ht'
    have hgt := packedDate_lt_iff ht' ht
    have hdifference := toInt_compareDate ha hb ht ht'
    rw [Int64.lt_iff_toInt_lt, Int64.lt_iff_toInt_lt, ← Int64.toInt_inj, hdifference, Int64.toInt_zero]
    omega

/-- A leap day, and the last second of one negative year beside the first of the next. -/
theorem packedDates_agree_leap_day :
    let v := Value.int 20240229
    let t : Int64 := -62198755201
    let t' : Int64 := -62198755200
    (v.number? = some 20240229 ∧ 9999999 < (20240229 : Int64) ∧ makeTime v ≠ -1) ∧
      (secondsPerDay ∣ (makeTime v).toInt ∧ packedDate (makeTime v) = 20240229) ∧
      (IsDated t ∧ IsDated t' ∧ t ≤ t') ∧ packedDate t ≤ packedDate t' ∧ dayOf t < dayOf t' ∧
      compareDate (.time t) (.int t') < 0 := by
  intro v t t'
  have hn : 9999999 < (20240229 : Int64) := by decide
  have hv : makeTime v ≠ -1 := by decide +kernel
  have ht : IsDated t := by decide +kernel
  have ht' : IsDated t' := by decide +kernel
  have hle : t ≤ t' := by decide
  have hday : dayOf t < dayOf t' := by decide +kernel
  obtain ⟨-, hnamed, hordered, hcompared⟩ := packedDates_agree
  exact ⟨⟨rfl, hn, hv⟩, (hnamed v 20240229 rfl hn).2 hv, ⟨ht, ht', hle⟩, (hordered t t' ht ht' hle).1, hday,
    (hcompared (.time t) (.int t') t t' rfl rfl ht ht').1.2 hday⟩

end MailQuery
