import ServiceStub.Calendar.Date
import Mathlib.Tactic.IntervalCases

/-!
The proleptic Gregorian calendar.  Days are numbered in the order of their dates, each date is
followed by the next one, and so the days of a month and those of a year make up whole periods.
-/

namespace ServiceStub.Calendar

def IsLeap (year : Int) : Prop := 4 ∣ year ∧ (100 ∣ year → 400 ∣ year)

instance (year : Int) : Decidable (IsLeap year) :=
  inferInstanceAs (Decidable (4 ∣ year ∧ (100 ∣ year → 400 ∣ year)))

private theorem yearStart_succ (year : Int) :
    yearStart (year + 1) = yearStart year + if IsLeap year then 366 else 365 := by
  by_cases leap : IsLeap year
  · rw [if_pos leap]
    unfold yearStart
    unfold IsLeap at leap
    omega
  · rw [if_neg leap]
    unfold yearStart
    unfold IsLeap at leap
    omega

private theorem isLeapYear_iff {year : Int} : isLeapYear year ↔ IsLeap year := by
  rw [isLeapYear, yearLength, yearStart_succ, beq_iff_eq]
  split
  · next leap => simp [leap]
  · next common => simp [common]

private theorem yearStart_mono {year other : Int} (le : year ≤ other) :
    yearStart year ≤ yearStart other := by
  unfold yearStart
  omega

/-- The year that is guessed from the mean length of a year is off by one at most. -/
theorem guess_bounds (day : Int) :
    let guess := (day + 719528) * 400 / 146097
    yearStart (guess - 1) ≤ day ∧ day < yearStart (guess + 1 + 1) := by
  unfold yearStart
  omega

private theorem yearStart_yearOf (day : Int) :
    yearStart (yearOf day) ≤ day ∧ day < yearStart (yearOf day + 1) := by
  obtain ⟨lower, upper⟩ := guess_bounds day
  unfold yearOf
  dsimp only
  split_ifs with early late
  · rw [sub_add_cancel]
    exact ⟨lower, early⟩
  · exact ⟨late, upper⟩
  · exact ⟨not_lt.mp early, not_le.mp late⟩

private theorem yearOf_eq {day year : Int} (start_le : yearStart year ≤ day)
    (lt_stop : day < yearStart (year + 1)) : yearOf day = year := by
  obtain ⟨yearOf_le, lt_yearOf⟩ := yearStart_yearOf day
  rcases lt_trichotomy (yearOf day) year with earlier | same | later
  · have := yearStart_mono (Int.add_one_le_of_lt earlier)
    omega
  · exact same
  · have := yearStart_mono (Int.add_one_le_of_lt later)
    omega

def daysOfMonth (year : Int) (month : Nat) : Nat :=
  match month with
  | 2 => if IsLeap year then 29 else 28
  | 4 | 6 | 9 | 11 => 30
  | _ => 31

theorem one_le_daysOfMonth (year : Int) (month : Nat) : 1 ≤ daysOfMonth year month := by
  unfold daysOfMonth
  split
  · split_ifs <;> decide
  all_goals decide

private theorem daysBefore_one (leap : Bool) : daysBefore leap 1 = 0 := by
  cases leap <;> rfl

private theorem daysBefore_succ (year : Int) {month : Nat} (positive : 1 ≤ month)
    (le : month ≤ 12) :
    daysBefore (isLeapYear year) (month + 1) =
      daysBefore (isLeapYear year) month + daysOfMonth year month := by
  by_cases leap : IsLeap year
  · rw [isLeapYear_iff.mpr leap]
    interval_cases month <;> simp [daysBefore, daysOfMonth, leap]
  · rw [Bool.eq_false_iff.mpr (mt isLeapYear_iff.mp leap)]
    interval_cases month <;> simp [daysBefore, daysOfMonth, leap]

private theorem monthLength_eq (year : Int) {month : Nat} (positive : 1 ≤ month) (le : month ≤ 12) :
    monthLength (isLeapYear year) month = daysOfMonth year month := by
  rw [monthLength, daysBefore_succ year positive le, Nat.add_sub_cancel_left]

private theorem daysBefore_thirteen (year : Int) :
    yearStart year + daysBefore (isLeapYear year) 13 = yearStart (year + 1) := by
  rw [yearStart_succ]
  by_cases leap : IsLeap year
  · rw [isLeapYear_iff.mpr leap, if_pos leap]
    rfl
  · rw [Bool.eq_false_iff.mpr (mt isLeapYear_iff.mp leap), if_neg leap]
    rfl

private theorem daysBefore_le_of_lt (leap : Bool) : ∀ other ≤ 13, ∀ month < other,
    daysBefore leap (month + 1) ≤ daysBefore leap other := by
  cases leap with
  | true => decide
  | false => decide

private theorem daysBefore_monthOf (leap : Bool) : ∀ day < daysBefore leap 13,
    1 ≤ monthOf leap day ∧ monthOf leap day ≤ 12 ∧
      daysBefore leap (monthOf leap day) ≤ day ∧
      day < daysBefore leap (monthOf leap day + 1) := by
  cases leap with
  | true => decide +kernel
  | false => decide +kernel

private theorem monthOf_eq {leap : Bool} {day month : Nat} (le_twelve : month ≤ 12)
    (start_le : daysBefore leap month ≤ day) (lt_stop : day < daysBefore leap (month + 1)) :
    monthOf leap day = month := by
  have inYear : day < daysBefore leap 13 := by
    have := daysBefore_le_of_lt leap 13 le_rfl month (by omega)
    omega
  obtain ⟨-, le, monthOf_le, lt_monthOf⟩ := daysBefore_monthOf leap day inYear
  rcases lt_trichotomy (monthOf leap day) month with earlier | same | later
  · have := daysBefore_le_of_lt leap month (by omega) _ earlier
    omega
  · exact same
  · have := daysBefore_le_of_lt leap (monthOf leap day) (by omega) _ later
    omega

namespace Date

structure IsProper (date : Date) : Prop where
  one_le_month : 1 ≤ date.month
  month_le : date.month ≤ 12
  one_le_day : 1 ≤ date.day
  day_le : date.day ≤ daysOfMonth date.year date.month

def firstOfNextMonth (date : Date) : Date :=
  if date.month = 12 then ⟨date.year + 1, 1, 1⟩ else ⟨date.year, date.month + 1, 1⟩

def next (date : Date) : Date :=
  if date.day < daysOfMonth date.year date.month then { date with day := date.day + 1 }
  else date.firstOfNextMonth

theorem toDay_mk (year : Int) (month day : Nat) :
    toDay ⟨year, month, day⟩ =
      yearStart year + daysBefore (isLeapYear year) month + (day - 1 : Nat) := rfl

theorem toDay_first_of_year (year : Int) : toDay ⟨year, 1, 1⟩ = yearStart year := by
  rw [toDay_mk, daysBefore_one]
  simp

variable {date : Date}

private theorem IsProper.inYear (proper : date.IsProper) :
    yearStart date.year ≤ date.toDay ∧ date.toDay < yearStart (date.year + 1) := by
  obtain ⟨one_le_month, month_le, one_le_day, day_le⟩ := proper
  have stop := daysBefore_succ date.year one_le_month month_le
  have year_stop := daysBefore_le_of_lt (isLeapYear date.year) 13 le_rfl date.month (by omega)
  have year_length := daysBefore_thirteen date.year
  rw [toDay]
  omega

theorem isProper_ofDay (day : Int) : (ofDay day).IsProper := by
  obtain ⟨start_le, lt_stop⟩ := yearStart_yearOf day
  have year_length := daysBefore_thirteen (yearOf day)
  obtain ⟨one_le, le, monthOf_le, lt_monthOf⟩ := daysBefore_monthOf (isLeapYear (yearOf day))
    (day - yearStart (yearOf day)).toNat (by omega)
  have stop := daysBefore_succ (yearOf day) one_le le
  constructor
  · exact one_le
  · exact le
  · simp [ofDay]
  · simp only [ofDay]
    omega

theorem toDay_ofDay (day : Int) : (ofDay day).toDay = day := by
  obtain ⟨start_le, lt_stop⟩ := yearStart_yearOf day
  have year_length := daysBefore_thirteen (yearOf day)
  obtain ⟨-, -, monthOf_le, -⟩ := daysBefore_monthOf (isLeapYear (yearOf day))
    (day - yearStart (yearOf day)).toNat (by omega)
  simp only [ofDay, toDay_mk]
  omega

theorem IsProper.ofDay_toDay (proper : date.IsProper) : ofDay date.toDay = date := by
  obtain ⟨start_le, lt_stop⟩ := proper.inYear
  have year : yearOf date.toDay = date.year := yearOf_eq start_le lt_stop
  obtain ⟨one_le_month, month_le, one_le_day, day_le⟩ := proper
  have stop := daysBefore_succ date.year one_le_month month_le
  have dayOfYear : (date.toDay - yearStart date.year).toNat =
      daysBefore (isLeapYear date.year) date.month + (date.day - 1) := by
    rw [toDay]
    omega
  have month : monthOf (isLeapYear date.year)
      (daysBefore (isLeapYear date.year) date.month + (date.day - 1)) = date.month :=
    monthOf_eq month_le (by omega) (by omega)
  simp only [ofDay, year, dayOfYear, month, Nat.add_sub_cancel_left, Nat.sub_add_cancel one_le_day]

theorem IsProper.first (proper : date.IsProper) : ({ date with day := 1 } : Date).IsProper :=
  ⟨proper.one_le_month, proper.month_le, le_rfl, one_le_daysOfMonth ..⟩

theorem IsProper.firstOfNextMonth (proper : date.IsProper) : date.firstOfNextMonth.IsProper := by
  unfold Date.firstOfNextMonth
  split_ifs with december
  · exact ⟨le_rfl, Nat.le_add_left 1 11, le_rfl, one_le_daysOfMonth ..⟩
  · have month_lt := Nat.lt_of_le_of_ne proper.month_le december
    exact ⟨Nat.le_add_left .., month_lt, le_rfl, one_le_daysOfMonth ..⟩

private theorem IsProper.toDay_firstOfNextMonth (proper : date.IsProper) :
    date.firstOfNextMonth.toDay =
      toDay ⟨date.year, date.month, 1⟩ + daysOfMonth date.year date.month := by
  unfold Date.firstOfNextMonth
  split_ifs with december
  · have year_length := daysBefore_thirteen date.year
    have stop : daysBefore (isLeapYear date.year) 13 = daysBefore (isLeapYear date.year) 12 + _ :=
      daysBefore_succ date.year (Nat.le_add_left 1 11) le_rfl
    rw [toDay_first_of_year, toDay_mk, december]
    omega
  · have stop := daysBefore_succ date.year proper.one_le_month proper.month_le
    rw [toDay_mk, toDay_mk]
    omega

theorem IsProper.next (proper : date.IsProper) : date.next.IsProper := by
  unfold Date.next
  split_ifs with inside
  · exact ⟨proper.one_le_month, proper.month_le, Nat.le_add_left .., inside⟩
  · exact proper.firstOfNextMonth

theorem IsProper.toDay_next (proper : date.IsProper) : date.next.toDay = date.toDay + 1 := by
  have one_le_day := proper.one_le_day
  have day_le := proper.day_le
  unfold Date.next
  split_ifs with inside
  · rw [toDay_mk, toDay]
    omega
  · rw [proper.toDay_firstOfNextMonth, toDay_mk, toDay]
    omega

/-- The days are dated as in the proleptic Gregorian calendar. -/
theorem ofDay_zero : ofDay 0 = ⟨1970, 1, 1⟩ := by decide +kernel

theorem ofDay_succ (day : Int) : ofDay (day + 1) = (ofDay day).next := by
  have proper := isProper_ofDay day
  calc ofDay (day + 1)
      _ = ofDay (ofDay day).next.toDay := by rw [proper.toDay_next, toDay_ofDay]
      _ = (ofDay day).next := proper.next.ofDay_toDay

theorem IsProper.isRepresentable_iff (proper : date.IsProper) :
    isRepresentable date.toDay ↔ leastYear ≤ date.year ∧ date.year ≤ greatestYear := by
  obtain ⟨start_le, lt_stop⟩ := proper.inYear
  rw [isRepresentable, Bool.and_eq_true, decide_eq_true_eq, decide_eq_true_eq, firstDay, lastDay]
  constructor
  · rintro ⟨first_le, le_last⟩
    constructor
    · by_contra earlier
      have := yearStart_mono (Int.add_one_le_of_lt (not_le.mp earlier))
      omega
    · by_contra later
      have := yearStart_mono (Int.add_one_le_of_lt (not_le.mp later))
      omega
  · rintro ⟨least_le, le_greatest⟩
    have first_le := yearStart_mono least_le
    have le_last := yearStart_mono (Int.add_le_add_right le_greatest 1)
    omega

theorem IsProper.dayOf?_eq (proper : date.IsProper) :
    dayOf? date.year date.month date.day =
      if isRepresentable date.toDay then some date.toDay else none := by
  have valid : date.isValid = isRepresentable date.toDay := by
    rw [Bool.eq_iff_iff, proper.isRepresentable_iff, isValid,
      monthLength_eq date.year proper.one_le_month proper.month_le]
    simp [proper.one_le_month, proper.month_le, proper.one_le_day, proper.day_le]
  rw [dayOf?, ← valid]

end Date

/-- The numbers fall into periods, each of which reaches from its start up to its stop. -/
structure Periods (start stop : Int → Int) : Prop where
  start_le (number : Int) : start number ≤ number
  lt_stop (number : Int) : number < stop number
  same {number other : Int} (start_le : start number ≤ other) (lt_stop : other < stop number) :
    start other = start number ∧ stop other = stop number

namespace Periods

variable {start stop : Int → Int}

theorem same_or_later (periods : Periods start stop) {first second : Int} (le : first ≤ second) :
    (start second = start first ∧ stop second = stop first) ∨ stop first ≤ start second := by
  by_cases inside : second < stop first
  · exact .inl (periods.same ((periods.start_le first).trans le) inside)
  · right
    -- Otherwise the last number of the first period would belong to both.
    by_contra overlap
    have first_lt := periods.lt_stop first
    have lt_second := periods.lt_stop second
    have start_le := periods.start_le first
    have ofFirst : _ ∧ stop (stop first - 1) = stop first := periods.same (by omega) (by omega)
    have ofSecond : _ ∧ stop (stop first - 1) = stop second := periods.same (by omega) (by omega)
    omega

theorem stop_congr (periods : Periods start stop) {first second : Int}
    (same : start first = start second) : stop first = stop second := by
  have inFirst : _ ∧ stop (start first) = stop first :=
    periods.same le_rfl ((periods.start_le first).trans_lt (periods.lt_stop first))
  have inSecond : _ ∧ stop (start first) = stop second :=
    periods.same same.ge
      (same.trans_lt ((periods.start_le second).trans_lt (periods.lt_stop second)))
  exact inFirst.2.symm.trans inSecond.2

theorem ofLength {length : Int} (positive : 0 < length) :
    Periods (fun number => number / length * length) fun number =>
      number / length * length + length where
  start_le number := Int.ediv_mul_le number positive.ne'
  lt_stop number := (Int.lt_ediv_add_one_mul_self number positive).trans_eq (add_one_mul ..)
  same {number other} start_le lt_stop := by
    have quotient : other / length = number / length := by
      refine le_antisymm (Int.lt_add_one_iff.mp ?_) ?_
      · rw [Int.ediv_lt_iff_lt_mul positive]
        exact lt_stop.trans_eq (add_one_mul ..).symm
      · exact (Int.le_ediv_iff_mul_le positive).mpr start_le
    rw [quotient]
    exact ⟨rfl, rfl⟩

/-- Periods of units that are numbered, taken as periods of what the units consist of. -/
theorem scale (periods : Periods start stop) {length : Int} (positive : 0 < length) :
    Periods (fun number => start (number / length) * length) fun number =>
      stop (number / length) * length where
  start_le number :=
    (Int.mul_le_mul_of_nonneg_right (periods.start_le _) positive.le).trans
      (Int.ediv_mul_le number positive.ne')
  lt_stop number := by
    refine (Int.ediv_lt_iff_lt_mul positive).mp ?_
    exact periods.lt_stop _
  same {number other} start_le lt_stop := by
    have start_le_quotient : start (number / length) ≤ other / length :=
      (Int.le_ediv_iff_mul_le positive).mpr start_le
    have quotient_lt_stop : other / length < stop (number / length) :=
      (Int.ediv_lt_iff_lt_mul positive).mpr lt_stop
    obtain ⟨start_eq, stop_eq⟩ := periods.same start_le_quotient quotient_lt_stop
    rw [start_eq, stop_eq]
    exact ⟨rfl, rfl⟩

end Periods

theorem periods_year :
    Periods (fun day => yearStart (yearOf day)) fun day => yearStart (yearOf day + 1) where
  start_le day := (yearStart_yearOf day).1
  lt_stop day := (yearStart_yearOf day).2
  same {day other} start_le lt_stop := by
    rw [yearOf_eq start_le lt_stop]
    exact ⟨rfl, rfl⟩

namespace Date

def monthStart (day : Int) : Int := toDay { ofDay day with day := 1 }

def monthStop (day : Int) : Int := (ofDay day).firstOfNextMonth.toDay

private theorem eq_monthStart_add (day : Int) :
    day = monthStart day + ((ofDay day).day - 1 : Nat) := by
  conv_lhs => rw [← toDay_ofDay day]
  rw [monthStart, toDay_mk, toDay_mk, Nat.sub_self, Nat.cast_zero, add_zero]

theorem monthStop_eq (day : Int) :
    monthStop day = monthStart day + daysOfMonth (ofDay day).year (ofDay day).month :=
  (isProper_ofDay day).toDay_firstOfNextMonth

theorem periods_month : Periods monthStart monthStop where
  start_le day := by
    have := eq_monthStart_add day
    omega
  lt_stop day := by
    have := eq_monthStart_add day
    have := monthStop_eq day
    have := (isProper_ofDay day).day_le
    have := (isProper_ofDay day).one_le_day
    omega
  same {day other} start_le lt_stop := by
    have proper := isProper_ofDay day
    rw [monthStop_eq] at lt_stop
    -- The other day is told by its distance from the first of the month.
    obtain ⟨distance, rfl⟩ := Int.le.dest start_le
    let date : Date := ⟨(ofDay day).year, (ofDay day).month, distance + 1⟩
    have date_proper : date.IsProper :=
      ⟨proper.one_le_month, proper.month_le, Nat.le_add_left .., by
        change distance + 1 ≤ daysOfMonth (ofDay day).year (ofDay day).month
        omega⟩
    have toDay_date : date.toDay = monthStart day + distance := by
      rw [monthStart, toDay_mk, toDay_mk]
      simp
    have ofDay_other : ofDay (monthStart day + distance) = date := by
      rw [← toDay_date, date_proper.ofDay_toDay]
    constructor
    · rw [monthStart, ofDay_other]
      rfl
    · rw [monthStop, ofDay_other]
      rfl

end Date

end ServiceStub.Calendar
