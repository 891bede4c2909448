import ServiceStub.Calendar.Instant
import ServiceStub.Proofs.Calendar.Date

/-!
Truncation of moments.  The boundary that a truncation names has a date and a time of day, and the
truncation leads to it as far as the calendar reaches, but for the last month.
-/

namespace ServiceStub.Calendar

namespace Instant

private theorem seconds_eq (moment : Instant) :
    moment.seconds = moment.day * 86400 + moment.secondOfDay := by
  rw [Instant.day, secondOfDay, secondsPerDay]
  omega

end Instant

namespace Truncation

open Date Instant

private theorem dayOf?_yearStart (year : Int) :
    dayOf? year 1 1 = if isRepresentable (yearStart year) then some (yearStart year) else none := by
  have proper : (⟨year, 1, 1⟩ : Date).IsProper :=
    ⟨le_rfl, Nat.le_add_left 1 11, le_rfl, one_le_daysOfMonth ..⟩
  rw [← toDay_first_of_year]
  exact proper.dayOf?_eq

private theorem toDay_last_of_year (year : Int) :
    toDay ⟨year, 12, 31⟩ = yearStart (year + 1) - 1 := by
  have proper : (⟨year, 12, 31⟩ : Date).IsProper :=
    ⟨Nat.le_add_left 1 11, le_rfl, Nat.le_add_left 1 30, le_rfl⟩
  have next := proper.toDay_next
  have first : (⟨year, 12, 31⟩ : Date).next = ⟨year + 1, 1, 1⟩ := rfl
  rw [first, toDay_first_of_year] at next
  omega

private theorem dayOf?_yearEnd (year : Int) :
    dayOf? year 12 31 =
      if isRepresentable (yearStart (year + 1) - 1) then some (yearStart (year + 1) - 1)
      else none := by
  have proper : (⟨year, 12, 31⟩ : Date).IsProper :=
    ⟨Nat.le_add_left 1 11, le_rfl, Nat.le_add_left 1 30, le_rfl⟩
  rw [← toDay_last_of_year]
  exact proper.dayOf?_eq

private theorem dayOf?_monthStart (day : Int) :
    dayOf? (ofDay day).year (ofDay day).month 1 =
      if isRepresentable (monthStart day) then some (monthStart day) else none :=
  (isProper_ofDay day).first.dayOf?_eq

private theorem firstOfNextMonth?_eq (day : Int) :
    firstOfNextMonth? (ofDay day) =
      if isRepresentable (monthStop day) then some (monthStop day) else none := by
  have first := (isProper_ofDay day).firstOfNextMonth.dayOf?_eq
  rw [monthStop, ← first, firstOfNextMonth?, firstOfNextMonth]
  split_ifs
  · rfl
  · rfl

/-- The day whose midnight a truncation names. -/
def target (truncation : Truncation) (day : Int) : Int :=
  match truncation with
  | .firstMinuteOfHour | .firstHourOfDay => day
  | .firstDayOfMonth => monthStart day
  | .firstDayOfNextMonth => monthStop day
  | .lastDayOfMonth => monthStop day - 1
  | .firstDayOfYear => yearStart (yearOf day)
  | .firstDayOfNextYear => yearStart (yearOf day + 1)
  | .lastDayOfYear => yearStart (yearOf day + 1) - 1

/-- The day that has to be in the calendar for a truncation to move a moment.  The last day of a
month is reached over the first day of the next. -/
def reached (truncation : Truncation) (day : Int) : Int :=
  match truncation with
  | .lastDayOfMonth => monthStop day
  | truncation => truncation.target day

theorem boundary?_eq {truncation : Truncation} (moment : Instant)
    (notHour : truncation ≠ .firstMinuteOfHour) (notDay : truncation ≠ .firstHourOfDay) :
    truncation.boundary? moment =
      if isRepresentable (truncation.reached moment.day) then
        some (midnight (truncation.target moment.day))
      else none := by
  cases truncation with
  | firstMinuteOfHour => exact absurd rfl notHour
  | firstHourOfDay => exact absurd rfl notDay
  | firstDayOfMonth =>
      rw [boundary?, Instant.date, dayOf?_monthStart, apply_ite (Option.map midnight)]
      rfl
  | firstDayOfNextMonth =>
      rw [boundary?, Instant.date, firstOfNextMonth?_eq, apply_ite (Option.map midnight)]
      rfl
  | lastDayOfMonth =>
      rw [boundary?, Instant.date, firstOfNextMonth?_eq, apply_ite (Option.map _)]
      rfl
  | firstDayOfYear =>
      rw [boundary?, Instant.date, dayOf?_yearStart, apply_ite (Option.map midnight)]
      rfl
  | firstDayOfNextYear =>
      rw [boundary?, Instant.date, dayOf?_yearStart, apply_ite (Option.map midnight)]
      rfl
  | lastDayOfYear =>
      rw [boundary?, Instant.date, dayOf?_yearEnd, apply_ite (Option.map midnight)]
      rfl

def dateOf (truncation : Truncation) (date : Date) : Date :=
  match truncation with
  | .firstMinuteOfHour | .firstHourOfDay => date
  | .firstDayOfMonth => { date with day := 1 }
  | .firstDayOfNextMonth => date.firstOfNextMonth
  | .lastDayOfMonth => { date with day := daysOfMonth date.year date.month }
  | .firstDayOfYear => ⟨date.year, 1, 1⟩
  | .firstDayOfNextYear => ⟨date.year + 1, 1, 1⟩
  | .lastDayOfYear => ⟨date.year, 12, 31⟩

def secondOf (truncation : Truncation) (second : Int) : Int :=
  match truncation with
  | .firstMinuteOfHour => second / 3600 * 3600
  | _ => 0

structure IsBoundary (truncation : Truncation) (moment boundary : Instant) : Prop where
  date : boundary.date = truncation.dateOf moment.date
  secondOfDay : boundary.secondOfDay = truncation.secondOf moment.secondOfDay
  nanoseconds : boundary.nanoseconds = 0

def boundaryOf (truncation : Truncation) (moment : Instant) : Instant :=
  ⟨truncation.target moment.day * 86400 + truncation.secondOf moment.secondOfDay, 0⟩

private theorem toDay_dateOf (truncation : Truncation) (day : Int) :
    (truncation.dateOf (ofDay day)).toDay = truncation.target day := by
  have proper := isProper_ofDay day
  cases truncation with
  | firstMinuteOfHour | firstHourOfDay => exact toDay_ofDay day
  | firstDayOfMonth | firstDayOfNextMonth => rfl
  | lastDayOfMonth =>
      have one_le := one_le_daysOfMonth (ofDay day).year (ofDay day).month
      rw [target, monthStop_eq, monthStart, dateOf, toDay_mk, toDay_mk]
      omega
  | firstDayOfYear | firstDayOfNextYear => exact toDay_first_of_year _
  | lastDayOfYear => exact toDay_last_of_year _

private theorem isProper_dateOf (truncation : Truncation) {date : Date} (proper : date.IsProper) :
    (truncation.dateOf date).IsProper := by
  cases truncation with
  | firstMinuteOfHour | firstHourOfDay => exact proper
  | firstDayOfMonth => exact proper.first
  | firstDayOfNextMonth => exact proper.firstOfNextMonth
  | lastDayOfMonth =>
      exact ⟨proper.one_le_month, proper.month_le, one_le_daysOfMonth .., le_rfl⟩
  | firstDayOfYear | firstDayOfNextYear =>
      exact ⟨le_rfl, Nat.le_add_left 1 11, le_rfl, one_le_daysOfMonth ..⟩
  | lastDayOfYear => exact ⟨Nat.le_add_left 1 11, le_rfl, Nat.le_add_left 1 30, le_rfl⟩

private theorem secondOf_bounds (truncation : Truncation) (moment : Instant) :
    0 ≤ truncation.secondOf moment.secondOfDay ∧
      truncation.secondOf moment.secondOfDay < 86400 := by
  cases truncation <;> simp only [secondOf, secondOfDay, secondsPerDay] <;> omega

private theorem day_boundaryOf (truncation : Truncation) (moment : Instant) :
    (truncation.boundaryOf moment).day = truncation.target moment.day := by
  have bounds := secondOf_bounds truncation moment
  simp only [boundaryOf, Instant.day, secondsPerDay]
  omega

private theorem isBoundary_iff {truncation : Truncation} {moment boundary : Instant} :
    truncation.IsBoundary moment boundary ↔ boundary = truncation.boundaryOf moment := by
  have proper := isProper_dateOf truncation (isProper_ofDay moment.day)
  constructor
  · rintro ⟨date, second, nanoseconds⟩
    have day : boundary.day = truncation.target moment.day := by
      rw [← toDay_dateOf, ← toDay_ofDay boundary.day]
      exact congrArg toDay date
    have seconds := boundary.seconds_eq
    rw [day, second] at seconds
    cases boundary
    cases nanoseconds
    cases seconds
    rfl
  · rintro rfl
    refine ⟨?_, ?_, rfl⟩
    · rw [Instant.date, day_boundaryOf, ← toDay_dateOf, proper.ofDay_toDay]
      rfl
    · have seconds := (truncation.boundaryOf moment).seconds_eq
      rw [day_boundaryOf, boundaryOf] at seconds
      exact (Int.add_left_cancel seconds).symm

private theorem isRepresentable_monthStop {day : Int} (representable : isRepresentable day) :
    isRepresentable (monthStop day) ↔
      ¬ ((ofDay day).year = greatestYear ∧ (ofDay day).month = 12) := by
  have proper := isProper_ofDay day
  rw [← toDay_ofDay day, proper.isRepresentable_iff] at representable
  rw [monthStop, proper.firstOfNextMonth.isRepresentable_iff, firstOfNextMonth]
  split_ifs with december
  · dsimp only
    omega
  · dsimp only
    omega

private theorem isRepresentable_monthEnd {day : Int} (representable : isRepresentable day) :
    isRepresentable (monthStop day - 1) := by
  have proper := isProper_ofDay day
  have last := isProper_dateOf .lastDayOfMonth proper
  have year : (dateOf .lastDayOfMonth (ofDay day)).year = (ofDay day).year := rfl
  rw [← toDay_ofDay day, proper.isRepresentable_iff, ← year, ← last.isRepresentable_iff,
    toDay_dateOf] at representable
  exact representable

/-- The last month of the calendar, whose last day would be reached over a month beyond it. -/
def Overshoots (truncation : Truncation) (date : Date) : Prop :=
  truncation = .lastDayOfMonth ∧ date.year = greatestYear ∧ date.month = 12

instance (truncation : Truncation) (date : Date) : Decidable (truncation.Overshoots date) :=
  inferInstanceAs (Decidable (_ ∧ _ ∧ _))

private theorem reached_eq_target {truncation : Truncation} (notLast : truncation ≠ .lastDayOfMonth)
    (day : Int) : truncation.reached day = truncation.target day := by
  cases truncation with
  | lastDayOfMonth => exact absurd rfl notLast
  | _ => rfl

private theorem isRepresentable_reached_iff {truncation : Truncation} {moment : Instant}
    (representable : moment.isRepresentable) :
    isRepresentable (truncation.reached moment.day) ↔
      (truncation.boundaryOf moment).isRepresentable ∧ ¬ truncation.Overshoots moment.date := by
  rw [Instant.isRepresentable, day_boundaryOf]
  by_cases last : truncation = .lastDayOfMonth
  · subst last
    have within := isRepresentable_monthEnd representable
    rw [reached, isRepresentable_monthStop representable]
    simp [Overshoots, target, within, Instant.date]
  · simp [reached_eq_target last, Overshoots, last]

private theorem midnight_target {truncation : Truncation}
    (notHour : truncation ≠ .firstMinuteOfHour) (moment : Instant) :
    midnight (truncation.target moment.day) = truncation.boundaryOf moment := by
  have second : truncation.secondOf moment.secondOfDay = 0 := by
    cases truncation with
    | firstMinuteOfHour => exact absurd rfl notHour
    | _ => rfl
  rw [boundaryOf, second, add_zero]
  rfl

private theorem boundary?_eq_boundaryOf (truncation : Truncation) {moment : Instant}
    (representable : moment.isRepresentable) :
    truncation.boundary? moment =
      if isRepresentable (truncation.reached moment.day) then some (truncation.boundaryOf moment)
      else none := by
  cases truncation with
  | firstMinuteOfHour =>
      have hour : moment.seconds / 3600 * 3600 =
          moment.day * 86400 + moment.secondOfDay / 3600 * 3600 := by
        rw [Instant.day, secondOfDay, secondsPerDay]
        omega
      rw [boundary?, hour]
      exact (if_pos representable).symm
  | firstHourOfDay =>
      rw [← midnight_target (by decide)]
      exact (if_pos representable).symm
  | _ => rw [boundary?_eq moment (by decide) (by decide), midnight_target (by decide)]

private theorem apply_eq (truncation : Truncation) {moment : Instant}
    (representable : moment.isRepresentable) :
    truncation.apply moment =
      if (truncation.boundaryOf moment).isRepresentable ∧ ¬ truncation.Overshoots moment.date then
        truncation.boundaryOf moment
      else moment := by
  rw [apply, boundary?_eq_boundaryOf truncation representable, apply_ite (Option.getD · moment)]
  exact if_congr (isRepresentable_reached_iff representable) rfl rfl

private theorem seconds_first_of_next_month (moment : Instant) :
    (boundaryOf .firstDayOfNextMonth moment).seconds =
      (boundaryOf .lastDayOfMonth moment).seconds + 86400 := by
  simp only [boundaryOf, target, secondOf]
  omega

/-- Truncation leads to the boundary that it names, if this can be represented, and leaves the
moment as it is otherwise; but it leaves a moment of the last month as it is also where the last day
of the month is named.  The dates are those of the proleptic Gregorian calendar, in which the first
day of the next month comes one day after the last day of the month. -/
theorem apply_reaches_boundary (truncation : Truncation) (moment : Instant)
    (inRange : moment.isRepresentable) :
    (ofDay 0 = ⟨1970, 1, 1⟩ ∧ ∀ day, ofDay (day + 1) = (ofDay day).next) ∧
    (∀ last, IsBoundary .lastDayOfMonth moment last →
      IsBoundary .firstDayOfNextMonth moment ⟨last.seconds + 86400, 0⟩) ∧
    ∃ boundary, (∀ other, truncation.IsBoundary moment other ↔ other = boundary) ∧
      (boundary.isRepresentable → ¬ truncation.Overshoots moment.date →
        truncation.apply moment = boundary) ∧
      (truncation.Overshoots moment.date → truncation.apply moment = moment) ∧
      (boundary.isRepresentable = false → truncation.apply moment = moment) := by
  have applied := apply_eq truncation inRange
  refine ⟨⟨ofDay_zero, ofDay_succ⟩, ?_, truncation.boundaryOf moment,
    fun other => isBoundary_iff, ?_, ?_, ?_⟩
  · intro last named
    rw [isBoundary_iff.mp named, isBoundary_iff, ← seconds_first_of_next_month]
    rfl
  · intro representable inside
    rw [applied, if_pos ⟨representable, inside⟩]
  · intro overshoots
    rw [applied, if_neg fun reached => reached.2 overshoots]
  · intro beyond
    rw [applied, if_neg fun reached => Bool.eq_false_iff.mp beyond reached.1]

theorem apply_reaches_boundary_leap :
    let moment : Instant := ⟨1708000200, 5⟩
    let last : Instant := ⟨1709164800, 0⟩
    moment.isRepresentable ∧ last.isRepresentable ∧
      ¬ Overshoots .lastDayOfMonth moment.date ∧ last.date = ⟨2024, 2, 29⟩ ∧
      IsBoundary .lastDayOfMonth moment last ∧
      IsBoundary .firstDayOfNextMonth moment ⟨last.seconds + 86400, 0⟩ ∧
      apply .lastDayOfMonth moment = last := by
  intro moment last
  have inRange : moment.isRepresentable := by decide +kernel
  have lastInRange : last.isRepresentable := by decide +kernel
  have inside : ¬ Overshoots .lastDayOfMonth moment.date := by decide +kernel
  have named : IsBoundary .lastDayOfMonth moment last :=
    ⟨by decide +kernel, by decide +kernel, rfl⟩
  obtain ⟨-, dayAfter, boundary, unique, reached, -⟩ :=
    apply_reaches_boundary .lastDayOfMonth moment inRange
  have same : last = boundary := (unique last).mp named
  exact ⟨inRange, lastInRange, inside, by decide +kernel, named, dayAfter last named,
    (reached (same ▸ lastInRange) inside).trans same.symm⟩

/-- The 31st of December 262142 can be represented, but a moment of that month is not moved to it,
except as the last day of the year. -/
theorem last_december_not_reached :
    let moment : Instant := ⟨8210265453000, 0⟩
    let last : Instant := ⟨8210266790400, 0⟩
    moment.isRepresentable ∧ last.isRepresentable ∧ last.date = ⟨262142, 12, 31⟩ ∧
      IsBoundary .lastDayOfMonth moment last ∧ apply .lastDayOfMonth moment ≠ last ∧
      apply .lastDayOfYear moment = last := by
  intro moment last
  exact ⟨by decide +kernel, by decide +kernel, by decide +kernel,
    ⟨by decide +kernel, by decide +kernel, rfl⟩, by decide +kernel, by decide +kernel⟩

end Truncation

end ServiceStub.Calendar
