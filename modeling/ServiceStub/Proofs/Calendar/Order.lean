import ServiceStub.Proofs.Calendar.Truncation
import Mathlib.Data.Prod.Lex

/-!
Moments in order.  Truncation keeps them in order, also where the calendar ends and moments are left
as they are.
-/

namespace ServiceStub.Calendar

namespace Instant

def key (moment : Instant) : Int ×ₗ Nat := toLex (moment.seconds, moment.nanoseconds)

private theorem key_injective : Function.Injective key := by
  intro first second same
  cases first
  cases second
  simpa [key] using same

instance : LinearOrder Instant := LinearOrder.lift' key key_injective

theorem lt_iff {first second : Instant} :
    first < second ↔ first.seconds < second.seconds ∨
      first.seconds = second.seconds ∧ first.nanoseconds < second.nanoseconds :=
  Prod.Lex.toLex_lt_toLex

theorem le_iff {first second : Instant} :
    first ≤ second ↔ first.seconds < second.seconds ∨
      first.seconds = second.seconds ∧ first.nanoseconds ≤ second.nanoseconds :=
  Prod.Lex.toLex_le_toLex

theorem isBefore_iff {first second : Instant} : first.isBefore second ↔ first < second := by
  rw [lt_iff]
  simp [isBefore]

private theorem whole_le_iff {seconds : Int} {moment : Instant} :
    ⟨seconds, 0⟩ ≤ moment ↔ seconds ≤ moment.seconds := by
  rw [le_iff]
  dsimp only
  omega

private theorem le_whole_of_lt {seconds : Int} {moment : Instant}
    (less : moment.seconds < seconds) :
    moment ≤ ⟨seconds, 0⟩ :=
  le_iff.mpr (.inl less)

end Instant

namespace Truncation

open Date Instant

/-- A truncation looks only at the period that a moment falls into, and where it leads is no
farther than the ends of that period. -/
structure Rounds (truncation : Truncation) (start stop : Int → Int) : Prop extends
    Periods start stop where
  boundary_congr {first second : Instant} (same : start first.seconds = start second.seconds) :
    truncation.boundary? first = truncation.boundary? second
  boundary_within {moment boundary : Instant}
    (leads : truncation.boundary? moment = some boundary) :
    ⟨start moment.seconds, 0⟩ ≤ boundary ∧ boundary ≤ ⟨stop moment.seconds, 0⟩

namespace Rounds

variable {truncation : Truncation} {start stop : Int → Int}

private theorem start_le_apply (rounds : truncation.Rounds start stop) (moment : Instant) :
    ⟨start moment.seconds, 0⟩ ≤ truncation.apply moment := by
  rw [apply]
  cases leads : truncation.boundary? moment with
  | none => exact whole_le_iff.mpr (rounds.start_le moment.seconds)
  | some boundary => exact (rounds.boundary_within leads).1

private theorem apply_le_stop (rounds : truncation.Rounds start stop) (moment : Instant) :
    truncation.apply moment ≤ ⟨stop moment.seconds, 0⟩ := by
  rw [apply]
  cases leads : truncation.boundary? moment with
  | none => exact le_whole_of_lt (rounds.lt_stop moment.seconds)
  | some boundary => exact (rounds.boundary_within leads).2

theorem monotone_apply (rounds : truncation.Rounds start stop) : Monotone truncation.apply := by
  intro first second le
  have seconds_le : first.seconds ≤ second.seconds := by
    rcases le_iff.mp le with less | ⟨same, -⟩
    · exact less.le
    · exact same.le
  rcases rounds.same_or_later seconds_le with ⟨same, -⟩ | later
  · -- Within a period both are moved to the same boundary, or neither is moved.
    rw [apply, apply, ← rounds.boundary_congr same]
    cases truncation.boundary? second with
    | none => exact le
    | some boundary => exact le_rfl
  · calc truncation.apply first
        _ ≤ ⟨stop first.seconds, 0⟩ := rounds.apply_le_stop first
        _ ≤ ⟨start second.seconds, 0⟩ := whole_le_iff.mpr later
        _ ≤ truncation.apply second := rounds.start_le_apply second

/-- A truncation leads to a midnight of the period that it rounds to, as long as the period tells
the day. -/
theorem ofPeriods (periods : Periods start stop) (notHour : truncation ≠ .firstMinuteOfHour)
    (notDay : truncation ≠ .firstHourOfDay)
    (reached_congr : ∀ {first second}, start first = start second →
      truncation.reached first = truncation.reached second)
    (target_congr : ∀ {first second}, start first = start second →
      truncation.target first = truncation.target second)
    (within : ∀ day, start day ≤ truncation.target day ∧ truncation.target day ≤ stop day) :
    truncation.Rounds (fun seconds => start (seconds / 86400) * 86400)
      fun seconds => stop (seconds / 86400) * 86400 where
  toPeriods := periods.scale (by decide)
  boundary_congr {first second} same := by
    have same_start : start first.day = start second.day :=
      Int.eq_of_mul_eq_mul_right (by decide) same
    rw [boundary?_eq first notHour notDay, boundary?_eq second notHour notDay,
      reached_congr same_start, target_congr same_start]
  boundary_within {moment boundary} leads := by
    rw [boundary?_eq moment notHour notDay, Option.ite_none_right_eq_some,
      Option.some.injEq] at leads
    obtain ⟨-, rfl⟩ := leads
    obtain ⟨start_le, le_stop⟩ := within moment.day
    exact ⟨whole_le_iff.mpr (Int.mul_le_mul_of_nonneg_right start_le (by decide)),
      whole_le_iff.mpr (Int.mul_le_mul_of_nonneg_right le_stop (by decide))⟩

end Rounds

private theorem rounds_firstMinuteOfHour :
    Rounds .firstMinuteOfHour (fun seconds => seconds / 3600 * 3600) fun seconds =>
      seconds / 3600 * 3600 + 3600 where
  toPeriods := .ofLength (by decide)
  boundary_congr same := by rw [boundary?, boundary?, same]
  boundary_within {moment boundary} leads := by
    cases leads
    exact ⟨le_rfl, le_whole_of_lt (Int.lt_add_of_pos_right _ (by decide))⟩

private theorem rounds_firstHourOfDay :
    Rounds .firstHourOfDay (fun seconds => seconds / 86400 * 86400) fun seconds =>
      seconds / 86400 * 86400 + 86400 where
  toPeriods := .ofLength (by decide)
  boundary_congr {first second} same := by
    have midnights : midnight first.day = midnight second.day :=
      congrArg (Instant.mk · 0) same
    rw [boundary?, boundary?, midnights]
  boundary_within {moment boundary} leads := by
    cases leads
    refine ⟨le_rfl, le_whole_of_lt ?_⟩
    change moment.seconds / 86400 * 86400 < moment.seconds / 86400 * 86400 + 86400
    exact Int.lt_add_of_pos_right _ (by decide)

theorem monotone_apply (truncation : Truncation) : Monotone truncation.apply := by
  have month_stop {first second : Int} (same : monthStart first = monthStart second) :
      monthStop first = monthStop second := periods_month.stop_congr same
  have year_stop {first second : Int}
      (same : yearStart (yearOf first) = yearStart (yearOf second)) :
      yearStart (yearOf first + 1) = yearStart (yearOf second + 1) := periods_year.stop_congr same
  have in_month (day : Int) : monthStart day < monthStop day :=
    (periods_month.start_le day).trans_lt (periods_month.lt_stop day)
  have in_year (day : Int) : yearStart (yearOf day) < yearStart (yearOf day + 1) :=
    (periods_year.start_le day).trans_lt (periods_year.lt_stop day)
  cases truncation with
  | firstMinuteOfHour => exact rounds_firstMinuteOfHour.monotone_apply
  | firstHourOfDay => exact rounds_firstHourOfDay.monotone_apply
  | firstDayOfMonth =>
      have rounds : Rounds .firstDayOfMonth _ _ := .ofPeriods periods_month (by decide) (by decide)
        (fun same => same) (fun same => same) fun day => ⟨le_rfl, (in_month day).le⟩
      exact rounds.monotone_apply
  | firstDayOfNextMonth =>
      have rounds : Rounds .firstDayOfNextMonth _ _ := .ofPeriods periods_month (by decide)
        (by decide) month_stop month_stop fun day => ⟨(in_month day).le, le_rfl⟩
      exact rounds.monotone_apply
  | lastDayOfMonth =>
      have rounds : Rounds .lastDayOfMonth _ _ := .ofPeriods periods_month (by decide) (by decide)
        month_stop (fun same => congrArg (· - 1) (month_stop same))
        fun day => ⟨Int.le_sub_one_of_lt (in_month day), Int.sub_le_self _ (by decide)⟩
      exact rounds.monotone_apply
  | firstDayOfYear =>
      have rounds : Rounds .firstDayOfYear _ _ := .ofPeriods periods_year (by decide) (by decide)
        (fun same => same) (fun same => same) fun day => ⟨le_rfl, (in_year day).le⟩
      exact rounds.monotone_apply
  | firstDayOfNextYear =>
      have rounds : Rounds .firstDayOfNextYear _ _ := .ofPeriods periods_year (by decide)
        (by decide) year_stop year_stop fun day => ⟨(in_year day).le, le_rfl⟩
      exact rounds.monotone_apply
  | lastDayOfYear =>
      have rounds : Rounds .lastDayOfYear _ _ := .ofPeriods periods_year (by decide) (by decide)
        (fun same => congrArg (· - 1) (year_stop same))
        (fun same => congrArg (· - 1) (year_stop same))
        fun day => ⟨Int.le_sub_one_of_lt (in_year day), Int.sub_le_self _ (by decide)⟩
      exact rounds.monotone_apply

end Truncation

end ServiceStub.Calendar
