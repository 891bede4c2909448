import ServiceStub.Pattern.DateTime
import ServiceStub.Proofs.Calendar.Order

/-!
Comparison of truncated moments.  Where both sides are truncated in the same way, a value that is
not before the expected moment does not come to lie before it, and likewise after it.
-/

namespace ServiceStub.DateTimePattern

open Calendar

variable {R : Type} [Scalar R]

private theorem monotone_truncate (truncation : Option Truncation) :
    Monotone (truncate truncation) := by
  cases truncation with
  | none => exact monotone_id
  | some truncation => exact truncation.monotone_apply

private theorem expectedInstant_eq (pattern : DateTimePattern) (now : Instant) :
    pattern.expectedInstant now =
      ({ pattern with truncateExpected := none }.expectedInstant now).map
        (truncate pattern.truncateExpected) := by
  unfold expectedInstant
  cases pattern.expected.resolve now with
  | none => rfl
  | some moment =>
      cases pattern.offset with
      | none => rfl
      | some offset =>
          cases shifted : moment.shift? offset.1 offset.2 with
          | none => simp [shifted]
          | some moment => simp [shifted, truncate]

private theorem evaluate_eq (pattern : DateTimePattern) {now actual expected : Instant}
    {value : String} (read : Instant.ofFormatted? pattern.actualFormat value = some actual)
    (resolved : { pattern with truncateExpected := none }.expectedInstant now = some expected) :
    (pattern.evaluate now value : MatchResult R) =
      .of (pattern.comparison.holds (truncate pattern.truncateActual actual)
        (truncate pattern.truncateExpected expected)) := by
  rw [evaluate, read, expectedInstant_eq, resolved]
  rfl

private theorem not_isBefore_truncate (truncation : Option Truncation) {first second : Instant}
    (le : second ≤ first) :
    (truncate truncation first).isBefore (truncate truncation second) = false := by
  rw [Bool.eq_false_iff, ne_eq, Instant.isBefore_iff, not_lt]
  exact monotone_truncate truncation le

/-- Truncation keeps all moments in order, those at the ends of the calendar and leap seconds
included.  So a value at or after the expected moment is not before it when both are truncated in
the same way, and one at or before it is not after it. -/
theorem truncation_keeps_order (R : Type) [Scalar R] :
    (∀ first second : Instant, first.isBefore second ↔ first < second) ∧
    (∀ truncation : Truncation, Monotone truncation.apply) ∧
    ∀ (pattern : DateTimePattern) (now actual expected : Instant) (value : String),
      pattern.truncateActual = pattern.truncateExpected →
      Instant.ofFormatted? pattern.actualFormat value = some actual →
      { pattern with truncateExpected := none }.expectedInstant now = some expected →
      (pattern.comparison = .before → expected ≤ actual →
        (pattern.evaluate now value : MatchResult R) = .noMatch) ∧
      (pattern.comparison = .after → actual ≤ expected →
        (pattern.evaluate now value : MatchResult R) = .noMatch) := by
  refine ⟨fun _ _ => Instant.isBefore_iff, Truncation.monotone_apply, ?_⟩
  intro pattern now actual expected value same read resolved
  rw [pattern.evaluate_eq read resolved, same]
  constructor
  · intro before le
    rw [before, DateTimeComparison.holds, not_isBefore_truncate _ le]
    rfl
  · intro after le
    rw [after, DateTimeComparison.holds, not_isBefore_truncate _ le]
    rfl

/-- The expected moment is moved on to December 262142; the actual one is in that month and stays,
as no month follows. -/
theorem truncation_keeps_order_last :
    let pattern : DateTimePattern :=
      { comparison := .before, text := "8207673453000", expected := .literal ⟨8207673453000, 0⟩,
        expectedFormat := some "unix", actualFormat := some "unix",
        truncateExpected := some .firstDayOfNextMonth, truncateActual := some .firstDayOfNextMonth }
    let now : Instant := ⟨0, 0⟩
    let actual : Instant := ⟨8210265453000, 0⟩
    let expected : Instant := ⟨8207673453000, 0⟩
    pattern.truncateActual = pattern.truncateExpected ∧ pattern.comparison = .before ∧
      Instant.ofFormatted? pattern.actualFormat "8210265453000" = some actual ∧
      { pattern with truncateExpected := none }.expectedInstant now = some expected ∧
      expected ≤ actual ∧ Truncation.apply .firstDayOfNextMonth actual = actual ∧
      (pattern.evaluate now "8210265453000" : MatchResult Rat) = .noMatch := by
  intro pattern now actual expected
  have read : Instant.ofFormatted? pattern.actualFormat "8210265453000" = some actual := by
    decide +kernel
  have resolved : { pattern with truncateExpected := none }.expectedInstant now = some expected :=
    rfl
  have le : expected ≤ actual := Instant.le_iff.mpr (.inl (by decide))
  obtain ⟨-, -, kept⟩ := truncation_keeps_order Rat
  exact ⟨rfl, rfl, read, resolved, le, by decide +kernel,
    (kept pattern now actual expected "8210265453000" rfl read resolved).1 rfl le⟩

end ServiceStub.DateTimePattern
