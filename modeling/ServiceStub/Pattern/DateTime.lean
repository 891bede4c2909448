import ServiceStub.Calendar.Text
import ServiceStub.Decimal.Text
import ServiceStub.MatchResult
import ServiceStub.Pattern.Error

namespace ServiceStub

open Calendar

inductive DateTimeComparison where
  | before
  | after
  | equal
  deriving Repr, DecidableEq

namespace DateTimeComparison

def operator : DateTimeComparison → String
  | .before => "before"
  | .after => "after"
  | .equal => "equalToDateTime"

def holds (comparison : DateTimeComparison) (actual expected : Instant) : Bool :=
  match comparison with
  | .before => actual.isBefore expected
  | .after => expected.isBefore actual
  | .equal => actual == expected

end DateTimeComparison

inductive ExpectedMoment where
  | now (shift : Option (Int × TimeUnit))
  | literal (moment : Instant)
  deriving Repr, DecidableEq

namespace ExpectedMoment

/-- What follows the word `now`: a sign, an amount and a unit. -/
def shift? (text : List Char) : Option (Int × TimeUnit) := do
  let (sign, rest) ← match text with
    | '+' :: rest => some ((1 : Int), rest)
    | '-' :: rest => some (-1, rest)
    | _ => none
  let rest := rest.dropWhile Text.isBlank
  let amount ← Text.decimal? (rest.takeWhile Char.isDigit)
  guard ((amount : Int) ≤ greatestWord)
  let unit ← TimeUnit.ofText? (String.ofList (rest.dropWhile Char.isDigit))
  return (sign * amount, unit)

/-- Read `now`, `now` with a shift, or a moment laid out as the format says. -/
def ofText? (format : Option String) (text : String) : Option ExpectedMoment :=
  let text := Text.trim text
  match Text.stripStart? "now".toList (Text.lower text).toList with
  | some rest =>
      match Text.trimBoth Text.isBlank rest with
      | [] => some (.now none)
      | rest => (shift? rest).map fun shift => .now (some shift)
  | none => (Instant.ofFormatted? format text).map .literal

def resolve (now : Instant) : ExpectedMoment → Option Instant
  | .literal moment => some moment
  | .now none => some now
  | .now (some (amount, unit)) => now.shift? amount unit

end ExpectedMoment

/-- A comparison of a date and time with an expected moment.  The offset is applied to the
expected moment first, then both sides are truncated, then they are compared. -/
structure DateTimePattern where
  comparison : DateTimeComparison
  text : String
  expected : ExpectedMoment
  expectedFormat : Option String := none
  actualFormat : Option String := none
  offset : Option (Int × TimeUnit) := none
  truncateExpected : Option Truncation := none
  truncateActual : Option Truncation := none
  deriving Repr, DecidableEq

namespace DateTimePattern

def ofText (comparison : DateTimeComparison) (text : String) (format : Option String) :
    Except PatternError DateTimePattern :=
  match ExpectedMoment.ofText? format text with
  | some expected => .ok { comparison, text, expected, expectedFormat := format }
  | none => .error (.ofFault (.badDateTime text format))

def withOffset (pattern : DateTimePattern) (amount : Int) (unit : String) :
    Except PatternError DateTimePattern :=
  match TimeUnit.ofText? unit with
  | some unit => .ok { pattern with offset := some (amount, unit) }
  | none => .error (.ofFault (.unknownOffsetUnit unit))

def truncationNamed (name : String) : Except PatternError Truncation :=
  match Truncation.ofText? name with
  | some truncation => .ok truncation
  | none => .error (.ofFault (.unknownTruncation name))

def truncatingExpected (pattern : DateTimePattern) (name : String) :
    Except PatternError DateTimePattern := do
  return { pattern with truncateExpected := some (← truncationNamed name) }

def truncatingActual (pattern : DateTimePattern) (name : String) :
    Except PatternError DateTimePattern := do
  return { pattern with truncateActual := some (← truncationNamed name) }

def truncate (truncation : Option Truncation) (moment : Instant) : Instant :=
  match truncation with
  | none => moment
  | some truncation => truncation.apply moment

def expectedInstant (pattern : DateTimePattern) (now : Instant) : Option Instant := do
  let moment ← pattern.expected.resolve now
  let moment ← match pattern.offset with
    | none => some moment
    | some (amount, unit) => moment.shift? amount unit
  return truncate pattern.truncateExpected moment

def evaluate {R : Type} [Scalar R] (pattern : DateTimePattern) (now : Instant)
    (value : String) : MatchResult R :=
  match Instant.ofFormatted? pattern.actualFormat value, pattern.expectedInstant now with
  | some actual, some expected =>
      .of (pattern.comparison.holds (truncate pattern.truncateActual actual) expected)
  | _, _ => .noMatch

def describe (pattern : DateTimePattern) : String :=
  let shift :=
    match pattern.offset with
    | none => ""
    | some (amount, unit) => " " ++ String.ofList (Decimal.signedText amount) ++ " " ++ unit.name
  let truncation :=
    match pattern.truncateExpected with
    | none => ""
    | some truncation => " (truncated to " ++ truncation.name ++ ")"
  pattern.text ++ shift ++ truncation

end DateTimePattern

end ServiceStub
