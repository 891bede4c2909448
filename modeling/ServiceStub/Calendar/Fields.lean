import ServiceStub.Calendar.Instant

/-! Parts of a date and a time as they are read from a text, and the moment they add up to. -/

namespace ServiceStub.Calendar

inductive Field where
  | year
  | century
  | yearOfCentury
  | weekYear
  | weekCentury
  | weekYearOfCentury
  | quarter
  | month
  | day
  | weekFromSunday
  | weekFromMonday
  | weekOfYear
  | weekday
  | dayOfYear
  | halfDay
  | hourOfHalfDay
  | minute
  | second
  | nanosecond
  | timestamp
  | offset
  deriving Repr, DecidableEq

namespace Field

def range : Field → Int × Int
  | .year => (-0x80000000, 0x7FFFFFFF)
  | .century => (0, 0x7FFFFFFF)
  | .yearOfCentury => (0, 99)
  | .weekYear => (-0x80000000, 0x7FFFFFFF)
  | .weekCentury => (0, 0x7FFFFFFF)
  | .weekYearOfCentury => (0, 99)
  | .quarter => (1, 4)
  | .month => (1, 12)
  | .day => (1, 31)
  | .weekFromSunday => (0, 53)
  | .weekFromMonday => (0, 53)
  | .weekOfYear => (1, 53)
  | .weekday => (0, 6)
  | .dayOfYear => (1, 366)
  | .halfDay => (0, 1)
  | .hourOfHalfDay => (0, 11)
  | .minute => (0, 59)
  | .second => (0, 60)
  | .nanosecond => (0, 999999999)
  | .timestamp => (-0x8000000000000000, 0x7FFFFFFFFFFFFFFF)
  | .offset => (-0x80000000, 0x7FFFFFFF)

end Field

abbrev Fields := List (Field × Int)

inductive Unresolved where
  | missing
  | contradictory
  deriving Repr, DecidableEq

namespace Fields

abbrev Result := Except Unresolved

def get? (fields : Fields) (field : Field) : Option Int := fields.lookup field

/-- Learn a part; it must be in range and agree with what is known. -/
def set? (fields : Fields) (field : Field) (value : Int) : Option Fields :=
  if field.range.1 ≤ value && value ≤ field.range.2 then
    match fields.get? field with
    | none => some ((field, value) :: fields)
    | some known => if known = value then some fields else none
  else none

def setHour? (fields : Fields) (hour : Int) : Option Fields :=
  if 0 ≤ hour && hour ≤ 23 then
    (fields.set? .halfDay (hour / 12)).bind fun fields =>
      fields.set? .hourOfHalfDay (hour % 12)
  else none

/-- Learn the hour of half a day, where twelve is the first one. -/
def setHalfDayHour? (fields : Fields) (hour : Int) : Option Fields :=
  if 1 ≤ hour && hour ≤ 12 then fields.set? .hourOfHalfDay (hour % 12) else none

def require (fields : Fields) (field : Field) : Result Int :=
  match fields.get? field with
  | some value => .ok value
  | none => .error .missing

/-- A year from the year itself, from its century and its place in the century, or from that
place alone, taken as a year from 1970 to 2069. -/
def resolveYear (year hundreds ones : Option Int) : Result (Option Int) :=
  match year, hundreds, ones with
  | year, none, none => .ok year
  | some year, hundreds, ones =>
      if 0 ≤ year && hundreds.getD (year / 100) = year / 100 &&
          ones.getD (year % 100) = year % 100 then .ok (some year)
      else .error .contradictory
  | none, some hundreds, some ones =>
      let year := hundreds * 100 + ones
      if year < 0x80000000 then .ok (some year) else .error .contradictory
  | none, none, some ones => .ok (some (ones + if ones < 70 then 2000 else 1900))
  | none, some _, none => .error .missing

def agrees (fields : Fields) (field : Field) (value : Int) : Bool :=
  match fields.get? field with
  | none => true
  | some known => known == value

def agreesCentury (fields : Fields) (hundreds ones : Field) (year : Int) : Bool :=
  if 0 ≤ year then fields.agrees hundreds (year / 100) && fields.agrees ones (year % 100)
  else (fields.get? hundreds).isNone && (fields.get? ones).isNone

def agreesDate (fields : Fields) (day : Int) : Bool :=
  let date := Date.ofDay day
  fields.agrees .year date.year && fields.agreesCentury .century .yearOfCentury date.year &&
    fields.agrees .month date.month && fields.agrees .day date.day

def agreesWeek (fields : Fields) (day : Int) : Bool :=
  let year := Calendar.weekYear day
  fields.agrees .weekYear year && fields.agreesCentury .weekCentury .weekYearOfCentury year &&
    fields.agrees .weekOfYear (Calendar.weekOfYear day) &&
    fields.agrees .weekday (Calendar.weekday day)

def agreesOrdinal (fields : Fields) (day : Int) : Bool :=
  fields.agrees .dayOfYear (Calendar.dayOfYear day) &&
    fields.agrees .weekFromSunday (weekFrom 6 day) &&
    fields.agrees .weekFromMonday (weekFrom 0 day)

def agreesQuarter (fields : Fields) (day : Int) : Bool :=
  fields.agrees .quarter (((Date.ofDay day).month + 2) / 3 : Nat)

def present (day : Option Int) : Result Int :=
  match day with
  | some day => .ok day
  | none => .error .contradictory

def dayOfYear? (year place : Int) : Option Int :=
  if Date.leastYear ≤ year && year ≤ Date.greatestYear && 1 ≤ place &&
      place ≤ yearLength year then some (yearStart year + place - 1)
  else none

def dayOfWeek? (start : Nat) (year week weekday : Int) : Option Int :=
  let offset := ((start + 7 - Calendar.weekday (yearStart year)) % 7 : Nat)
  let weekday := (weekday + 7 - start) % 7
  dayOfYear? year (1 + offset + (week - 1) * 7 + weekday)

/-- The day of a week of a year, by the weeks that begin on Monday and belong to the year of
their Thursday. -/
def dayOfWeekYear? (year week weekday : Int) : Option Int :=
  let day := weekYearStart year + (week - 1) * 7 + weekday
  if 1 ≤ week && weekYearStart year + (week - 1) * 7 < weekYearStart (year + 1) &&
      isRepresentable day then some day
  else none

/-- The day, from the first set of parts that determines one; the others must agree. -/
def resolveDay (fields : Fields) : Result Int := do
  let year ← resolveYear (fields.get? .year) (fields.get? .century) (fields.get? .yearOfCentury)
  let weekYear ← resolveYear (fields.get? .weekYear) (fields.get? .weekCentury)
    (fields.get? .weekYearOfCentury)
  let weekday := fields.get? .weekday
  let (agreed, day) ← match year, fields.get? .month, fields.get? .day with
    | some year, some month, some day => do
        let day ← present (Date.dayOf? year month.toNat day.toNat)
        pure (fields.agreesWeek day && fields.agreesOrdinal day, day)
    | _, _, _ =>
        match year, fields.get? .dayOfYear with
        | some year, some place => do
            let day ← present (dayOfYear? year place)
            pure (fields.agreesDate day && fields.agreesWeek day && fields.agreesOrdinal day, day)
        | _, _ =>
            match year, fields.get? .weekFromSunday, weekday with
            | some year, some week, some weekday => do
                let day ← present (dayOfWeek? 6 year week weekday)
                pure (fields.agreesDate day && fields.agreesWeek day &&
                  fields.agreesOrdinal day, day)
            | _, _, _ =>
                match year, fields.get? .weekFromMonday, weekday with
                | some year, some week, some weekday => do
                    let day ← present (dayOfWeek? 0 year week weekday)
                    pure (fields.agreesDate day && fields.agreesWeek day &&
                      fields.agreesOrdinal day, day)
                | _, _, _ =>
                    match weekYear, fields.get? .weekOfYear, weekday with
                    | some weekYear, some week, some weekday => do
                        let day ← present (dayOfWeekYear? weekYear week weekday)
                        pure (fields.agreesDate day && fields.agreesOrdinal day, day)
                    | _, _, _ => .error .missing
  if agreed && fields.agreesQuarter day then .ok day else .error .contradictory

def resolveTime (fields : Fields) : Result (Int × Nat) := do
  let half ← fields.require .halfDay
  let hour ← fields.require .hourOfHalfDay
  let minute ← fields.require .minute
  let second := fields.get? .second
  let (whole, leap) := if second = some 60 then (59, 1000000000) else (second.getD 0, 0)
  let fraction ← match fields.get? .nanosecond with
    | none => pure 0
    | some fraction => if second.isSome then pure fraction.toNat else .error .missing
  return ((half * 12 + hour) * 3600 + minute * 60 + whole, leap + fraction)

def localMoment (day : Int) (time : Int × Nat) : Instant :=
  ⟨day * Instant.secondsPerDay + time.1, time.2⟩

def completed (fields : Fields) (timestamp offset : Int) : Result Fields := do
  let moment ← match Instant.ofSeconds? (timestamp + offset) with
    | some moment => Except.ok moment
    | none => .error .contradictory
  let second := moment.seconds % 60
  let (moment, fields) ←
    if fields.get? .second = some 60 then
      if second == 59 then .ok (moment, some fields)
      else if second == 0 then .ok (⟨moment.seconds - 1, 0⟩, some fields)
      else .error .contradictory
    else .ok (moment, fields.set? .second second)
  let completed := do
    let fields ← fields
    let fields ← fields.set? .year (yearOf moment.day)
    let fields ← fields.set? .dayOfYear (Calendar.dayOfYear moment.day)
    let fields ← fields.setHour? (moment.secondOfDay / 3600)
    fields.set? .minute (moment.secondOfDay / 60 % 60)
  match completed with
  | some fields => .ok fields
  | none => .error .contradictory

/-- The moment on a clock that is ahead of UTC by `offset` seconds. -/
def resolveLocal (fields : Fields) (offset : Int) : Result Instant :=
  match fields.resolveDay, fields.resolveTime with
  | .ok day, .ok time =>
      let moment := localMoment day time
      let expected := moment.seconds - offset
      match fields.get? .timestamp with
      | none => .ok moment
      | some timestamp =>
          if timestamp = expected ∨ (1000000000 ≤ moment.nanoseconds ∧ timestamp = expected + 1)
          then .ok moment
          else .error .contradictory
  | day, time =>
      match fields.get? .timestamp with
      | none => .error .missing
      | some timestamp =>
          match day, time with
          | .error .contradictory, _ => .error .contradictory
          | _, .error .contradictory => .error .contradictory
          | _, _ => do
              let fields ← fields.completed timestamp offset
              return localMoment (← fields.resolveDay) (← fields.resolveTime)

/-- The moment in UTC, by the offset read or by a timestamp, which needs none. -/
def resolveInstant (fields : Fields) : Option Instant := do
  let offset ← match fields.get? .offset, fields.get? .timestamp with
    | some offset, _ => some offset
    | none, some _ => some 0
    | none, none => none
  let moment ← (fields.resolveLocal offset).toOption
  guard (offset.natAbs < 86400)
  let moment := { moment with seconds := moment.seconds - offset }
  guard moment.isRepresentable
  return moment

end Fields

end ServiceStub.Calendar
