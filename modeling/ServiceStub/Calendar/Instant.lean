import ServiceStub.Calendar.Date

namespace ServiceStub.Calendar

/-- A moment in UTC: seconds since the beginning of 1970 and nanoseconds, which reach beyond a
second in a leap second. -/
structure Instant where
  seconds : Int
  nanoseconds : Nat
  deriving Repr, DecidableEq

namespace Instant

def secondsPerDay : Int := 86400

def isBefore (left right : Instant) : Bool :=
  left.seconds < right.seconds ||
    (left.seconds == right.seconds && left.nanoseconds < right.nanoseconds)

def day (moment : Instant) : Int := moment.seconds / secondsPerDay

def secondOfDay (moment : Instant) : Int := moment.seconds % secondsPerDay

def date (moment : Instant) : Date := .ofDay moment.day

def midnight (day : Int) : Instant := ⟨day * secondsPerDay, 0⟩

def last : Instant := ⟨(Date.lastDay + 1) * secondsPerDay - 1, 999999999⟩

def isRepresentable (moment : Instant) : Bool := Calendar.isRepresentable moment.day

def ofSeconds? (seconds : Int) : Option Instant :=
  let moment : Instant := ⟨seconds, 0⟩
  if moment.isRepresentable then some moment else none

def ofMilliseconds? (milliseconds : Int) : Option Instant :=
  (ofSeconds? (milliseconds / 1000)).map fun moment =>
    { moment with nanoseconds := (milliseconds % 1000).toNat * 1000000 }

/-- A moment some seconds away; whoever leaves a leap second leaves it whole. -/
def addSeconds? (moment : Instant) (amount : Int) : Option Instant :=
  let moved : Instant :=
    if moment.nanoseconds < 1000000000 || amount == 0 then
      { moment with seconds := moment.seconds + amount }
    else
      ⟨moment.seconds + amount + (if amount < 0 then 1 else 0),
        moment.nanoseconds - 1000000000⟩
  if moved.isRepresentable then some moved else none

/-- The same day of another month at the same time, or the last day of that month. -/
def addMonths? (moment : Instant) (amount : Int) : Option Instant := do
  guard (amount.natAbs < 0x80000000)
  let date := moment.date
  let months := date.year * 12 + (date.month - 1 : Nat) + amount
  let year := months / 12
  let month := (months % 12).toNat + 1
  let day := min date.day (monthLength (isLeapYear year) month)
  let day ← Date.dayOf? year month day
  let moved : Instant := ⟨day * secondsPerDay + moment.secondOfDay, moment.nanoseconds⟩
  guard !(last.isBefore moved)
  return moved

end Instant

inductive TimeUnit where
  | seconds
  | minutes
  | hours
  | days
  | weeks
  | months
  | years
  deriving Repr, DecidableEq

namespace TimeUnit

def name : TimeUnit → String
  | .seconds => "seconds"
  | .minutes => "minutes"
  | .hours => "hours"
  | .days => "days"
  | .weeks => "weeks"
  | .months => "months"
  | .years => "years"

def all : List TimeUnit := [.seconds, .minutes, .hours, .days, .weeks, .months, .years]

end TimeUnit

def greatestWord : Int := 0x7FFFFFFFFFFFFFFF

def greatestOffset : Int := 1000000000000

namespace Instant

def shift? (moment : Instant) (amount : Int) (unit : TimeUnit) : Option Instant :=
  let bySeconds (perUnit : Int) : Option Instant :=
    let seconds := amount * perUnit
    if (seconds.natAbs : Int) ≤ greatestOffset then moment.addSeconds? seconds else none
  match unit with
  | .seconds => bySeconds 1
  | .minutes => bySeconds 60
  | .hours => bySeconds 3600
  | .days => bySeconds 86400
  | .weeks => bySeconds 604800
  | .months => moment.addMonths? amount
  | .years => moment.addMonths? (amount * 12)

end Instant

inductive Truncation where
  | firstMinuteOfHour
  | firstHourOfDay
  | firstDayOfMonth
  | firstDayOfNextMonth
  | lastDayOfMonth
  | firstDayOfYear
  | firstDayOfNextYear
  | lastDayOfYear
  deriving Repr, DecidableEq

namespace Truncation

def name : Truncation → String
  | .firstMinuteOfHour => "first minute of hour"
  | .firstHourOfDay => "first hour of day"
  | .firstDayOfMonth => "first day of month"
  | .firstDayOfNextMonth => "first day of next month"
  | .lastDayOfMonth => "last day of month"
  | .firstDayOfYear => "first day of year"
  | .firstDayOfNextYear => "first day of next year"
  | .lastDayOfYear => "last day of year"

def all : List Truncation :=
  [.firstMinuteOfHour, .firstHourOfDay, .firstDayOfMonth, .firstDayOfNextMonth,
    .lastDayOfMonth, .firstDayOfYear, .firstDayOfNextYear, .lastDayOfYear]

def firstOfNextMonth? (date : Date) : Option Int :=
  if date.month = 12 then Date.dayOf? (date.year + 1) 1 1
  else Date.dayOf? date.year (date.month + 1) 1

/-- The day whose midnight a moment is moved to; `none` if the calendar does not reach it. -/
def boundary? (truncation : Truncation) (moment : Instant) : Option Instant :=
  let date := moment.date
  match truncation with
  | .firstMinuteOfHour => some ⟨moment.seconds / 3600 * 3600, 0⟩
  | .firstHourOfDay => some (.midnight moment.day)
  | .firstDayOfMonth => (Date.dayOf? date.year date.month 1).map .midnight
  | .firstDayOfNextMonth => (firstOfNextMonth? date).map .midnight
  | .lastDayOfMonth => (firstOfNextMonth? date).map fun day => .midnight (day - 1)
  | .firstDayOfYear => (Date.dayOf? date.year 1 1).map .midnight
  | .firstDayOfNextYear => (Date.dayOf? (date.year + 1) 1 1).map .midnight
  | .lastDayOfYear => (Date.dayOf? date.year 12 31).map .midnight

/-- Move a moment to the boundary, or leave it where the calendar does not reach that far. -/
def apply (truncation : Truncation) (moment : Instant) : Instant :=
  (truncation.boundary? moment).getD moment

end Truncation

end ServiceStub.Calendar
