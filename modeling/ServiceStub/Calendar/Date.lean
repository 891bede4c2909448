/-!
Days of the proleptic Gregorian calendar, counted from the first of January 1970, and the
years, months and weeks they fall into.
-/

namespace ServiceStub.Calendar

def yearStart (year : Int) : Int :=
  365 * year + (year + 3) / 4 - (year + 99) / 100 + (year + 399) / 400 - 719528

def yearLength (year : Int) : Int := yearStart (year + 1) - yearStart year

def isLeapYear (year : Int) : Bool := yearLength year == 366

def yearOf (day : Int) : Int :=
  let guess := (day + 719528) * 400 / 146097
  if day < yearStart guess then guess - 1
  else if yearStart (guess + 1) ≤ day then guess + 1
  else guess

/-- The days of a year before the first of a month; month thirteen begins the next year. -/
def daysBefore (leap : Bool) (month : Nat) : Nat :=
  let common := [0, 31, 59, 90, 120, 151, 181, 212, 243, 273, 304, 334, 365]
  (common[month - 1]?).getD 0 + if leap && 2 < month then 1 else 0

/-- The month that a day of a year falls into, the first day being zero. -/
def monthOf (leap : Bool) (dayOfYear : Nat) : Nat :=
  ((List.range 12).filter fun month => daysBefore leap (month + 1) ≤ dayOfYear).length

def monthLength (leap : Bool) (month : Nat) : Nat :=
  daysBefore leap (month + 1) - daysBefore leap month

structure Date where
  year : Int
  month : Nat
  day : Nat
  deriving Repr, DecidableEq

namespace Date

def leastYear : Int := -262143

def greatestYear : Int := 262142

def firstDay : Int := yearStart leastYear

def lastDay : Int := yearStart (greatestYear + 1) - 1

def toDay (date : Date) : Int :=
  yearStart date.year + daysBefore (isLeapYear date.year) date.month + (date.day - 1 : Nat)

def ofDay (day : Int) : Date :=
  let year := yearOf day
  let dayOfYear := (day - yearStart year).toNat
  let month := monthOf (isLeapYear year) dayOfYear
  ⟨year, month, dayOfYear - daysBefore (isLeapYear year) month + 1⟩

def isValid (date : Date) : Bool :=
  leastYear ≤ date.year && date.year ≤ greatestYear && 1 ≤ date.month && date.month ≤ 12 &&
    1 ≤ date.day && date.day ≤ monthLength (isLeapYear date.year) date.month

def dayOf? (year : Int) (month day : Nat) : Option Int :=
  let date : Date := ⟨year, month, day⟩
  if date.isValid then some date.toDay else none

end Date

/-- The day of the week, Monday being zero. -/
def weekday (day : Int) : Nat := ((day + 3) % 7).toNat

/-- The place of a day in its year, counted from one. -/
def dayOfYear (day : Int) : Int := day - yearStart (yearOf day) + 1

/-- The number of the week of the year, where weeks begin on the given day of the week. -/
def weekFrom (start : Nat) (day : Int) : Int :=
  (dayOfYear day - ((weekday day + 7 - start) % 7 : Nat) + 6) / 7

/-- The Monday of the week that holds the fourth of January. -/
def weekYearStart (year : Int) : Int :=
  let fourth := yearStart year + 3
  fourth - weekday fourth

def weekYear (day : Int) : Int :=
  let year := yearOf day
  if day < weekYearStart year then year - 1
  else if weekYearStart (year + 1) ≤ day then year + 1
  else year

def weekOfYear (day : Int) : Int := (day - weekYearStart (weekYear day)) / 7 + 1

def isRepresentable (day : Int) : Bool := Date.firstDay ≤ day && day ≤ Date.lastDay

end ServiceStub.Calendar
