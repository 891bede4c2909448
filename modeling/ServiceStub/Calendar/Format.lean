import ServiceStub.Calendar.Fields
import ServiceStub.Text.Blank

namespace ServiceStub.Calendar

structure OffsetStyle where
  zulu : Bool
  withoutMinutes : Bool
  minusSign : Bool
  colonRequired : Bool
  colonAllowed : Bool
  deriving Repr

namespace OffsetStyle

def strict : OffsetStyle :=
  { zulu := true, withoutMinutes := false, minusSign := true, colonRequired := true,
    colonAllowed := true }

def mail : OffsetStyle :=
  { zulu := false, withoutMinutes := false, minusSign := false, colonRequired := false,
    colonAllowed := false }

def plain : OffsetStyle :=
  { zulu := false, withoutMinutes := false, minusSign := true, colonRequired := false,
    colonAllowed := true }

def orZulu : OffsetStyle := { plain with zulu := true }

def permissive : OffsetStyle := { orZulu with withoutMinutes := true }

end OffsetStyle

inductive Item where
  | literal (text : List Char)
  | blanks
  | year (field : Field)
  | number (field : Field) (width : Nat)
  | hour
  | halfDayHour
  | weekdayFromSunday
  | weekdayFromMonday
  | timestamp
  | monthName (long : Bool)
  | weekdayName (long : Bool)
  | halfDayName
  | fraction
  | fractionDigits (count : Nat)
  | zoneName
  | offset (style : OffsetStyle)
  | internet
  deriving Repr

namespace Item

def date (separator : String) : List Item :=
  [.year .year, .literal separator.toList, .number .month 2, .literal separator.toList,
    .number .day 2]

def colon : Item := .literal [':']

def clock : List Item := [.hour, colon, .number .minute 2, colon, .number .second 2]

def shortDate : List Item :=
  [.number .month 2, .literal ['/'], .number .day 2, .literal ['/'],
    .number .yearOfCentury 2]

def ofLetter? : Char → Option (List Item)
  | 'A' => some [.weekdayName true]
  | 'B' => some [.monthName true]
  | 'C' => some [.number .century 2]
  | 'D' => some shortDate
  | 'F' => some (date "-")
  | 'G' => some [.year .weekYear]
  | 'H' => some [.hour]
  | 'I' => some [.halfDayHour]
  | 'M' => some [.number .minute 2]
  | 'P' => some [.halfDayName]
  | 'R' => some [.hour, colon, .number .minute 2]
  | 'S' => some [.number .second 2]
  | 'T' => some clock
  | 'U' => some [.number .weekFromSunday 2]
  | 'V' => some [.number .weekOfYear 2]
  | 'W' => some [.number .weekFromMonday 2]
  | 'X' => some clock
  | 'Y' => some [.year .year]
  | 'Z' => some [.zoneName]
  | 'a' => some [.weekdayName false]
  | 'b' => some [.monthName false]
  | 'c' =>
      some ([.weekdayName false, .blanks, .monthName false, .blanks, .number .day 2, .blanks] ++
        clock ++ [.blanks, .year .year])
  | 'd' => some [.number .day 2]
  | 'e' => some [.number .day 2]
  | 'f' => some [.number .nanosecond 9]
  | 'g' => some [.number .weekYearOfCentury 2]
  | 'h' => some [.monthName false]
  | 'j' => some [.number .dayOfYear 3]
  | 'k' => some [.hour]
  | 'l' => some [.halfDayHour]
  | 'm' => some [.number .month 2]
  | 'n' => some [.blanks]
  | 'p' => some [.halfDayName]
  | 'q' => some [.number .quarter 1]
  | 'r' =>
      some [.halfDayHour, colon, .number .minute 2, colon, .number .second 2, .blanks,
        .halfDayName]
  | 's' => some [.timestamp]
  | 't' => some [.blanks]
  | 'u' => some [.weekdayFromMonday]
  | 'v' =>
      some [.number .day 2, .literal ['-'], .monthName false, .literal ['-'], .year .year]
  | 'w' => some [.weekdayFromSunday]
  | 'x' => some shortDate
  | 'y' => some [.number .yearOfCentury 2]
  | 'z' => some [.offset .plain]
  | '+' => some [.internet]
  | '%' => some [.literal ['%']]
  | _ => none

def isNumber : Item → Bool
  | .year _ => true
  | .number _ _ => true
  | .hour => true
  | .halfDayHour => true
  | .weekdayFromSunday => true
  | .weekdayFromMonday => true
  | .timestamp => true
  | _ => false

def directive? : List Char → Option (List Item × List Char)
  | '#' :: 'z' :: rest => some ([.offset .permissive], rest)
  | '#' :: _ => none
  | ':' :: ':' :: ':' :: 'z' :: rest => some ([.offset .plain], rest)
  | ':' :: ':' :: 'z' :: rest => some ([.offset .plain], rest)
  | ':' :: 'z' :: rest => some ([.offset .plain], rest)
  | '.' :: 'f' :: rest => some ([.fraction], rest)
  | '.' :: '3' :: 'f' :: rest => some ([.fraction], rest)
  | '.' :: '6' :: 'f' :: rest => some ([.fraction], rest)
  | '.' :: '9' :: 'f' :: rest => some ([.fraction], rest)
  | '3' :: 'f' :: rest => some ([.fractionDigits 3], rest)
  | '6' :: 'f' :: rest => some ([.fractionDigits 6], rest)
  | '9' :: 'f' :: rest => some ([.fractionDigits 9], rest)
  | pad :: letter :: rest =>
      if pad == '-' || pad == '_' || pad == '0' then
        match ofLetter? letter with
        | some [item] => if item.isNumber then some ([item], rest) else none
        | _ => none
      else (ofLetter? pad).map fun items => (items, letter :: rest)
  | [letter] => (ofLetter? letter).map fun items => (items, [])
  | [] => none

/-- The items of a format up to its first malformed directive, and whether there is none. -/
def ofFormat (fuel : Nat) (format : List Char) : List Item × Bool :=
  match fuel, format with
  | 0, _ => ([], false)
  | _, [] => ([], true)
  | fuel + 1, '%' :: rest =>
      match directive? rest with
      | none => ([], false)
      | some (items, rest) =>
          let (following, complete) := ofFormat fuel rest
          (items ++ following, complete)
  | fuel + 1, c :: rest =>
      if Text.isBlank c then
        let (following, complete) := ofFormat fuel (rest.dropWhile Text.isBlank)
        (.blanks :: following, complete)
      else
        let (following, complete) := ofFormat fuel rest
        (.literal [c] :: following, complete)

end Item

abbrev Reader := StateT (List Char) Option

namespace Reader

def skipBlanks : Reader Unit := modify (·.dropWhile Text.isBlank)

def expect (text : List Char) : Reader Unit := do
  let rest ← Text.stripStart? text (← get)
  set rest

def accept (text : List Char) : Reader Bool := do
  match Text.stripStart? text (← get) with
  | some rest => set rest; return true
  | none => return false

def space : Reader Unit := do
  match ← get with
  | c :: _ =>
      guard (Text.isBlank c)
      skipBlanks
  | [] => failure

def digits (least greatest : Nat) : Reader (List Char) := do
  let text ← get
  let digits := (text.take greatest).takeWhile Char.isDigit
  guard (least ≤ digits.length)
  set (text.drop digits.length)
  return digits

def number (least greatest : Nat) : Reader Int := do
  let value ← Text.decimal? (← digits least greatest)
  guard ((value : Int) ≤ greatestWord)
  return value

def longNumber (least : Nat) : Reader Int := do number least (← get).length

/-- A year with a sign and any number of digits, or without a sign and at most four. -/
def year : Reader Int := do
  if ← accept ['-'] then return -(← longNumber 1)
  else if ← accept ['+'] then longNumber 1
  else number 1 4

/-- A fraction of a second; digits beyond the ninth are dropped. -/
def fraction : Reader Int := do
  let digits ← digits 1 9
  modify (·.dropWhile Char.isDigit)
  let value ← Text.decimal? digits
  return value * Nat.pow 10 (9 - digits.length)

def fixedFraction (count : Nat) : Reader Int := do
  return (← number count count) * (Nat.pow 10 (9 - count) : Nat)

def named (names : List String) : Reader Nat := do
  let text ← get
  let position ← names.findIdx? fun name =>
    (text.take name.length).map Text.asciiLower == name.toList
  set (text.drop ((names[position]?.map String.length).getD 0))
  return position

def acceptIgnoringCase (text : String) : Reader Unit := do
  let rest ← get
  if (rest.take text.length).map Text.asciiLower == text.toList then
    set (rest.drop text.length)

def months : List (String × String) :=
  [("jan", "uary"), ("feb", "ruary"), ("mar", "ch"), ("apr", "il"), ("may", ""), ("jun", "e"),
    ("jul", "y"), ("aug", "ust"), ("sep", "tember"), ("oct", "ober"), ("nov", "ember"),
    ("dec", "ember")]

def weekdays : List (String × String) :=
  [("mon", "day"), ("tue", "sday"), ("wed", "nesday"), ("thu", "rsday"), ("fri", "day"),
    ("sat", "urday"), ("sun", "day")]

/-- One of some names that may be cut short; only a long one may be written out. -/
def nameOf (names : List (String × String)) (long : Bool) : Reader Nat := do
  let position ← named (names.map Prod.fst)
  if long then acceptIgnoringCase ((names[position]?.map Prod.snd).getD "")
  return position

def offsetSeparator (style : OffsetStyle) : Reader Unit := do
  if style.colonRequired then expect [':']
  else if style.colonAllowed then modify (·.dropWhile fun c => c == ':' || Text.isBlank c)

def offsetMinutes (style : OffsetStyle) : Reader Int := do
  match ← get with
  | [] =>
      guard style.withoutMinutes
      return 0
  | _ =>
      let minutes ← number 2 2
      guard (minutes < 60)
      return minutes

def offset (style : OffsetStyle) : Reader Int := do
  if style.zulu && ((← accept ['Z']) || (← accept ['z'])) then return 0
  else
    let negative ← match ← get with
      | '+' :: _ => pure false
      | '-' :: _ => pure true
      | '\u2212' :: _ =>
          guard style.minusSign
          pure true
      | _ => failure
    modify List.tail
    let hours ← number 2 2
    offsetSeparator style
    let minutes ← offsetMinutes style
    let seconds := hours * 3600 + minutes * 60
    return if negative then -seconds else seconds

def halfDay : Reader Int := do
  match (← get).map Text.asciiLower with
  | 'a' :: 'm' :: _ =>
      modify (·.drop 2)
      return 0
  | 'p' :: 'm' :: _ =>
      modify (·.drop 2)
      return 1
  | _ => failure

/-- Date and time as in `2021-06-01T12:00:00.5Z`, with blanks where numbers begin. -/
def internet (fields : Fields) : Reader Fields := do
  skipBlanks
  let fields ← fields.set? .year (← year)
  skipBlanks
  expect ['-']
  skipBlanks
  let fields ← fields.set? .month (← number 1 2)
  skipBlanks
  expect ['-']
  skipBlanks
  let fields ← fields.set? .day (← number 1 2)
  match ← get with
  | c :: rest =>
      guard (c == 'T' || c == 't' || c == ' ')
      set rest
  | [] => failure
  skipBlanks
  let fields ← fields.setHour? (← number 1 2)
  skipBlanks
  expect [':']
  skipBlanks
  let fields ← fields.set? .minute (← number 1 2)
  skipBlanks
  expect [':']
  skipBlanks
  let fields ← fields.set? .second (← number 1 2)
  let fields ← if ← accept ['.'] then fields.set? .nanosecond (← fraction) else pure fields
  skipBlanks
  if ((← get).take 3).map Text.asciiLower == ['u', 't', 'c'] then
    modify (·.drop 3)
    fields.set? .offset 0
  else fields.set? .offset (← offset .orZulu)

def item (fields : Fields) : Item → Reader Fields
  | .literal text => do
      expect text
      return fields
  | .blanks => do
      skipBlanks
      return fields
  | .year field => do
      skipBlanks
      fields.set? field (← year)
  | .number field width => do
      skipBlanks
      fields.set? field (← number 1 width)
  | .hour => do
      skipBlanks
      fields.setHour? (← number 1 2)
  | .halfDayHour => do
      skipBlanks
      fields.setHalfDayHour? (← number 1 2)
  | .weekdayFromSunday => do
      skipBlanks
      let value ← number 1 1
      guard (value ≤ 6)
      fields.set? .weekday ((value + 6) % 7)
  | .weekdayFromMonday => do
      skipBlanks
      fields.set? .weekday ((← number 1 1) - 1)
  | .timestamp => do
      skipBlanks
      fields.set? .timestamp (← longNumber 1)
  | .monthName long => do
      let position ← nameOf months long
      fields.set? .month (position + 1)
  | .weekdayName long => do
      let position ← nameOf weekdays long
      fields.set? .weekday position
  | .halfDayName => do fields.set? .halfDay (← halfDay)
  | .fraction => do
      if ← accept ['.'] then fields.set? .nanosecond (← fraction) else return fields
  | .fractionDigits count => do fields.set? .nanosecond (← fixedFraction count)
  | .zoneName => do
      modify (·.dropWhile fun c => !Text.isBlank c)
      return fields
  | .offset style => do
      skipBlanks
      fields.set? .offset (← offset style)
  | .internet => internet fields

def items (fields : Fields) : List Item → Reader Fields
  | [] => do
      guard (← get).isEmpty
      return fields
  | first :: rest => do items (← item fields first) rest

end Reader

def readFields (format text : String) : Option Fields := do
  let (parts, complete) := Item.ofFormat (format.length + 1) format.toList
  guard complete
  let (fields, _) ← (Reader.items [] parts).run text.toList
  return fields

end ServiceStub.Calendar
