import ServiceStub.Calendar.Format
import ServiceStub.Text.Case

namespace ServiceStub.Calendar

namespace Reader

/-- Date and time as in `2021-06-01T12:00:00.5+02:00`. -/
def timestampText : Reader Fields := do
  let fields ← Fields.set? [] .year (← number 4 4)
  expect ['-']
  let fields ← fields.set? .month (← number 2 2)
  expect ['-']
  let fields ← fields.set? .day (← number 2 2)
  match ← get with
  | c :: rest =>
      guard (c == 'T' || c == 't' || c == ' ')
      set rest
  | [] => failure
  let fields ← fields.setHour? (← number 2 2)
  expect [':']
  let fields ← fields.set? .minute (← number 2 2)
  expect [':']
  let fields ← fields.set? .second (← number 2 2)
  let fields ← if ← accept ['.'] then fields.set? .nanosecond (← fraction) else pure fields
  let offset ← offset .strict
  guard (offset.natAbs < 86400)
  fields.set? .offset offset

def zones : List (String × Int) :=
  [("gmt", 0), ("ut", 0), ("z", 0), ("edt", -4), ("est", -5), ("cdt", -5), ("cst", -6),
    ("mdt", -6), ("mst", -7), ("pdt", -7), ("pst", -8)]

/-- An offset, the name of a zone, or a single letter, which says nothing. -/
def mailOffset : Reader Int := do
  let text ← get
  match text.takeWhile Char.isAlpha with
  | [] => offset .mail
  | name =>
      set (text.drop name.length)
      let name := String.ofList (name.map Text.asciiLower)
      match zones.lookup name with
      | some hours => return hours * 3600
      | none =>
          guard (name.length == 1 && name != "j")
          return 0

/-- The rest after a comment in parentheses, which may hold comments. -/
def afterComment (depth : Nat) : List Char → Option (List Char)
  | [] => none
  | ['\\'] => none
  | '\\' :: _ :: rest => afterComment depth rest
  | '(' :: rest => afterComment (depth + 1) rest
  | ')' :: rest => if depth == 1 then some rest else afterComment (depth - 1) rest
  | _ :: rest => afterComment depth rest

def skipComments (fuel : Nat) : Reader Unit :=
  match fuel with
  | 0 => return ()
  | fuel + 1 => do
      match (← get).dropWhile Text.isBlank with
      | '(' :: rest =>
          match afterComment 1 rest with
          | some rest =>
              set rest
              skipComments fuel
          | none => return ()
      | _ => return ()

/-- Date and time as in the header of a mail, `Tue, 1 Jun 2021 12:00:00 GMT`. -/
def mailText : Reader Fields := do
  skipBlanks
  let start ← get
  let fields ← match (nameOf weekdays false).run start with
    | some (weekday, rest) => do
        set rest
        expect [',']
        Fields.set? [] .weekday weekday
    | none => pure []
  skipBlanks
  let fields ← fields.set? .day (← number 1 2)
  space
  let month ← nameOf months false
  let fields ← fields.set? .month (month + 1)
  space
  let before ← get
  let year ← longNumber 2
  let places := before.length - (← get).length
  let year :=
    if places == 2 then year + (if year < 50 then 2000 else 1900)
    else if places == 3 then year + 1900
    else year
  let fields ← fields.set? .year year
  space
  let fields ← fields.setHour? (← number 2 2)
  skipBlanks
  expect [':']
  skipBlanks
  let fields ← fields.set? .minute (← number 2 2)
  let afterMinute ← get
  skipBlanks
  let fields ←
    if ← accept [':'] then fields.set? .second (← number 2 2)
    else
      set afterMinute
      pure fields
  space
  let fields ← fields.set? .offset (← mailOffset)
  skipComments (← get).length
  return fields

end Reader

def readWhole (reader : Reader Fields) (text : String) : Option Fields := do
  let (fields, rest) ← reader.run text.toList
  guard rest.isEmpty
  return fields

def readLocal? (format text : String) : Option Instant :=
  (readFields format text).bind fun fields => (fields.resolveLocal 0).toOption

def readDay? (format text : String) : Option Instant :=
  (readFields format text).bind fun fields => fields.resolveDay.toOption.map .midnight

namespace Instant

def orElse (first : Option Instant) (second : Unit → Option Instant) : Option Instant :=
  match first with
  | some moment => some moment
  | none => second ()

/-- The moment a text denotes: a timestamp, a date with or without a time, in UTC where no
offset stands, or a date as in the header of a mail. -/
def ofText? (text : String) : Option Instant :=
  let text := Text.trim text
  orElse ((readWhole Reader.timestampText text).bind Fields.resolveInstant) fun _ =>
  orElse (readLocal? "%Y-%m-%dT%H:%M:%S%.f" text) fun _ =>
  orElse (readLocal? "%Y-%m-%d %H:%M:%S%.f" text) fun _ =>
  orElse (readLocal? "%Y-%m-%dT%H:%M" text) fun _ =>
  orElse (readDay? "%Y-%m-%d" text) fun _ =>
  (readWhole Reader.mailText text).bind Fields.resolveInstant

def wordOf? (text : String) : Option Int :=
  Text.signedDecimal? (-greatestWord - 1) greatestWord text.toList

/-- The moment a text denotes by a format: seconds or milliseconds since the beginning of
1970, or a date and a time laid out as the format says. -/
def ofFormatted? (format : Option String) (text : String) : Option Instant :=
  let text := Text.trim text
  match format with
  | none => ofText? text
  | some "unix" => (wordOf? text).bind ofSeconds?
  | some "epoch" => (wordOf? text).bind ofMilliseconds?
  | some format =>
      orElse ((readFields format text).bind Fields.resolveInstant) fun _ =>
      orElse (readLocal? format text) fun _ =>
      readDay? format text

end Instant

namespace TimeUnit

def ofText? (text : String) : Option TimeUnit :=
  let text := (Text.lower (Text.trim text)).toList
  let singular := (Text.stripEnd? ['s'] text).getD text
  all.find? fun unit => Text.stripEnd? ['s'] unit.name.toList == some singular

end TimeUnit

namespace Truncation

/-- Read a truncation in any case, its words parted by single blanks, underscores or
hyphens. -/
def ofText? (text : String) : Option Truncation :=
  let text := (Text.lower (Text.trim text)).toList.map fun c =>
    if c == '_' || c == '-' then ' ' else c
  all.find? fun truncation => truncation.name.toList == text

end Truncation

end ServiceStub.Calendar
