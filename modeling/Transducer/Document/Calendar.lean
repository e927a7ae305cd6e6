/-!
# Dates and times

A date is a day of the proleptic Gregorian calendar from the year 1 to the year 9999. A moment is a
date and a time of day, with or without the distance of its clock from universal time.
-/

namespace Transducer.Document

/-- Whether a year has a 29th of February. -/
def isLeapYear (year : Nat) : Bool := year % 4 = 0 && (year % 100 ≠ 0 || year % 400 = 0)

/-- The number of days of a month. -/
def daysInMonth (year month : Nat) : Nat :=
  if month = 2 then (if isLeapYear year then 29 else 28)
  else if month = 4 || month = 6 || month = 9 || month = 11 then 30 else 31

/-- A day of the calendar. -/
structure Date where
  year : Nat
  month : Nat
  day : Nat
  deriving DecidableEq, Repr

/-- Whether the calendar has the day. -/
def Date.isValid (d : Date) : Bool :=
  1 ≤ d.year && d.year ≤ 9999 && 1 ≤ d.month && d.month ≤ 12 && 1 ≤ d.day &&
    d.day ≤ daysInMonth d.year d.month

/-- The number of days before the date, counted from the first day of the year 1. -/
def Date.ordinal (d : Date) : Nat :=
  let past := d.year - 1
  let months := (List.range (d.month - 1)).foldl (fun n m => n + daysInMonth d.year (m + 1)) 0
  past * 365 + past / 4 - past / 100 + past / 400 + months + (d.day - 1)

/-- A date and a time of day; `offset` is the lead of the clock over universal time in minutes. -/
structure Moment where
  date : Date
  hour : Nat
  minute : Nat
  second : Nat
  microsecond : Nat
  offset : Option Int
  deriving DecidableEq, Repr

/-- Whether the time of day exists and the offset is less than a day. -/
def Moment.isValid (m : Moment) : Bool :=
  m.date.isValid && m.hour < 24 && m.minute < 60 && m.second < 60 &&
    (m.offset.all fun offset => -1440 < offset && offset < 1440)

/-- The seconds from the first day of the year 1 to the moment, in universal time. -/
def Moment.instant (m : Moment) : Int :=
  (m.date.ordinal * 86400 + m.hour * 3600 + m.minute * 60 + m.second : Nat) -
    m.offset.getD 0 * 60

/-- Whether two moments are the same: at one instant if both have an offset, and by the clock if
neither has one. -/
def Moment.same (a b : Moment) : Bool :=
  match a.offset, b.offset with
  | some _, some _ => a.instant == b.instant && a.microsecond == b.microsecond
  | none, none => a == b
  | _, _ => false

/-- A number in base ten, filled with zeros on the left to a width. -/
def padded (width n : Nat) : String :=
  let digits := Nat.toDigits 10 n
  String.ofList (List.replicate (width - digits.length) '0' ++ digits)

/-- The text of a date: year, month and day. -/
def Date.text (d : Date) : String := s!"{padded 4 d.year}-{padded 2 d.month}-{padded 2 d.day}"

/-- The text of an offset: sign, hours and minutes. -/
def offsetText (offset : Int) : String :=
  let sign := if offset < 0 then "-" else "+"
  s!"{sign}{padded 2 (offset.natAbs / 60)}:{padded 2 (offset.natAbs % 60)}"

/-- The text of a moment: date, time of day, a fraction unless it is zero, the offset if any. -/
def Moment.text (m : Moment) : String :=
  let clock := s!"{padded 2 m.hour}:{padded 2 m.minute}:{padded 2 m.second}"
  let fraction := if m.microsecond = 0 then "" else "." ++ padded 6 m.microsecond
  m.date.text ++ " " ++ clock ++ fraction ++ (m.offset.map offsetText).getD ""

/-- The text of a date inside a collection. -/
def Date.nestedText (d : Date) : String := s!"datetime.date({d.year}, {d.month}, {d.day})"

/-- The text of an offset inside a collection; a negative one counts from the day before. -/
def nestedOffsetText (offset : Int) : String :=
  if offset = 0 then "datetime.timezone.utc"
  else if 0 < offset then
    s!"datetime.timezone(datetime.timedelta(seconds={offset.natAbs * 60}))"
  else
    s!"datetime.timezone(datetime.timedelta(days=-1, seconds={86400 - offset.natAbs * 60}))"

/-- The text of a moment inside a collection; a fraction of zero is left out, and then a second of
zero too. -/
def Moment.nestedText (m : Moment) : String :=
  let seconds := if m.second = 0 && m.microsecond = 0 then "" else s!", {m.second}"
  let fraction := if m.microsecond = 0 then "" else s!", {m.microsecond}"
  let zone := (m.offset.map fun offset => ", tzinfo=" ++ nestedOffsetText offset).getD ""
  s!"datetime.datetime({m.date.year}, {m.date.month}, {m.date.day}, {m.hour}, {m.minute}" ++
    seconds ++ fraction ++ zone ++ ")"

end Transducer.Document
