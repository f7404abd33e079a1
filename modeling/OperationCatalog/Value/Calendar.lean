import OperationCatalog.Text.Quoted

/-!
# Calendar dates and instants

A document of data can hold a date, or a date with a time of day. They are values
of the Gregorian calendar extended to all years from one on; a date that the
calendar does not have cannot be built (`OperationCatalog.CalendarDate.ofParts?`).

A time of day may carry an offset from universal time, in minutes. Two instants
with offsets are equal when they are the same point of time, whatever the offsets
are; an instant without one equals no instant with one. This matters when instants
are the keys of a mapping.
-/

namespace OperationCatalog

/-- A date of the Gregorian calendar. -/
structure CalendarDate where
  /-- The year, from one on. -/
  year : Nat
  /-- The month, from one to twelve. -/
  month : Nat
  /-- The day of the month. -/
  day : Nat
  deriving DecidableEq, Repr

/-- A date and a time of day, perhaps with an offset from universal time. -/
structure Instant where
  /-- The date. -/
  date : CalendarDate
  /-- The hour, below twenty-four. -/
  hour : Nat
  /-- The minute. -/
  minute : Nat
  /-- The second. -/
  second : Nat
  /-- Millionths of a second. -/
  microsecond : Nat
  /-- Minutes east of universal time; `none` for a local time. -/
  offset : Option Int
  deriving DecidableEq, Repr

namespace CalendarDate

/-- Whether a year has a twenty-ninth of February. -/
def isLeap (year : Nat) : Bool :=
  year % 4 = 0 && (year % 100 ≠ 0 || year % 400 = 0)

/-- The number of days of a month. -/
def daysIn (year month : Nat) : Nat :=
  if month = 2 then (if isLeap year then 29 else 28)
  else if month = 4 || month = 6 || month = 9 || month = 11 then 30
  else 31

/-- The date with these parts, if the calendar has it. -/
def ofParts? (year month day : Nat) : Option CalendarDate :=
  if 1 ≤ year && 1 ≤ month && month ≤ 12 && 1 ≤ day && day ≤ daysIn year month then
    some ⟨year, month, day⟩
  else none

/-- Days before the first of a month, counted from the beginning of the calendar. -/
def daysBefore (year month : Nat) : Nat :=
  let past := year - 1
  past * 365 + past / 4 - past / 100 + past / 400 +
    (List.range (month - 1)).foldl (fun days m => days + daysIn year (m + 1)) 0

/-- The number of the day, the first day of the calendar being number one. -/
def ordinal (d : CalendarDate) : Nat :=
  daysBefore d.year d.month + d.day

/-- A number with leading zeros up to a width. -/
def padded (width n : Nat) : List Char :=
  let digits := Nat.toDigits 10 n
  List.replicate (width - digits.length) '0' ++ digits

/-- **The text of a date**: year, month and day with hyphens between. -/
def text (d : CalendarDate) : List Char :=
  padded 4 d.year ++ '-' :: padded 2 d.month ++ '-' :: padded 2 d.day

end CalendarDate

namespace Instant

open CalendarDate (padded)

/-- The instant with these parts, if the clock has it. An offset is less than a day. -/
def ofParts? (date : CalendarDate) (hour minute second microsecond : Nat)
    (offset : Option Int) : Option Instant :=
  if hour < 24 && minute < 60 && second < 60 && offset.all (fun o => o.natAbs < 24 * 60) then
    some ⟨date, hour, minute, second, microsecond, offset⟩
  else none

/-- Millionths of a second from the beginning of the calendar, in universal time where an
offset is known. -/
def microseconds (t : Instant) : Int :=
  let minutes : Int := (t.date.ordinal * 24 + t.hour) * 60 + t.minute - t.offset.getD 0
  (minutes * 60 + t.second) * 1000000 + t.microsecond

/-- **The same point of time**; a local time is never the same as a known one. -/
def same (t u : Instant) : Bool :=
  t.offset.isSome == u.offset.isSome && t.microseconds == u.microseconds

/-- The text of an offset. -/
def offsetText (offset : Int) : List Char :=
  (if offset < 0 then '-' else '+') ::
    padded 2 (offset.natAbs / 60) ++ ':' :: padded 2 (offset.natAbs % 60)

/-- **The text of an instant**: date, a blank, time, the fraction unless it vanishes, and
the offset if there is one. -/
def text (t : Instant) : List Char :=
  t.date.text ++ ' ' :: padded 2 t.hour ++ ':' :: padded 2 t.minute ++ ':' :: padded 2 t.second ++
    (if t.microsecond = 0 then [] else '.' :: padded 6 t.microsecond) ++
    (t.offset.map offsetText).getD []

end Instant

/-! ### How a date shows inside a collection -/

/-- Numbers with commas between. -/
def numberList (numbers : List Nat) : String :=
  ", ".intercalate (numbers.map toString)

/-- The text of a date inside the text of a set. -/
def CalendarDate.described (d : CalendarDate) : String :=
  "datetime.date(" ++ numberList [d.year, d.month, d.day] ++ ")"

/-- The text of an offset inside the text of a set: days and seconds east of universal time,
the seconds not negative. -/
def Instant.offsetDescribed (offset : Int) : String :=
  if offset = 0 then "datetime.timezone.utc"
  else if 0 < offset then
    "datetime.timezone(datetime.timedelta(seconds=" ++ toString (offset * 60) ++ "))"
  else
    "datetime.timezone(datetime.timedelta(days=-1, seconds=" ++
      toString (86400 + offset * 60) ++ "))"

/-- The text of an instant inside the text of a set; trailing zero parts of the seconds
are left out. -/
def Instant.described (t : Instant) : String :=
  let front := [t.date.year, t.date.month, t.date.day, t.hour, t.minute]
  let parts :=
    if t.microsecond ≠ 0 then front ++ [t.second, t.microsecond]
    else if t.second ≠ 0 then front ++ [t.second]
    else front
  "datetime.datetime(" ++ numberList parts ++
    (t.offset.elim "" fun o => ", tzinfo=" ++ offsetDescribed o) ++ ")"

end OperationCatalog
