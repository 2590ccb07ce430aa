import SourceAtlas.Text.Split

/-!
# Calendar dates

Times are milliseconds since the start of 1970 and are shown in universal time.
A date is found in the cycle of 400 years, counted from March so that the leap
day comes last.
-/

namespace SourceAtlas

/-- A time of day on a date. -/
structure CalendarTime where
  year : Int
  month : Nat
  day : Nat
  hour : Nat
  minute : Nat
  second : Nat
  deriving DecidableEq, Repr

namespace CalendarTime

/-- Days from the first of March of the year 0 to the start of 1970. -/
def daysBefore1970 : Int := 719468

/-- Days in 400 years. -/
def daysInCycle : Int := 146097

/-- Milliseconds in a day. -/
def millisecondsInDay : Int := 86400000

/-- Year, month and day of a count of days since the start of 1970. -/
def dateOfDays (days : Int) : Int × Nat × Nat :=
  let shifted := days + daysBefore1970
  let cycle := shifted / daysInCycle
  let inCycle := (shifted % daysInCycle).toNat
  let yearInCycle := (inCycle - inCycle / 1460 + inCycle / 36524 - inCycle / 146096) / 365
  let inYear := inCycle - (365 * yearInCycle + yearInCycle / 4 - yearInCycle / 100)
  let fromMarch := (5 * inYear + 2) / 153
  let day := inYear - (153 * fromMarch + 2) / 5 + 1
  let month := if fromMarch < 10 then fromMarch + 3 else fromMarch - 9
  let year := cycle * 400 + yearInCycle
  (if month ≤ 2 then year + 1 else year, month, day)

/-- The calendar time of a count of milliseconds. -/
def ofMilliseconds (milliseconds : Int) : CalendarTime :=
  let (year, month, day) := dateOfDays (milliseconds / millisecondsInDay)
  let seconds := (milliseconds % millisecondsInDay / 1000).toNat
  { year, month, day
    hour := seconds / 3600
    minute := seconds / 60 % 60
    second := seconds % 60 }

/-- The first time of the calendar, in the year -262143. -/
def earliest : Int := -8334601228800000

/-- The last time of the calendar, in the year 262142. -/
def latest : Int := 8210266876799999

/-- A number with at least two digits. -/
def twoDigits (number : Nat) : String := Text.padLeft 2 '0' (toString number)

/-- A year with at least four digits; one outside of them has a sign. -/
def yearText (year : Int) : String :=
  let digits := Text.padLeft 4 '0' (toString year.natAbs)
  if year < 0 then "-" ++ digits else if 9999 < year then "+" ++ digits else digits

/-- The date. -/
def dateText (time : CalendarTime) : String :=
  yearText time.year ++ "-" ++ twoDigits time.month ++ "-" ++ twoDigits time.day

/-- Date and time of day. -/
def text (time : CalendarTime) : String :=
  time.dateText ++ " " ++ twoDigits time.hour ++ ":" ++ twoDigits time.minute ++ ":" ++
    twoDigits time.second

end CalendarTime

/-- The text of a time in milliseconds. A time outside the calendar is shown as its number. -/
def timeText (milliseconds : Int) : String :=
  if CalendarTime.earliest ≤ milliseconds ∧ milliseconds ≤ CalendarTime.latest then
    (CalendarTime.ofMilliseconds milliseconds).text
  else toString milliseconds

end SourceAtlas
