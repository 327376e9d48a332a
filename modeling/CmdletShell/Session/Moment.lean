import CmdletShell.Text.Numeral

/-!
# Moments

A date and a time of day, as the clock of a session tells them.

* `Moment.shortDate`: month, day and year without leading zeros.
* `Moment.longDate`: the weekday, the date and the time on a clock of twelve hours.
-/

namespace CmdletShell

/-- A date and a time of day. -/
structure Moment where
  /-- The year. -/
  year : Nat
  /-- The month, from 1. -/
  month : Nat
  /-- The day of the month, from 1. -/
  day : Nat
  /-- The hour, from 0. -/
  hour : Nat
  /-- The minute. -/
  minute : Nat
  /-- The second. -/
  second : Nat
  deriving DecidableEq, Repr, Inhabited

namespace Moment

/-- The names of the days of the week, from Monday. -/
def dayNames : List Text :=
  ["Monday", "Tuesday", "Wednesday", "Thursday", "Friday", "Saturday", "Sunday"]

/-- The names of the months. -/
def monthNames : List Text :=
  ["January", "February", "March", "April", "May", "June", "July", "August", "September",
    "October", "November", "December"]

/-- Whether a year has a day more in February. -/
def isLeap (year : Nat) : Bool :=
  year % 4 == 0 && (year % 100 != 0 || year % 400 == 0)

/-- The days of a month. -/
def daysIn (year month : Nat) : Nat :=
  if month = 2 then (if isLeap year then 29 else 28)
  else if month = 4 || month = 6 || month = 9 || month = 11 then 30
  else 31

/-- The days from the first day of the year 1 up to a moment's day. -/
def dayNumber (moment : Moment) : Nat :=
  let years := moment.year - 1
  years * 365 + years / 4 - years / 100 + years / 400 +
    (List.range (moment.month - 1)).foldl (fun days m => days + daysIn moment.year (m + 1)) 0 +
    (moment.day - 1)

/-- The name of the day of the week; the first day of the year 1 is a Monday. -/
def dayName (moment : Moment) : Text :=
  dayNames.getD (moment.dayNumber % 7) []

/-- The name of the month. -/
def monthName (moment : Moment) : Text :=
  monthNames.getD (moment.month - 1) []

/-- A number in two digits. -/
def twoDigits (n : Nat) : Text :=
  Text.writeNatural (n / 10) ++ Text.writeNatural (n % 10)

/-- Month, day and year. -/
def shortDate (moment : Moment) : Text :=
  Text.writeNatural moment.month ++ '/' :: Text.writeNatural moment.day ++
    '/' :: Text.writeNatural moment.year

/-- The hour on a clock of twelve hours. -/
def clockHour (hour : Nat) : Nat :=
  if hour % 12 = 0 then 12 else hour % 12

/-- The weekday, the date and the time. -/
def longDate (moment : Moment) : Text :=
  moment.dayName ++ ", " ++ moment.monthName ++ " " ++ twoDigits moment.day ++ ", " ++
    Text.writeNatural moment.year ++ " " ++ twoDigits (clockHour moment.hour) ++ ":" ++
    twoDigits moment.minute ++ ":" ++ twoDigits moment.second ++
    (if moment.hour < 12 then " AM" else " PM")

end Moment

end CmdletShell
