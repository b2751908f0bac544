/-!
# Dates

A date is a day of the proleptic Gregorian calendar with a time of day in nanoseconds.  Every second
may be followed by a leap second, in which the nanoseconds of that second go on.  The fields of a
date are always in range.
-/

namespace Platen

namespace Calendar

/-- Whether a year has a twenty-ninth of February. -/
def isLeapYear (year : Int) : Bool :=
  year % 4 == 0 && (year % 100 != 0 || year % 400 == 0)

/-- The number of days of a month, numbered from 1. -/
def daysIn (year : Int) (month : Nat) : Nat :=
  if month = 2 then if isLeapYear year then 29 else 28
  else if month = 4 || month = 6 || month = 9 || month = 11 then 30
  else 31

/-- Days between 1 January 1970 and a day of the calendar.  Years are counted from March, so that
the leap day is the last day of a year. -/
def daysSinceEpoch (year : Int) (month day : Nat) : Int :=
  let y := if month ≤ 2 then year - 1 else year
  let era := y.fdiv 400
  let yearOfEra := y - era * 400
  let monthFromMarch : Int := (month + 9) % 12
  let dayOfYear := (153 * monthFromMarch + 2) / 5 + day - 1
  let dayOfEra := yearOfEra * 365 + yearOfEra / 4 - yearOfEra / 100 + dayOfYear
  era * 146097 + dayOfEra - 719468

/-- The names of the months. -/
def monthNames : List String :=
  ["January", "February", "March", "April", "May", "June", "July", "August", "September",
    "October", "November", "December"]

/-- The names of the days of the week, from Sunday. -/
def weekdayNames : List String :=
  ["Sunday", "Monday", "Tuesday", "Wednesday", "Thursday", "Friday", "Saturday"]

/-- The years that the calendar covers. -/
def coversYear (year : Int) : Bool :=
  -262143 ≤ year && year ≤ 262142

/-- The nanoseconds of a second. -/
def secondLength : Nat := 1000000000

end Calendar

open Calendar

/-- A day with a time of day: the last second that began, leap seconds apart, and the nanoseconds
since then, which go on in a leap second. -/
structure Date where
  year : Int
  month : Nat
  day : Nat
  hour : Nat
  minute : Nat
  wholeSecond : Nat
  nanosecond : Nat
  month_range : 1 ≤ month ∧ month ≤ 12
  day_range : 1 ≤ day ∧ day ≤ daysIn year month
  time_range : hour < 24 ∧ minute < 60 ∧ wholeSecond < 60 ∧ nanosecond < 2 * secondLength
  deriving DecidableEq

namespace Date

/-- The date with the given fields, if they are in range.  A sixtieth second is the leap second
behind the fifty-ninth. -/
def ofFields? (year : Int) (month day hour minute second : Nat) : Option Date :=
  if month_range : 1 ≤ month ∧ month ≤ 12 then
    if day_range : 1 ≤ day ∧ day ≤ daysIn year month then
      if clock_range : hour < 24 ∧ minute < 60 ∧ second ≤ 60 then
        some
          { year, month, day, hour, minute
            wholeSecond := min second 59
            nanosecond := (second - 59) * secondLength
            month_range, day_range
            time_range := by
              unfold secondLength
              omega }
      else none
    else none
  else none

/-- The second as it is written: in a leap second one more than the second before it. -/
def second (d : Date) : Nat :=
  d.wholeSecond + d.nanosecond / secondLength

/-- Whether the time of day is midnight, to the nanosecond. -/
def isMidnight (d : Date) : Bool :=
  d.hour == 0 && d.minute == 0 && d.wholeSecond == 0 && d.nanosecond == 0

/-- The name of the day of the week. -/
def weekdayName (d : Date) : String :=
  weekdayNames.getD ((daysSinceEpoch d.year d.month d.day + 4) % 7).toNat ""

/-- The name of the month. -/
def monthName (d : Date) : String :=
  monthNames.getD (d.month - 1) ""

/-- A natural number in at least `width` digits. -/
def zeroPadded (width n : Nat) : List Char :=
  let digits := Nat.toDigits 10 n
  List.replicate (width - digits.length) '0' ++ digits

/-- A year in four digits; years with more digits and years before zero carry a sign. -/
def yearText (year : Int) : List Char :=
  if year < 0 then '-' :: zeroPadded 4 year.natAbs
  else if 9999 < year then '+' :: zeroPadded 4 year.natAbs
  else zeroPadded 4 year.natAbs

/-- Year, month and day. -/
def dayText (d : Date) : List Char :=
  yearText d.year ++ '-' :: zeroPadded 2 d.month ++ '-' :: zeroPadded 2 d.day

/-- Hour, minute and second. -/
def timeText (d : Date) : List Char :=
  zeroPadded 2 d.hour ++ ':' :: zeroPadded 2 d.minute ++ ':' :: zeroPadded 2 d.second

/-- The day, a mark and the time of day. -/
def stamp (mark : Char) (d : Date) : List Char :=
  d.dayText ++ mark :: d.timeText

/-- The text of a date: the day alone at midnight, day and time otherwise. -/
def toText (d : Date) : String :=
  String.ofList (if d.isMidnight then d.dayText else d.stamp ' ')

/-- As in `Saturday, March 9, 2024`. -/
def fullText (d : Date) : String :=
  d.weekdayName ++ ", " ++ d.monthName ++ " " ++ toString d.day ++ ", "
    ++ String.ofList (yearText d.year)

/-- As in `March 9, 2024`. -/
def longText (d : Date) : String :=
  d.monthName ++ " " ++ toString d.day ++ ", " ++ String.ofList (yearText d.year)

/-- As in `Mar 9, 2024`. -/
def mediumText (d : Date) : String :=
  String.ofList (d.monthName.toList.take 3) ++ " " ++ toString d.day ++ ", "
    ++ String.ofList (yearText d.year)

/-- As in `3/9/24`. -/
def shortText (d : Date) : String :=
  toString d.month ++ "/" ++ toString d.day ++ "/"
    ++ String.ofList (zeroPadded 2 (d.year % 100).toNat)

end Date

end Platen
