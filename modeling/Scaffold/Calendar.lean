/-!
# Dates and times

Days of the proleptic Gregorian calendar and times of day, with an optional distance from
universal time. A date is valid from year 1 to year 9999.
-/

namespace Scaffold

namespace Calendar

/-- A day. -/
structure Date where
  year : Nat
  month : Nat
  day : Nat
deriving DecidableEq, Repr, Inhabited

/-- A time on a day. `zone` is the distance from universal time in minutes. -/
structure Moment where
  date : Date
  hour : Nat
  minute : Nat
  second : Nat
  micro : Nat
  zone : Option Int
deriving DecidableEq, Repr, Inhabited

/-- A leap year. -/
def isLeap (year : Nat) : Bool := year % 4 == 0 && (year % 100 != 0 || year % 400 == 0)

/-- The days of a month. -/
def daysIn (year month : Nat) : Nat :=
  if month == 2 then if isLeap year then 29 else 28
  else if month == 4 || month == 6 || month == 9 || month == 11 then 30
  else 31

/-- A day of the calendar. -/
def Date.isValid (d : Date) : Bool :=
  1 ≤ d.year && d.year ≤ 9999 && 1 ≤ d.month && d.month ≤ 12 && 1 ≤ d.day &&
    d.day ≤ daysIn d.year d.month

/-- A time of a valid day, less than a day away from universal time. -/
def Moment.isValid (t : Moment) : Bool :=
  t.date.isValid && t.hour < 24 && t.minute < 60 && t.second < 60 && t.micro < 1000000 &&
    t.zone.all fun z => -1440 < z && z < 1440

/-- The days before a year, counted from the first day of year 1. -/
def daysBeforeYear (year : Nat) : Nat :=
  let y := year - 1
  365 * y + y / 4 - y / 100 + y / 400

/-- The days of the year before a month. -/
def daysBeforeMonth (year month : Nat) : Nat :=
  (List.range (month - 1)).foldl (fun days m => days + daysIn year (m + 1)) 0

/-- Microseconds since the beginning of year 1, in universal time where the zone is known. -/
def Moment.instant (t : Moment) : Int :=
  let days := daysBeforeYear t.date.year + daysBeforeMonth t.date.year t.date.month + t.date.day
  let seconds : Int := ((days * 24 + t.hour) * 60 + t.minute) * 60 + t.second
  (seconds - 60 * t.zone.getD 0) * 1000000 + t.micro

/-- A number with leading zeros. -/
def padded (width n : Nat) : List Char :=
  let digits := Nat.toDigits 10 n
  List.replicate (width - digits.length) '0' ++ digits

/-- A day as `2024-01-31`. -/
def Date.text (d : Date) : List Char :=
  padded 4 d.year ++ '-' :: padded 2 d.month ++ '-' :: padded 2 d.day

/-- A distance from universal time as `+02:00`. -/
def zoneText (z : Int) : List Char :=
  (if z < 0 then '-' else '+') :: padded 2 (z.natAbs / 60) ++ ':' :: padded 2 (z.natAbs % 60)

/-- A time as `2024-01-31`, the separator, `10:20:30.500000+02:00`. The fraction is left out
when it is zero, the distance when there is none. -/
def Moment.text (separator : Char) (t : Moment) : List Char :=
  t.date.text ++ separator :: padded 2 t.hour ++ ':' :: padded 2 t.minute ++
    ':' :: padded 2 t.second ++ (if t.micro = 0 then [] else '.' :: padded 6 t.micro) ++
    (match t.zone with
      | some z => zoneText z
      | none => [])

end Calendar

end Scaffold
