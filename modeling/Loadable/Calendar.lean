/-
# Dates

The civil date of a Unix time, in the Gregorian calendar extended over all years.  A cycle of 400
years has 146097 days; counted from March, the leap day is the last of its year, so the day of the
year and the month follow by division.
-/

namespace Loadable

/-- A moment on the clock, in UTC. -/
structure Moment where
  year : Int
  month : Nat
  day : Nat
  hour : Nat
  minute : Nat
  second : Nat
  deriving DecidableEq, Repr

namespace Moment

/-- Seconds of a day. -/
def daySeconds : Int := 86400

/-- Year, month and day of a number of days since 1970-01-01. -/
def civil (days : Int) : Int × Nat × Nat :=
  let shifted := days + 719468
  let cycle := shifted.fdiv 146097
  let dayOfCycle := (shifted.fmod 146097).toNat
  let yearOfCycle :=
    (dayOfCycle - dayOfCycle / 1460 + dayOfCycle / 36524 - dayOfCycle / 146096) / 365
  let dayOfYear := dayOfCycle - (365 * yearOfCycle + yearOfCycle / 4 - yearOfCycle / 100)
  let monthFromMarch := (5 * dayOfYear + 2) / 153
  let day := dayOfYear - (153 * monthFromMarch + 2) / 5 + 1
  let month := if monthFromMarch < 10 then monthFromMarch + 3 else monthFromMarch - 9
  (yearOfCycle + cycle * 400 + (if month ≤ 2 then 1 else 0), month, day)

/-- The moment of a Unix time. -/
def ofUnix (seconds : Int) : Moment :=
  let (year, month, day) := civil (seconds.fdiv daySeconds)
  let clock := (seconds.fmod daySeconds).toNat
  { year, month, day, hour := clock / 3600, minute := clock / 60 % 60, second := clock % 60 }

/-- A number with at least `width` digits. -/
def padded (width n : Nat) : String :=
  let ds := Nat.toDigits 10 n
  String.ofList (List.replicate (width - ds.length) '0' ++ ds)

/-- Four digits; outside of 0 to 9999 a year is written with its sign. -/
def yearText (year : Int) : String :=
  if year < 0 then "-" ++ padded 4 year.natAbs
  else if 9999 < year then "+" ++ padded 4 year.natAbs
  else padded 4 year.natAbs

/-- Date, time and offset. -/
def stamp (m : Moment) : String :=
  yearText m.year ++ "-" ++ padded 2 m.month ++ "-" ++ padded 2 m.day ++ " " ++ padded 2 m.hour
    ++ ":" ++ padded 2 m.minute ++ ":" ++ padded 2 m.second ++ "+00:00"

end Moment
end Loadable
