import SqlCompose.Text.Digits

/-!
# Dates and moments

A date is a number of days and a moment a number of seconds, both counted from the start of 1970,
so that every value is a valid one. The Gregorian calendar is extended in both directions.
-/

namespace SqlCompose

/-- A day, counted from 1 January 1970. -/
structure Date where
  day : Int
deriving DecidableEq

namespace Date

structure Civil where
  year : Int
  month : Nat
  day : Nat

def isLeapYear (year : Int) : Bool :=
  year % 4 == 0 && (year % 100 != 0 || year % 400 == 0)

/-- The number of days of a month; zero for what is no month. -/
def daysIn (year : Int) (month : Nat) : Nat :=
  match month with
  | 1 | 3 | 5 | 7 | 8 | 10 | 12 => 31
  | 4 | 6 | 9 | 11 => 30
  | 2 => if isLeapYear year then 29 else 28
  | _ => 0

/-- The date of a calendar day. Years are counted from March, so that the leap day ends a year. -/
def ofCivil? (c : Civil) : Option Date :=
  if 1 ≤ c.day ∧ c.day ≤ daysIn c.year c.month then
    let year := if c.month ≤ 2 then c.year - 1 else c.year
    let dayOfYear := (153 * ((c.month + 9) % 12) + 2) / 5 + c.day - 1
    some ⟨365 * year + year / 4 - year / 100 + year / 400 + dayOfYear - 719468⟩
  else none

/-- The calendar day of a date. A cycle of 400 years has 146097 days. -/
def civil (d : Date) : Civil :=
  let shifted := d.day + 719468
  let cycle := shifted / 146097
  let dayOfCycle := (shifted % 146097).toNat
  let yearOfCycle :=
    (dayOfCycle - dayOfCycle / 1460 + dayOfCycle / 36524 - dayOfCycle / 146096) / 365
  let dayOfYear := dayOfCycle - (365 * yearOfCycle + yearOfCycle / 4 - yearOfCycle / 100)
  let shiftedMonth := (5 * dayOfYear + 2) / 153
  let month := if shiftedMonth < 10 then shiftedMonth + 3 else shiftedMonth - 9
  let year := (yearOfCycle : Int) + 400 * cycle + (if month ≤ 2 then 1 else 0)
  ⟨year, month, dayOfYear - (153 * shiftedMonth + 2) / 5 + 1⟩

/-- A year has four digits at least, and a sign outside `0 … 9999`. -/
def yearText (year : Int) : String :=
  if year < 0 then "-" ++ Text.padded 4 year.natAbs
  else if 9999 < year then "+" ++ Text.padded 4 year.natAbs
  else Text.padded 4 year.natAbs

def text (d : Date) : String :=
  let c := d.civil
  yearText c.year ++ "-" ++ Text.padded 2 c.month ++ "-" ++ Text.padded 2 c.day

end Date

/-- A second in universal time, counted from the start of 1970. A leap second is counted as the
second before it and marked. -/
structure Moment where
  second : Int
  isLeap : Bool := false
deriving DecidableEq

namespace Moment

structure Clock where
  hour : Nat
  minute : Nat
  second : Nat

/-- The moment of a clock time on a day. -/
def ofClock? (d : Date) (t : Clock) (isLeap : Bool) : Option Moment :=
  if t.hour < 24 ∧ t.minute < 60 ∧ t.second < 60 ∧ (isLeap → t.second = 59) then
    some ⟨86400 * d.day + 3600 * t.hour + 60 * t.minute + t.second, isLeap⟩
  else none

/-- The same clock time read `offset` seconds east of universal time. -/
def ofLocal (offset : Int) (t : Moment) : Moment :=
  { t with second := t.second - offset }

def date (t : Moment) : Date :=
  ⟨t.second / 86400⟩

/-- The clock shows a leap second as one second more than it is counted. -/
def clock (t : Moment) : Clock :=
  let n := (t.second % 86400).toNat
  ⟨n / 3600, n / 60 % 60, n % 60 + if t.isLeap then 1 else 0⟩

def text (t : Moment) : String :=
  let c := t.clock
  t.date.text ++ " " ++ Text.padded 2 c.hour ++ ":" ++ Text.padded 2 c.minute ++ ":" ++
    Text.padded 2 c.second

end Moment

end SqlCompose
