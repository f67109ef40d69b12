/-!
# Civil dates

Dates of the proleptic Gregorian calendar as a count of days from 1970-01-01 (negative before),
and back. Years are astronomical: year 0 is 1 BC. The conversions are the usual era arithmetic
on 400-year cycles of 146097 days, which is exact for every integer year.
-/

namespace StreamDispatch.Time

/-- A calendar date: year, month 1–12 and day of month. -/
structure Date where
  year : Int
  month : Nat
  day : Nat
  deriving Repr, BEq, DecidableEq

/-- Whether a year has a 29th of February. -/
def isLeapYear (y : Int) : Bool := (y % 4 == 0 && y % 100 != 0) || y % 400 == 0

/-- The number of days in a month of a year (0 for a month outside 1–12). -/
def daysInMonth (y : Int) (m : Nat) : Nat :=
  match m with
  | 1 | 3 | 5 | 7 | 8 | 10 | 12 => 31
  | 4 | 6 | 9 | 11 => 30
  | 2 => if isLeapYear y then 29 else 28
  | _ => 0

/-- Whether the month and day name a day of that year. -/
def Date.valid (d : Date) : Bool :=
  1 ≤ d.month && d.month ≤ 12 && 1 ≤ d.day && d.day ≤ daysInMonth d.year d.month

/-- Days from 1970-01-01 to the date. -/
def Date.toDays (d : Date) : Int :=
  let y : Int := if d.month ≤ 2 then d.year - 1 else d.year
  let era : Int := y / 400
  let yoe : Int := y - era * 400
  let mp : Int := if d.month > 2 then (d.month : Int) - 3 else (d.month : Int) + 9
  let doy : Int := (153 * mp + 2) / 5 + (d.day : Int) - 1
  let doe : Int := yoe * 365 + yoe / 4 - yoe / 100 + doy
  era * 146097 + doe - 719468

/-- The date a number of days after 1970-01-01. -/
def Date.ofDays (z : Int) : Date :=
  let z := z + 719468
  let era : Int := z / 146097
  let doe : Int := z - era * 146097
  let yoe : Int := (doe - doe / 1460 + doe / 36524 - doe / 146096) / 365
  let doy : Int := doe - (365 * yoe + yoe / 4 - yoe / 100)
  let mp : Int := (5 * doy + 2) / 153
  let day : Int := doy - (153 * mp + 2) / 5 + 1
  let month : Int := if mp < 10 then mp + 3 else mp - 9
  let year : Int := yoe + era * 400 + (if month ≤ 2 then 1 else 0)
  ⟨year, month.toNat, day.toNat⟩

example : (Date.mk 1970 1 1).toDays = 0 ∧ (Date.mk 2024 3 4).toDays = 19786 := by decide
example : Date.ofDays 19786 = ⟨2024, 3, 4⟩ := by decide

end StreamDispatch.Time
