import HstsPreload.Text.Digits
import HstsPreload.Time.Instant

/-!
The Gregorian calendar, before and after its adoption: days counted from the first of March of year
zero, so that the leap day ends a year.
-/

namespace HstsPreload

open HstsPreload.Text

/-- A day of the calendar. -/
structure Date where
  year : Int
  month : Nat
  day : Nat
  deriving Repr, DecidableEq

namespace Date

def isLeap (year : Int) : Bool :=
  year % 4 == 0 && (year % 100 != 0 || year % 400 == 0)

def daysInMonth (year : Int) (month : Nat) : Nat :=
  if month = 2 then if isLeap year then 29 else 28
  else if month = 4 ∨ month = 6 ∨ month = 9 ∨ month = 11 then 30
  else 31

def isValid (d : Date) : Bool :=
  decide (1 ≤ d.month ∧ d.month ≤ 12 ∧ 1 ≤ d.day ∧ d.day ≤ daysInMonth d.year d.month)

/-- Days from the start of 1970 to a day. -/
def toDays (d : Date) : Int :=
  let y := if d.month ≤ 2 then d.year - 1 else d.year
  let m : Int := (d.month + 9) % 12
  365 * y + y.fdiv 4 - y.fdiv 100 + y.fdiv 400 + (153 * m + 2) / 5 + (d.day : Int) - 1 - 719468

/-- The day so many days after the start of 1970. -/
def ofDays (n : Int) : Date :=
  let z := n + 719468
  let era := z.fdiv 146097
  let dayOfEra := z - era * 146097
  let yearOfEra := (dayOfEra - dayOfEra / 1460 + dayOfEra / 36524 - dayOfEra / 146096) / 365
  let dayOfYear := dayOfEra - (365 * yearOfEra + yearOfEra / 4 - yearOfEra / 100)
  let m := (5 * dayOfYear + 2) / 153
  let month := if m < 10 then m + 3 else m - 9
  let year := yearOfEra + era * 400
  ⟨if month ≤ 2 then year + 1 else year, month.toNat, (dayOfYear - (153 * m + 2) / 5 + 1).toNat⟩

def monthName (month : Nat) : String :=
  match month with
  | 1 => "January"
  | 2 => "February"
  | 3 => "March"
  | 4 => "April"
  | 5 => "May"
  | 6 => "June"
  | 7 => "July"
  | 8 => "August"
  | 9 => "September"
  | 10 => "October"
  | 11 => "November"
  | _ => "December"

/-- The name of the day of the week so many days after the start of 1970, a Thursday. -/
def weekdayName (n : Int) : String :=
  match (n + 4) % 7 with
  | 0 => "Sunday"
  | 1 => "Monday"
  | 2 => "Tuesday"
  | 3 => "Wednesday"
  | 4 => "Thursday"
  | 5 => "Friday"
  | _ => "Saturday"

/-- A year in four digits; one with more has a plus sign, and one before zero a minus sign. -/
def yearText (year : Int) : List Char :=
  let digits := padZeros 4 (decimalText year.natAbs)
  if year < 0 then '-' :: digits else if 9999 < year then '+' :: digits else digits

end Date

namespace Instant

def secondsPerDay : Int := 86400

/-- Days from the start of 1970 to the day of an instant. -/
def dayNumber (t : Instant) : Int :=
  t.seconds.fdiv secondsPerDay

def date (t : Instant) : Date :=
  .ofDays t.dayNumber

def secondOfDay (t : Instant) : Nat :=
  (t.seconds - t.dayNumber * secondsPerDay).toNat

/-- The day of an instant in words: the day of the week, the day padded to two places, the month and
the year. -/
def longDate (t : Instant) : String :=
  let d := t.date
  let day := String.ofList (decimalText d.day)
  let day := if d.day < 10 then " " ++ day else day
  s!"{Date.weekdayName t.dayNumber}, {day} {Date.monthName d.month} "
    ++ .ofList (Date.yearText d.year)

end Instant

end HstsPreload
