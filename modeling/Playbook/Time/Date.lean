import Playbook.Text

/-!
# Playbook.Time.Date

Dates of the Gregorian calendar as day numbers.  Day zero is 1 January 1970.

A calendar that starts its years in March has its leap day last, so that the
lengths of months and years follow from division alone; `ofCivil` and `civil`
go through that calendar.
-/

namespace Playbook.Time

/-- A date, as the number of days since 1 January 1970. -/
structure Date where
  day : Int
deriving DecidableEq

/-- Year, month and day of a month. -/
structure Civil where
  year : Int
  month : Nat
  day : Nat
deriving DecidableEq

namespace Date

/-! ## The calendar -/

/-- Whether a year has 366 days. -/
def isLeap (y : Int) : Bool := y % 4 = 0 && (y % 100 ≠ 0 || y % 400 = 0)

/-- The length of a month. -/
def daysInMonth (y : Int) (m : Nat) : Nat :=
  if m = 2 then (if isLeap y then 29 else 28)
  else if m = 4 ∨ m = 6 ∨ m = 9 ∨ m = 11 then 30
  else 31

/-- The days in front of a month in a year that starts in March, months counted
from zero. -/
def daysBeforeMonth (m : Int) : Int := (153 * m + 2) / 5

/-- The days of four hundred years. -/
def daysPerEra : Int := 146097

/-- From the first day of the era that holds day zero to day zero. -/
def epochInEra : Int := 719468

/-- The day number of a civil date. -/
def ofCivil (c : Civil) : Date :=
  let y := if c.month ≤ 2 then c.year - 1 else c.year
  let m : Int := (c.month + 9) % 12
  let yearOfEra := y % 400
  let dayOfEra := yearOfEra * 365 + yearOfEra / 4 - yearOfEra / 100 + daysBeforeMonth m + c.day - 1
  ⟨y / 400 * daysPerEra + dayOfEra - epochInEra⟩

/-- The civil date of a day number. -/
def civil (d : Date) : Civil :=
  let z := d.day + epochInEra
  let dayOfEra := z % daysPerEra
  let yearOfEra := (dayOfEra - dayOfEra / 1460 + dayOfEra / 36524 - dayOfEra / 146096) / 365
  let dayOfYear := dayOfEra - (365 * yearOfEra + yearOfEra / 4 - yearOfEra / 100)
  let m := (5 * dayOfYear + 2) / 153
  let month := if m < 10 then m + 3 else m - 9
  let year := yearOfEra + z / daysPerEra * 400 + if month ≤ 2 then 1 else 0
  ⟨year, month.toNat, (dayOfYear - daysBeforeMonth m + 1).toNat⟩

/-- The day of the week, Sunday first. -/
def weekday (d : Date) : Nat := ((d.day + 4) % 7).toNat

/-- The first and the last year of a date that can be given. -/
def yearRange : Int × Int := (-262143, 262142)

/-- Whether a date can be given. -/
def inRange (d : Date) : Bool := yearRange.1 ≤ d.civil.year && d.civil.year ≤ yearRange.2

/-- The date with these parts, if the calendar has it. -/
def ofCivil? (c : Civil) : Option Date :=
  if yearRange.1 ≤ c.year ∧ c.year ≤ yearRange.2 ∧ 1 ≤ c.month ∧ c.month ≤ 12
      ∧ 1 ≤ c.day ∧ c.day ≤ daysInMonth c.year c.month then
    some (ofCivil c)
  else none

/-! ## Reading -/

/-- Read a year.  Without a sign it has at most four digits. -/
def takeYear (s : List Char) : Option (Int × List Char) :=
  match Text.trimStart s with
  | '-' :: rest => (Text.numberUpTo rest.length rest).map fun (n, tail) => (-(n : Int), tail)
  | '+' :: rest => (Text.numberUpTo rest.length rest).map fun (n, tail) => ((n : Int), tail)
  | rest => (Text.numberUpTo 4 rest).map fun (n, tail) => ((n : Int), tail)

/-- Read a number of one or two digits, blanks allowed in front. -/
def takePair (s : List Char) : Option (Nat × List Char) := Text.numberUpTo 2 (Text.trimStart s)

/-- Read one given character. -/
def takeMark (mark : Char) : List Char → Option (List Char)
  | c :: rest => if c = mark then some rest else none
  | [] => none

/-- Read a date `YYYY-MM-DD` that is the whole text. -/
def read (s : List Char) : Option Date := do
  let (year, s) ← takeYear s
  let s ← takeMark '-' s
  let (month, s) ← takePair s
  let s ← takeMark '-' s
  let (day, s) ← takePair s
  if s = [] then ofCivil? ⟨year, month, day⟩ else none

end Date

end Playbook.Time
