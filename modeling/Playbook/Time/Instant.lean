import Playbook.Time.Clock

/-!
# Playbook.Time.Instant

Points in time, counted from the start of 1 January 1970 in universal time,
and their text in RFC 3339.

* `read` accepts any offset and is lenient about blanks; digits of a fraction
  behind the ninth are dropped;
* `write` gives universal time with the fewest of 0, 3, 6 or 9 digits of a
  fraction that lose nothing.

A leap second is the second in front of it with a billion nanoseconds or more.
The date of an instant in universal time is one that can be given.
-/

namespace Playbook.Time

/-- A point in time. -/
structure Instant where
  second : Int
  nano : Nat
deriving DecidableEq

/-- The seconds of a day. -/
def secondsPerDay : Int := 86400

/-- What calendar and clock on a wall show, in seconds: the instant at which
universal time shows the same. -/
def wall (date : Date) (clock : Clock) : Int := date.day * secondsPerDay + clock.secondOfDay

/-- The date of a number of seconds. -/
def dateOf (second : Int) : Date := ⟨second / secondsPerDay⟩

/-- The clock time of a number of seconds. -/
def clockOf (second : Int) : Clock := Clock.ofSecond (second % secondsPerDay).toNat

namespace Instant

/-! ## Reading -/

/-- Read nanoseconds behind a point. -/
def takeFraction : List Char → Option (Nat × List Char)
  | '.' :: rest =>
    match Text.digitsUpTo 9 rest with
    | ([], _) => none
    | (ds, tail) => some (Text.value ds * Nat.pow 10 (9 - ds.length), tail.dropWhile Char.isDigit)
  | rest => some (0, rest)

/-- Read the sign of an offset. -/
def takeOffsetSign : List Char → Option (Int × List Char)
  | '+' :: rest => some (1, rest)
  | '-' :: rest => some (-1, rest)
  | '\u2212' :: rest => some (-1, rest)
  | _ => none

/-- Read two digits. -/
def takeTwoDigits : List Char → Option (Nat × List Char)
  | a :: b :: rest => if a.isDigit && b.isDigit then some (Text.value [a, b], rest) else none
  | _ => none

/-- Read an offset from universal time, in seconds. -/
def takeOffset (s : List Char) : Option (Int × List Char) :=
  match s with
  | 'Z' :: rest => some (0, rest)
  | 'z' :: rest => some (0, rest)
  | a :: b :: c :: rest =>
    if Text.lower [a, b, c] = "utc".toList then some (0, rest)
    else do
      let (sign, s) ← takeOffsetSign s
      let (hours, s) ← takeTwoDigits s
      let (minutes, s) ← takeTwoDigits (s.dropWhile fun c => c = ':' || Text.isBlank c)
      if minutes < 60 ∧ hours < 24 then some (sign * (hours * 3600 + minutes * 60 : Nat), s)
      else none
  | _ => none

/-- Read one given character, blanks allowed in front. -/
def takeSpacedMark (mark : Char) (s : List Char) : Option (List Char) :=
  Date.takeMark mark (Text.trimStart s)

/-- Read the mark between a date and a clock time. -/
def takeDateEnd : List Char → Option (List Char)
  | 'T' :: rest => some rest
  | 't' :: rest => some rest
  | ' ' :: rest => some rest
  | _ => none

/-- The instant at which calendar and clock are off universal time by some
seconds and show this. -/
def ofOffset? (date : Date) (clock : Clock) (nano : Nat) (offset : Int) : Option Instant :=
  let second := wall date clock - offset
  if (dateOf second).inRange then some ⟨second, nano + clock.leap.toNat * 1000000000⟩ else none

/-- Read an instant that is the whole text. -/
def read (s : List Char) : Option Instant := do
  let (year, s) ← Date.takeYear s
  let s ← takeSpacedMark '-' s
  let (month, s) ← Date.takePair s
  let s ← takeSpacedMark '-' s
  let (day, s) ← Date.takePair s
  let s ← takeDateEnd s
  let (hour, s) ← Date.takePair s
  let s ← takeSpacedMark ':' s
  let (minute, s) ← Date.takePair s
  let s ← takeSpacedMark ':' s
  let (second, s) ← Date.takePair s
  let (nano, s) ← takeFraction s
  let (offset, s) ← takeOffset (Text.trimStart s)
  let date ← Date.ofCivil? ⟨year, month, day⟩
  let clock ← Clock.ofParts? hour minute second
  if Text.trimStart s = [] then ofOffset? date clock nano offset else none

/-! ## Writing -/

/-- A year; outside of four digits it has a sign. -/
def writeYear (y : Int) : List Char :=
  if 0 ≤ y ∧ y ≤ 9999 then Text.padded 4 y.toNat
  else (if y < 0 then '-' else '+') :: Text.padded 4 y.natAbs

/-- The fraction of a second, below a billion nanoseconds. -/
def writeFraction (nano : Nat) : List Char :=
  if nano = 0 then []
  else if nano % 1000000 = 0 then '.' :: Text.padded 3 (nano / 1000000)
  else if nano % 1000 = 0 then '.' :: Text.padded 6 (nano / 1000)
  else '.' :: Text.padded 9 nano

/-- The text of an instant in universal time. -/
def write (t : Instant) : String :=
  let civil := (dateOf t.second).civil
  let clock := clockOf t.second
  let leap := t.nano / 1000000000
  String.ofList <|
    writeYear civil.year ++ '-' :: Text.padded 2 civil.month ++ '-' :: Text.padded 2 civil.day
      ++ 'T' :: Clock.writeMinutes clock.hour clock.minute
      ++ ':' :: Text.padded 2 (clock.second + leap) ++ writeFraction (t.nano % 1000000000) ++ ['Z']

end Instant

end Playbook.Time
