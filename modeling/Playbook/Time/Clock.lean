import Playbook.Time.Date

/-!
# Playbook.Time.Clock

The time that a clock shows, to the second.

* `read` and `write` are the form `HH:MM`; `write` has two digits for each
  part, `read` is content with one;
* `readLong` and `writeLong` are the form `HH:MM:SS`.

A leap second, which is put in behind another one, counts as that one.
-/

namespace Playbook.Time

/-- A time of day. -/
structure Clock where
  hour : Fin 24
  minute : Fin 60
  second : Fin 60
  /-- Whether it is the leap second behind this second. -/
  leap : Bool
deriving DecidableEq

namespace Clock

/-! ## Counting -/

/-- Whole minutes since midnight. -/
def minuteOfDay (c : Clock) : Nat := c.hour * 60 + c.minute

/-- Seconds since midnight. -/
def secondOfDay (c : Clock) : Nat := c.minuteOfDay * 60 + c.second

/-- The clock time a number of seconds after midnight, days left out. -/
def ofSecond (n : Nat) : Clock where
  hour := ⟨n / 3600 % 24, Nat.mod_lt _ (by decide)⟩
  minute := ⟨n / 60 % 60, Nat.mod_lt _ (by decide)⟩
  second := ⟨n % 60, Nat.mod_lt _ (by decide)⟩
  leap := false

/-- The clock time with these parts, if there is one; second 60 is the leap
second of its minute. -/
def ofParts? (hour minute second : Nat) : Option Clock :=
  if h : hour < 24 ∧ minute < 60 ∧ second ≤ 60 then
    some {
      hour := ⟨hour, h.1⟩
      minute := ⟨minute, h.2.1⟩
      second := ⟨min second 59, by omega⟩
      leap := second = 60 }
  else none

/-! ## Reading and writing -/

/-- Read `HH:MM` in front of a text. -/
def take (s : List Char) : Option ((Nat × Nat) × List Char) := do
  let (hour, s) ← Date.takePair s
  let s ← Date.takeMark ':' s
  let (minute, s) ← Date.takePair s
  return ((hour, minute), s)

/-- Read `HH:MM`, with blanks around it. -/
def read (s : List Char) : Option Clock :=
  match take (Text.trim s) with
  | some ((hour, minute), []) => ofParts? hour minute 0
  | _ => none

/-- Read `HH:MM` or `HH:MM:SS`. -/
def readLong (s : List Char) : Option Clock :=
  match take s with
  | some ((hour, minute), []) => ofParts? hour minute 0
  | some ((hour, minute), ':' :: rest) =>
    match Date.takePair rest with
    | some (second, []) => ofParts? hour minute second
    | _ => none
  | _ => none

/-- Hours and minutes with two digits each. -/
def writeMinutes (hour minute : Nat) : List Char :=
  Text.padded 2 hour ++ ':' :: Text.padded 2 minute

/-- Write `HH:MM`. -/
def write (c : Clock) : String := String.ofList (writeMinutes c.hour c.minute)

/-- The number of the second; a leap second has the next one. -/
def secondNumber (c : Clock) : Nat := c.second + c.leap.toNat

/-- Write `HH:MM:SS`. -/
def writeLong (c : Clock) : String :=
  String.ofList (writeMinutes c.hour c.minute ++ ':' :: Text.padded 2 c.secondNumber)

end Clock

end Playbook.Time
