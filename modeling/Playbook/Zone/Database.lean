
import Playbook.Zone.Basic
import Playbook.Zone.Name
import Playbook.Zone.Table.Africa
import Playbook.Zone.Table.America
import Playbook.Zone.Table.Asia
import Playbook.Zone.Table.Australia
import Playbook.Zone.Table.Etc
import Playbook.Zone.Table.Europe
import Playbook.Zone.Table.Links
import Playbook.Zone.Table.Oceans
import Playbook.Zone.Table.Pacific

/-!
# Playbook.Zone.Database

A time zone database gives every named zone its offsets.  All that depends on
zones takes the database as a parameter; `standard` is the one of the tables.

The tables hold the written form of each zone's history.  It has three fields
with semicolons between them; parts of a field have blanks or line feeds between
them.

1. The offsets that occur, in seconds; `d` behind one marks daylight saving.
   The first is the one before all changes.  Letters name them: `a`, `b`, ….
2. The changes: the letter of the new offset, and the seconds since the change
   before in base 36.
3. Changes that repeat every year: the first year, then two changes, each with
   the letter of the new offset, month, week (5 is the last) and day of the
   week (Sunday is 0), a slash, and the seconds on the clock from midnight.

Repeated changes are written out up to and including `lastYear`; after the last
change an offset stays in force.
-/

namespace Playbook.Zone.History

open Time (Date)

/-! ## Fields -/

/-- The instant from which the first change is counted. -/
def origin : Int := -9000000000

/-- The last year for which repeated changes are written out. -/
def lastYear : Int := 2099

/-- The value of a digit in base 36. -/
def digit (c : Char) : Nat := if c.isDigit then c.toNat - 48 else c.toNat - 87

/-- The value of a numeral in base 36. -/
def base36 (s : List Char) : Nat := s.foldl (fun n c => n * 36 + digit c) 0

/-- The value of a decimal integer. -/
def integer : List Char → Int
  | '-' :: ds => -(Text.value ds : Int)
  | ds => Text.value ds

/-- An offset. -/
def offset (s : List Char) : Offset :=
  ⟨integer (s.takeWhile (· ≠ 'd')), s.getLast? = some 'd'⟩

/-- The offset that a letter names. -/
def named (offsets : List Offset) (letter : Char) : Offset :=
  offsets.getD (letter.toNat - 97) ⟨0, false⟩

/-! ## Changes -/

/-- Changes, counted from the instant of the change before. -/
def changes (offsets : List Offset) (start : Int) : List (List Char) → List (Int × Offset)
  | (letter :: delta) :: rest =>
    let t := start + base36 delta
    (t, named offsets letter) :: changes offsets t rest
  | _ => []

/-- A change that repeats every year. -/
structure Yearly where
  offset : Offset
  month : Nat
  week : Nat
  weekday : Nat
  second : Int

/-- Read a change that repeats every year. -/
def yearly (offsets : List Offset) (s : List Char) : Yearly :=
  let fields := ((s.drop 1).takeWhile (· ≠ '/')).splitOn '.'
  { offset := named offsets (s.headD 'a')
    month := Text.value (fields.getD 0 [])
    week := Text.value (fields.getD 1 [])
    weekday := Text.value (fields.getD 2 [])
    second := integer ((s.dropWhile (· ≠ '/')).drop 1) }

/-- The date of a change in a year. -/
def Yearly.date (c : Yearly) (year : Int) : Date :=
  let first := Date.ofCivil ⟨year, c.month, 1⟩
  let day := (c.weekday + 7 - first.weekday) % 7 + 7 * (c.week - 1)
  if day < Date.daysInMonth year c.month then ⟨first.day + day⟩ else ⟨first.day + day - 7⟩

/-- The change in a year, when clocks showed `before` from universal time. -/
def Yearly.at (c : Yearly) (before : Offset) (year : Int) : Int × Offset :=
  ((c.date year).day * Time.secondsPerDay + c.second - before.seconds, c.offset)

/-- The two changes of a year, in order. -/
def yearOf (a b : Yearly) (year : Int) : List (Int × Offset) :=
  let x := a.at b.offset year
  let y := b.at a.offset year
  if x.1 ≤ y.1 then [x, y] else [y, x]

/-- The repeated changes. -/
def repeated (offsets : List Offset) : List (List Char) → List (Int × Offset)
  | [first, a, b] =>
    let first := integer first
    (List.range (lastYear + 1 - first).toNat).flatMap fun n : Nat =>
      yearOf (yearly offsets a) (yearly offsets b) (first + (n : Int))
  | _ => []

/-- The zone with a history. -/
def zone (s : List Char) : Zone :=
  match s.splitOn ';' with
  | [offsets, single, every] =>
    let offsets := (Text.words offsets).map offset
    { initial := offsets.headD ⟨0, false⟩
      changes := changes offsets origin (Text.words single) ++ repeated offsets (Text.words every) }
  | _ => ⟨⟨0, false⟩, []⟩

end Playbook.Zone.History

namespace Playbook

/-! ## Databases -/

/-- A time zone database. -/
abbrev ZoneDatabase := ZoneName → Zone

namespace Zone

/-- The histories of all zones that share no other zone's history. -/
def histories : List (String × String) :=
  Table.africa ++ Table.america ++ Table.antarctica ++ Table.asia ++ Table.atlantic
    ++ Table.australia ++ Table.etc ++ Table.europe ++ Table.indian ++ Table.pacific

/-- Universal time. -/
def universal : Zone := ⟨⟨0, false⟩, []⟩

/-- The database of the tables. -/
def standard : ZoneDatabase := fun name =>
  let source := (Table.links.lookup name.text).getD name.text
  (histories.lookup source).elim universal fun h => History.zone h.toList

end Zone

end Playbook
