import Playbook.Time.Instant

/-!
# Playbook.Zone.Basic

The civil time of a region: its offset from universal time at each instant.

* `offsetAt` is the offset in force, `wallAt` what clocks show;
* `instantsShowing` goes the other way: all instants at which clocks show a
  given time, none in a gap and two in an overlap;
* `localize` picks one instant for each time: the earliest, or, in a gap, the
  one that shows an hour later.  In the last hour of the calendar there is no
  hour later, so that a time which is not shown then means nothing.

Seconds of clocks are counted as `Time.wall` counts them.
-/

namespace Playbook

/-- An offset from universal time, in seconds, and whether daylight saving is
part of it. -/
structure Offset where
  seconds : Int
  daylight : Bool
deriving DecidableEq

/-- A time zone: the offset before the first change, and the changes with the
instants from which they hold, in ascending order. -/
structure Zone where
  initial : Offset
  changes : List (Int × Offset)

namespace Zone

/-- The offset in force at an instant. -/
def offsetAt (z : Zone) (t : Int) : Offset :=
  ((z.changes.takeWhile fun c => c.1 ≤ t).getLast?).elim z.initial (·.2)

/-- What calendar and clock show at an instant. -/
def wallAt (z : Zone) (t : Int) : Int := t + (z.offsetAt t).seconds

/-- The offsets that are ever in force, in seconds. -/
def offsets (z : Zone) : List Int :=
  (z.initial.seconds :: z.changes.map (·.2.seconds)).eraseDups

/-- The instants at which calendar and clock show `wall`; the date in universal
time is one that can be given. -/
def instantsShowing (z : Zone) (wall : Int) : List Int :=
  (z.offsets.map fun o => wall - o).filter fun t =>
    z.wallAt t = wall && (Time.dateOf t).inRange

/-- The first instant at which calendar and clock show `wall`. -/
def earliestShowing (z : Zone) (wall : Int) : Option Int := (z.instantsShowing wall).min?

/-- How far a time in a gap is moved on, in seconds. -/
def gapShift : Int := 3600

/-- Whether a time on the wall is in a gap and moved on. -/
def isMoved (z : Zone) (wall : Int) : Bool :=
  (z.earliestShowing wall).isNone && (z.earliestShowing (wall + gapShift)).isSome

/-- The instant that a time on the wall means.  A time that is shown twice
means the earlier instant; one that is never shown is moved on by an hour, and
read as universal time if that is never shown either.  The date to which it is
moved has to be one that can be given. -/
def localize (z : Zone) (wall : Int) : Option Int :=
  match z.earliestShowing wall with
  | some t => some t
  | none =>
    if (Time.dateOf (wall + gapShift)).inRange then
      some ((z.earliestShowing (wall + gapShift)).getD wall)
    else none

end Zone

end Playbook
