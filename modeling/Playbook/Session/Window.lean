import Playbook.Zone.Database

/-!
# Playbook.Session.Window

The sessions to which a strategy is restricted.

* `Hours` are an arc of the clock: the minutes from a start up to an end, across
  midnight if the end comes first;
* `ExchangeTime.ofTrader` tells a trader's clock time on the exchange's clock: it
  goes from the trader's calendar and clock to an instant, and from there to the
  exchange's calendar and clock;
* named sessions have fixed hours on the exchange's clock.  A custom session has
  hours on the trader's clock; an instant is checked there (`Session.isOpen`), and
  `Session.hoursOn` tells the hours on the exchange's clock for one date.
-/

namespace Playbook

open Time (Date Clock)

/-! ## Daily hours -/

/-- Hours by minute of the day, without the last minute.  An end at 1440 is the
end of the day. -/
structure Hours where
  start : Nat
  stop : Nat
deriving DecidableEq

namespace Hours

/-- The minutes of a day. -/
def minutesPerDay : Nat := 1440

/-- Whether midnight lies inside. -/
def crossesMidnight (h : Hours) : Bool := h.stop < h.start

/-- Whether a minute is inside; minutes past a day count on the next day. -/
def contains (h : Hours) (minute : Nat) : Bool :=
  let m := minute % minutesPerDay
  if h.crossesMidnight then h.start ≤ m || m < h.stop else h.start ≤ m && m < h.stop

/-- The number of minutes inside. -/
def duration (h : Hours) : Nat :=
  if h.crossesMidnight then minutesPerDay - h.start + h.stop else h.stop - h.start

/-- A difference of words of 16 bits, if it is one. -/
def minus? (a b : UInt16) : Option UInt16 := if b ≤ a then some (a - b) else none

/-- A sum of words of 16 bits, if it is one. -/
def plus? (a b : UInt16) : Option UInt16 :=
  if a.toNat + b.toNat < UInt16.size then some (a + b) else none

/-- The number of minutes inside hours with ends of 16 bits, computed in 16
bits. -/
def wordDuration? (start stop : UInt16) : Option UInt16 :=
  if stop < start then (minus? 1440 start).bind fun toMidnight => plus? toMidnight stop
  else minus? stop start

/-- The written form, `HH:MM-HH:MM`. -/
def text (h : Hours) : String :=
  let clock (m : Nat) := Time.Clock.writeMinutes (m / 60) (m % 60)
  String.ofList (clock h.start ++ '-' :: clock h.stop)

end Hours

/-! ## The exchange's clock -/

namespace ZoneName

/-- The zone of the exchange. -/
def exchange : ZoneName := ⟨"America/Chicago", by decide +kernel⟩

/-- The zone of a trader who names none. -/
def trader : ZoneName := ⟨"America/New_York", by decide +kernel⟩

end ZoneName

/-- A time on the exchange's clock. -/
structure ExchangeTime where
  clock : Clock
  /-- Whether daylight saving is in force at the exchange. -/
  daylight : Bool
  /-- The date at the exchange minus the trader's date, in days. -/
  dayOffset : Int8
deriving DecidableEq

namespace ExchangeTime

/-- What the exchange's clock shows when a clock in the trader's zone shows
`clock` on `date`, if the trader's time means an instant and the exchange's date
is one that can be given.  A leap second stays one, unless it is moved out of a
gap. -/
def ofTrader (exchange trader : Zone) (clock : Clock) (date : Date) : Option ExchangeTime :=
  let shown := Time.wall date clock
  (trader.localize shown).bind fun t =>
    let wall := exchange.wallAt t
    if (Time.dateOf wall).inRange then
      some {
        clock := { Time.clockOf wall with leap := clock.leap && !trader.isMoved shown }
        daylight := (exchange.offsetAt t).daylight
        dayOffset := Int8.ofInt ((Time.dateOf wall).day - date.day) }
    else none

end ExchangeTime

/-! ## Sessions -/

/-- The kinds of sessions. -/
inductive SessionKind where
  /-- Regular trading hours. -/
  | ny
  /-- The electronic session over night. -/
  | globex
  /-- The whole day. -/
  | all
  /-- Hours on the trader's clock. -/
  | custom (start stop : Clock)
deriving DecidableEq

/-- The name of a kind. -/
def SessionKind.name : SessionKind → String
  | .ny => "ny"
  | .globex => "globex"
  | .all => "all"
  | .custom _ _ => "custom"

/-- A session.  Only the hours of a custom session are read in its zone. -/
structure Session where
  kind : SessionKind
  zone : ZoneName
deriving DecidableEq

namespace Session

/-- The hours of a session on its own clock. -/
def bounds (s : Session) : Hours :=
  match s.kind with
  | .ny => ⟨510, 900⟩
  | .globex => ⟨1080, 1020⟩
  | .all => ⟨0, Hours.minutesPerDay⟩
  | .custom start stop => ⟨start.minuteOfDay, stop.minuteOfDay⟩

/-- The zone of a session's own clock. -/
def clock (s : Session) : ZoneName :=
  match s.kind with
  | .custom _ _ => s.zone
  | _ => ZoneName.exchange

/-- The hours of a session on the exchange's clock, for a date, if both ends can
be told on that clock. -/
def hoursOn (tz : ZoneDatabase) (s : Session) (date : Date) : Option Hours :=
  match s.kind with
  | .custom start stop =>
    let told (c : Clock) := ExchangeTime.ofTrader (tz ZoneName.exchange) (tz s.zone) c date
    (told start).bind fun first =>
      (told stop).map fun last => ⟨first.clock.minuteOfDay, last.clock.minuteOfDay⟩
  | _ => some s.bounds

/-- Whether an instant falls into a session. -/
def isOpen (tz : ZoneDatabase) (s : Session) (second : Int) : Bool :=
  s.bounds.contains (Time.clockOf ((tz s.clock).wallAt second)).minuteOfDay

end Session

end Playbook
