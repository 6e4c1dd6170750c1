import Playbook.Json.Value
import Playbook.Proofs.Number.Value
import Playbook.Proofs.Time.Clock
import Playbook.Strategy.Rules
import Playbook.Zone.Description

/-!
# Playbook.Proofs.Strategy.Schema

The schema of strategy documents, as relations between JSON values and what they
mean.  Nothing here reads a document: a relation lists the fields of an object
with their bounds and defaults, and fields that it does not list do not matter.

* `Required` and `Optional` are the two kinds of fields, null counting as absent;
* a choice by name is an inductive relation with one constructor for each name;
* `Document` is the relation between documents and strategies.
-/

namespace Playbook.Schema

open Number Time

/-! ## fields of an object -/

/-- The members of an object. -/
abbrev Members := List (String × Json)

variable {α : Type}

/-- An object has a field.  Null counts as absent, and of several members with
the same name the first one counts. -/
def Has (o : Members) (name : String) (v : Json) : Prop := o.lookup name = some v ∧ v ≠ .null

/-- An object does not have a field. -/
def Lacks (o : Members) (name : String) : Prop := ∀ v, ¬Has o name v

/-- A field that has to be there, with what its value means. -/
def Required (o : Members) (name : String) (means : Json → α → Prop) (x : α) : Prop :=
  ∃ v, Has o name v ∧ means v x

/-- A field that may be absent, which has a meaning too. -/
def Optional (o : Members) (name : String) (absent : α) (means : Json → α → Prop) (x : α) : Prop :=
  Required o name means x ∨ Lacks o name ∧ x = absent

/-! ## kinds of values -/

/-- An object, by what its members mean. -/
def IsObject (means : Members → α → Prop) (v : Json) (x : α) : Prop :=
  ∃ o, v = .object o ∧ means o x

/-- A text, by what it means. -/
def IsText (means : String → α → Prop) (v : Json) (x : α) : Prop := ∃ s, v = .string s ∧ means s x

/-- A number, which is binary64 and finite.  Integers are rounded to the nearest
one. -/
inductive IsNumber : Json → Float → Prop where
  | integer {n : Int} : (Float.ofInt n).isFinite → IsNumber (.integer n) (Float.ofInt n)
  | real {x : Float} : x.isFinite → IsNumber (.real x) x

/-- A number within bounds. -/
def IsNumberThat (bounds : Float → Prop) (v : Json) (x : Float) : Prop := IsNumber v x ∧ bounds x

/-- A number above zero. -/
def IsPositive : Json → Float → Prop := IsNumberThat fun x => 0.0 < x

/-- A number of ticks, not below zero. -/
def IsTicks : Json → Float → Prop := IsNumberThat fun x => 0.0 ≤ x

/-- A whole number from `least` to `most`, as an integer or as a number like
`15.0`. -/
def IsWhole (least most : Nat) (v : Json) (n : Nat) : Prop :=
  ∃ x, IsNumber v x ∧ IsValue x n ∧ least ≤ n ∧ n ≤ most

/-! ## names -/

/-- The names of patterns, one of which has two. -/
inductive PatternName : String → Pattern → Prop where
  | orb : PatternName "orb" .openingRange
  | openingRangeBreakout : PatternName "opening_range_breakout" .openingRange
  | pullback : PatternName "ema_pullback" .pullback
  | breakout : PatternName "breakout" .breakout

/-- The names of directions. -/
inductive DirectionName : String → Direction → Prop where
  | long : DirectionName "long" .long
  | short : DirectionName "short" .short
  | both : DirectionName "both" .both

/-- The names of units. -/
inductive UnitName : String → DistanceUnit → Prop where
  | ticks : UnitName "ticks" .ticks
  | points : UnitName "points" .points

/-- The names of confirmations of a pullback. -/
inductive PullbackConfirmationName : String → Pullback.Confirmation → Prop where
  | touch : PullbackConfirmationName "touch" .touch
  | bounce : PullbackConfirmationName "bounce" .bounce

/-- The names of confirmations of a breakout. -/
inductive BreakoutConfirmationName : String → Breakout.Confirmation → Prop where
  | close : BreakoutConfirmationName "close" .close
  | wick : BreakoutConfirmationName "wick" .wick

/-- The symbol of a contract, in any case of ASCII letters and with blanks around
it. -/
def SymbolText (s : String) (x : Symbol) : Prop :=
  ∃ b t b', s.toList = b ++ t ++ b' ∧ Text.AllBlank b ∧ Text.AllBlank b' ∧
    Text.lower t = Text.lower x.text.toList

/-! ## distances and methods -/

/-- A fixed distance, in ticks if there is no unit. -/
structure FixedDistance (o : Members) (d : Distance) : Prop where
  value : Required o "value" IsPositive d.value
  unit : Optional o "unit" .ticks (IsText UnitName) d.unit

/-- An object chooses a method. -/
def Method (o : Members) (name : String) : Prop := Has o "method" (.string name)

/-- The positive value of a method. -/
def Value (o : Members) (x : Float) : Prop := Required o "value" IsPositive x

/-! ## opening range -/

/-- Stops of an opening-range entry. -/
inductive OpeningStop (o : Members) : OpeningRange.Stop → Prop where
  | percentage {x : Float} : Method o "percentage" →
      Required o "value" (IsNumberThat fun x => 0.0 < x ∧ x ≤ 100.0) x →
      OpeningStop o (.percentage x)
  | oppositeSide : Method o "opposite_side" → OpeningStop o .oppositeSide
  | fixed {d : Distance} : Method o "fixed_distance" → FixedDistance o d → OpeningStop o (.fixed d)
  | atr {x : Float} : Method o "atr_multiple" → Value o x → OpeningStop o (.atr x)

/-- Targets of an opening-range entry. -/
inductive OpeningTarget (o : Members) : OpeningRange.Target → Prop where
  | risk {x : Float} : Method o "r_multiple" → Value o x → OpeningTarget o (.risk x)
  | extension {x : Float} : Method o "extension" → Value o x → OpeningTarget o (.extension x)
  | fixed {d : Distance} : Method o "fixed_distance" → FixedDistance o d →
      OpeningTarget o (.fixed d)

/-- The rules of opening-range entries. -/
structure OpeningRules (o : Members) (r : OpeningRange.Rules) : Prop where
  period : Required o "periodMinutes" (IsWhole 5 1440) r.periodMinutes
  buffer : Optional o "breakoutBufferTicks" 0.0 IsTicks r.bufferTicks
  stop : Required o "stop" (IsObject OpeningStop) r.stop
  target : Required o "target" (IsObject OpeningTarget) r.target

/-! ## pullback -/

/-- A band of the relative strength index. -/
structure Band (o : Members) (b : Pullback.RsiBand) : Prop where
  min : Required o "min" (IsNumberThat fun x => 0.0 ≤ x ∧ x ≤ 100.0) b.min
  max : Required o "max" (IsNumberThat fun x => 0.0 ≤ x ∧ x ≤ 100.0) b.max
  ordered : b.min < b.max

/-- A band that is there. -/
def SomeBand (o : Members) (b : Option Pullback.RsiBand) : Prop :=
  ∃ band, Band o band ∧ b = some band

/-- Stops of a pullback entry. -/
inductive PullbackStop (o : Members) : Pullback.Stop → Prop where
  | swing {x : Float} : Method o "structure" → Optional o "bufferTicks" 1.0 IsTicks x →
      PullbackStop o (.swing x)
  | atr {x : Float} : Method o "atr_multiple" → Value o x → PullbackStop o (.atr x)
  | fixed {d : Distance} : Method o "fixed_distance" → FixedDistance o d → PullbackStop o (.fixed d)

/-- Targets of a pullback entry. -/
inductive PullbackTarget (o : Members) : Pullback.Target → Prop where
  | risk {x : Float} : Method o "r_multiple" → Value o x → PullbackTarget o (.risk x)

/-- The rules of pullback entries.  The absence of a band is the absence of the
filter. -/
structure PullbackRules (o : Members) (r : Pullback.Rules) : Prop where
  period : Required o "emaPeriod" (IsWhole 2 500) r.emaPeriod
  confirmation : Optional o "confirmation" .bounce (IsText PullbackConfirmationName) r.confirmation
  tolerance : Optional o "touchToleranceTicks" 2.0 IsTicks r.toleranceTicks
  band : Optional o "rsiFilter" none (IsObject SomeBand) r.rsiBand
  stop : Required o "stop" (IsObject PullbackStop) r.stop
  target : Optional o "target" (.risk 2.0) (IsObject PullbackTarget) r.target

/-! ## breakout -/

/-- Stops of a breakout entry. -/
inductive BreakoutStop (o : Members) : Breakout.Stop → Prop where
  | level {x : Float} : Method o "breakout_level" → Optional o "bufferTicks" 1.0 IsTicks x →
      BreakoutStop o (.level x)
  | atr {x : Float} : Method o "atr_multiple" → Value o x → BreakoutStop o (.atr x)
  | fixed {d : Distance} : Method o "fixed_distance" → FixedDistance o d → BreakoutStop o (.fixed d)

/-- Targets of a breakout entry. -/
inductive BreakoutTarget (o : Members) : Breakout.Target → Prop where
  | risk {x : Float} : Method o "r_multiple" → Value o x → BreakoutTarget o (.risk x)
  | extension {x : Float} : Method o "extension" → Value o x → BreakoutTarget o (.extension x)

/-- The rules of breakout entries. -/
structure BreakoutRules (o : Members) (r : Breakout.Rules) : Prop where
  lookback : Optional o "lookbackPeriods" 20 (IsWhole 2 500) r.lookback
  confirmation : Optional o "confirmation" .close (IsText BreakoutConfirmationName) r.confirmation
  stop : Required o "stop" (IsObject BreakoutStop) r.stop
  target : Required o "target" (IsObject BreakoutTarget) r.target

/-! ## sections -/

/-- The rules of entries, by the pattern of the strategy. -/
inductive Entry (o : Members) : EntryRules → Prop where
  | openingRange {r : OpeningRange.Rules} : OpeningRules o r → Entry o (.openingRange r)
  | pullback {r : Pullback.Rules} : PullbackRules o r → Entry o (.pullback r)
  | breakout {r : Breakout.Rules} : BreakoutRules o r → Entry o (.breakout r)

/-- How much to risk. -/
structure RiskLimits (o : Members) (r : Risk) : Prop where
  percent : Required o "riskPercent" (IsNumberThat fun x => 0.0 < x ∧ x ≤ 5.0) r.percent
  maxContracts : Required o "maxContracts" (IsWhole 1 (2 ^ 32 - 1)) r.maxContracts

/-- A text that tells a clock time. -/
def ClockText (s : String) (c : Clock) : Prop := c.Tells s.toList

/-- The kinds of sessions.  Only a custom session has hours of its own, and its
ends differ. -/
inductive Kind (o : Members) : SessionKind → Prop where
  | ny : Has o "session" (.string "ny") → Kind o .ny
  | globex : Has o "session" (.string "globex") → Kind o .globex
  | all : Has o "session" (.string "all") → Kind o .all
  | custom {start stop : Clock} : Has o "session" (.string "custom") →
      Required o "customStart" (IsText ClockText) start →
      Required o "customEnd" (IsText ClockText) stop → start ≠ stop → Kind o (.custom start stop)

/-- A text that describes a zone. -/
def ZoneText (s : String) (z : ZoneName) : Prop := ZoneName.ofDescription? s = some z

/-- A session, in the zone of New York if there is none. -/
structure SessionHours (o : Members) (s : Session) : Prop where
  kind : Kind o s.kind
  zone : Optional o "timezone" ZoneName.trader (IsText ZoneText) s.zone

/-! ## documents -/

/-- The instrument of a strategy. -/
def Instrument (o : Members) (x : Symbol) : Prop := Required o "symbol" (IsText SymbolText) x

/-- The sections of a document. -/
structure Sections (o : Members) (s : Strategy) : Prop where
  pattern : Required o "pattern" (IsText PatternName) s.pattern
  instrument : Required o "instrument" (IsObject Instrument) s.symbol
  direction : Required o "direction" (IsText DirectionName) s.direction
  entry : Required o "entry" (IsObject Entry) s.entry
  risk : Required o "risk" (IsObject RiskLimits) s.risk
  session : Required o "session" (IsObject SessionHours) s.session

/-- A document that describes a strategy. -/
def Document : Json → Strategy → Prop := IsObject Sections

end Playbook.Schema
