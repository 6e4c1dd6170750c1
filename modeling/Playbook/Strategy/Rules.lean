import Playbook.Instrument
import Playbook.Session.Window
import Playbook.Side

/-!
# Playbook.Strategy.Rules

Strategies: which contract to trade in which direction, when to enter, where
to put the stop and the target, how much to risk, and in which session.

There are three patterns of entries, each with rules of its own.  A strategy
that was read from a document satisfies the bounds that its reader checks; the
types themselves do not carry them.
-/

namespace Playbook

/-! ## Patterns -/

/-- The patterns of entries. -/
inductive Pattern where
  /-- The price leaves the opening range of the session. -/
  | openingRange
  /-- The price comes back to a moving average and turns. -/
  | pullback
  /-- A candle leaves the channel of the candles before it. -/
  | breakout
deriving DecidableEq

namespace Pattern

/-- The written form of a pattern. -/
def name : Pattern → String
  | .openingRange => "orb"
  | .pullback => "ema_pullback"
  | .breakout => "breakout"

/-- The written forms in the order of messages. -/
def names : List String := [Pattern.openingRange, .pullback, .breakout].map name

/-- The pattern that a name means.  One of them has a long name, too. -/
def ofName? : String → Option Pattern
  | "orb" => some .openingRange
  | "opening_range_breakout" => some .openingRange
  | "ema_pullback" => some .pullback
  | "breakout" => some .breakout
  | _ => none

end Pattern

/-! ## Opening range -/

namespace OpeningRange

/-- Where the stop of an opening-range entry is. -/
inductive Stop where
  /-- A part of the range, in percent, back from the side that was left. -/
  | percentage (value : Float)
  /-- One tick beyond the opposite side of the range. -/
  | oppositeSide
  | fixed (distance : Distance)
  | atr (multiple : Float)
deriving BEq

/-- Where the target of an opening-range entry is. -/
inductive Target where
  | risk (multiple : Float)
  /-- A multiple of the size of the range. -/
  | extension (multiple : Float)
  | fixed (distance : Distance)
deriving BEq

/-- The rules of opening-range entries. -/
structure Rules where
  periodMinutes : Nat
  bufferTicks : Float
  stop : Stop
  target : Target
deriving BEq

end OpeningRange

/-! ## Pullback to a moving average -/

namespace Pullback

/-- What the last candle has to do. -/
inductive Confirmation where
  /-- To touch the average. -/
  | touch
  /-- To close on the side of the trend as well. -/
  | bounce
deriving DecidableEq

/-- The band in which the relative strength index has to be. -/
structure RsiBand where
  min : Float
  max : Float
deriving BEq

/-- Whether a value lies in the band; the ends belong to it. -/
def RsiBand.allows (band : RsiBand) (rsi : Float) : Bool := band.min ≤ rsi && rsi ≤ band.max

/-- Where the stop of a pullback entry is. -/
inductive Stop where
  /-- Beyond the latest swing. -/
  | swing (bufferTicks : Float)
  | atr (multiple : Float)
  | fixed (distance : Distance)
deriving BEq

/-- Where the target of a pullback entry is. -/
inductive Target where
  | risk (multiple : Float)
deriving BEq

/-- The rules of pullback entries. -/
structure Rules where
  emaPeriod : Nat
  confirmation : Confirmation
  toleranceTicks : Float
  rsiBand : Option RsiBand
  stop : Stop
  target : Target
deriving BEq

end Pullback

/-! ## Breakout from a channel -/

namespace Breakout

/-- Which price of the last candle has to leave the channel. -/
inductive Confirmation where
  | close
  | wick
deriving DecidableEq

/-- Where the stop of a breakout entry is. -/
inductive Stop where
  /-- Beyond the level that was broken. -/
  | level (bufferTicks : Float)
  | atr (multiple : Float)
  | fixed (distance : Distance)
deriving BEq

/-- Where the target of a breakout entry is. -/
inductive Target where
  | risk (multiple : Float)
  /-- A multiple of the height of the channel. -/
  | extension (multiple : Float)
deriving BEq

/-- The rules of breakout entries. -/
structure Rules where
  lookback : Nat
  confirmation : Confirmation
  stop : Stop
  target : Target
deriving BEq

end Breakout

/-! ## Strategies -/

/-- The rules of entries, by pattern. -/
inductive EntryRules where
  | openingRange (rules : OpeningRange.Rules)
  | pullback (rules : Pullback.Rules)
  | breakout (rules : Breakout.Rules)
deriving BEq

/-- The pattern of entry rules. -/
def EntryRules.pattern : EntryRules → Pattern
  | .openingRange _ => .openingRange
  | .pullback _ => .pullback
  | .breakout _ => .breakout

/-- How much to risk on a trade. -/
structure Risk where
  /-- Percent of the balance. -/
  percent : Float
  maxContracts : Nat
deriving BEq

/-- A trading strategy.  Two strategies are compared with the order of numbers,
for which both zeros are equal. -/
structure Strategy where
  symbol : Symbol
  direction : Direction
  entry : EntryRules
  risk : Risk
  session : Session
deriving BEq

namespace Strategy

/-- The pattern of a strategy. -/
def pattern (s : Strategy) : Pattern := s.entry.pattern

/-- The contract of a strategy. -/
def contract (s : Strategy) : Contract := s.symbol.contract

end Strategy

end Playbook
