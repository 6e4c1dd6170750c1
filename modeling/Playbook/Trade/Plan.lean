import Playbook.Trade.Breakout
import Playbook.Trade.OpeningRange
import Playbook.Trade.Pullback
import Playbook.Trade.Sizing

/-!
# Playbook.Trade.Plan

What a strategy decides in a context.

* `EntryRules` of any pattern tell the signal, and the prices of entry, stop and
  target for a side that the caller chooses;
* `Strategy.entrySide` is the side on which it enters: the signal holds, and
  entry, stop and target can be computed and stand in the right order;
* `Strategy.entryPrice`, `stopPrice`, `targetPrice` and `quantity` answer one
  question each, also when there is no entry;
* `Strategy.plan` has all answers for an entry within the session.
-/

namespace Playbook

/-! ## Entries of all patterns -/

namespace EntryRules

/-- Whether there is an entry on a side. -/
def signal (rules : EntryRules) (c : Contract) (side : Side) (m : Context) : Bool :=
  match rules with
  | .openingRange r => r.signal c side m
  | .pullback r => r.signal c side m
  | .breakout r => r.signal side m

/-- The price of an entry. -/
def entryPrice (rules : EntryRules) (side : Side) (m : Context) : Option Float :=
  match rules with
  | .openingRange _ => OpeningRange.Rules.entryPrice m
  | .pullback _ => Pullback.Rules.entryPrice m
  | .breakout r => r.entryPrice side m

/-- The stop of an entry at a price. -/
def stopPrice (rules : EntryRules) (c : Contract) (side : Side) (entry : Float) (m : Context) :
    Option Float :=
  match rules with
  | .openingRange r => r.stopPrice c side entry m
  | .pullback r => r.stopPrice c side entry m
  | .breakout r => r.stopPrice c side entry m

/-- The target of an entry at a price with a stop. -/
def targetPrice (rules : EntryRules) (c : Contract) (side : Side) (entry stop : Float)
    (m : Context) : Option Float :=
  match rules with
  | .openingRange r => r.targetPrice c side entry stop m
  | .pullback r => r.targetPrice side entry stop
  | .breakout r => r.targetPrice side entry stop m

end EntryRules

/-! ## Plans -/

/-- Entry, stop and target of a trade. -/
structure Levels where
  entry : Float
  stop : Float
  target : Float

/-- An entry with all that is decided about it. -/
structure Plan where
  side : Side
  entry : Float
  stop : Float
  target : Float
  contracts : Nat
  /-- The dollars that are lost at the stop. -/
  riskDollars : Float
  /-- The distance of the target over the distance of the stop. -/
  rewardRisk : Float

namespace Strategy

/-- The rule for the size of trades. -/
def sizer (s : Strategy) : Sizer := ⟨s.contract, s.risk.percent, s.risk.maxContracts⟩

/-- The levels of a trade on a side, if all can be computed and are in order. -/
def levels (s : Strategy) (side : Side) (m : Context) : Option Levels := do
  let entry ← s.entry.entryPrice side m
  let stop ← s.entry.stopPrice s.contract side entry m
  let target ← s.entry.targetPrice s.contract side entry stop m
  if Level.isOrdered side entry stop target then some ⟨entry, stop, target⟩ else none

/-- Whether a trade on a side can be entered. -/
def fires (s : Strategy) (side : Side) (m : Context) : Bool :=
  s.entry.signal s.contract side m && (s.levels side m).isSome

/-- The side on which to enter: the first one allowed that can be entered. -/
def entrySide (s : Strategy) (m : Context) : Option Side :=
  s.direction.sides.find? fun side => s.fires side m

/-- Whether to enter at all. -/
def shouldEnter (s : Strategy) (m : Context) : Bool := (s.entrySide m).isSome

/-- The side for which prices are given.  A strategy for both sides takes the
one on which it enters, or else the long one. -/
def priceSide (s : Strategy) (m : Context) : Side :=
  match s.direction with
  | .long => .long
  | .short => .short
  | .both => (s.entrySide m).getD .long

/-- The price of an entry. -/
def entryPrice (s : Strategy) (m : Context) : Option Float :=
  s.entry.entryPrice (s.priceSide m) m

/-- The stop of an entry at a price. -/
def stopPrice (s : Strategy) (entry : Float) (m : Context) : Option Float :=
  if entry.isFinite then s.entry.stopPrice s.contract (s.priceSide m) entry m else none

/-- The side of a trade with this entry and stop. -/
def sideOf (entry stop : Float) : Option Side :=
  if stop < entry then some .long else if entry < stop then some .short else none

/-- The target of an entry at a price with a stop. -/
def targetPrice (s : Strategy) (entry stop : Float) (m : Context) : Option Float :=
  if entry.isFinite && stop.isFinite then
    (sideOf entry stop).bind fun side => s.entry.targetPrice s.contract side entry stop m
  else none

/-- The number of contracts of a trade. -/
def quantity (s : Strategy) (balance entry stop : Float) : Nat :=
  s.sizer.quantity balance entry stop

/-- Whether a moment falls into the session. -/
def isOpen (tz : ZoneDatabase) (s : Strategy) (m : Context) : Bool :=
  s.session.isOpen tz m.time.second

/-- The plan of a trade on a side with these levels. -/
def planOf (s : Strategy) (side : Side) (l : Levels) (balance : Float) : Plan :=
  let contracts := s.quantity balance l.entry l.stop
  { side
    entry := l.entry
    stop := l.stop
    target := l.target
    contracts
    riskDollars := Float.ofNat contracts * s.sizer.perContract l.entry l.stop
    rewardRisk := (l.target - l.entry).abs / (l.entry - l.stop).abs }

/-- The plan of an entry; none outside of the session or without an entry. -/
def plan (tz : ZoneDatabase) (s : Strategy) (m : Context) (balance : Float) : Option Plan :=
  if s.isOpen tz m then do
    let side ← s.entrySide m
    let l ← s.levels side m
    return s.planOf side l balance
  else none

end Strategy

end Playbook
