import Playbook.Instrument
import Playbook.Number.Exact
import Playbook.Strategy.Problem

/-!
# Playbook.Trade.Sizing

How many contracts to trade: as many whole contracts as keep the loss at the
stop within a part of the balance.  A number of contracts is never rounded up,
except that a quotient a billionth below a whole number counts as it.
-/

namespace Playbook

/-- A rule for the size of trades in one contract. -/
structure Sizer where
  contract : Contract
  /-- Percent of the balance that may be lost. -/
  percent : Float
  maxContracts : Nat

namespace Sizer

/-- Added to a quotient before it is rounded down. -/
def tolerance : Float := 1e-9

/-- The least distance between entry and stop, in ticks. -/
def leastTicks : Float := 1e-6

/-- The dollars that may be lost; none for a balance that is not positive. -/
def budget (s : Sizer) (balance : Float) : Float :=
  if !balance.isFinite || balance ≤ 0.0 then 0.0 else balance * s.percent / 100.0

/-- The dollars that one contract loses at the stop. -/
def perContract (s : Sizer) (entry stop : Float) : Float :=
  s.contract.distanceDollars (entry - stop)

/-- Whether entry and stop are too close, or no prices at all. -/
def isDegenerate (s : Sizer) (entry stop : Float) : Bool :=
  !entry.isFinite || !stop.isFinite || (entry - stop).abs < s.contract.tickSize * leastTicks

/-- The number of contracts, or a fault if entry and stop are degenerate. -/
def quantity? (s : Sizer) (balance entry stop : Float) : Except Fault Nat :=
  if s.isDegenerate entry stop then .error (.degenerateRisk entry stop)
  else
    let budget := s.budget balance
    let per := s.perContract entry stop
    if budget ≤ 0.0 || !per.isFinite || per ≤ 0.0 then .ok 0
    else .ok (Number.floorWithin s.maxContracts (budget / per + tolerance))

/-- The number of contracts; none if entry and stop are degenerate. -/
def quantity (s : Sizer) (balance entry stop : Float) : Nat :=
  match s.quantity? balance entry stop with
  | .ok n => n
  | .error _ => 0

end Sizer

end Playbook
