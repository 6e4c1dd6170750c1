import Playbook.Proofs.Strategy.Equality
import Playbook.Proofs.Strategy.Reader

/-!
# Playbook.Proofs.Strategy.Bounds

The bounds of the numbers in a strategy that was read from a document.

The types of strategies do not carry these bounds; the reader checks them, and
`Strategy.entry_bounded` and `Strategy.risk_bounded` take them out of the schema
once for all.
-/

namespace Playbook

open Number Schema

/-! ## bounds -/

/-- A finite number above zero. -/
def Positive (x : Float) : Prop := x.isFinite = true ∧ 0.0 < x

/-- A finite number not below zero. -/
def NotNegative (x : Float) : Prop := x.isFinite = true ∧ 0.0 ≤ x

/-- A stop of an opening-range entry within its bounds. -/
def OpeningRange.Stop.Bounded : OpeningRange.Stop → Prop
  | .percentage value => Positive value
  | .oppositeSide => True
  | .fixed d => Positive d.value
  | .atr multiple => Positive multiple

/-- A target of an opening-range entry within its bounds. -/
def OpeningRange.Target.Bounded : OpeningRange.Target → Prop
  | .risk multiple => Positive multiple
  | .extension multiple => Positive multiple
  | .fixed d => Positive d.value

/-- A stop of a pullback entry within its bounds. -/
def Pullback.Stop.Bounded : Pullback.Stop → Prop
  | .swing bufferTicks => NotNegative bufferTicks
  | .atr multiple => Positive multiple
  | .fixed d => Positive d.value

/-- A target of a pullback entry within its bounds. -/
def Pullback.Target.Bounded : Pullback.Target → Prop
  | .risk multiple => Positive multiple

/-- A stop of a breakout entry within its bounds. -/
def Breakout.Stop.Bounded : Breakout.Stop → Prop
  | .level bufferTicks => NotNegative bufferTicks
  | .atr multiple => Positive multiple
  | .fixed d => Positive d.value

/-- A target of a breakout entry within its bounds. -/
def Breakout.Target.Bounded : Breakout.Target → Prop
  | .risk multiple => Positive multiple
  | .extension multiple => Positive multiple

/-- Entry rules within their bounds. -/
def EntryRules.Bounded : EntryRules → Prop
  | .openingRange r => NotNegative r.bufferTicks ∧ r.stop.Bounded ∧ r.target.Bounded
  | .pullback r => r.stop.Bounded ∧ r.target.Bounded
  | .breakout r => r.stop.Bounded ∧ r.target.Bounded

/-- Limits of what is risked within their bounds. -/
structure Risk.Bounded (r : Risk) : Prop where
  percent : Positive r.percent
  percent_le : r.percent ≤ 5.0
  one_le : 1 ≤ r.maxContracts
  le_largest : r.maxContracts ≤ 2 ^ 32 - 1

/-! ## fields -/

section fields

variable {o : Members} {name : String} {x : Float}

/-- A required number with a bound above zero is positive. -/
theorem positive_of_required {bounds : Float → Prop} (h : Required o name (IsNumberThat bounds) x)
    (hbounds : bounds x → 0.0 < x) : Positive x := by
  obtain ⟨v, -, hnumber, hx⟩ := h
  exact ⟨isFinite_of_isNumber hnumber, hbounds hx⟩

theorem positive_of_value (h : Value o x) : Positive x := positive_of_required h id

/-- Ticks are not negative, whether they are read or stand in for an absent field. -/
theorem notNegative_of_ticks {absent : Float} (habsent : NotNegative absent)
    (h : Optional o name absent IsTicks x) : NotNegative x := by
  obtain ⟨v, -, hnumber, hx⟩ | ⟨-, rfl⟩ := h
  · exact ⟨isFinite_of_isNumber hnumber, hx⟩
  · exact habsent

/-- What follows from the members of an object follows from a field with the object. -/
theorem of_required_object {α : Type} {means : Members → α → Prop} {P : Prop} {x : α}
    (h : Required o name (IsObject means) x) (hmeans : ∀ {o}, means o x → P) : P := by
  obtain ⟨v, -, members, -, hx⟩ := h
  exact hmeans hx

end fields

/-! ## sections -/

/-- Whatever its method, an accepted stop has numbers within their bounds. -/
theorem OpeningRange.Stop.bounded {o : Members} {stop : OpeningRange.Stop}
    (h : OpeningStop o stop) : stop.Bounded := by
  cases h with
  | percentage _ h => exact positive_of_required h And.left
  | oppositeSide _ => trivial
  | fixed _ h => exact positive_of_value h.value
  | atr _ h => exact positive_of_value h

theorem OpeningRange.Target.bounded {o : Members} {target : OpeningRange.Target}
    (h : OpeningTarget o target) : target.Bounded := by
  cases h with
  | risk _ h => exact positive_of_value h
  | extension _ h => exact positive_of_value h
  | fixed _ h => exact positive_of_value h.value

/-- The buffer beyond a swing is the only number that may be zero. -/
theorem Pullback.Stop.bounded {o : Members} {stop : Pullback.Stop} (h : PullbackStop o stop) :
    stop.Bounded := by
  cases h with
  | swing _ h => exact notNegative_of_ticks (by constructor <;> decide) h
  | atr _ h => exact positive_of_value h
  | fixed _ h => exact positive_of_value h.value

theorem Pullback.Target.bounded {o : Members} {target : Pullback.Target}
    (h : PullbackTarget o target) : target.Bounded := by
  cases h with
  | risk _ h => exact positive_of_value h

theorem Breakout.Stop.bounded {o : Members} {stop : Breakout.Stop} (h : BreakoutStop o stop) :
    stop.Bounded := by
  cases h with
  | level _ h => exact notNegative_of_ticks (by constructor <;> decide) h
  | atr _ h => exact positive_of_value h
  | fixed _ h => exact positive_of_value h.value

theorem Breakout.Target.bounded {o : Members} {target : Breakout.Target}
    (h : BreakoutTarget o target) : target.Bounded := by
  cases h with
  | risk _ h => exact positive_of_value h
  | extension _ h => exact positive_of_value h

/-- The numbers of an accepted entry are within their bounds, whatever its pattern. -/
theorem EntryRules.bounded {o : Members} {rules : EntryRules} (h : Entry o rules) :
    rules.Bounded := by
  cases h with
  | openingRange h =>
      exact ⟨notNegative_of_ticks (by constructor <;> decide) h.buffer,
        of_required_object h.stop OpeningRange.Stop.bounded,
        of_required_object h.target OpeningRange.Target.bounded⟩
  | pullback h =>
      refine ⟨of_required_object h.stop Pullback.Stop.bounded, ?_⟩
      obtain htarget | ⟨-, habsent⟩ := h.target
      · exact of_required_object htarget Pullback.Target.bounded
      · rw [habsent]
        constructor <;> decide
  | breakout h =>
      exact ⟨of_required_object h.stop Breakout.Stop.bounded,
        of_required_object h.target Breakout.Target.bounded⟩

/-- No more than a twentieth is risked, and at least one contract is allowed. -/
theorem Risk.bounded {o : Members} {r : Risk} (h : RiskLimits o r) : r.Bounded := by
  obtain ⟨v, -, hnumber, hpos, hle⟩ := h.percent
  obtain ⟨v', -, x, -, -, hone, hlargest⟩ := h.maxContracts
  exact ⟨⟨isFinite_of_isNumber hnumber, hpos⟩, hle, hone, hlargest⟩

/-! ## strategies -/

namespace Strategy

variable {document : Json} {s : Strategy}

/-- **The bounds of entry rules** hold in every strategy that was read. -/
theorem entry_bounded (h : ofJson document = .ok s) : s.entry.Bounded := by
  obtain ⟨o, -, hsections⟩ := (reads_strategy [] document s).mp h
  exact of_required_object hsections.entry EntryRules.bounded

/-- **The bounds of what is risked** hold in every strategy that was read. -/
theorem risk_bounded (h : ofJson document = .ok s) : s.risk.Bounded := by
  obtain ⟨o, -, hsections⟩ := (reads_strategy [] document s).mp h
  exact of_required_object hsections.risk Risk.bounded

end Strategy

end Playbook
