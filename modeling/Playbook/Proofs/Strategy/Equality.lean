import Playbook.Proofs.Number.Equality
import Playbook.Proofs.Strategy.Schema

/-!
# Playbook.Proofs.Strategy.Equality

Strategies are compared with the order of numbers.  A strategy that some document
describes is `==` to itself, and whatever is `==` to it differs from it at most in
the signs of zeros (`Strategy.isKnown`).

Few numbers of a strategy can be zero: the ticks around a level, the lower end of a
band, and the ticks behind a stop.  `Strategy.negativeZeros` tells which of them are
negative zeros.
-/

namespace Playbook

open Number Schema

variable {α β : Type}

/-! ## the signs of zeros -/

/-- Whether a number is zero with a minus sign. -/
def Number.isNegativeZero (x : Float) : Bool := x.toBits == 0x8000000000000000

/-- Which numbers of a strategy are negative zeros, as far as it has them. -/
structure NegativeZeros where
  /-- The buffer beyond the opening range, or the tolerance around an average. -/
  ticks : Option Bool
  /-- The lower end of a band. -/
  bandMin : Option Bool
  /-- The buffer behind a stop. -/
  stopBuffer : Option Bool
deriving DecidableEq

/-- The buffer beyond a swing, if there is one. -/
def Pullback.Stop.negativeZero : Pullback.Stop → Option Bool
  | .swing bufferTicks => some (isNegativeZero bufferTicks)
  | _ => none

/-- The buffer beyond a level, if there is one. -/
def Breakout.Stop.negativeZero : Breakout.Stop → Option Bool
  | .level bufferTicks => some (isNegativeZero bufferTicks)
  | _ => none

/-- The numbers of an entry that may be zero. -/
def EntryRules.negativeZeros : EntryRules → NegativeZeros
  | .openingRange r => ⟨some (isNegativeZero r.bufferTicks), none, none⟩
  | .pullback r =>
    ⟨some (isNegativeZero r.toleranceTicks), r.rsiBand.map fun b => isNegativeZero b.min,
      r.stop.negativeZero⟩
  | .breakout r => ⟨none, none, r.stop.negativeZero⟩

/-- Where a strategy has negative zeros. -/
def Strategy.negativeZeros (s : Strategy) : NegativeZeros := s.entry.negativeZeros

/-! ## what is known by comparing -/

/-- A value that is `==` to itself, and to no other value with the same `zeros`. -/
structure IsKnown [BEq α] (zeros : α → β) (x : α) : Prop where
  beq_self : (x == x) = true
  eq_of_beq : ∀ y, (x == y) = true → zeros x = zeros y → x = y

/-- A constructor with one argument is compared by this argument. -/
theorem IsKnown.map {α' β' : Type} [BEq α] [BEq α'] {zeros : α → β} {zeros' : α' → β'} {x : α}
    (h : IsKnown zeros x) (c : α → α') (hself : (c x == c x) = (x == x))
    (hbeq : ∀ y, (c x == y) = true → ∃ x', y = c x' ∧ (x == x') = true)
    (hzeros : ∀ x', zeros' (c x) = zeros' (c x') → zeros x = zeros x') : IsKnown zeros' (c x) where
  beq_self := hself.trans h.beq_self
  eq_of_beq y hy hz := by
    obtain ⟨x', rfl, hx⟩ := hbeq y hy
    rw [h.eq_of_beq x' hx (hzeros x' hz)]

/-- Numbers in documents are finite, so none of them differs from itself. -/
theorem isFinite_of_isNumber {v : Json} {x : Float} (h : IsNumber v x) : x.isFinite = true := by
  cases h with
  | integer hx => exact hx
  | real hx => exact hx

/-- A finite number is known by `==` and the sign of its zero. -/
theorem isKnown_finite {x : Float} (h : x.isFinite = true) : IsKnown isNegativeZero x where
  beq_self := beq_self h
  eq_of_beq y hy hzeros := by
    obtain heq | ⟨s, t, hs, ht⟩ := eq_or_zeros_of_beq hy
    · exact heq
    · rw [← ofParts_parts x, ← ofParts_parts y, hs, ht] at hzeros ⊢
      cases s <;> cases t <;> first | rfl | contradiction

/-- A number above zero has no sign that has to be compared. -/
theorem isKnown_positive {x : Float} (h : x.isFinite = true) (hpos : 0.0 < x) :
    IsKnown (fun _ => ()) x where
  beq_self := beq_self h
  eq_of_beq _ hy _ := eq_of_beq_of_pos hpos hy

section fields

variable {o : Members} {name : String} {x absent : Float}

/-- A number of ticks may be zero, with either sign. -/
theorem isKnown_ticks (h : Optional o name absent IsTicks x) (habsent : absent.isFinite = true) :
    IsKnown isNegativeZero x := by
  obtain ⟨v, -, hx, -⟩ | ⟨-, rfl⟩ := h
  · exact isKnown_finite (isFinite_of_isNumber hx)
  · exact isKnown_finite habsent

/-- A positive number is known by `==` alone. -/
theorem isKnown_required {bounds : Float → Prop} (h : Required o name (IsNumberThat bounds) x)
    (hbounds : bounds x → 0.0 < x) : IsKnown (fun _ => ()) x := by
  obtain ⟨v, -, hx, hb⟩ := h
  exact isKnown_positive (isFinite_of_isNumber hx) (hbounds hb)

theorem isKnown_value (h : Value o x) : IsKnown (fun _ => ()) x := isKnown_required h id

theorem isKnown_distance {d : Distance} (h : FixedDistance o d) : IsKnown (fun _ => ()) d := by
  obtain ⟨value, unit⟩ := d
  have hvalue : IsKnown (fun _ => ()) value := isKnown_value h.value
  constructor
  · change (value == value && unit == unit) = true
    rw [hvalue.beq_self, BEq.rfl, Bool.and_self]
  · intro y hy _
    obtain ⟨value', unit'⟩ := y
    obtain ⟨hv, hu⟩ := Bool.and_eq_true_iff.mp hy
    rw [hvalue.eq_of_beq value' hv rfl, LawfulBEq.eq_of_beq hu]

/-- What is known of the meaning of an object is known of a field with it. -/
theorem isKnown_object {α β : Type} [BEq α] {zeros : α → β} {means : Members → α → Prop} {x : α}
    (h : Required o name (IsObject means) x) (hmeans : ∀ o', means o' x → IsKnown zeros x) :
    IsKnown zeros x := by
  obtain ⟨v, -, o', -, hx⟩ := h
  exact hmeans o' hx

end fields

/-! ## patterns -/

section patterns

variable {o : Members}

/-- No method of this stop has a number that may be zero. -/
theorem isKnown_openingStop {x : OpeningRange.Stop} (h : OpeningStop o x) :
    IsKnown (fun _ => ()) x := by
  cases h with
  | oppositeSide _ => exact ⟨rfl, fun y hy _ => by cases y <;> first | rfl | exact nomatch hy⟩
  | percentage _ hx =>
      refine (isKnown_required hx And.left).map OpeningRange.Stop.percentage rfl ?_ fun _ _ => rfl
      intro y hy
      cases y <;> first | exact ⟨_, rfl, hy⟩ | exact nomatch hy
  | fixed _ hd =>
      refine (isKnown_distance hd).map OpeningRange.Stop.fixed rfl ?_ fun _ _ => rfl
      intro y hy
      cases y <;> first | exact ⟨_, rfl, hy⟩ | exact nomatch hy
  | atr _ hx =>
      refine (isKnown_value hx).map OpeningRange.Stop.atr rfl ?_ fun _ _ => rfl
      intro y hy
      cases y <;> first | exact ⟨_, rfl, hy⟩ | exact nomatch hy

theorem isKnown_openingTarget {x : OpeningRange.Target} (h : OpeningTarget o x) :
    IsKnown (fun _ => ()) x := by
  cases h with
  | risk _ hx =>
      refine (isKnown_value hx).map OpeningRange.Target.risk rfl ?_ fun _ _ => rfl
      intro y hy
      cases y <;> first | exact ⟨_, rfl, hy⟩ | exact nomatch hy
  | extension _ hx =>
      refine (isKnown_value hx).map OpeningRange.Target.extension rfl ?_ fun _ _ => rfl
      intro y hy
      cases y <;> first | exact ⟨_, rfl, hy⟩ | exact nomatch hy
  | fixed _ hd =>
      refine (isKnown_distance hd).map OpeningRange.Target.fixed rfl ?_ fun _ _ => rfl
      intro y hy
      cases y <;> first | exact ⟨_, rfl, hy⟩ | exact nomatch hy

/-- The buffer is the only number of an opening range that may be zero. -/
theorem isKnown_openingRules {r : OpeningRange.Rules} (h : OpeningRules o r) :
    IsKnown (fun r => (EntryRules.openingRange r).negativeZeros) r := by
  obtain ⟨period, buffer, stop, target⟩ := r
  have hbuffer : IsKnown isNegativeZero buffer := isKnown_ticks h.buffer rfl
  have hstop : IsKnown (fun _ => ()) stop := isKnown_object h.stop fun _ => isKnown_openingStop
  have htarget : IsKnown (fun _ => ()) target :=
    isKnown_object h.target fun _ => isKnown_openingTarget
  constructor
  · change (period == period && (buffer == buffer && (stop == stop && target == target))) = true
    rw [BEq.rfl, hbuffer.beq_self, hstop.beq_self, htarget.beq_self]
    rfl
  · intro y hy hzeros
    obtain ⟨period', buffer', stop', target'⟩ := y
    obtain ⟨hp, hy⟩ := Bool.and_eq_true_iff.mp hy
    obtain ⟨hb, hy⟩ := Bool.and_eq_true_iff.mp hy
    obtain ⟨hs, ht⟩ := Bool.and_eq_true_iff.mp hy
    have hz : isNegativeZero buffer = isNegativeZero buffer' :=
      Option.some.inj (congrArg NegativeZeros.ticks hzeros)
    rw [LawfulBEq.eq_of_beq hp, hbuffer.eq_of_beq buffer' hb hz, hstop.eq_of_beq stop' hs rfl,
      htarget.eq_of_beq target' ht rfl]

/-- The lower end of a band may be zero, and then the upper one is not. -/
theorem isKnown_band {b : Pullback.RsiBand} (h : Band o b) :
    IsKnown (fun b => isNegativeZero b.min) b := by
  obtain ⟨min, max⟩ := b
  obtain ⟨⟨_, -, hmin, hlow, -⟩, ⟨_, -, hmax, -⟩, hlt⟩ := h
  have hmin : IsKnown isNegativeZero min := isKnown_finite (isFinite_of_isNumber hmin)
  have hmax : IsKnown (fun _ => ()) max := by
    refine isKnown_positive (isFinite_of_isNumber hmax) ?_
    calc (0.0 : Float) ≤ min := hlow
      _ < max := hlt
  constructor
  · change (min == min && max == max) = true
    rw [hmin.beq_self, hmax.beq_self, Bool.and_self]
  · intro y hy hzeros
    obtain ⟨min', max'⟩ := y
    obtain ⟨hl, hu⟩ := Bool.and_eq_true_iff.mp hy
    rw [hmin.eq_of_beq min' hl hzeros, hmax.eq_of_beq max' hu rfl]

theorem isKnown_someBand {b : Option Pullback.RsiBand}
    (h : Optional o "rsiFilter" none (IsObject SomeBand) b) :
    IsKnown (Option.map fun b => isNegativeZero b.min) b := by
  obtain ⟨_, -, _, -, band, hband, rfl⟩ | ⟨-, rfl⟩ := h
  · refine (isKnown_band hband).map some rfl ?_ fun _ hz => Option.some.inj hz
    intro y hy
    cases y <;> first | exact ⟨_, rfl, hy⟩ | exact nomatch hy
  · exact ⟨rfl, fun y hy _ => by cases y <;> first | rfl | exact nomatch hy⟩

theorem isKnown_pullbackStop {x : Pullback.Stop} (h : PullbackStop o x) :
    IsKnown Pullback.Stop.negativeZero x := by
  cases h with
  | swing _ hx =>
      refine (isKnown_ticks hx rfl).map Pullback.Stop.swing rfl ?_ fun _ hz => Option.some.inj hz
      intro y hy
      cases y <;> first | exact ⟨_, rfl, hy⟩ | exact nomatch hy
  | atr _ hx =>
      refine (isKnown_value hx).map Pullback.Stop.atr rfl ?_ fun _ _ => rfl
      intro y hy
      cases y <;> first | exact ⟨_, rfl, hy⟩ | exact nomatch hy
  | fixed _ hd =>
      refine (isKnown_distance hd).map Pullback.Stop.fixed rfl ?_ fun _ _ => rfl
      intro y hy
      cases y <;> first | exact ⟨_, rfl, hy⟩ | exact nomatch hy

theorem isKnown_pullbackTarget {x : Pullback.Target}
    (h : Optional o "target" (.risk 2.0) (IsObject PullbackTarget) x) :
    IsKnown (fun _ => ()) x := by
  have hrisk {multiple : Float} (h : IsKnown (fun _ => ()) multiple) :
      IsKnown (fun _ => ()) (Pullback.Target.risk multiple) := by
    refine h.map Pullback.Target.risk rfl ?_ fun _ _ => rfl
    intro y hy
    cases y
    exact ⟨_, rfl, hy⟩
  obtain ⟨_, -, _, -, hx⟩ | ⟨-, rfl⟩ := h
  · cases hx with
    | risk _ hx => exact hrisk (isKnown_value hx)
  · exact hrisk (isKnown_positive rfl (by decide +kernel))

/-- A pullback has a tolerance, a band and a stop that may hold zeros. -/
theorem isKnown_pullbackRules {r : Pullback.Rules} (h : PullbackRules o r) :
    IsKnown (fun r => (EntryRules.pullback r).negativeZeros) r := by
  obtain ⟨period, confirmation, tolerance, band, stop, target⟩ := r
  have htolerance : IsKnown isNegativeZero tolerance := isKnown_ticks h.tolerance rfl
  have hband : IsKnown (Option.map fun b => isNegativeZero b.min) band := isKnown_someBand h.band
  have hstop : IsKnown Pullback.Stop.negativeZero stop :=
    isKnown_object h.stop fun _ => isKnown_pullbackStop
  have htarget : IsKnown (fun _ => ()) target := isKnown_pullbackTarget h.target
  constructor
  · change (period == period && (confirmation == confirmation && (tolerance == tolerance &&
      (band == band && (stop == stop && target == target))))) = true
    rw [BEq.rfl, BEq.rfl, htolerance.beq_self, hband.beq_self, hstop.beq_self, htarget.beq_self]
    rfl
  · intro y hy hzeros
    obtain ⟨period', confirmation', tolerance', band', stop', target'⟩ := y
    obtain ⟨hp, hy⟩ := Bool.and_eq_true_iff.mp hy
    obtain ⟨hc, hy⟩ := Bool.and_eq_true_iff.mp hy
    obtain ⟨ht, hy⟩ := Bool.and_eq_true_iff.mp hy
    obtain ⟨hb, hy⟩ := Bool.and_eq_true_iff.mp hy
    obtain ⟨hs, hg⟩ := Bool.and_eq_true_iff.mp hy
    have hz : isNegativeZero tolerance = isNegativeZero tolerance' :=
      Option.some.inj (congrArg NegativeZeros.ticks hzeros)
    rw [LawfulBEq.eq_of_beq hp, LawfulBEq.eq_of_beq hc, htolerance.eq_of_beq tolerance' ht hz,
      hband.eq_of_beq band' hb (congrArg NegativeZeros.bandMin hzeros),
      hstop.eq_of_beq stop' hs (congrArg NegativeZeros.stopBuffer hzeros),
      htarget.eq_of_beq target' hg rfl]

theorem isKnown_breakoutStop {x : Breakout.Stop} (h : BreakoutStop o x) :
    IsKnown Breakout.Stop.negativeZero x := by
  cases h with
  | level _ hx =>
      refine (isKnown_ticks hx rfl).map Breakout.Stop.level rfl ?_ fun _ hz => Option.some.inj hz
      intro y hy
      cases y <;> first | exact ⟨_, rfl, hy⟩ | exact nomatch hy
  | atr _ hx =>
      refine (isKnown_value hx).map Breakout.Stop.atr rfl ?_ fun _ _ => rfl
      intro y hy
      cases y <;> first | exact ⟨_, rfl, hy⟩ | exact nomatch hy
  | fixed _ hd =>
      refine (isKnown_distance hd).map Breakout.Stop.fixed rfl ?_ fun _ _ => rfl
      intro y hy
      cases y <;> first | exact ⟨_, rfl, hy⟩ | exact nomatch hy

theorem isKnown_breakoutTarget {x : Breakout.Target} (h : BreakoutTarget o x) :
    IsKnown (fun _ => ()) x := by
  cases h with
  | risk _ hx =>
      refine (isKnown_value hx).map Breakout.Target.risk rfl ?_ fun _ _ => rfl
      intro y hy
      cases y <;> first | exact ⟨_, rfl, hy⟩ | exact nomatch hy
  | extension _ hx =>
      refine (isKnown_value hx).map Breakout.Target.extension rfl ?_ fun _ _ => rfl
      intro y hy
      cases y <;> first | exact ⟨_, rfl, hy⟩ | exact nomatch hy

/-- The stop is the only part of a breakout that may hold a zero. -/
theorem isKnown_breakoutRules {r : Breakout.Rules} (h : BreakoutRules o r) :
    IsKnown (fun r => (EntryRules.breakout r).negativeZeros) r := by
  obtain ⟨lookback, confirmation, stop, target⟩ := r
  have hstop : IsKnown Breakout.Stop.negativeZero stop :=
    isKnown_object h.stop fun _ => isKnown_breakoutStop
  have htarget : IsKnown (fun _ => ()) target :=
    isKnown_object h.target fun _ => isKnown_breakoutTarget
  constructor
  · change (lookback == lookback && (confirmation == confirmation &&
      (stop == stop && target == target))) = true
    rw [BEq.rfl, BEq.rfl, hstop.beq_self, htarget.beq_self]
    rfl
  · intro y hy hzeros
    obtain ⟨lookback', confirmation', stop', target'⟩ := y
    obtain ⟨hl, hy⟩ := Bool.and_eq_true_iff.mp hy
    obtain ⟨hc, hy⟩ := Bool.and_eq_true_iff.mp hy
    obtain ⟨hs, ht⟩ := Bool.and_eq_true_iff.mp hy
    rw [LawfulBEq.eq_of_beq hl, LawfulBEq.eq_of_beq hc,
      hstop.eq_of_beq stop' hs (congrArg NegativeZeros.stopBuffer hzeros),
      htarget.eq_of_beq target' ht rfl]

end patterns

/-! ## strategies -/

section strategies

variable {o : Members}

/-- Strategies that are `==` have the same pattern, so one law for each is enough. -/
theorem isKnown_entry {r : EntryRules} (h : Entry o r) : IsKnown EntryRules.negativeZeros r := by
  cases h with
  | openingRange hr =>
      refine (isKnown_openingRules hr).map EntryRules.openingRange rfl ?_ fun _ hz => hz
      intro y hy
      cases y <;> first | exact ⟨_, rfl, hy⟩ | exact nomatch hy
  | pullback hr =>
      refine (isKnown_pullbackRules hr).map EntryRules.pullback rfl ?_ fun _ hz => hz
      intro y hy
      cases y <;> first | exact ⟨_, rfl, hy⟩ | exact nomatch hy
  | breakout hr =>
      refine (isKnown_breakoutRules hr).map EntryRules.breakout rfl ?_ fun _ hz => hz
      intro y hy
      cases y <;> first | exact ⟨_, rfl, hy⟩ | exact nomatch hy

theorem isKnown_risk {r : Risk} (h : RiskLimits o r) : IsKnown (fun _ => ()) r := by
  obtain ⟨percent, maxContracts⟩ := r
  have hpercent : IsKnown (fun _ => ()) percent := isKnown_required h.percent And.left
  constructor
  · change (percent == percent && maxContracts == maxContracts) = true
    rw [hpercent.beq_self, BEq.rfl, Bool.and_self]
  · intro y hy _
    obtain ⟨percent', maxContracts'⟩ := y
    obtain ⟨hp, hm⟩ := Bool.and_eq_true_iff.mp hy
    rw [hpercent.eq_of_beq percent' hp rfl, LawfulBEq.eq_of_beq hm]

/-- **A strategy is known by comparing**, up to the signs of its zeros. -/
theorem Strategy.isKnown {document : Json} {s : Strategy} (h : Document document s) :
    IsKnown Strategy.negativeZeros s := by
  obtain ⟨o, -, h⟩ := h
  obtain ⟨symbol, direction, entry, risk, session⟩ := s
  have hentry : IsKnown EntryRules.negativeZeros entry :=
    isKnown_object h.entry fun _ => isKnown_entry
  have hrisk : IsKnown (fun _ => ()) risk := isKnown_object h.risk fun _ => isKnown_risk
  constructor
  · change (symbol == symbol && (direction == direction && (entry == entry &&
      (risk == risk && session == session)))) = true
    rw [BEq.rfl, BEq.rfl, hentry.beq_self, hrisk.beq_self, BEq.rfl]
    rfl
  · intro y hy hzeros
    obtain ⟨symbol', direction', entry', risk', session'⟩ := y
    obtain ⟨hx, hy⟩ := Bool.and_eq_true_iff.mp hy
    obtain ⟨hd, hy⟩ := Bool.and_eq_true_iff.mp hy
    obtain ⟨he, hy⟩ := Bool.and_eq_true_iff.mp hy
    obtain ⟨hr, hs⟩ := Bool.and_eq_true_iff.mp hy
    rw [LawfulBEq.eq_of_beq hx, LawfulBEq.eq_of_beq hd, hentry.eq_of_beq entry' he hzeros,
      hrisk.eq_of_beq risk' hr rfl, LawfulBEq.eq_of_beq hs]

end strategies

end Playbook
