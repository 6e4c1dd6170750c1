import Playbook.Proofs.Number.Rounding
import Playbook.Proofs.Strategy.RoundTrip
import Playbook.Proofs.Trade.Mirror
import Playbook.Proofs.Trade.Plan
import Playbook.Proofs.Trade.Signal

/-!
# Playbook.Proofs.Trade.Exclusion

A strategy for both sides is the union of its copies for one side.  It tries the
long side first; this matters for breakouts that are confirmed by a wick only, as
for all other rules at most one side has a signal (`signal_exclusive`).

* A price cannot have left an opening range through both ends: the triggers do
  not lie within the range, and rounding keeps it so.
* The price before a pullback was on one side of the average.
* A close cannot have left a channel through both ends, because the high of a
  channel of well-formed candles is not below its low.
-/

namespace Playbook

open Number

/-! ## levels -/

namespace Level

/-- A level that is moved in favour of a long trade does not become lower. -/
theorem le_favorable_long {x distance : Float} (hx : x.isFinite = true) (hd : 0.0 ≤ distance) :
    x ≤ favorable .long x distance :=
  le_add_self hx (mul_nonneg_of_pos (by decide) (by decide) hd)

theorem favorable_short_le {x distance : Float} (hx : x.isFinite = true) (hd : 0.0 ≤ distance) :
    favorable .short x distance ≤ x := by
  have hneg : Negates (-x) x := by simpa using negates_neg (-x)
  have hlong : -x ≤ favorable .long (-x) distance :=
    le_favorable_long (by rw [isFinite_neg, hx]) hd
  exact ((favorable_opposite .long hneg distance).le hneg).mpr hlong

end Level

/-! ## opening range -/

theorem Symbol.contract_tickSize (x : Symbol) :
    0.0 < x.contract.tickSize ∧ x.contract.tickSize.isFinite = true := by
  cases x <;> decide

/-- A number of ticks that is not below zero is a distance that is not below zero. -/
theorem Symbol.tickDistance_nonneg (x : Symbol) {ticks : Float} (h : 0.0 ≤ ticks) :
    0.0 ≤ x.contract.tickDistance ticks := by
  obtain ⟨hpos, hfin⟩ := x.contract_tickSize
  rw [Contract.tickDistance, mul_swap]
  exact mul_nonneg_of_pos hpos hfin h

namespace OpeningRange.Rules

/-- The two triggers are on both sides of the range, so a price cannot cross both at once. -/
theorem signal_exclusive (rules : Rules) (c : Contract)
    (hbuffer : 0.0 ≤ c.tickDistance rules.bufferTicks) (m : Context) :
    ¬(rules.signal c .long m = true ∧ rules.signal c .short m = true) := by
  intro h
  obtain ⟨r, price, hr, hprice, hlong⟩ := signal_eq_true_iff.mp h.1
  obtain ⟨r', price', hr', hprice', hshort⟩ := signal_eq_true_iff.mp h.2
  obtain rfl : r = r' := Option.some.inj (hr.symm.trans hr')
  obtain rfl : price = price' := Option.some.inj (hprice.symm.trans hprice')
  have habove : rules.trigger c r .long < price := of_decide_eq_true (Level.beyond_of_crossed hlong)
  have hbelow : price < rules.trigger c r .short :=
    of_decide_eq_true (Level.beyond_of_crossed hshort)
  have hsound := (Option.filter_eq_some_iff.mp hr).2
  simp only [isTradable, Bool.and_eq_true, decide_eq_true_eq] at hsound
  obtain ⟨⟨⟨-, hhigh⟩, hlow⟩, hwide⟩ := hsound
  have hloop : price < price := by
    calc price < rules.trigger c r .short := hbelow
      _ ≤ r.low := Level.favorable_short_le hlow hbuffer
      _ < r.high := hwide
      _ ≤ rules.trigger c r .long := Level.le_favorable_long hhigh hbuffer
      _ < price := habove
  exact lt_asymm hloop hloop

end OpeningRange.Rules

/-! ## pullback -/

/-- A candle cannot close on both sides of the average. -/
theorem Pullback.Rules.signal_exclusive (rules : Pullback.Rules) (c : Contract) (m : Context) :
    ¬(rules.signal c .long m = true ∧ rules.signal c .short m = true) := by
  intro h
  obtain ⟨-, average, last, haverage, hlast, hlong⟩ := signal_eq_true_iff.mp h.1
  obtain ⟨-, average', last', haverage', hlast', hshort⟩ := signal_eq_true_iff.mp h.2
  obtain rfl : average = average' := Option.some.inj (haverage.symm.trans haverage')
  obtain rfl : last = last' := Option.some.inj (hlast.symm.trans hlast')
  have habove : average < approach m last := of_decide_eq_true (beyond_of_confirms hlong)
  have hbelow : approach m last < average := of_decide_eq_true (beyond_of_confirms hshort)
  exact lt_asymm habove hbelow

/-! ## breakout -/

/-- The prices of a candle that is well-formed are in order. -/
theorem Candle.isSane_spec {c : Candle} (h : c.isSane = true) :
    c.high.isFinite = true ∧ c.low.isFinite = true ∧ c.low ≤ c.high := by
  simp only [isSane, isVoid, Bool.and_eq_true, Bool.not_not, decide_eq_true_eq] at h
  obtain ⟨⟨⟨⟨⟨⟨⟨⟨-, hhigh⟩, hlow⟩, -⟩, hle⟩, -⟩, -⟩, -⟩, -⟩ := h
  exact ⟨hhigh, hlow, hle⟩

namespace Channel

/-- No candle is higher than its channel. -/
theorem high_le {cs : List Candle} (hsane : ∀ c ∈ cs, c.isSane = true) {c : Candle}
    (hc : c ∈ cs) : c.high ≤ (ofCandles cs).high := by
  refine le_foldl_larger (by decide) ?_ c.high (.tail _ (List.mem_map_of_mem hc))
  intro y hy
  obtain ⟨c', hc', rfl⟩ := List.mem_map.mp hy
  exact isNaN_eq_false (Candle.isSane_spec (hsane c' hc')).1

/-- And none is lower: upside down, none is higher. -/
theorem low_le {cs : List Candle} (hsane : ∀ c ∈ cs, c.isSane = true) {c : Candle}
    (hc : c ∈ cs) : (ofCandles cs).low ≤ c.low := by
  have hmirror : ∀ c ∈ cs.map Candle.mirror, c.isSane = true := by
    intro c hc
    obtain ⟨c', hc', rfl⟩ := List.mem_map.mp hc
    rw [c'.isSane_mirror, hsane c' hc']
  have h := high_le hmirror (List.mem_map_of_mem hc)
  rw [ofCandles_mirror] at h
  exact (negated_le_negated _ _).mp h

/-- The channel of some candles has a low end and a high end. -/
theorem low_le_high {cs : List Candle} (hsane : ∀ c ∈ cs, c.isSane = true) (hne : cs ≠ []) :
    (ofCandles cs).low ≤ (ofCandles cs).high := by
  obtain ⟨c, hc⟩ := List.exists_mem_of_ne_nil cs hne
  calc (ofCandles cs).low ≤ c.low := low_le hsane hc
    _ ≤ c.high := (Candle.isSane_spec (hsane c hc)).2.2
    _ ≤ (ofCandles cs).high := high_le hsane hc

end Channel

/-- There is no window without candles. -/
theorem Context.window_ne_nil {m : Context} {lookback : Nat} {cs : List Candle}
    (h : m.window lookback = some cs) : cs ≠ [] := by
  rw [window] at h
  split at h
  · contradiction
  · next hlong =>
    rw [not_or, not_lt] at hlong
    cases h
    rw [Ne, List.drop_eq_nil_iff, List.length_dropLast]
    omega

namespace Breakout.Rules

/-- A channel is at least as high as it is low. -/
theorem low_le_high_of_channel {rules : Rules} {m : Context} {ch : Channel}
    (h : rules.channel m = some ch) : ch.low ≤ ch.high := by
  rw [channel, Option.map_eq_some_iff] at h
  obtain ⟨cs, hcs, rfl⟩ := h
  obtain ⟨hwindow, hsane⟩ := Option.filter_eq_some_iff.mp hcs
  exact Channel.low_le_high (List.all_eq_true.mp hsane) (m.window_ne_nil hwindow)

/-- A close cannot be beyond both ends of a channel; a wick can, at both ends of one candle. -/
theorem signal_exclusive {rules : Rules} (hclose : rules.confirmation = .close) (m : Context) :
    ¬(rules.signal .long m = true ∧ rules.signal .short m = true) := by
  intro h
  obtain ⟨ch, last, hch, hlast, hlong⟩ := signal_eq_true_iff.mp h.1
  obtain ⟨ch', last', hch', hlast', hshort⟩ := signal_eq_true_iff.mp h.2
  obtain rfl : ch = ch' := Option.some.inj (hch.symm.trans hch')
  obtain rfl : last = last' := Option.some.inj (hlast.symm.trans hlast')
  have hprobe (side : Side) : rules.probe side last = last.close := by
    simp only [probe, hclose]
  rw [hprobe] at hlong hshort
  have habove : ch.high < last.close := of_decide_eq_true hlong
  have hbelow : last.close < ch.low := of_decide_eq_true hshort
  have hloop : ch.high < ch.high := by
    calc ch.high < last.close := habove
      _ < ch.low := hbelow
      _ ≤ ch.high := low_le_high_of_channel hch
  exact lt_asymm hloop hloop

end Breakout.Rules

/-! ## all patterns -/

/-- Breakout rules that look at the wick of the last candle. -/
def EntryRules.ConfirmsByWick : EntryRules → Prop
  | .breakout r => r.confirmation = .wick
  | _ => False

namespace Strategy

/-- The buffer of an opening range is not below zero. -/
theorem bufferTicks_nonneg {document : Json} {s : Strategy} (h : ofJson document = .ok s)
    {r : OpeningRange.Rules} (hr : s.entry = .openingRange r) : 0.0 ≤ r.bufferTicks := by
  obtain ⟨o, -, hsections⟩ := (reads_strategy [] document s).mp h
  obtain ⟨v, -, members, -, hentry⟩ := hsections.entry
  rw [hr] at hentry
  cases hentry with
  | openingRange hrules =>
      obtain ⟨v, -, -, hbounds⟩ | ⟨-, habsent⟩ := hrules.buffer
      · exact hbounds
      · rw [habsent]
        decide

/-- At most one side has a signal, except for wicks. -/
theorem signal_exclusive {document : Json} {s : Strategy} (h : ofJson document = .ok s)
    (hwick : ¬s.entry.ConfirmsByWick) (m : Context) :
    ¬(s.entry.signal s.contract .long m = true ∧ s.entry.signal s.contract .short m = true) := by
  cases hrules : s.entry with
  | openingRange r =>
      exact r.signal_exclusive _ (s.symbol.tickDistance_nonneg (bufferTicks_nonneg h hrules)) m
  | pullback r => exact r.signal_exclusive _ m
  | breakout r =>
      have hclose : r.confirmation = .close := by
        rw [hrules] at hwick
        cases hconfirmation : r.confirmation with
        | close => rfl
        | wick => exact absurd hconfirmation hwick
      exact r.signal_exclusive hclose m

/-! ## one side and both sides -/

/-- The copy of a strategy for one side. -/
def only (s : Strategy) (side : Side) : Strategy := { s with direction := side.only }

/-- With one side allowed the plan is the one for this side. -/
theorem plan_only_eq (tz : ZoneDatabase) (s : Strategy) (side : Side) (m : Context)
    (balance : Float) : (s.only side).plan tz m balance = s.sidePlan tz side m balance := by
  have hside : (s.only side).entrySide m = if s.fires side m then some side else none :=
    s.entrySide_only side m
  rw [plan_eq_bind, hside]
  by_cases hfires : s.fires side m = true
  · rw [if_pos hfires]
    rfl
  · rw [if_neg hfires, sidePlan_of_not_fires hfires]
    rfl

/-- With both sides allowed the long side is tried first. -/
theorem entrySide_both {s : Strategy} (hboth : s.direction = .both) (m : Context) :
    s.entrySide m = ((s.only .long).entrySide m).or ((s.only .short).entrySide m) := by
  have hlong : (s.only .long).entrySide m = if s.fires .long m then some .long else none :=
    s.entrySide_only .long m
  have hshort : (s.only .short).entrySide m = if s.fires .short m then some .short else none :=
    s.entrySide_only .short m
  rw [hlong, hshort, entrySide, hboth, Direction.sides, List.find?_cons, List.find?_singleton]
  cases s.fires .long m <;> rfl

theorem plan_both {s : Strategy} (hboth : s.direction = .both) (tz : ZoneDatabase) (m : Context)
    (balance : Float) :
    s.plan tz m balance =
      ((s.only .long).plan tz m balance).or ((s.only .short).plan tz m balance) := by
  have hsome := s.isSome_sidePlan tz .long m balance
  rw [plan_only_eq, plan_only_eq, plan_eq_bind, entrySide, hboth, Direction.sides,
    List.find?_cons, List.find?_singleton]
  by_cases hlong : s.fires .long m = true
  · rw [hlong]
    change s.sidePlan tz .long m balance = _
    by_cases hopen : s.isOpen tz m = true
    · rw [hopen, hlong] at hsome
      obtain ⟨p, hp⟩ := Option.isSome_iff_exists.mp hsome
      rw [hp, Option.some_or]
    · simp [sidePlan, hopen]
  · rw [sidePlan_of_not_fires hlong, Option.none_or, Bool.eq_false_of_not_eq_true hlong]
    by_cases hshort : s.fires .short m = true
    · rw [if_pos hshort]
      rfl
    · rw [if_neg hshort, sidePlan_of_not_fires hshort]
      rfl

/-- **Both sides**: a strategy for both sides enters as its copy for the long side
does, or else as its copy for the short side does.  Unless it is a breakout that is
confirmed by a wick, at most one side has a signal; so the copies never plan two
trades, and it does not matter which of them is asked first. -/
theorem both_eq_union {document : Json} {s : Strategy} (h : ofJson document = .ok s) :
    (s.direction = .both → ∀ m,
        s.entrySide m = ((s.only .long).entrySide m).or ((s.only .short).entrySide m) ∧
          ∀ tz balance, s.plan tz m balance =
            ((s.only .long).plan tz m balance).or ((s.only .short).plan tz m balance)) ∧
      (¬s.entry.ConfirmsByWick → ∀ m,
        ¬(s.entry.signal s.contract .long m = true ∧ s.entry.signal s.contract .short m = true) ∧
          ((s.only .long).entrySide m = none ∨ (s.only .short).entrySide m = none) ∧
            ∀ tz balance, (s.only .long).plan tz m balance = none ∨
              (s.only .short).plan tz m balance = none) := by
  constructor
  · intro hboth m
    exact ⟨entrySide_both hboth m, fun tz balance => plan_both hboth tz m balance⟩
  · intro hwick m
    have hsignal := signal_exclusive h hwick m
    have hfires : ¬s.fires .long m = true ∨ ¬s.fires .short m = true := by
      rw [← not_and_or]
      intro hfires
      rw [fires, fires, Bool.and_eq_true, Bool.and_eq_true] at hfires
      exact hsignal ⟨hfires.1.1, hfires.2.1⟩
    refine ⟨hsignal, ?_, ?_⟩
    · refine hfires.imp (fun hlong => ?_) fun hshort => ?_
      · exact (s.entrySide_only .long m).trans (if_neg hlong)
      · exact (s.entrySide_only .short m).trans (if_neg hshort)
    · intro tz balance
      rw [plan_only_eq, plan_only_eq]
      exact hfires.imp sidePlan_of_not_fires sidePlan_of_not_fires

/-- The sample allows both sides, and its pattern does not signal both at once. -/
theorem both_eq_union_ofSample :
    ofJson sample = .ok ofSample ∧
      (∀ m, ofSample.entrySide m =
        ((ofSample.only .long).entrySide m).or ((ofSample.only .short).entrySide m)) ∧
      ∀ m, ¬(ofSample.entry.signal ofSample.contract .long m = true ∧
        ofSample.entry.signal ofSample.contract .short m = true) := by
  refine ⟨ofJson_sample, fun m => ?_, fun m => ?_⟩
  · exact ((both_eq_union ofJson_sample).1 rfl m).1
  · exact ((both_eq_union ofJson_sample).2 not_false m).1

-- A wick can leave a channel through both ends, and both sides have a signal then.
example :
    let rules : Breakout.Rules := ⟨2, .wick, .fixed ⟨8.0, .ticks⟩, .risk 2.0⟩
    let inner : Candle := ⟨⟨0, 0⟩, 100.0, 101.0, 99.0, 100.0, 0.0⟩
    let outer : Candle := ⟨⟨0, 0⟩, 100.0, 102.0, 98.0, 100.0, 0.0⟩
    let m : Context := ⟨[inner, inner, outer], none, .empty, none, none, ⟨0, 0⟩⟩
    rules.signal .long m = true ∧ rules.signal .short m = true := by
  decide

end Strategy

end Playbook
