import Playbook.Proofs.Market.Loss
import Playbook.Proofs.Trade.Exclusion

/-!
# Playbook.Proofs.Trade.Loss

Decisions fail closed: when inputs are lost, a trade may be suppressed, but none
comes up, changes its side, or moves its prices.

On one side this is so because each answer that is still given is the same
(`levels_within`, `fires_of_loses`).  A strategy for both sides goes on to the
short side if it cannot enter on the long one, and it would change its side if a
loss made it do so.  It does not: either only one side has a signal, or both
sides read the same inputs (`entrySide_within`).
-/

namespace Playbook

variable {m m' : Context}

/-! ## opening range -/

namespace OpeningRange.Rules

/-- Only the range can be lost, and without it there is no signal. -/
theorem signal_of_loses (rules : Rules) (c : Contract) (side : Side) (h : m.Loses m')
    (hsignal : rules.signal c side m' = true) : rules.signal c side m = true := by
  obtain ⟨r, price, hr, hprice, hcrossed⟩ := signal_eq_true_iff.mp hsignal
  rw [h.currentPrice] at hprice
  rw [h.referenceClose] at hcrossed
  exact signal_eq_true_iff.mpr ⟨r, price, h.tradableRange r hr, hprice, hcrossed⟩

/-- A stop needs its inputs, so it is lost with them. -/
theorem stopPrice_within (rules : Rules) (c : Contract) (side : Side) (entry : Float)
    (h : m.Loses m') :
    Within (rules.stopPrice c side entry m') (rules.stopPrice c side entry m) := by
  rw [stopPrice, stopPrice]
  cases rules.stop with
  | percentage value => exact h.tradableRange.map _
  | oppositeSide => exact h.tradableRange.map _
  | fixed d => exact .refl _
  | atr multiple => exact h.usableAtr.map _

theorem targetPrice_within (rules : Rules) (c : Contract) (side : Side) (entry stop : Float)
    (h : m.Loses m') :
    Within (rules.targetPrice c side entry stop m') (rules.targetPrice c side entry stop m) := by
  rw [targetPrice, targetPrice]
  cases rules.target with
  | risk multiple => exact .refl _
  | extension multiple => exact h.tradableRange.map _
  | fixed d => exact .refl _

end OpeningRange.Rules

/-! ## pullback -/

namespace Pullback.Rules

/-- A filter that lets entries pass without an index would not fail closed. -/
theorem rsiAllows_of_loses (rules : Rules) (h : m.Loses m') (hallows : rules.rsiAllows m' = true) :
    rules.rsiAllows m = true := by
  rw [rsiAllows] at hallows ⊢
  cases hband : rules.rsiBand with
  | none => rfl
  | some band =>
      rw [hband] at hallows
      exact h.usableRsi.any band.allows hallows

/-- Without its average, or without a strength index that is asked for, a pullback gives no
signal. -/
theorem signal_of_loses (rules : Rules) (c : Contract) (side : Side) (h : m.Loses m')
    (hsignal : rules.signal c side m' = true) : rules.signal c side m = true := by
  obtain ⟨hallows, average, last, haverage, hlast, hconfirms⟩ := signal_eq_true_iff.mp hsignal
  rw [h.lastCandle] at hlast
  rw [approach, h.previousCandle] at hconfirms
  exact signal_eq_true_iff.mpr ⟨rules.rsiAllows_of_loses h hallows, average, last,
    h.average rules.emaPeriod average haverage, hlast, hconfirms⟩

/-- Either swing may be lost without the other one. -/
theorem swing_within (side : Side) (h : m.Loses m') : Within (swing side m') (swing side m) := by
  cases side with
  | long => exact h.usableSwingLow
  | short => exact h.usableSwingHigh

/-- A stop at a swing is lost with the swing, one by the average range with that. -/
theorem stopPrice_within (rules : Rules) (c : Contract) (side : Side) (entry : Float)
    (h : m.Loses m') :
    Within (rules.stopPrice c side entry m') (rules.stopPrice c side entry m) := by
  rw [stopPrice, stopPrice]
  cases rules.stop with
  | swing bufferTicks => exact (swing_within side h).map _
  | atr multiple => exact h.usableAtr.map _
  | fixed d => exact .refl _

end Pullback.Rules

/-! ## breakout -/

namespace Breakout.Rules

/-- A channel is made of candles, and none is lost. -/
theorem channel_of_loses (rules : Rules) (h : m.Loses m') : rules.channel m' = rules.channel m := by
  rw [channel, channel, h.window]

/-- So the signals of a breakout are what they were. -/
theorem signal_of_loses (rules : Rules) (side : Side) (h : m.Loses m') :
    rules.signal side m' = rules.signal side m := by
  rw [signal, signal, rules.channel_of_loses h, h.lastCandle]

theorem entryPrice_of_loses (rules : Rules) (side : Side) (h : m.Loses m') :
    rules.entryPrice side m' = rules.entryPrice side m := by
  rw [entryPrice, entryPrice, rules.channel_of_loses h, h.currentPrice]

theorem targetPrice_of_loses (rules : Rules) (side : Side) (entry stop : Float) (h : m.Loses m') :
    rules.targetPrice side entry stop m' = rules.targetPrice side entry stop m := by
  rw [targetPrice, targetPrice, rules.channel_of_loses h]

/-- Of its stops only those by the average range can be lost. -/
theorem stopPrice_within (rules : Rules) (c : Contract) (side : Side) (entry : Float)
    (h : m.Loses m') :
    Within (rules.stopPrice c side entry m') (rules.stopPrice c side entry m) := by
  rw [stopPrice, stopPrice]
  cases rules.stop with
  | level bufferTicks => exact .of_eq (by rw [rules.channel_of_loses h])
  | atr multiple => exact h.usableAtr.map _
  | fixed d => exact .refl _

/-- Both sides need the same inputs: if one has a stop, the stop of the other is
where it was. -/
theorem stopPrice_of_isSome (rules : Rules) (c : Contract) {side : Side} {entry : Float}
    (h : m.Loses m') (hsome : (rules.stopPrice c side entry m').isSome = true) (side' : Side)
    (entry' : Float) : rules.stopPrice c side' entry' m' = rules.stopPrice c side' entry' m := by
  rw [stopPrice] at hsome
  rw [stopPrice, stopPrice]
  cases hstop : rules.stop with
  | level bufferTicks => rw [rules.channel_of_loses h]
  | atr multiple =>
      rw [hstop, Option.isSome_map] at hsome
      rw [h.usableAtr.eq_of_isSome hsome]
  | fixed d => rfl

end Breakout.Rules

/-! ## all patterns -/

namespace EntryRules

/-- No pattern signals more with less. -/
theorem signal_of_loses (rules : EntryRules) (c : Contract) (side : Side) (h : m.Loses m')
    (hsignal : rules.signal c side m' = true) : rules.signal c side m = true := by
  cases rules with
  | openingRange r => exact r.signal_of_loses c side h hsignal
  | pullback r => exact r.signal_of_loses c side h hsignal
  | breakout r => exact (r.signal_of_loses side h).symm.trans hsignal

/-- Entries of all patterns are prices, and these are known. -/
theorem entryPrice_of_loses (rules : EntryRules) (side : Side) (h : m.Loses m') :
    rules.entryPrice side m' = rules.entryPrice side m := by
  cases rules with
  | openingRange r => exact h.currentPrice
  | pullback r => exact h.currentPrice
  | breakout r => exact r.entryPrice_of_loses side h

theorem stopPrice_within (rules : EntryRules) (c : Contract) (side : Side) (entry : Float)
    (h : m.Loses m') :
    Within (rules.stopPrice c side entry m') (rules.stopPrice c side entry m) := by
  cases rules with
  | openingRange r => exact r.stopPrice_within c side entry h
  | pullback r => exact r.stopPrice_within c side entry h
  | breakout r => exact r.stopPrice_within c side entry h

theorem targetPrice_within (rules : EntryRules) (c : Contract) (side : Side)
    (entry stop : Float) (h : m.Loses m') :
    Within (rules.targetPrice c side entry stop m') (rules.targetPrice c side entry stop m) := by
  cases rules with
  | openingRange r => exact r.targetPrice_within c side entry stop h
  | pullback r => exact .refl _
  | breakout r => exact .of_eq (r.targetPrice_of_loses side entry stop h)

end EntryRules

/-! ## one side -/

namespace Strategy

/-- Levels are there if all three prices are. -/
theorem levels_within (s : Strategy) (side : Side) (h : m.Loses m') :
    Within (s.levels side m') (s.levels side m) := by
  refine Within.bind (.of_eq (s.entry.entryPrice_of_loses side h)) fun entry => ?_
  refine Within.bind (s.entry.stopPrice_within s.contract side entry h) fun stop => ?_
  exact Within.bind (s.entry.targetPrice_within s.contract side entry stop h) fun _ => .refl _

/-- A trade that can still be entered could be entered before, with the same prices. -/
theorem fires_of_loses (s : Strategy) (side : Side) (h : m.Loses m')
    (hfires : s.fires side m' = true) :
    s.fires side m = true ∧ s.levels side m' = s.levels side m := by
  rw [fires, Bool.and_eq_true] at hfires ⊢
  obtain ⟨hsignal, hlevels⟩ := hfires
  have heq := (s.levels_within side h).eq_of_isSome hlevels
  exact ⟨⟨s.entry.signal_of_loses s.contract side h hsignal, heq ▸ hlevels⟩, heq⟩

theorem sidePlan_within (tz : ZoneDatabase) (s : Strategy) (side : Side) (balance : Float)
    (h : m.Loses m') :
    Within (s.sidePlan tz side m' balance) (s.sidePlan tz side m balance) := by
  by_cases hfires : s.fires side m' = true
  · obtain ⟨hfires', hlevels⟩ := s.fires_of_loses side h hfires
    refine .of_eq ?_
    rw [sidePlan, sidePlan, isOpen, isOpen, h.time, hlevels, hfires, hfires']
  · rw [sidePlan_of_not_fires hfires]
    exact .none _

/-! ## both sides -/

/-- A breakout needs the same inputs for both sides. -/
theorem levels_of_isSome {s : Strategy} {r : Breakout.Rules} (hr : s.entry = .breakout r)
    {side : Side} (h : m.Loses m') (hsome : (s.levels side m').isSome = true) (side' : Side) :
    s.levels side' m' = s.levels side' m := by
  obtain ⟨l, hl⟩ := Option.isSome_iff_exists.mp hsome
  obtain ⟨-, hstop, -⟩ := levels_eq_some_iff.mp hl
  rw [hr] at hstop
  have hstops := r.stopPrice_of_isSome s.contract h (Option.isSome_of_mem hstop) side'
  rw [levels, levels, hr]
  simp only [EntryRules.entryPrice, EntryRules.stopPrice, EntryRules.targetPrice,
    r.entryPrice_of_loses side' h, hstops, r.targetPrice_of_loses side' _ _ h]

/-- If the short side can still be entered, then the long side can be entered if it
could be before. -/
theorem fires_long_of_short {document : Json} {s : Strategy} (hs : ofJson document = .ok s)
    (h : m.Loses m') (hshort : s.fires .short m' = true) (hlong : s.fires .long m = true) :
    s.fires .long m' = true := by
  rw [fires, Bool.and_eq_true] at hshort hlong ⊢
  by_cases hwick : s.entry.ConfirmsByWick
  · cases hr : s.entry with
    | openingRange r =>
        rw [hr] at hwick
        contradiction
    | pullback r =>
        rw [hr] at hwick
        contradiction
    | breakout r =>
        rw [hr] at hlong
        rw [levels_of_isSome hr h hshort.2]
        exact ⟨(r.signal_of_loses .long h).trans hlong.1, hlong.2⟩
  · have hshort' := s.entry.signal_of_loses s.contract .short h hshort.1
    exact absurd ⟨hlong.1, hshort'⟩ (signal_exclusive hs hwick m)

/-- Both sides together: what is lost on one side is not made up for on the other one, as signals
exclude each other. -/
theorem entrySide_within {document : Json} {s : Strategy} (hs : ofJson document = .ok s)
    (h : m.Loses m') : Within (s.entrySide m') (s.entrySide m) := by
  intro side hside
  rw [entrySide_eq_some_iff] at hside ⊢
  obtain ⟨hallows, hfires, hfirst⟩ := hside
  refine ⟨hallows, (s.fires_of_loses side h hfires).1, ?_⟩
  rintro hboth rfl hlong
  exact hfirst hboth rfl (fires_long_of_short hs h hfires hlong)

/-- **Decisions fail closed**: without some of its inputs, a strategy enters on the
same side or not at all, and has the same plan or none. -/
theorem entrySide_plan_of_loses {document : Json} {s : Strategy} (hs : ofJson document = .ok s)
    {m m' : Context} (h : m.Loses m') :
    (s.entrySide m' = none ∨ s.entrySide m' = s.entrySide m) ∧
      ∀ tz balance, s.plan tz m' balance = none ∨ s.plan tz m' balance = s.plan tz m balance := by
  have hside := entrySide_within hs h
  refine ⟨hside.eq_none_or_eq, fun tz balance => ?_⟩
  rw [plan_eq_bind, plan_eq_bind]
  exact (hside.bind fun side => s.sidePlan_within tz side balance h).eq_none_or_eq

/-- The price crosses the high end of an opening range. -/
def crossing : Context where
  candles := [⟨⟨0, 0⟩, 5004.0, 5006.0, 5003.0, 5005.0, 0.0⟩]
  quote := some ⟨5011.0, none, none⟩
  indicators := ⟨[(20, 5002.0)], some 55.0, some 4.0⟩
  openingRange := some ⟨5010.0, 5000.0, true⟩
  swing := some ⟨some 5012.0, some 4990.0⟩
  time := ⟨0, 0⟩

/-- The same market without averages and swing highs, and without a price at the
high end of the range. -/
def crossingBlind : Context :=
  { crossing with
    indicators := ⟨[], some 55.0, some (0.0 / 0.0)⟩
    openingRange := some ⟨0.0 / 0.0, 5000.0, true⟩
    swing := some ⟨none, some 4990.0⟩ }

theorem crossing_loses : crossing.Loses crossingBlind where
  candles := rfl
  quote := rfl
  time := rfl
  averages _ := .inr nofun
  rsi := .inl rfl
  atr := .inr fun v hv => by cases hv; decide
  openingRange := .inr fun v hv => by cases hv; decide
  swingHigh := .inr nofun
  swingLow := .inl rfl

/-- A crossing is lost with the range that is crossed. -/
theorem entrySide_plan_of_crossingBlind :
    ofJson sample = .ok ofSample ∧ crossing.Loses crossingBlind ∧
      ofSample.entrySide crossing = some .long ∧ ofSample.entrySide crossingBlind = none ∧
        (ofSample.entrySide crossingBlind = none ∨
          ofSample.entrySide crossingBlind = ofSample.entrySide crossing) ∧
        ∀ tz balance, ofSample.plan tz crossingBlind balance = none ∨
          ofSample.plan tz crossingBlind balance = ofSample.plan tz crossing balance := by
  have hlong : ofSample.entrySide crossing = some .long := by decide +kernel
  have hnone : ofSample.entrySide crossingBlind = none := by decide +kernel
  exact ⟨ofJson_sample, crossing_loses, hlong, hnone,
    entrySide_plan_of_loses ofJson_sample crossing_loses⟩

end Strategy

end Playbook
