import Playbook.Market.Context

/-!
# Playbook.Proofs.Market.Loss

Contexts in which inputs were lost: an indicator, the opening range or a swing is
missing, or it has become unusable.

What decisions read from such a context is `Within` what they read from the
context itself: it is the same, or it is absent.
-/

namespace Playbook

variable {α β : Type}

/-! ## less is known -/

/-- Nothing, or the same. -/
def Within (x' x : Option α) : Prop := ∀ v, x' = some v → x = some v

namespace Within

variable {x x' : Option α}

theorem refl (x : Option α) : Within x x := fun _ h => h

theorem none (x : Option α) : Within .none x := nofun

theorem of_eq (h : x' = x) : Within x' x := h ▸ refl x'

/-- Of what is within a value there is all or nothing. -/
theorem eq_none_or_eq (h : Within x' x) : x' = .none ∨ x' = x := by
  cases x' with
  | none => exact .inl rfl
  | some v => exact .inr (h v rfl).symm

/-- What is still known has not changed. -/
theorem eq_of_isSome (h : Within x' x) (hsome : x'.isSome = true) : x' = x := by
  obtain rfl | h := h.eq_none_or_eq
  · contradiction
  · exact h

/-- Less is computed from less. -/
theorem bind {f f' : α → Option β} (h : Within x' x) (hf : ∀ a, Within (f' a) (f a)) :
    Within (x'.bind f') (x.bind f) := by
  intro v hv
  obtain ⟨a, ha, hv⟩ := Option.bind_eq_some_iff.mp hv
  exact Option.bind_eq_some_iff.mpr ⟨a, h a ha, hf a v hv⟩

/-- What is computed from one input is lost with it. -/
theorem map (f : α → β) (h : Within x' x) : Within (x'.map f) (x.map f) := by
  intro v hv
  obtain ⟨a, ha, rfl⟩ := Option.map_eq_some_iff.mp hv
  exact Option.map_eq_some_iff.mpr ⟨a, h a ha, rfl⟩

/-- A test that passes with less passes with more. -/
theorem any (p : α → Bool) (h : Within x' x) (hany : x'.any p = true) : x.any p = true := by
  cases x' with
  | none => contradiction
  | some v => rwa [h v rfl]

end Within

/-- An input is as it was, or it is missing, or what is there instead is unusable. -/
def Lost (usable : α → Bool) (x' x : Option α) : Prop :=
  x' = x ∨ ∀ v, x' = some v → ¬usable v = true

/-- A lost input is one that cannot be used, so what is used of it is within what was used. -/
theorem Lost.within_filter {usable : α → Bool} {x' x : Option α} (h : Lost usable x' x) :
    Within (x'.filter usable) (x.filter usable) := by
  obtain rfl | h := h
  · exact .refl _
  · intro v hv
    obtain ⟨hv, husable⟩ := Option.filter_eq_some_iff.mp hv
    exact absurd husable (h v hv)

/-! ## contexts -/

namespace Context

/-- `m'` is `m` without some of its indicators, its opening range or its swings;
candles, quote and time are the same. -/
structure Loses (m m' : Context) : Prop where
  candles : m'.candles = m.candles
  quote : m'.quote = m.quote
  time : m'.time = m.time
  averages : ∀ period, Lost Float.isFinite (m'.indicators.averages.lookup period)
    (m.indicators.averages.lookup period)
  rsi : Lost Float.isFinite m'.indicators.rsi m.indicators.rsi
  atr : Lost (fun x => x.isFinite && 0.0 < x) m'.indicators.atr m.indicators.atr
  openingRange : Lost OpeningRange.isTradable m'.openingRange m.openingRange
  swingHigh : Lost Float.isFinite (m'.swing.bind (·.high)) (m.swing.bind (·.high))
  swingLow : Lost Float.isFinite (m'.swing.bind (·.low)) (m.swing.bind (·.low))

namespace Loses

variable {m m' : Context}

/-- Averages are lost one period at a time. -/
theorem average (h : m.Loses m') (period : Nat) :
    Within (m'.indicators.average period) (m.indicators.average period) :=
  (h.averages period).within_filter

theorem usableRsi (h : m.Loses m') : Within m'.indicators.usableRsi m.indicators.usableRsi :=
  h.rsi.within_filter

/-- An average range of zero cannot be used either. -/
theorem usableAtr (h : m.Loses m') : Within m'.indicators.usableAtr m.indicators.usableAtr :=
  h.atr.within_filter

/-- An opening range is lost as a whole, and one that is not complete cannot be traded. -/
theorem tradableRange (h : m.Loses m') : Within m'.tradableRange m.tradableRange :=
  h.openingRange.within_filter

/-- Swings are lost one side at a time. -/
theorem usableSwingHigh (h : m.Loses m') : Within m'.swingHigh m.swingHigh :=
  h.swingHigh.within_filter

theorem usableSwingLow (h : m.Loses m') : Within m'.swingLow m.swingLow :=
  h.swingLow.within_filter

/-- No candle is lost. -/
theorem lastCandle (h : m.Loses m') : m'.lastCandle = m.lastCandle := by
  rw [Context.lastCandle, Context.lastCandle, h.candles]

theorem previousCandle (h : m.Loses m') : m'.previousCandle = m.previousCandle := by
  rw [Context.previousCandle, Context.previousCandle, h.candles]

theorem window (h : m.Loses m') (lookback : Nat) : m'.window lookback = m.window lookback := by
  rw [Context.window, Context.window, h.candles]

/-- The quote is not lost, so prices are what they were. -/
theorem currentPrice (h : m.Loses m') : m'.currentPrice = m.currentPrice := by
  rw [Context.currentPrice, Context.currentPrice, h.quote, h.lastCandle]

/-- So is the close before the current price. -/
theorem referenceClose (h : m.Loses m') : m'.referenceClose = m.referenceClose := by
  rw [Context.referenceClose, Context.referenceClose, h.quote, h.lastCandle, h.previousCandle]

end Loses

end Context

end Playbook
