import Playbook.Proofs.Trade.Obstacle

/-!
# Playbook.Proofs.Trade.Breakout

What a breakout is, said of the candles themselves: a context ends in some candles
and one more, all of them well-formed, and the last one goes beyond each of the
candles before it (`Breakout.Rules.signal_iff_clears`).

The channel stands between the two.  It is the tightest one around its candles, so
a price is beyond one of its ends exactly if it is beyond all candles on that side.
-/

namespace Playbook

open Number

variable {side : Side} {m : Context}

/-! ## windows -/

namespace Context

/-- A window is what stands in front of the last candle. -/
theorem window_eq_some_iff {lookback : Nat} {cs : List Candle} :
    m.window lookback = some cs ↔
      0 < lookback ∧ cs.length = lookback ∧ ∃ last, cs ++ [last] <:+ m.candles := by
  rw [window]
  constructor
  · intro h
    split at h
    · contradiction
    · next hlong =>
      rw [not_or, not_lt] at hlong
      obtain rfl := Option.some.inj h
      have hne : m.candles ≠ [] := List.ne_nil_of_length_pos (by omega)
      refine ⟨by omega, ?_, m.candles.getLast hne, ?_⟩
      · rw [List.length_drop, List.length_dropLast]
        omega
      · have hdrop : m.candles.dropLast.drop (m.candles.length - 1 - lookback) <:+
            m.candles.dropLast := List.drop_suffix _ _
        calc _ <:+ m.candles.dropLast ++ [m.candles.getLast hne] :=
              List.suffix_append_self_iff.mpr hdrop
          _ = m.candles := List.dropLast_append_getLast hne
  · rintro ⟨hpos, hlength, last, older, hcandles⟩
    have hall : m.candles.length = older.length + (lookback + 1) := by
      rw [← hcandles, List.length_append, List.length_append, hlength, List.length_singleton]
    have hbefore : m.candles.dropLast = older ++ cs := by
      rw [← hcandles, ← List.append_assoc, List.dropLast_concat]
    have holder : m.candles.length - 1 - lookback = older.length := by omega
    rw [if_neg (by omega), hbefore, holder, List.drop_left]

theorem lastCandle_of_suffix {cs : List Candle} {last : Candle} (h : cs ++ [last] <:+ m.candles) :
    m.lastCandle = some last := by
  obtain ⟨older, hcandles⟩ := h
  rw [lastCandle, ← hcandles, ← List.append_assoc, List.getLast?_concat]

end Context

/-! ## channels -/

/-- How far a candle reaches on a side. -/
def Candle.reach (c : Candle) : Side → Float
  | .long => c.high
  | .short => c.low

namespace Side

variable {x y z : Float}

/-- What is beyond a level is beyond one that is behind it. -/
theorem NotBehind.beyond (h : side.NotBehind x y) (h' : side.beyond y z = true) :
    side.beyond x z = true := by
  cases side with
  | long =>
      refine decide_eq_true ?_
      calc x ≤ y := h
        _ < z := of_decide_eq_true h'
  | short =>
      refine decide_eq_true ?_
      calc z < y := of_decide_eq_true h'
        _ ≤ x := h

theorem beyond_of_notBehind (h : side.beyond x y = true) (h' : side.NotBehind y z) :
    side.beyond x z = true := by
  cases side with
  | long =>
      refine decide_eq_true ?_
      calc x < y := of_decide_eq_true h
        _ ≤ z := h'
  | short =>
      refine decide_eq_true ?_
      calc z ≤ y := h'
        _ < x := of_decide_eq_true h

end Side

/-- A channel is the tightest one around some candles. -/
structure Channel.Encloses (ch : Channel) (cs : List Candle) : Prop where
  high : ∃ c ∈ cs, ch.high = c.high
  low : ∃ c ∈ cs, ch.low = c.low
  le_high : ∀ c ∈ cs, c.high ≤ ch.high
  low_le : ∀ c ∈ cs, ch.low ≤ c.low

namespace Channel

variable {ch : Channel} {cs : List Candle}

/-- The channel of some candles is as high as the highest of them and as low as the lowest. -/
theorem ofCandles_encloses (hsane : ∀ c ∈ cs, c.isSane = true) (hne : cs ≠ []) :
    (ofCandles cs).Encloses cs where
  high := exists_high hsane hne
  low := exists_low hsane hne
  le_high _ hc := high_le hsane hc
  low_le _ hc := low_le hsane hc

namespace Encloses

/-- It is attained: some candle reaches its level. -/
theorem level_eq (h : ch.Encloses cs) (side : Side) : ∃ c ∈ cs, ch.level side = c.reach side := by
  cases side with
  | long => exact h.high
  | short => exact h.low

/-- And it bounds: no candle reaches further. -/
theorem notBehind_level (h : ch.Encloses cs) (side : Side) {c : Candle} (hc : c ∈ cs) :
    side.NotBehind (c.reach side) (ch.level side) := by
  cases side with
  | long => exact h.le_high c hc
  | short => exact h.low_le c hc

/-- A price has left a channel exactly if it is beyond all of its candles. -/
theorem beyond_level_iff (h : ch.Encloses cs) {price : Float} :
    side.beyond (ch.level side) price = true ↔
      ∀ c ∈ cs, side.beyond (c.reach side) price = true := by
  constructor
  · intro hbeyond c hc
    exact (h.notBehind_level side hc).beyond hbeyond
  · intro hall
    obtain ⟨c, hc, hlevel⟩ := h.level_eq side
    rw [hlevel]
    exact hall c hc

end Encloses

end Channel

/-! ## breakouts -/

namespace Breakout

/-- The price of a candle that a confirmation looks at. -/
def Confirmation.price (k : Confirmation) (side : Side) (c : Candle) : Float :=
  match k with
  | .close => c.close
  | .wick => c.reach side

/-- The wick of a candle is not behind its close. -/
theorem Confirmation.notBehind_price (k : Confirmation) (side : Side) {c : Candle}
    (hsane : c.isSane = true) : side.NotBehind c.close (k.price side c) := by
  simp only [Candle.isSane, Candle.isVoid, Bool.and_eq_true, Bool.not_not,
    decide_eq_true_eq] at hsane
  obtain ⟨⟨⟨⟨⟨⟨-, hfinite⟩, -⟩, -⟩, hhigh⟩, -⟩, hlow⟩ := hsane
  cases k with
  | close => cases side <;> exact le_self (isNaN_eq_false hfinite)
  | wick =>
      cases side with
      | long => exact hhigh
      | short => exact hlow

/-- A context ends in `lookback` candles and a last one, all of them well-formed, and a
price of the last one is beyond each of the others. -/
structure Clears (m : Context) (lookback : Nat) (k : Confirmation) (side : Side)
    (before : List Candle) (last : Candle) : Prop where
  length : before.length = lookback
  suffix : before ++ [last] <:+ m.candles
  sane : ∀ c ∈ before ++ [last], c.isSane = true
  beyond : ∀ c ∈ before, side.beyond (c.reach side) (k.price side last) = true

/-- A close that clears some candles clears fewer of them too, and so does its wick. -/
theorem Clears.weaken {lookback lookback' : Nat} {before : List Candle} {last : Candle}
    (h : Clears m lookback .close side before last) (hle : lookback' ≤ lookback)
    (k : Confirmation) :
    Clears m lookback' k side (before.drop (lookback - lookback')) last := by
  have hdrop : before.drop (lookback - lookback') <:+ before := List.drop_suffix _ _
  have hcandles : before.drop (lookback - lookback') ++ [last] <:+ before ++ [last] :=
    List.suffix_append_self_iff.mpr hdrop
  have hlast : last.isSane = true :=
    h.sane last (List.mem_append_right before (List.mem_singleton_self last))
  refine ⟨?_, hcandles.trans h.suffix, fun c hc => h.sane c (hcandles.mem hc), fun c hc => ?_⟩
  · rw [List.length_drop, h.length]
    omega
  · exact Side.beyond_of_notBehind (h.beyond c (hdrop.mem hc)) (k.notBehind_price side hlast)

namespace Rules

variable {rules : Rules}

/-- The price that is tested is the close or the end of the wick. -/
theorem probe_eq (side : Side) (c : Candle) :
    rules.probe side c = rules.confirmation.price side c := by
  unfold probe Confirmation.price Candle.reach
  cases rules.confirmation <;> cases side <;> rfl

/-- The channel of rules is that of the candles in front of the last one. -/
theorem channel_eq_some_iff {ch : Channel} :
    rules.channel m = some ch ↔ 0 < rules.lookback ∧ ∃ before last,
      before.length = rules.lookback ∧ before ++ [last] <:+ m.candles ∧
        (∀ c ∈ before, c.isSane = true) ∧ Channel.ofCandles before = ch := by
  simp only [channel, Option.map_eq_some_iff, Option.filter_eq_some_iff, List.all_eq_true,
    Context.window_eq_some_iff]
  constructor
  · rintro ⟨before, ⟨⟨hpos, hlength, last, hsuffix⟩, hsane⟩, hch⟩
    exact ⟨hpos, before, last, hlength, hsuffix, hsane, hch⟩
  · rintro ⟨hpos, before, last, hlength, hsuffix, hsane, hch⟩
    exact ⟨before, ⟨⟨hpos, hlength, last, hsuffix⟩, hsane⟩, hch⟩

/-- A channel with the price beyond it is the same as candles that are cleared. -/
theorem signal_iff_clears (hlookback : 0 < rules.lookback) :
    rules.signal side m = true ↔
      ∃ before last, Clears m rules.lookback rules.confirmation side before last := by
  rw [signal_eq_true_iff]
  constructor
  · rintro ⟨ch, last, hch, hlast, hbeyond⟩
    obtain ⟨-, before, last', hlength, hsuffix, hsane, rfl⟩ := channel_eq_some_iff.mp hch
    obtain ⟨hlast, hlastSane⟩ := Option.filter_eq_some_iff.mp hlast
    obtain rfl : last' = last := Option.some.inj ((m.lastCandle_of_suffix hsuffix).symm.trans hlast)
    have hne : before ≠ [] := List.ne_nil_of_length_pos (by omega)
    have hencloses := Channel.ofCandles_encloses hsane hne
    rw [probe_eq, hencloses.beyond_level_iff] at hbeyond
    refine ⟨before, last', hlength, hsuffix, ?_, hbeyond⟩
    rw [List.forall_mem_append, List.forall_mem_singleton]
    exact ⟨hsane, hlastSane⟩
  · rintro ⟨before, last, hlength, hsuffix, hsane, hbeyond⟩
    rw [List.forall_mem_append, List.forall_mem_singleton] at hsane
    have hne : before ≠ [] := List.ne_nil_of_length_pos (by omega)
    have hencloses := Channel.ofCandles_encloses hsane.1 hne
    refine ⟨Channel.ofCandles before, last, ?_, ?_, ?_⟩
    · exact channel_eq_some_iff.mpr ⟨hlookback, before, last, hlength, hsuffix, hsane.1, rfl⟩
    · exact Option.filter_eq_some_iff.mpr ⟨m.lastCandle_of_suffix hsuffix, hsane.2⟩
    · rw [probe_eq, hencloses.beyond_level_iff]
      exact hbeyond

/-- An entry is not behind any candle that was broken. -/
theorem entry_notBehind {ch : Channel} {cs : List Candle} {entry : Float}
    (hch : rules.channel m = some ch) (hencloses : ch.Encloses cs)
    (hentry : rules.entryPrice side m = some entry) {c : Candle} (hc : c ∈ cs) :
    side.NotBehind (c.reach side) entry :=
  (hencloses.notBehind_level side hc).trans (level_notBehind hch hentry)

/-- **Breakouts**: there is a signal exactly if the context ends in as many candles as are
looked back at and one more, all of them well-formed, and the last one is beyond each of
them, by its close or by its wick.  Where the window is there and well-formed, the channel
is the tightest one around it, and an entry, which there is whenever there is a price, is
not behind any of its candles.  So a close that breaks out of many candles breaks out of
fewer as well, and its wick does too. -/
theorem signal_clears_window (rules : Rules) (hlookback : 0 < rules.lookback) (m : Context) :
    (∀ side, rules.signal side m = true ↔
        ∃ before last, Clears m rules.lookback rules.confirmation side before last) ∧
      (∀ before last, before.length = rules.lookback → before ++ [last] <:+ m.candles →
        (∀ c ∈ before, c.isSane = true) →
          ∃ ch, rules.channel m = some ch ∧ ch.Encloses before ∧ ∀ side,
            (rules.entryPrice side m).isSome = m.currentPrice.isSome ∧
              ∀ entry, rules.entryPrice side m = some entry →
                ∀ c ∈ before, side.NotBehind (c.reach side) entry) ∧
        (rules.confirmation = .close → ∀ rules' : Rules, 0 < rules'.lookback →
          rules'.lookback ≤ rules.lookback → ∀ side, rules.signal side m = true →
            rules'.signal side m = true) := by
  refine ⟨fun side => signal_iff_clears hlookback, ?_, ?_⟩
  · intro before last hlength hsuffix hsane
    have hne : before ≠ [] := List.ne_nil_of_length_pos (by omega)
    have hencloses := Channel.ofCandles_encloses hsane hne
    have hch : rules.channel m = some (Channel.ofCandles before) :=
      channel_eq_some_iff.mpr ⟨hlookback, before, last, hlength, hsuffix, hsane, rfl⟩
    refine ⟨_, hch, hencloses, fun side => ⟨Option.isSome_map .., fun entry hentry c hc => ?_⟩⟩
    exact entry_notBehind hch hencloses hentry hc
  · intro hclose rules' hlookback' hle side hsignal
    obtain ⟨before, last, hclears⟩ := (signal_iff_clears hlookback).mp hsignal
    rw [hclose] at hclears
    exact (signal_iff_clears hlookback').mpr ⟨_, last, hclears.weaken hle _⟩

/-- A wide candle, three narrow ones and one that closes above these three. -/
def staircase : Context where
  candles := [
    ⟨⟨0, 0⟩, 5000.0, 5020.0, 4990.0, 5001.0, 0.0⟩,
    ⟨⟨60, 0⟩, 5001.0, 5004.0, 4999.0, 5003.0, 0.0⟩,
    ⟨⟨120, 0⟩, 5003.0, 5005.0, 5001.0, 5002.0, 0.0⟩,
    ⟨⟨180, 0⟩, 5002.0, 5003.0, 5000.0, 5001.0, 0.0⟩,
    ⟨⟨240, 0⟩, 5001.0, 5008.0, 5000.5, 5006.0, 0.0⟩]
  quote := none
  indicators := .empty
  openingRange := none
  swing := none
  time := ⟨300, 0⟩

/-- The close breaks out of three candles, so its wick breaks out of two; four are too many. -/
theorem signal_clears_staircase :
    (⟨3, .close, .level 1.0, .risk 2.0⟩ : Rules).signal .long staircase = true ∧
      (⟨2, .wick, .level 1.0, .risk 2.0⟩ : Rules).signal .long staircase = true ∧
        (⟨4, .close, .level 1.0, .risk 2.0⟩ : Rules).signal .long staircase = false := by
  have hsignal : (⟨3, .close, .level 1.0, .risk 2.0⟩ : Rules).signal .long staircase = true := by
    decide +kernel
  obtain ⟨-, -, hweaker⟩ :=
    signal_clears_window ⟨3, .close, .level 1.0, .risk 2.0⟩ (by decide) staircase
  exact ⟨hsignal, hweaker rfl _ (by decide) (by decide) .long hsignal, by decide +kernel⟩

end Rules

end Breakout

end Playbook
