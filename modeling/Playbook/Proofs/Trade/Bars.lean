import Mathlib
import Playbook.Proofs.Strategy.RoundTrip
import Playbook.Proofs.Trade.Signal

/-!
# Playbook.Proofs.Trade.Bars

Opening-range entries tick by tick and bar by bar.

A tick at some price and a candle that closes there lead to the same decisions: the
price is the current one in both cases, and the close before it is the same
(`alike_tick_close`).

Rules keep no state.  From one close to the next they see whether the price has just
gone beyond the level, and over a whole run of candles this gives one signal for each
excursion of the price, at its first close (`firings_spec`).
-/

namespace Playbook

/-! ## ticks and closes -/

namespace Context

/-- A context at a tick: there is a quote, and the candle of the tick is still open. -/
def atTick (m : Context) (q : Quote) : Context := { m with quote := some q }

/-- A context at the close of the last of some candles: there is no quote. -/
def atClose (m : Context) (cs : List Candle) : Context := { m with candles := cs, quote := none }

variable {m : Context} {q : Quote} {cs : List Candle} {c : Candle}

/-- Between two closes the price is that of the tick. -/
theorem currentPrice_atTick (h : q.last.isFinite = true) :
    (m.atTick q).currentPrice = some q.last := by
  rw [currentPrice, atTick, Option.map_some, Option.filter_some, if_pos h, Option.some_or]

theorem currentPrice_atClose (h : c.close.isFinite = true) :
    (m.atClose (cs ++ [c])).currentPrice = some c.close := by
  rw [currentPrice, lastCandle, atClose, List.getLast?_concat, Option.map_none, Option.filter_none,
    Option.none_or, Option.map_some, Option.filter_some, if_pos h]

theorem referenceClose_atTick :
    (m.atTick q).referenceClose = (m.candles.getLast?.map (·.close)).filter Float.isFinite := rfl

/-- Before a close there is the close before it; so a tick at the close sees the same two
prices. -/
theorem referenceClose_atClose :
    (m.atClose (cs ++ [c])).referenceClose =
      (cs.getLast?.map (·.close)).filter Float.isFinite := by
  rw [referenceClose, previousCandle, atClose, List.dropLast_concat]
  rfl

end Context

/-- The rules see the same price and the same close before it. -/
theorem OpeningRange.Rules.signal_of_tick (rules : OpeningRange.Rules) (k : Contract) (side : Side)
    (m : Context) {q : Quote} {c : Candle} (hfinite : q.last.isFinite = true)
    (hclose : c.close = q.last) :
    rules.signal k side (m.atClose (m.candles ++ [c])) = rules.signal k side (m.atTick q) := by
  rw [signal, signal, Context.currentPrice_atClose (by rwa [hclose]),
    Context.currentPrice_atTick hfinite, Context.referenceClose_atClose,
    Context.referenceClose_atTick, hclose]
  rfl

/-- An opening range sees no more of a candle than its close. -/
theorem EntryRules.alike_of_tick (rules : OpeningRange.Rules) (k : Contract) (m : Context)
    {q : Quote} {c : Candle} (hfinite : q.last.isFinite = true) (hclose : c.close = q.last) :
    (EntryRules.openingRange rules).Alike k (m.atTick q) (m.atClose (m.candles ++ [c])) where
  signal side := rules.signal_of_tick k side m hfinite hclose
  entryPrice side := by
    change (m.atClose (m.candles ++ [c])).currentPrice = (m.atTick q).currentPrice
    rw [Context.currentPrice_atClose (by rwa [hclose]), Context.currentPrice_atTick hfinite, hclose]
  stopPrice _ _ := rfl
  targetPrice _ _ _ := rfl

/-- The last close lies within the opening range. -/
def Context.insideRange : Context where
  candles := [⟨⟨0, 0⟩, 5004.0, 5006.0, 5003.0, 5005.0, 0.0⟩]
  quote := none
  indicators := .empty
  openingRange := some ⟨5010.0, 5000.0, true⟩
  swing := none
  time := ⟨600, 0⟩

namespace Strategy

/-- **A tick is worth a close**: an opening-range strategy decides at a tick as it does
when a candle closes at the price of the tick. -/
theorem alike_tick_close {s : Strategy} (hpattern : s.pattern = .openingRange) (m : Context)
    {q : Quote} {c : Candle} (hfinite : q.last.isFinite = true) (hclose : c.close = q.last) :
    s.Alike (m.atTick q) (m.atClose (m.candles ++ [c])) ∧
      ∀ tz balance, s.plan tz (m.atClose (m.candles ++ [c])) balance =
        s.plan tz (m.atTick q) balance := by
  have hrules : s.entry.Alike s.contract (m.atTick q) (m.atClose (m.candles ++ [c])) := by
    cases hentry : s.entry with
    | openingRange r => exact EntryRules.alike_of_tick r s.contract m hfinite hclose
    | pullback r => simp [pattern, EntryRules.pattern, hentry] at hpattern
    | breakout r => simp [pattern, EntryRules.pattern, hentry] at hpattern
  have halike := alike_of_rules hrules
  exact ⟨halike, fun tz balance => halike.plan tz balance rfl⟩

/-- A tick above the range leads to an entry, and so does a close at its price. -/
theorem alike_tick_close_insideRange :
    ofSample.pattern = .openingRange ∧ (5011.0 : Float).isFinite = true ∧
      ofSample.entrySide (Context.insideRange.atTick ⟨5011.0, none, none⟩) = some .long ∧
        ofSample.Alike (Context.insideRange.atTick ⟨5011.0, none, none⟩)
          (Context.insideRange.atClose (Context.insideRange.candles ++
            [⟨⟨300, 0⟩, 5005.0, 5012.0, 5004.0, 5011.0, 0.0⟩])) := by
  have hfinite : (5011.0 : Float).isFinite = true := by decide +kernel
  have halike := alike_tick_close (s := ofSample) rfl Context.insideRange
    (q := ⟨5011.0, none, none⟩) (c := ⟨⟨300, 0⟩, 5005.0, 5012.0, 5004.0, 5011.0, 0.0⟩) hfinite rfl
  exact ⟨rfl, hfinite, by decide +kernel, halike.1⟩

end Strategy

/-! ## maximal runs -/

/-- A maximal run of places where `p` holds: from `start` up to `stop`, which is no part
of it. -/
structure MaximalRun (p : ℕ → Prop) (start stop : ℕ) : Prop where
  nonempty : start < stop
  holds : ∀ i, start ≤ i → i < stop → p i
  first : ∀ i, i + 1 = start → ¬p i
  last : ¬p stop

/-- Of the moments up to one at which something holds, there is a first one from which on it
holds. -/
theorem exists_run_start {p : ℕ → Prop} {i : ℕ} (hi : p i) :
    ∃ start ≤ i, (∀ j, start ≤ j → j ≤ i → p j) ∧ ∀ j, j + 1 = start → ¬p j := by
  induction i with
  | zero =>
      refine ⟨0, Nat.le_refl 0, fun j _ hj => ?_, fun j hj => absurd hj (Nat.succ_ne_zero j)⟩
      obtain rfl : j = 0 := by omega
      exact hi
  | succ i ih =>
      by_cases hbefore : p i
      · obtain ⟨start, hle, hholds, hfirst⟩ := ih hbefore
        refine ⟨start, by omega, fun j hj hj' => ?_, hfirst⟩
        obtain hj' | rfl : j ≤ i ∨ j = i + 1 := by omega
        · exact hholds j hj hj'
        · exact hi
      · refine ⟨i + 1, Nat.le_refl _, fun j hj hj' => ?_, fun j hj => ?_⟩
        · obtain rfl : j = i + 1 := by omega
          exact hi
        · obtain rfl : j = i := by omega
          exact hbefore

/-- Every place where `p` holds lies in a maximal run, if it does not hold for ever. -/
theorem exists_maximalRun {p : ℕ → Prop} {i : ℕ} (hi : p i) (hend : ∃ n, i < n ∧ ¬p n) :
    ∃ start stop, start ≤ i ∧ i < stop ∧ MaximalRun p start stop := by
  classical
  obtain ⟨start, hstart, hholds, hfirst⟩ := exists_run_start hi
  obtain ⟨hstop, hlast⟩ := Nat.find_spec hend
  refine ⟨start, Nat.find hend, hstart, hstop, by omega, fun j hj hj' => ?_, hfirst, hlast⟩
  by_cases hji : j ≤ i
  · exact hholds j hj hji
  · by_contra hnot
    exact Nat.find_min hend hj' ⟨by omega, hnot⟩

/-! ## excursions -/

/-- The close at a place among some candles is beyond a level. -/
def Side.ClosesBeyond (side : Side) (level : Float) (cs : List Candle) (i : ℕ) : Prop :=
  ∃ c, cs[i]? = some c ∧ side.beyond level c.close = true

/-- An excursion of the price: a maximal run of consecutive closes beyond a level. -/
def Side.Excursion (side : Side) (level : Float) (cs : List Candle) (start stop : ℕ) : Prop :=
  MaximalRun (side.ClosesBeyond level cs) start stop

theorem Side.ClosesBeyond.lt_length {side : Side} {level : Float} {cs : List Candle} {i : ℕ}
    (h : side.ClosesBeyond level cs i) : i < cs.length := by
  obtain ⟨c, hc, -⟩ := h
  exact (List.getElem?_eq_some_iff.mp hc).1

/-- Each close beyond a level belongs to an excursion. -/
theorem Side.exists_excursion {side : Side} {level : Float} {cs : List Candle} {i : ℕ}
    (hi : side.ClosesBeyond level cs i) :
    ∃ start stop, start ≤ i ∧ i < stop ∧ side.Excursion level cs start stop :=
  exists_maximalRun hi ⟨cs.length, hi.lt_length, fun h => Nat.lt_irrefl _ h.lt_length⟩

namespace OpeningRange.Rules

variable {rules : Rules} {k : Contract} {side : Side} {m : Context} {r : OpeningRange}
  {cs : List Candle}

/-- From one close to the next: there is a signal if the new close is beyond the level and
the close before it, if any, is not. -/
theorem signal_atClose_iff {c : Candle} (hrange : m.tradableRange = some r)
    (hfinite : ∀ c' ∈ cs ++ [c], c'.close.isFinite = true) :
    rules.signal k side (m.atClose (cs ++ [c])) = true ↔
      side.beyond (rules.trigger k r side) c.close = true ∧
        ∀ c' ∈ cs.getLast?, ¬side.beyond (rules.trigger k r side) c'.close = true := by
  have hrange' : (m.atClose (cs ++ [c])).tradableRange = some r := hrange
  have hlast : c.close.isFinite = true :=
    hfinite c (List.mem_append_right _ (List.mem_singleton_self c))
  rw [signal, hrange', Context.currentPrice_atClose hlast, Context.referenceClose_atClose]
  dsimp only
  rw [Level.crossed, Bool.and_eq_true, Bool.not_eq_true']
  refine and_congr_right fun _ => ?_
  cases hbefore : cs.getLast? with
  | none => simp
  | some c' =>
      have hfinite' : c'.close.isFinite = true :=
        hfinite c' (List.mem_append_left _ (List.mem_of_getLast? hbefore))
      rw [Option.map_some, Option.filter_some, if_pos hfinite', Option.any_some]
      simp

/-- The closes after which there is a signal, numbered from one, when some candles close
one after the other. -/
def firings (rules : Rules) (k : Contract) (side : Side) (m : Context) (cs : List Candle) :
    List ℕ :=
  (List.range (cs.length + 1)).filter fun n => rules.signal k side (m.atClose (cs.take n))

/-- A firing is a number of candles after which there is a signal. -/
theorem mem_firings_iff {n : ℕ} :
    n ∈ rules.firings k side m cs ↔
      n ≤ cs.length ∧ rules.signal k side (m.atClose (cs.take n)) = true := by
  rw [firings, List.mem_filter, List.mem_range, Nat.lt_succ_iff]

theorem not_signal_atClose_nil : ¬rules.signal k side (m.atClose []) = true := by
  rw [signal_eq_true_iff]
  intro h
  obtain ⟨r, price, -, hprice, -⟩ := h
  contradiction

/-- The same for the candles up to a place. -/
theorem signal_take_iff (hrange : m.tradableRange = some r)
    (hfinite : ∀ c ∈ cs, c.close.isFinite = true) {i : ℕ} (hi : i < cs.length) :
    rules.signal k side (m.atClose (cs.take (i + 1))) = true ↔
      side.ClosesBeyond (rules.trigger k r side) cs i ∧
        ∀ j, j + 1 = i → ¬side.ClosesBeyond (rules.trigger k r side) cs j := by
  have hclose (j : ℕ) (hj : j < cs.length) : side.ClosesBeyond (rules.trigger k r side) cs j ↔
      side.beyond (rules.trigger k r side) cs[j].close = true := by
    simp only [Side.ClosesBeyond, List.getElem?_eq_getElem hj, Option.some.injEq, exists_eq_left']
  have htake : cs.take (i + 1) = cs.take i ++ [cs[i]] := List.take_succ_eq_append_getElem hi
  rw [htake, signal_atClose_iff hrange (fun c hc => hfinite c (List.mem_of_mem_take (htake ▸ hc))),
    hclose i hi]
  refine and_congr_right fun _ => ?_
  cases i with
  | zero => simp
  | succ i =>
      have hlast : (cs.take (i + 1)).getLast? = some cs[i] := by
        rw [List.take_succ_eq_append_getElem (by omega), List.getLast?_concat]
      simp only [hlast, Option.mem_some_iff, forall_eq', Nat.add_right_cancel_iff, forall_eq,
        hclose i (by omega)]

/-- There is a signal at a close exactly if it is the first one of an excursion. -/
theorem mem_firings_iff_excursion (hrange : m.tradableRange = some r)
    (hfinite : ∀ c ∈ cs, c.close.isFinite = true) {n : ℕ} :
    n ∈ rules.firings k side m cs ↔
      ∃ start stop, n = start + 1 ∧ side.Excursion (rules.trigger k r side) cs start stop := by
  rw [mem_firings_iff]
  constructor
  · intro h
    obtain ⟨hn, hsignal⟩ := h
    cases n with
    | zero => exact absurd hsignal not_signal_atClose_nil
    | succ i =>
        obtain ⟨hbeyond, hfirst⟩ := (signal_take_iff hrange hfinite hn).mp hsignal
        obtain ⟨start, stop, hstart, hstop, hrun⟩ := Side.exists_excursion hbeyond
        -- An excursion that starts sooner would hold the close before this one.
        have hsame : start = i := by
          by_contra hne
          exact hfirst (i - 1) (by omega) (hrun.holds (i - 1) (by omega) (by omega))
        exact ⟨start, stop, by rw [hsame], hrun⟩
  · intro h
    obtain ⟨start, stop, rfl, hrun⟩ := h
    have hbeyond := hrun.holds start (Nat.le_refl _) hrun.nonempty
    have hlt : start < cs.length := hbeyond.lt_length
    exact ⟨hlt, (signal_take_iff hrange hfinite hlt).mpr ⟨hbeyond, hrun.first⟩⟩

/-- **One signal for each excursion**: while candles close one after the other, there is a
signal exactly at the first close of every excursion beyond the level.  So between two
signals some close is not beyond the level, and every close beyond it belongs to an
excursion that gave a signal. -/
theorem firings_spec (rules : Rules) (k : Contract) (side : Side)
    (hrange : m.tradableRange = some r) (hfinite : ∀ c ∈ cs, c.close.isFinite = true) :
    (∀ n, n ∈ rules.firings k side m cs ↔
      ∃ start stop, n = start + 1 ∧ side.Excursion (rules.trigger k r side) cs start stop) ∧
    (∀ n ∈ rules.firings k side m cs, ∀ n' ∈ rules.firings k side m cs, n < n' →
      ∃ i c, n ≤ i ∧ i + 1 < n' ∧ cs[i]? = some c ∧
        ¬side.beyond (rules.trigger k r side) c.close = true) ∧
    (∀ i, side.ClosesBeyond (rules.trigger k r side) cs i →
      ∃ start stop, start ≤ i ∧ i < stop ∧ side.Excursion (rules.trigger k r side) cs start stop ∧
        start + 1 ∈ rules.firings k side m cs) := by
  refine ⟨fun n => mem_firings_iff_excursion hrange hfinite, fun n hn n' hn' hlt => ?_,
    fun i hi => ?_⟩
  · obtain ⟨start, stop, rfl, hrun⟩ := (mem_firings_iff_excursion hrange hfinite).mp hn
    obtain ⟨start', stop', rfl, hrun'⟩ := (mem_firings_iff_excursion hrange hfinite).mp hn'
    -- The close before the later signal is not beyond the level, so it is not the earlier one.
    have hbefore : ¬side.ClosesBeyond (rules.trigger k r side) cs (start' - 1) :=
      hrun'.first (start' - 1) (by omega)
    have hne : start' - 1 ≠ start := by
      intro heq
      exact hbefore (heq ▸ hrun.holds start (Nat.le_refl _) hrun.nonempty)
    have hbeyond := hrun'.holds start' (Nat.le_refl _) hrun'.nonempty
    have hlater : start' < cs.length := hbeyond.lt_length
    have hlen : start' - 1 < cs.length := by omega
    exact ⟨start' - 1, cs[start' - 1], by omega, by omega, List.getElem?_eq_getElem hlen,
      fun hc => hbefore ⟨_, List.getElem?_eq_getElem hlen, hc⟩⟩
  · obtain ⟨start, stop, hstart, hstop, hrun⟩ := Side.exists_excursion hi
    exact ⟨start, stop, hstart, hstop, hrun,
      (mem_firings_iff_excursion hrange hfinite).mpr ⟨start, stop, rfl, hrun⟩⟩

/-- Four closes: the first two are above 5010, the third is at it, the last above it. -/
def twoExcursions : List Candle :=
  [5011.0, 5012.0, 5010.0, 5010.25].map fun x => ⟨⟨0, 0⟩, x, x, x, x, 0.0⟩

/-- A price that starts beyond the level counts as having gone there, and a price at the
level as having come back. -/
theorem firings_twoExcursions :
    Context.insideRange.tradableRange = some ⟨5010.0, 5000.0, true⟩ ∧
      (∀ c ∈ twoExcursions, c.close.isFinite = true) ∧
        firings ⟨15, 0.0, .oppositeSide, .risk 2.0⟩ Symbol.es.contract .long Context.insideRange
          twoExcursions = [1, 4] ∧
          ∃ i c, 1 ≤ i ∧ i + 1 < 4 ∧ twoExcursions[i]? = some c ∧
            ¬Side.long.beyond (trigger ⟨15, 0.0, .oppositeSide, .risk 2.0⟩ Symbol.es.contract
              ⟨5010.0, 5000.0, true⟩ .long) c.close = true := by
  have hrange : Context.insideRange.tradableRange = some ⟨5010.0, 5000.0, true⟩ := by
    rw [Context.tradableRange, Context.insideRange, Option.filter_some,
      if_pos (by decide +kernel)]
  have hfinite : ∀ c ∈ twoExcursions, c.close.isFinite = true := by decide +kernel
  have hfirings : firings ⟨15, 0.0, .oppositeSide, .risk 2.0⟩ Symbol.es.contract .long
      Context.insideRange twoExcursions = [1, 4] := by decide +kernel
  have hspec := firings_spec ⟨15, 0.0, .oppositeSide, .risk 2.0⟩ Symbol.es.contract .long hrange
    hfinite
  rw [hfirings] at hspec
  exact ⟨hrange, hfinite, hfirings, hspec.2.1 1 (by decide) 4 (by decide) (by decide)⟩

end OpeningRange.Rules

end Playbook
