import Playbook.Proofs.Market.Mirror
import Playbook.Trade.Plan

/-!
# Playbook.Proofs.Trade.Mirror

Long trades and short trades mirror each other: what a strategy decides for one
side in a context, it decides for the other side in the mirrored context, with
negated prices.

The numbers are rounded, and the law holds of the rounded numbers: distances
have no sign, so they are the same to the last bit, and a price that is moved by
a distance is negated up to the sign of a zero.
-/

namespace Playbook

open Number

/-! ## sides and levels -/

theorem Side.sign_opposite (side : Side) : side.opposite.sign = -side.sign := by
  cases side with
  | long => rfl
  | short => exact (negated_negated 1.0).symm

/-- Beyond a level on one side is beyond its mirror image on the other side. -/
theorem Side.beyond_opposite (side : Side) {level level' price price' : Float}
    (hl : Negates level level') (hp : Negates price price') :
    side.opposite.beyond level' price' = side.beyond level price := by
  cases side with
  | long => exact decide_eq_decide.mpr (hp.lt hl)
  | short => exact decide_eq_decide.mpr (hl.lt hp)

/-- Numbers computed alike are negated if each pair of them is. -/
theorem rel_map {α : Type} {f g : α → Float} (x : Option α) (h : ∀ a, Negates (f a) (g a)) :
    Option.Rel Negates (x.map f) (x.map g) := by
  cases x with
  | none => exact .none
  | some a => exact .some (h a)

/-- Related values stay related when related functions go on with them. -/
theorem rel_bind {α β : Type} {R : α → α → Prop} {S : β → β → Prop} {x y : Option α}
    {f g : α → Option β} (h : Option.Rel R x y)
    (hfg : ∀ a b, R a b → Option.Rel S (f a) (g b)) : Option.Rel S (x.bind f) (y.bind g) := by
  cases h with
  | none => exact .none
  | some hab => exact hfg _ _ hab

theorem rel_isSome {α : Type} {R : α → α → Prop} {x y : Option α} (h : Option.Rel R x y) :
    y.isSome = x.isSome := by
  cases h <;> rfl

namespace Level

/-- A distance in favour of one side leads to the mirror image of where it leads for the other
one. -/
theorem favorable_opposite (side : Side) {x x' : Float} (h : Negates x x') (distance : Float) :
    Negates (favorable side x distance) (favorable side.opposite x' distance) := by
  rw [favorable, favorable, side.sign_opposite, negated_mul]
  exact h.add (negates_neg _)

theorem adverse_opposite (side : Side) {x x' : Float} (h : Negates x x') (distance : Float) :
    Negates (adverse side x distance) (adverse side.opposite x' distance) := by
  rw [adverse, adverse, side.sign_opposite, negated_mul]
  exact h.sub (negates_neg _)

/-- A target by the risk is mirrored, or missing on both sides. -/
theorem riskTarget_opposite (side : Side) {entry entry' stop stop' : Float}
    (he : Negates entry entry') (hs : Negates stop stop') (multiple : Float) :
    Option.Rel Negates (riskTarget side entry stop multiple)
      (riskTarget side.opposite entry' stop' multiple) := by
  rw [riskTarget, riskTarget, ← (he.sub hs).abs]
  split
  · exact .some (favorable_opposite side he _)
  · exact .none

/-- A level is crossed upwards if its mirror image is crossed downwards. -/
theorem crossed_opposite (side : Side) {price price' level level' : Float}
    (hp : Negates price price') (hl : Negates level level') (reference : Option Float) :
    crossed side.opposite price' level' (reference.map (-·)) =
      crossed side price level reference := by
  rw [crossed, crossed, side.beyond_opposite hl hp]
  cases reference with
  | none => rw [Option.map_none, Option.any_none, Option.any_none]
  | some x =>
      rw [Option.map_some, Option.any_some, Option.any_some,
        side.beyond_opposite hl (negates_neg x)]

/-- Prices in order for one side are in order for the other one when they are mirrored. -/
theorem isOrdered_opposite (side : Side) {entry entry' stop stop' target target' : Float}
    (he : Negates entry entry') (hs : Negates stop stop') (ht : Negates target target') :
    isOrdered side.opposite entry' stop' target' = isOrdered side entry stop target := by
  unfold isOrdered
  rw [he.isFinite, hs.isFinite, ht.isFinite]
  cases side with
  | long => simp only [Side.opposite, ht.lt he, he.lt hs, Bool.and_comm]
  | short => simp only [Side.opposite, hs.lt he, he.lt ht, Bool.and_comm]

end Level

/-! ## opening range -/

namespace OpeningRange

/-- The end of a range at which one side enters is mirrored to that of the other side. -/
theorem breakoutSide_mirror (r : OpeningRange) (side : Side) :
    r.mirror.breakoutSide side.opposite = -r.breakoutSide side := by
  cases side <;> rfl

namespace Rules

variable {entry entry' stop stop' : Float}

/-- The trigger lies beyond that end by the same distance. -/
theorem trigger_mirror (rules : Rules) (c : Contract) (r : OpeningRange) (side : Side) :
    Negates (rules.trigger c r side) (rules.trigger c r.mirror side.opposite) := by
  rw [trigger, trigger, breakoutSide_mirror]
  exact Level.favorable_opposite side (negates_neg _) _

/-- So a crossing is a crossing in the mirror image. -/
theorem signal_mirror (rules : Rules) (c : Contract) (side : Side) (m : Context) :
    rules.signal c side.opposite m.mirror = rules.signal c side m := by
  rw [signal, signal, m.tradableRange_mirror, m.currentPrice_mirror, m.referenceClose_mirror]
  cases m.tradableRange with
  | none => rfl
  | some r =>
      cases m.currentPrice with
      | none => rfl
      | some price =>
          exact Level.crossed_opposite side (negates_neg price) (rules.trigger_mirror c r side)
            m.referenceClose

/-- Each method of a stop measures from prices that are mirrored. -/
theorem stopPrice_mirror (rules : Rules) (c : Contract) (side : Side) (m : Context)
    (he : Negates entry entry') :
    Option.Rel Negates (rules.stopPrice c side entry m)
      (rules.stopPrice c side.opposite entry' m.mirror) := by
  rw [stopPrice, stopPrice, m.tradableRange_mirror]
  cases rules.stop with
  | percentage value =>
      simp only [Option.map_map]
      refine rel_map m.tradableRange fun r => ?_
      simp only [Function.comp_apply, r.size_mirror, r.breakoutSide_mirror]
      exact Level.adverse_opposite side (negates_neg _) _
  | oppositeSide =>
      simp only [Option.map_map]
      refine rel_map m.tradableRange fun r => ?_
      simp only [Function.comp_apply, oppositeSide, r.breakoutSide_mirror]
      exact Level.adverse_opposite side (negates_neg _) _
  | fixed d => exact .some (Level.adverse_opposite side he _)
  | atr multiple => exact rel_map _ fun atr => Level.adverse_opposite side he _

theorem targetPrice_mirror (rules : Rules) (c : Contract) (side : Side) (m : Context)
    (he : Negates entry entry') (hs : Negates stop stop') :
    Option.Rel Negates (rules.targetPrice c side entry stop m)
      (rules.targetPrice c side.opposite entry' stop' m.mirror) := by
  rw [targetPrice, targetPrice, m.tradableRange_mirror]
  cases rules.target with
  | risk multiple => exact Level.riskTarget_opposite side he hs multiple
  | extension multiple =>
      simp only [Option.map_map]
      refine rel_map m.tradableRange fun r => ?_
      simp only [Function.comp_apply, r.size_mirror]
      exact Level.favorable_opposite side he _
  | fixed d => exact .some (Level.favorable_opposite side he _)

end Rules

end OpeningRange

/-! ## pullback -/

namespace Pullback.Rules

variable {entry entry' stop stop' : Float}

/-- The price from which a candle came is mirrored with it. -/
theorem approach_mirror (m : Context) (last : Candle) :
    approach m.mirror last.mirror = -approach m last := by
  rw [approach, approach, m.previousCandle_mirror, Context.close_mirror]
  cases (m.previousCandle.map (·.close)).filter Float.isFinite <;> rfl

/-- A touch from above is a touch from below in the mirror image. -/
theorem touches_mirror (side : Side) (average tolerance approach : Float) (c : Candle) :
    touches side.opposite (-average) tolerance (-approach) c.mirror =
      touches side average tolerance approach c := by
  have hbelow : Negates (average + tolerance) (-average - tolerance) := by
    rw [sub_eq_add_negated]
    exact (negates_neg average).add (negates_neg tolerance)
  have habove : Negates (average - tolerance) (-average + tolerance) := by
    rw [sub_eq_add_negated]
    exact (negates_neg average).add (by simpa using negates_neg (-tolerance))
  cases side with
  | long =>
      simp only [touches, Side.opposite, Candle.mirror, negated_lt_negated,
        hbelow.le (negates_neg c.low), (negates_neg c.close).le habove]
  | short =>
      simp only [touches, Side.opposite, Candle.mirror, negated_lt_negated,
        (negates_neg c.high).le habove, hbelow.le (negates_neg c.close)]

theorem bounces_mirror (side : Side) (average : Float) (c : Candle) :
    bounces side.opposite (-average) c.mirror = bounces side average c := by
  cases side with
  | long =>
      simp only [bounces, Side.opposite, c.isBearish_mirror, c.mirror_close, negated_lt_negated]
  | short =>
      simp only [bounces, Side.opposite, c.isBullish_mirror, c.mirror_close, negated_lt_negated]

/-- Whatever confirms on one side confirms on the other one in the mirror image. -/
theorem confirms_mirror (rules : Rules) (side : Side) (average tolerance approach : Float)
    (c : Candle) :
    rules.confirms side.opposite (-average) tolerance (-approach) c.mirror =
      rules.confirms side average tolerance approach c := by
  rw [confirms, confirms, touches_mirror, bounces_mirror]

/-- The strength index is no price: its band is the same for both sides. -/
theorem signal_mirror (rules : Rules) (c : Contract) (side : Side) (m : Context) :
    rules.signal c side.opposite m.mirror = rules.signal c side m := by
  have hrsi : rules.rsiAllows m.mirror = rules.rsiAllows m := rfl
  have haverage : m.mirror.indicators.average rules.emaPeriod =
      (m.indicators.average rules.emaPeriod).map (-·) := m.indicators.average_mirror _
  rw [signal, signal, hrsi, haverage, m.lastSane_mirror]
  cases m.indicators.average rules.emaPeriod with
  | none => rfl
  | some average =>
      cases m.lastCandle.filter Candle.isSane with
      | none => rfl
      | some last =>
          simp only [Option.map_some, approach_mirror, rules.confirms_mirror]

/-- A stop goes behind the swing of its side. -/
theorem swing_mirror (side : Side) (m : Context) :
    swing side.opposite m.mirror = (swing side m).map (-·) := by
  cases side with
  | long => exact m.swingHigh_mirror
  | short => exact m.swingLow_mirror

/-- The buffer beyond a swing points away from the price on both sides. -/
theorem stopPrice_mirror (rules : Rules) (c : Contract) (side : Side) (m : Context)
    (he : Negates entry entry') :
    Option.Rel Negates (rules.stopPrice c side entry m)
      (rules.stopPrice c side.opposite entry' m.mirror) := by
  rw [stopPrice, stopPrice, swing_mirror]
  cases rules.stop with
  | swing bufferTicks =>
      simp only [Option.map_map]
      exact rel_map _ fun level => Level.adverse_opposite side (negates_neg level) _
  | atr multiple => exact rel_map _ fun atr => Level.adverse_opposite side he _
  | fixed d => exact .some (Level.adverse_opposite side he _)

theorem targetPrice_mirror (rules : Rules) (side : Side) (he : Negates entry entry')
    (hs : Negates stop stop') :
    Option.Rel Negates (rules.targetPrice side entry stop)
      (rules.targetPrice side.opposite entry' stop') := by
  cases h : rules.target with
  | risk multiple =>
      rw [targetPrice, targetPrice, h]
      exact Level.riskTarget_opposite side he hs multiple

end Pullback.Rules

/-! ## breakout -/

namespace Channel

/-- A channel upside down. -/
def mirror (ch : Channel) : Channel := ⟨-ch.low, -ch.high⟩

/-- The highest of negated numbers is the lowest one, negated, and the first of equal ones
stays. -/
theorem foldl_larger_neg (xs : List Float) (x : Float) :
    (xs.map (-·)).foldl larger (-x) = -xs.foldl smaller x := by
  induction xs generalizing x with
  | nil => rfl
  | cons y ys ih => rw [List.map_cons, List.foldl_cons, List.foldl_cons, larger_neg_neg, ih]

theorem foldl_smaller_neg (xs : List Float) (x : Float) :
    (xs.map (-·)).foldl smaller (-x) = -xs.foldl larger x := by
  induction xs generalizing x with
  | nil => rfl
  | cons y ys ih => rw [List.map_cons, List.foldl_cons, List.foldl_cons, smaller_neg_neg, ih]

/-- The highest price upside down is the lowest one. -/
theorem ofCandles_mirror (cs : List Candle) :
    ofCandles (cs.map Candle.mirror) = (ofCandles cs).mirror := by
  have hhigh : ((cs.map Candle.mirror).map (·.high)).foldl larger (-1.0 / 0.0) =
      -(cs.map (·.low)).foldl smaller (1.0 / 0.0) := by
    rw [show (-1.0 / 0.0 : Float) = -(1.0 / 0.0) by decide, ← foldl_larger_neg, List.map_map,
      List.map_map]
    rfl
  have hlow : ((cs.map Candle.mirror).map (·.low)).foldl smaller (1.0 / 0.0) =
      -(cs.map (·.high)).foldl larger (-1.0 / 0.0) := by
    rw [show (1.0 / 0.0 : Float) = -(-1.0 / 0.0) by decide, ← foldl_smaller_neg, List.map_map,
      List.map_map]
    rfl
  rw [ofCandles, hhigh, hlow]
  rfl

theorem height_mirror (ch : Channel) : ch.mirror.height = ch.height :=
  negated_sub_negated ch.low ch.high

/-- The level of a channel for one side is that of its mirror image for the other one. -/
theorem level_mirror (ch : Channel) (side : Side) :
    ch.mirror.level side.opposite = -ch.level side := by
  cases side <;> rfl

end Channel

namespace Breakout.Rules

variable {entry entry' stop stop' : Float}

/-- The channel of the mirror image is upside down. -/
theorem channel_mirror (rules : Rules) (m : Context) :
    rules.channel m.mirror = (rules.channel m).map Channel.mirror := by
  rw [channel, channel, m.window_mirror]
  cases m.window rules.lookback with
  | none => rfl
  | some cs =>
      have hsane : (cs.map Candle.mirror).all Candle.isSane = cs.all Candle.isSane := by
        rw [List.all_map]
        exact congrArg cs.all (funext Candle.isSane_mirror)
      simp only [Option.map_some, Option.filter_some, hsane]
      split
      · rw [Option.map_some, Option.map_some, Option.map_some, Channel.ofCandles_mirror]
      · rfl

/-- The wick of the other side is tested. -/
theorem probe_mirror (rules : Rules) (side : Side) (c : Candle) :
    rules.probe side.opposite c.mirror = -rules.probe side c := by
  unfold probe
  cases rules.confirmation <;> cases side <;> rfl

/-- An entry that is put clear of the level is so on both sides. -/
theorem clear_mirror (side : Side) (level price : Float) :
    clear side.opposite (-level) (-price) = -clear side level price := by
  cases side with
  | long => exact smaller_neg_neg price level
  | short => exact larger_neg_neg price level

/-- A breakout upwards is one downwards in the mirror image. -/
theorem signal_mirror (rules : Rules) (side : Side) (m : Context) :
    rules.signal side.opposite m.mirror = rules.signal side m := by
  rw [signal, signal, rules.channel_mirror, m.lastSane_mirror]
  cases rules.channel m with
  | none => rfl
  | some ch =>
      cases m.lastCandle.filter Candle.isSane with
      | none => rfl
      | some last =>
          simp only [Option.map_some, ch.level_mirror, rules.probe_mirror]
          exact side.beyond_opposite (negates_neg _) (negates_neg _)

/-- The price of an entry upside down is negated, signs of zeros included. -/
theorem entryPrice_mirror (rules : Rules) (side : Side) (m : Context) :
    rules.entryPrice side.opposite m.mirror = (rules.entryPrice side m).map (-·) := by
  rw [entryPrice, entryPrice, m.currentPrice_mirror, rules.channel_mirror, Option.map_map,
    Option.map_map]
  congr 1
  funext price
  cases rules.channel m with
  | none => rfl
  | some ch => simp only [Function.comp_apply, Option.map_some, Option.elim_some, ch.level_mirror,
      clear_mirror]

/-- A stop behind the level, by the average range, or at a fixed distance. -/
theorem stopPrice_mirror (rules : Rules) (c : Contract) (side : Side) (m : Context)
    (he : Negates entry entry') :
    Option.Rel Negates (rules.stopPrice c side entry m)
      (rules.stopPrice c side.opposite entry' m.mirror) := by
  rw [stopPrice, stopPrice, rules.channel_mirror]
  cases rules.stop with
  | level bufferTicks =>
      simp only [Option.map_map]
      refine rel_map (rules.channel m) fun ch => ?_
      simp only [Function.comp_apply, ch.level_mirror]
      exact Level.adverse_opposite side (negates_neg _) _
  | atr multiple => exact rel_map _ fun atr => Level.adverse_opposite side he _
  | fixed d => exact .some (Level.adverse_opposite side he _)

/-- A target by the risk or by the height of the channel. -/
theorem targetPrice_mirror (rules : Rules) (side : Side) (m : Context)
    (he : Negates entry entry') (hs : Negates stop stop') :
    Option.Rel Negates (rules.targetPrice side entry stop m)
      (rules.targetPrice side.opposite entry' stop' m.mirror) := by
  rw [targetPrice, targetPrice, rules.channel_mirror]
  cases rules.target with
  | risk multiple => exact Level.riskTarget_opposite side he hs multiple
  | extension multiple =>
      cases rules.channel m with
      | none => exact .none
      | some ch =>
          simp only [Option.map_some, Option.bind_some, ch.height_mirror]
          split
          · exact .some (Level.favorable_opposite side he _)
          · exact .none

end Breakout.Rules

/-! ## entries of all patterns -/

namespace EntryRules

variable {entry entry' stop stop' : Float}

theorem signal_mirror (rules : EntryRules) (c : Contract) (side : Side) (m : Context) :
    rules.signal c side.opposite m.mirror = rules.signal c side m := by
  cases rules with
  | openingRange r => exact r.signal_mirror c side m
  | pullback r => exact r.signal_mirror c side m
  | breakout r => exact r.signal_mirror side m

theorem entryPrice_mirror (rules : EntryRules) (side : Side) (m : Context) :
    Option.Rel Negates (rules.entryPrice side m) (rules.entryPrice side.opposite m.mirror) := by
  have h : rules.entryPrice side.opposite m.mirror = (rules.entryPrice side m).map (-·) := by
    cases rules with
    | openingRange r => exact m.currentPrice_mirror
    | pullback r => exact m.currentPrice_mirror
    | breakout r => exact r.entryPrice_mirror side m
  rw [h]
  cases rules.entryPrice side m with
  | none => exact .none
  | some x => exact .some (negates_neg x)

theorem stopPrice_mirror (rules : EntryRules) (c : Contract) (side : Side) (m : Context)
    (he : Negates entry entry') :
    Option.Rel Negates (rules.stopPrice c side entry m)
      (rules.stopPrice c side.opposite entry' m.mirror) := by
  cases rules with
  | openingRange r => exact r.stopPrice_mirror c side m he
  | pullback r => exact r.stopPrice_mirror c side m he
  | breakout r => exact r.stopPrice_mirror c side m he

theorem targetPrice_mirror (rules : EntryRules) (c : Contract) (side : Side) (m : Context)
    (he : Negates entry entry') (hs : Negates stop stop') :
    Option.Rel Negates (rules.targetPrice c side entry stop m)
      (rules.targetPrice c side.opposite entry' stop' m.mirror) := by
  cases rules with
  | openingRange r => exact r.targetPrice_mirror c side m he hs
  | pullback r => exact r.targetPrice_mirror side he hs
  | breakout r => exact r.targetPrice_mirror side m he hs

end EntryRules

/-! ## sizes and plans -/

/-- The size of a trade depends on the distance between entry and stop only. -/
theorem Strategy.quantity_negates (s : Strategy) (balance : Float) {entry entry' stop stop' : Float}
    (he : Negates entry entry') (hs : Negates stop stop') :
    s.quantity balance entry' stop' = s.quantity balance entry stop := by
  have habs : (entry' - stop').abs = (entry - stop).abs := (he.sub hs).abs.symm
  have hdegenerate : s.sizer.isDegenerate entry' stop' = s.sizer.isDegenerate entry stop := by
    simp only [Sizer.isDegenerate, he.isFinite, hs.isFinite, habs]
  have hper : s.sizer.perContract entry' stop' = s.sizer.perContract entry stop := by
    simp only [Sizer.perContract, Contract.distanceDollars, Contract.ticksOf, habs]
  simp only [quantity, Sizer.quantity, Sizer.quantity?, hdegenerate, hper]
  by_cases h : s.sizer.isDegenerate entry stop
  · rw [if_pos h, if_pos h]
  · rw [if_neg h, if_neg h]

/-- The direction of a strategy for one side only. -/
def Side.only : Side → Direction
  | .long => .long
  | .short => .short

/-- Levels upside down. -/
structure Levels.Mirrors (l l' : Levels) : Prop where
  entry : Negates l.entry l'.entry
  stop : Negates l.stop l'.stop
  target : Negates l.target l'.target

/-- A plan upside down: the other side and negated prices, but the same size, the
same risk and the same ratio. -/
structure Plan.Mirrors (p p' : Plan) : Prop where
  side : p'.side = p.side.opposite
  entry : Negates p.entry p'.entry
  stop : Negates p.stop p'.stop
  target : Negates p.target p'.target
  contracts : p'.contracts = p.contracts
  riskDollars : p'.riskDollars = p.riskDollars
  rewardRisk : p'.rewardRisk = p.rewardRisk

namespace Strategy

/-- Levels of a side are there together with those of the other side, and are their mirror
images. -/
theorem levels_mirror (s : Strategy) (side : Side) (m : Context) :
    Option.Rel Levels.Mirrors (s.levels side m) (s.levels side.opposite m.mirror) := by
  unfold levels
  refine rel_bind (s.entry.entryPrice_mirror side m) fun entry entry' he => ?_
  refine rel_bind (s.entry.stopPrice_mirror s.contract side m he) fun stop stop' hs => ?_
  refine rel_bind (s.entry.targetPrice_mirror s.contract side m he hs) fun target target' ht => ?_
  rw [Level.isOrdered_opposite side he hs ht]
  split
  · exact .some ⟨he, hs, ht⟩
  · exact .none

/-- A side fires if the other one does in the mirror image, whichever sides are allowed. -/
theorem fires_mirror (s : Strategy) (side : Side) (m : Context) :
    s.fires side.opposite m.mirror = s.fires side m := by
  rw [fires, fires, s.entry.signal_mirror, rel_isSome (s.levels_mirror side m)]

/-- A strategy for one side enters on that side or not at all. -/
theorem entrySide_only (s : Strategy) (side : Side) (m : Context) :
    entrySide { s with direction := side.only } m =
      if s.fires side m then some side else none := by
  have hsides : side.only.sides = [side] := by cases side <;> rfl
  rw [entrySide, hsides, List.find?_singleton]
  rfl

/-- The size depends on the distance between entry and stop, which is the same. -/
theorem planOf_mirror (s : Strategy) (side : Side) {l l' : Levels} (h : l.Mirrors l')
    (balance : Float) :
    (s.planOf side l balance).Mirrors (s.planOf side.opposite l' balance) := by
  have hquantity := s.quantity_negates balance h.entry h.stop
  have hrisk : s.sizer.perContract l'.entry l'.stop = s.sizer.perContract l.entry l.stop := by
    simp only [Sizer.perContract, Contract.distanceDollars, Contract.ticksOf,
      (h.entry.sub h.stop).abs]
  constructor
  case side => rfl
  case entry => exact h.entry
  case stop => exact h.stop
  case target => exact h.target
  case contracts => exact hquantity
  case riskDollars => simp only [planOf, hquantity, hrisk]
  case rewardRisk => simp only [planOf, (h.target.sub h.entry).abs, (h.entry.sub h.stop).abs]

/-- The plans of a strategy for one side and of its copy for the other side. -/
theorem plan_only (tz : ZoneDatabase) (s : Strategy) (side : Side) (m : Context) (balance : Float) :
    Option.Rel Plan.Mirrors (plan tz { s with direction := side.only } m balance)
      (plan tz { s with direction := side.opposite.only } m.mirror balance) := by
  unfold plan
  rw [entrySide_only, entrySide_only, fires_mirror]
  -- neither the session nor the levels depend on the direction
  show Option.Rel _ (if s.isOpen tz m then _ else _) (if s.isOpen tz m then _ else _)
  by_cases hopen : s.isOpen tz m
  · rw [if_pos hopen, if_pos hopen]
    by_cases hfires : s.fires side m
    · rw [if_pos hfires, if_pos hfires]
      show Option.Rel _ ((s.levels side m).bind fun l => some (s.planOf side l balance))
        ((s.levels side.opposite m.mirror).bind fun l => some (s.planOf side.opposite l balance))
      exact rel_bind (s.levels_mirror side m) fun l l' hl => .some (s.planOf_mirror side hl balance)
    · rw [if_neg hfires, if_neg hfires]
      exact .none
  · rw [if_neg hopen, if_neg hopen]
    exact .none

/-- **Long and short trades mirror each other**: a strategy for the long side and
its copy for the short side plan the same trade, the copy in the mirrored
context and upside down; and so do the entry rules answer for each side: the
signal is the same and the prices are negated. -/
theorem mirror_symmetry (tz : ZoneDatabase) (s : Strategy) (m : Context) (balance : Float) :
    Option.Rel Plan.Mirrors (plan tz { s with direction := .long } m balance)
        (plan tz { s with direction := .short } m.mirror balance) ∧
      ∀ (rules : EntryRules) (c : Contract) (side : Side),
        rules.signal c side m = rules.signal c side.opposite m.mirror ∧
          Option.Rel Negates (rules.entryPrice side m) (rules.entryPrice side.opposite m.mirror) ∧
          ∀ entry entry', Negates entry entry' →
            Option.Rel Negates (rules.stopPrice c side entry m)
                (rules.stopPrice c side.opposite entry' m.mirror) ∧
              ∀ stop stop', Negates stop stop' →
                Option.Rel Negates (rules.targetPrice c side entry stop m)
                  (rules.targetPrice c side.opposite entry' stop' m.mirror) := by
  refine ⟨plan_only tz s .long m balance, fun rules c side => ?_⟩
  refine ⟨(rules.signal_mirror c side m).symm, rules.entryPrice_mirror side m, ?_⟩
  intro entry entry' he
  refine ⟨rules.stopPrice_mirror c side m he, ?_⟩
  intro stop stop' hs
  exact rules.targetPrice_mirror c side m he hs

end Strategy

end Playbook
