import Playbook.Proofs.Trade.Loss
import Playbook.Proofs.Trade.Protection

/-!
# Playbook.Proofs.Trade.Obstacle

Why a side with a signal is not entered.

There are three obstacles: the average true range that a stop is measured with is
missing, a level is not finite, or two levels coincide.  A stop or a target on the
wrong side is none of them, as long as the stop is not at a swing
(`Strategy.signalled_side_is_protected`).

Some targets are given up before they are compared, because nothing or without
bound is risked, or because a channel has no height.  The obstacle shows in the
price where such a target would have been, its goal.
-/

namespace Playbook

open Number

variable {side : Side} {m : Context}

/-! ## prices that do not move or move too far -/

namespace Level

variable {x distance entry stop multiple : Float}

/-- A price that moves without bounds does not stay finite. -/
theorem favorable_of_infinite (hx : x.isFinite = true)
    (hd : parts distance = .infinity .positive) (side : Side) :
    ¬(favorable side x distance).isFinite = true := by
  have hlong {y : Float} (hy : y.isFinite = true) :
      ¬(favorable .long y distance).isFinite = true := by
    have heq : favorable .long y distance = distance * 1.0 + y := by
      rw [favorable, add_swap, mul_swap]
      rfl
    rw [heq, isFinite_eq,
      (rounds_add hy).infinite ((rounds_mul (c := 1.0) (by decide) (by decide)).infinite hd)]
    exact Bool.false_ne_true
  cases side with
  | long => exact hlong hx
  | short =>
      have hneg : Negates (-x) x := by simpa using negates_neg (-x)
      have h : Negates (favorable .long (-x) distance) (favorable .short x distance) :=
        favorable_opposite .long hneg distance
      rw [h.isFinite]
      exact hlong ((isFinite_neg x).trans hx)

/-- A price that moves by nothing stays where it is. -/
theorem favorable_of_zero (hx : x.isFinite = true) (hd : distance.isFinite = true)
    (hzero : place (parts distance) = 0) (side : Side) :
    (favorable side x distance == x) = true := by
  have hmul : (side.sign * distance).isFinite = true ∧
      place (parts (side.sign * distance)) = 0 := by
    obtain ⟨hne, hplace⟩ := place_mul (x := side.sign) (by cases side <;> decide) hd
    rw [hzero, mul_zero, cut_nearest_zero] at hplace
    exact ⟨isFinite_of_place hne (by rw [hplace, abs_zero]; exact limit_pos), hplace⟩
  obtain ⟨hne, hplace⟩ := place_add hx hmul.1
  rw [hmul.2, add_zero, cut_nearest_place hx] at hplace
  exact beq_iff_place.mpr ⟨hne, isFinite_ne hx, hplace⟩

/-- A target that is measured by the risk is given up if the risk is infinite or
nothing is risked. -/
theorem riskTarget_eq_none (hmultiple : Positive multiple) (hentry : entry.isFinite = true)
    (hstop : stop.isFinite = true) (h : riskTarget side entry stop multiple = none) :
    ¬(favorable side entry (multiple * (entry - stop).abs)).isFinite = true ∨
      (stop == entry) = true := by
  have hnonneg : 0.0 ≤ (entry - stop).abs :=
    abs_nonneg_number (isNaN_eq_false_iff.mpr (place_sub hentry hstop).1)
  by_cases hfinite : (entry - stop).abs.isFinite = true
  · refine .inr ?_
    by_contra hne
    rw [beq_swap] at hne
    have hpos := abs_sub_pos hentry hstop hne
    simp [riskTarget, hpos, hfinite] at h
  · refine .inl (favorable_of_infinite hentry ?_ side)
    rw [mul_swap]
    exact (rounds_mul hmultiple.2 hmultiple.1).infinite (parts_eq_infinity hnonneg hfinite)

end Level

/-- A target in a channel is given up if the channel has no height. -/
theorem Breakout.Rules.goal_of_flat {rules : Breakout.Rules} {ch : Channel} {entry multiple : Float}
    (hch : rules.channel m = some ch) (hentry : entry.isFinite = true)
    (hmultiple : Positive multiple) (hflat : ¬0.0 < ch.height) :
    (Level.favorable side entry (ch.height * multiple) == entry) = true := by
  obtain ⟨hne, hnonneg⟩ := nonneg_iff.mp (height_nonneg hch)
  have hzero : place (parts ch.height) = 0 := by
    refine le_antisymm (le_of_not_gt fun hpos => hflat ?_) hnonneg
    exact pos_iff.mpr ⟨hne, hpos⟩
  have hheight : ch.height.isFinite = true :=
    isFinite_of_place hne (by rw [hzero, abs_zero]; exact limit_pos)
  obtain ⟨hne, hplace⟩ := place_mul hheight hmultiple.1
  rw [hzero, zero_mul, cut_nearest_zero] at hplace
  exact Level.favorable_of_zero hentry
    (isFinite_of_place hne (by rw [hplace, abs_zero]; exact limit_pos)) hplace side

/-! ## goals -/

/-- Where the target of an entry is, whether it can be used or not. -/
def EntryRules.goal (rules : EntryRules) (c : Contract) (side : Side) (entry stop : Float)
    (m : Context) : Option Float :=
  (rules.reach c entry stop m).map (Level.favorable side entry)

namespace EntryRules

variable {rules : EntryRules} {x : Symbol} {entry stop target goal : Float}

/-- A target that can be used is the goal. -/
theorem goal_of_target (hbounded : rules.Bounded)
    (h : rules.targetPrice x.contract side entry stop m = some target) :
    rules.goal x.contract side entry stop m = some target := by
  obtain ⟨distance, hreach, -, rfl⟩ := target_eq_some hbounded h
  rw [EntryRules.goal, hreach, Option.map_some]

/-- With a signal there is all that the goal is computed from. -/
theorem exists_goal (hsignal : rules.signal x.contract side m = true) (entry stop : Float) :
    ∃ goal, rules.goal x.contract side entry stop m = some goal := by
  suffices h : ∃ distance, rules.reach x.contract entry stop m = some distance by
    obtain ⟨distance, hreach⟩ := h
    exact ⟨_, congrArg (Option.map _) hreach⟩
  cases rules with
  | openingRange r =>
      obtain ⟨range, -, hrange, -⟩ := OpeningRange.Rules.signal_eq_true_iff.mp hsignal
      obtain ⟨period, buffer, stopRule, targetRule⟩ := r
      cases targetRule with
      | extension multiple => exact ⟨_, congrArg (Option.map _) hrange⟩
      | _ => exact ⟨_, rfl⟩
  | pullback r =>
      obtain ⟨period, confirmation, tolerance, band, stopRule, targetRule⟩ := r
      cases targetRule with
      | risk multiple => exact ⟨_, rfl⟩
  | breakout r =>
      obtain ⟨ch, -, hch, -⟩ := Breakout.Rules.signal_eq_true_iff.mp hsignal
      obtain ⟨lookback, confirmation, stopRule, targetRule⟩ := r
      cases targetRule with
      | extension multiple => exact ⟨_, congrArg (Option.map _) hch⟩
      | _ => exact ⟨_, rfl⟩

/-- A target is given up only if its goal is not finite or two levels coincide. -/
theorem obstacle_of_target_eq_none (hbounded : rules.Bounded) (hentry : entry.isFinite = true)
    (hstop : stop.isFinite = true)
    (htarget : rules.targetPrice x.contract side entry stop m = none)
    (hgoal : rules.goal x.contract side entry stop m = some goal) :
    ¬goal.isFinite = true ∨ (stop == entry) = true ∨ (goal == entry) = true := by
  have hrisk {multiple : Float} (hmultiple : Positive multiple)
      (htarget : Level.riskTarget side entry stop multiple = none)
      (hgoal : some (Level.favorable side entry (multiple * (entry - stop).abs)) = some goal) :
      ¬goal.isFinite = true ∨ (stop == entry) = true ∨ (goal == entry) = true := by
    obtain rfl := Option.some.inj hgoal
    exact (Level.riskTarget_eq_none hmultiple hentry hstop htarget).imp_right .inl
  cases rules with
  | openingRange r =>
      obtain ⟨period, buffer, stopRule, targetRule⟩ := r
      obtain ⟨-, -, hbounded⟩ := hbounded
      cases targetRule with
      | risk multiple => exact hrisk hbounded htarget hgoal
      | extension multiple =>
          have hrange : m.tradableRange = none := Option.map_eq_none_iff.mp htarget
          rw [EntryRules.goal, reach, hrange] at hgoal
          contradiction
      | fixed d => contradiction
  | pullback r =>
      obtain ⟨period, confirmation, tolerance, band, stopRule, targetRule⟩ := r
      obtain ⟨-, hbounded⟩ := hbounded
      cases targetRule with
      | risk multiple => exact hrisk hbounded htarget hgoal
  | breakout r =>
      obtain ⟨lookback, confirmation, stopRule, targetRule⟩ := r
      obtain ⟨-, hbounded⟩ := hbounded
      cases targetRule with
      | risk multiple => exact hrisk hbounded htarget hgoal
      | extension multiple =>
          obtain ⟨distance, hreach, rfl⟩ := Option.map_eq_some_iff.mp hgoal
          obtain ⟨ch, hch, rfl⟩ := Option.map_eq_some_iff.mp hreach
          have hflat : ¬0.0 < ch.height := by
            intro hpos
            have htarget := (Option.bind_eq_none_iff.mp htarget) ch hch
            rw [if_pos hpos] at htarget
            contradiction
          exact .inr (.inr (Breakout.Rules.goal_of_flat hch hentry hbounded hflat))

/-! ## inputs -/

/-- A stop that is measured with the average true range. -/
def StopsByAtr : EntryRules → Prop
  | .openingRange r => ∃ multiple, r.stop = .atr multiple
  | .pullback r => ∃ multiple, r.stop = .atr multiple
  | .breakout r => ∃ multiple, r.stop = .atr multiple

end EntryRules

/-- The close of a candle is a price. -/
theorem Context.exists_currentPrice {last : Candle}
    (h : m.lastCandle.filter Candle.isSane = some last) : ∃ price, m.currentPrice = some price := by
  obtain ⟨hlast, hsane⟩ := Option.filter_eq_some_iff.mp h
  simp only [Candle.isSane, Candle.isVoid, Bool.and_eq_true, Bool.not_not] at hsane
  obtain ⟨⟨⟨⟨⟨⟨-, hclose⟩, -⟩, -⟩, -⟩, -⟩, -⟩ := hsane
  have hprice : (m.lastCandle.map (·.close)).filter Float.isFinite = some last.close := by
    rw [hlast]
    exact Option.filter_eq_some_iff.mpr ⟨rfl, hclose⟩
  rw [currentPrice, hprice]
  cases (m.quote.map (·.last)).filter Float.isFinite <;> exact ⟨_, rfl⟩

namespace EntryRules

variable {rules : EntryRules} {x : Symbol} {entry stop target goal : Float}

/-- With a signal there is a price to enter at. -/
theorem exists_entry (hsignal : rules.signal x.contract side m = true) :
    ∃ entry, rules.entryPrice side m = some entry := by
  cases rules with
  | openingRange r =>
      obtain ⟨-, price, -, hprice, -⟩ := OpeningRange.Rules.signal_eq_true_iff.mp hsignal
      exact ⟨price, hprice⟩
  | pullback r =>
      obtain ⟨-, -, last, -, hlast, -⟩ := Pullback.Rules.signal_eq_true_iff.mp hsignal
      exact m.exists_currentPrice hlast
  | breakout r =>
      obtain ⟨-, last, -, hlast, -⟩ := Breakout.Rules.signal_eq_true_iff.mp hsignal
      obtain ⟨price, hprice⟩ := m.exists_currentPrice hlast
      exact ⟨_, congrArg (Option.map _) hprice⟩

/-- With a signal, the average true range is all that a stop can lack. -/
theorem stop_eq_none_iff (hswing : ¬rules.StopsAtSwing)
    (hsignal : rules.signal x.contract side m = true) :
    rules.stopPrice x.contract side entry m = none ↔
      rules.StopsByAtr ∧ m.indicators.usableAtr = none := by
  have hatr {f : Float → Float} {P : Prop} (hP : P) :
      m.indicators.usableAtr.map f = none ↔ P ∧ m.indicators.usableAtr = none := by
    rw [Option.map_eq_none_iff, and_iff_right hP]
  have hsome {o : Option Float} {price : Float} {P : Prop} (ho : o = some price) (hP : ¬P) :
      o = none ↔ P ∧ m.indicators.usableAtr = none := by
    rw [ho]
    exact iff_of_false nofun fun h => hP h.1
  cases rules with
  | openingRange r =>
      obtain ⟨range, -, hrange, -⟩ := OpeningRange.Rules.signal_eq_true_iff.mp hsignal
      obtain ⟨period, buffer, stopRule, targetRule⟩ := r
      cases stopRule with
      | percentage value => exact hsome (congrArg (Option.map _) hrange) nofun
      | oppositeSide => exact hsome (congrArg (Option.map _) hrange) nofun
      | fixed d => exact hsome rfl nofun
      | atr multiple => exact hatr ⟨multiple, rfl⟩
  | pullback r =>
      obtain ⟨period, confirmation, tolerance, band, stopRule, targetRule⟩ := r
      cases stopRule with
      | swing bufferTicks => exact absurd ⟨bufferTicks, rfl⟩ hswing
      | fixed d => exact hsome rfl nofun
      | atr multiple => exact hatr ⟨multiple, rfl⟩
  | breakout r =>
      obtain ⟨ch, -, hch, -⟩ := Breakout.Rules.signal_eq_true_iff.mp hsignal
      obtain ⟨lookback, confirmation, stopRule, targetRule⟩ := r
      cases stopRule with
      | level bufferTicks => exact hsome (congrArg (Option.map _) hch) nofun
      | fixed d => exact hsome rfl nofun
      | atr multiple => exact hatr ⟨multiple, rfl⟩

end EntryRules

/-! ## order -/

/-- Prices in the order of a side are in the strict order if they are finite and no two
levels coincide. -/
theorem Side.WeaklyOrdered.ordered {entry stop target : Float}
    (h : side.WeaklyOrdered entry stop target)
    (hfinite : entry.isFinite = true ∧ stop.isFinite = true ∧ target.isFinite = true)
    (hstop : ¬(stop == entry) = true) (htarget : ¬(target == entry) = true) :
    side.Ordered entry stop target := by
  obtain ⟨hs, ht⟩ := h
  have hstop' : ¬(entry == stop) = true := by rwa [beq_swap]
  have htarget' : ¬(entry == target) = true := by rwa [beq_swap]
  refine ⟨hfinite, ?_⟩
  cases side with
  | long =>
      exact ⟨lt_iff_le_and_not_beq.mpr ⟨hs, hstop⟩, lt_iff_le_and_not_beq.mpr ⟨ht, htarget'⟩⟩
  | short =>
      exact ⟨lt_iff_le_and_not_beq.mpr ⟨ht, htarget⟩, lt_iff_le_and_not_beq.mpr ⟨hs, hstop'⟩⟩

/-- In the strict order no two levels coincide. -/
theorem Side.Ordered.ne {entry stop target : Float} (h : side.Ordered entry stop target) :
    ¬(stop == entry) = true ∧ ¬(target == entry) = true := by
  obtain ⟨-, h⟩ := h
  cases side with
  | long =>
      rw [beq_swap target]
      exact ⟨(lt_iff_le_and_not_beq.mp h.1).2, (lt_iff_le_and_not_beq.mp h.2).2⟩
  | short =>
      rw [beq_swap stop]
      exact ⟨(lt_iff_le_and_not_beq.mp h.2).2, (lt_iff_le_and_not_beq.mp h.1).2⟩

/-! ## obstacles -/

namespace Strategy

variable {document : Json} {s : Strategy}

/-- The prices that an entry on a side aims at. -/
structure Aims (s : Strategy) (side : Side) (m : Context) (entry stop goal : Float) : Prop where
  entryPrice : s.entry.entryPrice side m = some entry
  stopPrice : s.entry.stopPrice s.contract side entry m = some stop
  goalPrice : s.entry.goal s.contract side entry stop m = some goal

/-- What keeps a strategy from entering on a side with a signal. -/
inductive Obstacle (s : Strategy) (side : Side) (m : Context) : Prop where
  /-- The average true range, with which the stop is measured, is missing. -/
  | missing : s.entry.StopsByAtr → m.indicators.usableAtr = none → Obstacle s side m
  /-- A level is not finite. -/
  | infinite {entry stop goal : Float} : s.Aims side m entry stop goal →
      ¬(entry.isFinite = true ∧ stop.isFinite = true ∧ goal.isFinite = true) → Obstacle s side m
  /-- The stop or the target is at the entry. -/
  | coincident {entry stop goal : Float} : s.Aims side m entry stop goal →
      (stop == entry) = true ∨ (goal == entry) = true → Obstacle s side m

/-- The levels of an entry, if there are any, are what it aims at. -/
theorem aims_of_levels (hbounded : s.entry.Bounded) {l : Levels}
    (h : s.levels side m = some l) : s.Aims side m l.entry l.stop l.target := by
  obtain ⟨hentry, hstop, htarget, -⟩ := levels_eq_some_iff.mp h
  exact ⟨hentry, hstop, EntryRules.goal_of_target hbounded htarget⟩

/-- There is one entry, one stop and one goal. -/
theorem Aims.unique {entry stop goal entry' stop' goal' : Float} (h : s.Aims side m entry stop goal)
    (h' : s.Aims side m entry' stop' goal') : entry = entry' ∧ stop = stop' ∧ goal = goal' := by
  obtain ⟨hentry, hstop, hgoal⟩ := h
  obtain ⟨hentry', hstop', hgoal'⟩ := h'
  obtain rfl := Option.some.inj (hentry.symm.trans hentry')
  obtain rfl := Option.some.inj (hstop.symm.trans hstop')
  exact ⟨rfl, rfl, Option.some.inj (hgoal.symm.trans hgoal')⟩

/-- An obstacle is in the way of every entry. -/
theorem Obstacle.levels_eq_none (hbounded : s.entry.Bounded) (hswing : ¬s.entry.StopsAtSwing)
    (hsignal : s.entry.signal s.contract side m = true) (h : s.Obstacle side m) :
    s.levels side m = none := by
  rw [Option.eq_none_iff_forall_ne_some]
  intro l hl
  obtain ⟨-, hstop, -, hordered⟩ := levels_eq_some_iff.mp hl
  have haims := aims_of_levels hbounded hl
  cases h with
  | missing hatr hmissing =>
      have hnone : s.entry.stopPrice s.contract side l.entry m = none :=
        (EntryRules.stop_eq_none_iff hswing hsignal).mpr ⟨hatr, hmissing⟩
      exact absurd (hnone.symm.trans hstop) nofun
  | infinite haims' hinfinite =>
      obtain ⟨rfl, rfl, rfl⟩ := haims.unique haims'
      exact hinfinite hordered.1
  | coincident haims' hcoincident =>
      obtain ⟨rfl, rfl, rfl⟩ := haims.unique haims'
      exact hcoincident.elim hordered.ne.1 hordered.ne.2

/-- A side with a signal that cannot be entered has an obstacle. -/
theorem obstacle_of_levels_eq_none (hbounded : s.entry.Bounded) (hswing : ¬s.entry.StopsAtSwing)
    (hsignal : s.entry.signal s.contract side m = true) (h : s.levels side m = none) :
    s.Obstacle side m := by
  obtain ⟨entry, hentry⟩ := EntryRules.exists_entry hsignal
  cases hstop : s.entry.stopPrice s.contract side entry m with
  | none =>
      obtain ⟨hatr, hmissing⟩ :=
        (EntryRules.stop_eq_none_iff hswing hsignal).mp hstop
      exact .missing hatr hmissing
  | some stop =>
      obtain ⟨goal, hgoal⟩ := EntryRules.exists_goal hsignal entry stop
      have haims : s.Aims side m entry stop goal := ⟨hentry, hstop, hgoal⟩
      by_contra hclear
      have hfinite : entry.isFinite = true ∧ stop.isFinite = true ∧ goal.isFinite = true := by
        by_contra hinfinite
        exact hclear (.infinite haims hinfinite)
      have hdistinct : ¬((stop == entry) = true ∨ (goal == entry) = true) :=
        fun hcoincident => hclear (.coincident haims hcoincident)
      cases htarget : s.entry.targetPrice s.contract side entry stop m with
      | none =>
          obtain hinfinite | hcoincident := EntryRules.obstacle_of_target_eq_none
            hbounded hfinite.1 hfinite.2.1 htarget hgoal
          · exact hinfinite hfinite.2.2
          · exact hdistinct hcoincident
      | some target =>
          obtain rfl : target = goal := Option.some.inj
            ((EntryRules.goal_of_target hbounded htarget).symm.trans hgoal)
          rw [not_or] at hdistinct
          have hordered : side.WeaklyOrdered entry stop target :=
            ⟨EntryRules.stop_notBehind hbounded hswing hsignal hentry hstop,
              EntryRules.notBehind_target hbounded hfinite.1 htarget⟩
          have hlevels : s.levels side m = some ⟨entry, stop, target⟩ :=
            levels_eq_some_iff.mpr ⟨hentry, hstop, htarget,
              hordered.ordered hfinite hdistinct.1 hdistinct.2⟩
          exact absurd (h.symm.trans hlevels) nofun

/-- A side with a signal that may be traded is entered, unless the long side is entered
before it or there is an obstacle. -/
theorem entered_or_obstacle (hbounded : s.entry.Bounded) (hswing : ¬s.entry.StopsAtSwing)
    (hsignal : s.entry.signal s.contract side m = true)
    (hallows : s.direction.allows side = true) :
    s.entrySide m = some side ∨ side = .short ∧ s.entrySide m = some .long ∨
      s.Obstacle side m := by
  cases hlevels : s.levels side m with
  | none => exact .inr (.inr (obstacle_of_levels_eq_none hbounded hswing hsignal hlevels))
  | some l =>
      have hfires : s.fires side m = true := by
        rw [fires, hsignal, hlevels, Option.isSome_some, Bool.and_self]
      by_cases hlong : s.direction = .both ∧ side = .short ∧ s.fires .long m = true
      · obtain ⟨hboth, hshort, hlong⟩ := hlong
        refine .inr (.inl ⟨hshort, entrySide_eq_some_iff.mpr ⟨?_, hlong, fun _ hside => ?_⟩⟩)
        · rw [hboth]
          rfl
        · contradiction
      · exact .inl (entrySide_eq_some_iff.mpr ⟨hallows, hfires, fun hboth hshort hfires' =>
          hlong ⟨hboth, hshort, hfires'⟩⟩)

/-- **A signal comes with prices on the right sides.**  If the stop is not at a swing
and a side has a signal, the stop is not beyond the entry and the target is not
before it, infinite ones included.  So what keeps a strategy from a side with a
signal is an obstacle, and nothing else.  And whatever target is given for an entry
and a stop lies on the other side of the entry, or at it. -/
theorem signalled_side_is_protected (h : ofJson document = .ok s) (m : Context) :
    (¬s.entry.StopsAtSwing → ∀ side, s.entry.signal s.contract side m = true →
        (∀ entry stop target, s.entry.entryPrice side m = some entry →
          s.entry.stopPrice s.contract side entry m = some stop →
            s.entry.targetPrice s.contract side entry stop m = some target →
              side.WeaklyOrdered entry stop target) ∧
          (s.levels side m = none ↔ s.Obstacle side m) ∧
            (s.direction.allows side = true →
              s.entrySide m = some side ∨ side = .short ∧ s.entrySide m = some .long ∨
                s.Obstacle side m)) ∧
      ∀ entry stop target, s.targetPrice entry stop m = some target →
        (stop < entry → entry ≤ target) ∧ (entry < stop → target ≤ entry) := by
  have hbounded := entry_bounded h
  constructor
  · intro hswing side hsignal
    refine ⟨?_, ⟨?_, ?_⟩, entered_or_obstacle hbounded hswing hsignal⟩
    · intro entry stop target hentry hstop htarget
      exact ⟨EntryRules.stop_notBehind hbounded hswing hsignal hentry hstop,
        EntryRules.notBehind_target hbounded
          (EntryRules.entry_isFinite hentry) htarget⟩
    · exact obstacle_of_levels_eq_none hbounded hswing hsignal
    · exact Obstacle.levels_eq_none hbounded hswing hsignal
  · intro entry stop target htarget
    rw [targetPrice] at htarget
    split at htarget
    · next hfinite =>
      rw [Bool.and_eq_true] at hfinite
      obtain ⟨side, hside, htarget⟩ := Option.bind_eq_some_iff.mp htarget
      have hbehind : side.NotBehind entry target :=
        EntryRules.notBehind_target hbounded hfinite.1 htarget
      constructor
      · intro hlong
        rw [sideOf, if_pos hlong] at hside
        obtain rfl := Option.some.inj hside
        exact hbehind
      · intro hshort
        rw [sideOf, if_neg (lt_asymm hshort), if_pos hshort] at hside
        obtain rfl := Option.some.inj hside
        exact hbehind
    · contradiction

/-- The crossing of the sample has its stop below and its target above. -/
theorem signalled_side_is_protected_crossing :
    ofJson sample = .ok ofSample ∧ ¬ofSample.entry.StopsAtSwing ∧
      ofSample.entry.signal ofSample.contract .long crossing = true ∧
        Side.long.WeaklyOrdered 5011.0 5009.0 5014.0 ∧ ¬ofSample.Obstacle .long crossing ∧
          (5011.0 : Float) ≤ 5014.0 := by
  have hlevels : (ofSample.levels .long crossing).isSome = true := by decide +kernel
  have h := (signalled_side_is_protected ofJson_sample crossing).1 not_false .long
    (by decide +kernel)
  refine ⟨ofJson_sample, not_false, by decide +kernel, ?_, ?_, ?_⟩
  · exact h.1 _ _ _ (by decide +kernel) (by decide +kernel) (by decide +kernel)
  · intro hobstacle
    rw [h.2.1.mpr hobstacle] at hlevels
    contradiction
  · exact ((signalled_side_is_protected ofJson_sample crossing).2 5011.0 5009.0 5014.0
      (by decide +kernel)).1 (by decide +kernel)

end Strategy

end Playbook
