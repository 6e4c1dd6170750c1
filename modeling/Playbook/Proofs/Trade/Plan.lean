import Playbook.Proofs.Number.Parts
import Playbook.Trade.Plan

/-!
# Playbook.Proofs.Trade.Plan

The plan of a strategy and its answers to single questions.

The side of a trade is chosen in four places: by search (`entrySide`), by the
direction (`priceSide`), by the place of the stop (`sideOf`), and in a plan by
passing it on.  Where there is an entry, all of them choose the same side, so
that a plan holds the answers to the single questions, and its prices stand in
the order that its side demands.
-/

namespace Playbook

/-! ## order of prices -/

/-- The stop on the losing side and the target on the winning side of the entry,
all of them finite. -/
def Side.Ordered (side : Side) (entry stop target : Float) : Prop :=
  (entry.isFinite ∧ stop.isFinite ∧ target.isFinite) ∧
    match side with
    | .long => stop < entry ∧ entry < target
    | .short => target < entry ∧ entry < stop

/-- The test for the order of prices is about finite prices in strict order. -/
theorem Level.isOrdered_iff (side : Side) (entry stop target : Float) :
    Level.isOrdered side entry stop target = true ↔ side.Ordered entry stop target := by
  cases side <;>
    simp only [Level.isOrdered, Side.Ordered, Bool.and_eq_true, decide_eq_true_eq, and_assoc]

/-- The side of a trade shows in the place of its stop. -/
theorem Strategy.sideOf_of_ordered {side : Side} {entry stop target : Float}
    (h : side.Ordered entry stop target) : Strategy.sideOf entry stop = some side := by
  obtain ⟨-, h⟩ := h
  cases side with
  | long => rw [sideOf, if_pos h.1]
  | short => rw [sideOf, if_neg (Number.lt_asymm h.2), if_pos h.2]

/-! ## sizes -/

theorem Number.floorWithin_le (most : Nat) (x : Float) : floorWithin most x ≤ most := by
  unfold floorWithin
  split
  · split
    · exact Nat.zero_le _
    · exact Nat.min_le_right _ _
  · split
    · exact Nat.le_refl _
    · exact Nat.zero_le _

/-- No trade is larger than the strategy allows. -/
theorem Strategy.quantity_le (s : Strategy) (balance entry stop : Float) :
    s.quantity balance entry stop ≤ s.risk.maxContracts := by
  unfold quantity Sizer.quantity Sizer.quantity?
  by_cases hdegenerate : s.sizer.isDegenerate entry stop
  · rw [if_pos hdegenerate]
    exact Nat.zero_le _
  · rw [if_neg hdegenerate]
    dsimp only
    split
    · next n heq =>
      split at heq
      · cases heq
        exact Nat.zero_le _
      · cases heq
        exact Number.floorWithin_le _ _
    · exact Nat.zero_le _

/-! ## sides -/

/-- The sides that are tried are those that may be traded. -/
theorem Direction.mem_sides (d : Direction) (side : Side) :
    side ∈ d.sides ↔ d.allows side = true := by
  cases d <;> cases side <;> decide

namespace Strategy

variable {s : Strategy} {m : Context} {side : Side}

/-- What the levels of a trade are. -/
theorem levels_eq_some_iff {l : Levels} :
    s.levels side m = some l ↔
      s.entry.entryPrice side m = some l.entry ∧
        s.entry.stopPrice s.contract side l.entry m = some l.stop ∧
          s.entry.targetPrice s.contract side l.entry l.stop m = some l.target ∧
            side.Ordered l.entry l.stop l.target := by
  simp only [levels, Option.bind_eq_bind, Option.bind_eq_some_iff, ← Level.isOrdered_iff]
  constructor
  · intro h
    obtain ⟨entry, hentry, stop, hstop, target, htarget, h⟩ := h
    split at h
    · next hordered =>
      cases h
      exact ⟨hentry, hstop, htarget, hordered⟩
    · contradiction
  · intro h
    obtain ⟨hentry, hstop, htarget, hordered⟩ := h
    exact ⟨_, hentry, _, hstop, _, htarget, by rw [if_pos hordered]⟩

/-- A side on which a strategy enters may be traded and has levels. -/
theorem entrySide_eq_some (h : s.entrySide m = some side) :
    s.direction.allows side = true ∧ ∃ l, s.levels side m = some l := by
  have hmem : side ∈ s.direction.sides := List.mem_of_find?_eq_some h
  have hfires : s.fires side m = true :=
    List.find?_some (p := fun side => s.fires side m) h
  rw [fires, Bool.and_eq_true, Option.isSome_iff_exists] at hfires
  exact ⟨(s.direction.mem_sides side).mp hmem, hfires.2⟩

/-- A strategy for both sides enters on the short side if it cannot enter on the
long one. -/
theorem entrySide_eq_some_iff :
    s.entrySide m = some side ↔
      s.direction.allows side = true ∧ s.fires side m = true ∧
        (s.direction = .both → side = .short → ¬s.fires .long m = true) := by
  rw [entrySide]
  cases s.direction <;> cases side <;> cases hlong : s.fires .long m <;>
    cases hshort : s.fires .short m <;> simp [Direction.sides, Direction.allows, hlong, hshort]

/-- Prices are given for the side on which a strategy enters. -/
theorem priceSide_eq (h : s.entrySide m = some side) : s.priceSide m = side := by
  have hallows := (entrySide_eq_some h).1
  cases hdirection : s.direction with
  | both => rw [priceSide, hdirection, h, Option.getD_some]
  | long =>
      rw [hdirection] at hallows
      cases side with
      | long => rw [priceSide, hdirection]
      | short => contradiction
  | short =>
      rw [hdirection] at hallows
      cases side with
      | long => contradiction
      | short => rw [priceSide, hdirection]

/-! ## plans on one side -/

/-- The plan of a trade on a side, whether the strategy may trade that side or not. -/
def sidePlan (tz : ZoneDatabase) (s : Strategy) (side : Side) (m : Context) (balance : Float) :
    Option Plan :=
  if s.isOpen tz m && s.fires side m then
    (s.levels side m).map fun l => s.planOf side l balance
  else none

theorem fires_of_entrySide {s : Strategy} {m : Context} {side : Side}
    (h : s.entrySide m = some side) : s.fires side m = true :=
  List.find?_some (p := fun side => s.fires side m) h

/-- The plan of a strategy is the plan on the side on which it enters. -/
theorem plan_eq_bind (tz : ZoneDatabase) (s : Strategy) (m : Context) (balance : Float) :
    s.plan tz m balance = (s.entrySide m).bind fun side => s.sidePlan tz side m balance := by
  cases hside : s.entrySide m with
  | none =>
      rw [plan, hside]
      exact ite_self none
  | some side =>
      simp only [plan, hside, sidePlan, fires_of_entrySide hside, Bool.and_true,
        Option.bind_eq_bind, Option.bind_some, Option.pure_def, Option.map_eq_bind]
      rfl

/-- Whatever can be entered within the session has a plan. -/
theorem isSome_sidePlan (tz : ZoneDatabase) (s : Strategy) (side : Side) (m : Context)
    (balance : Float) :
    (s.sidePlan tz side m balance).isSome = (s.isOpen tz m && s.fires side m) := by
  rw [sidePlan]
  split
  · next h =>
    rw [Bool.and_eq_true, fires, Bool.and_eq_true] at h
    rw [Option.isSome_map, h.2.2, h.1, fires, h.2.1, h.2.2]
    rfl
  · next h =>
    rw [Bool.not_eq_true] at h
    rw [h]
    rfl

theorem sidePlan_of_not_fires {tz : ZoneDatabase} {s : Strategy} {side : Side} {m : Context}
    {balance : Float} (h : ¬s.fires side m = true) : s.sidePlan tz side m balance = none := by
  rw [← Option.isNone_iff_eq_none, ← Option.not_isSome, isSome_sidePlan]
  simp [h]

/-! ## answers -/

/-- A trade on a side that a strategy may make: its prices are the answers of
the strategy, and they are in order. -/
structure Answers (s : Strategy) (m : Context) (side : Side) (entry stop target : Float) :
    Prop where
  allowed : s.direction.allows side = true
  entryPrice : s.entryPrice m = some entry
  stopPrice : s.stopPrice entry m = some stop
  targetPrice : s.targetPrice entry stop m = some target
  ordered : side.Ordered entry stop target

/-- The levels on the side of an entry are the answers of the strategy. -/
theorem answers_of_levels {l : Levels} (h : s.entrySide m = some side)
    (hl : s.levels side m = some l) : s.Answers m side l.entry l.stop l.target := by
  obtain ⟨hentry, hstop, htarget, hordered⟩ := levels_eq_some_iff.mp hl
  obtain ⟨hfin, hfin', -⟩ := hordered.1
  constructor
  case allowed => exact (entrySide_eq_some h).1
  case entryPrice => rw [Strategy.entryPrice, priceSide_eq h, hentry]
  case stopPrice => rw [Strategy.stopPrice, if_pos hfin, priceSide_eq h, hstop]
  case targetPrice =>
    rw [Strategy.targetPrice, hfin, hfin', Bool.and_true, if_pos rfl, sideOf_of_ordered hordered,
      Option.bind_some, htarget]
  case ordered => exact hordered

/-- A plan is made of the levels on the side of the entry, within the session. -/
theorem plan_eq_some_iff {tz : ZoneDatabase} {balance : Float} {p : Plan} :
    s.plan tz m balance = some p ↔
      s.isOpen tz m = true ∧ ∃ side l, s.entrySide m = some side ∧ s.levels side m = some l ∧
        p = s.planOf side l balance := by
  unfold plan
  by_cases hopen : s.isOpen tz m
  · rw [if_pos hopen]
    simp only [Option.bind_eq_bind, Option.pure_def, Option.bind_eq_some_iff, Option.some.injEq,
      hopen, true_and]
    constructor
    · intro h
      obtain ⟨side, hside, l, hl, rfl⟩ := h
      exact ⟨side, l, hside, hl, rfl⟩
    · intro h
      obtain ⟨side, l, hside, hl, rfl⟩ := h
      exact ⟨side, hside, l, hl, rfl⟩
  · rw [if_neg hopen]
    simp only [hopen, Bool.false_eq_true, false_and, reduceCtorEq]

/-- **Plans**: there is a plan exactly for an entry within the session.  Its side
is the side of the entry, its prices and its size are the answers to the single
questions, and it stays within the largest size.  The prices are in order
wherever there is an entry, within the session or not. -/
theorem plan_spec (tz : ZoneDatabase) (s : Strategy) (m : Context) (balance : Float) :
    ((s.plan tz m balance).isSome ↔ s.isOpen tz m ∧ (s.entrySide m).isSome) ∧
      (∀ p, s.plan tz m balance = some p →
        s.entrySide m = some p.side ∧ s.Answers m p.side p.entry p.stop p.target ∧
          p.contracts = s.quantity balance p.entry p.stop ∧
            p.contracts ≤ s.risk.maxContracts) ∧
      (∀ side, s.entrySide m = some side →
        ∃ entry stop target, s.Answers m side entry stop target) := by
  refine ⟨?_, ?_, ?_⟩
  · constructor
    · intro h
      obtain ⟨p, hp⟩ := Option.isSome_iff_exists.mp h
      obtain ⟨hopen, side, l, hside, -⟩ := plan_eq_some_iff.mp hp
      exact ⟨hopen, by rw [hside, Option.isSome_some]⟩
    · intro h
      obtain ⟨hopen, h⟩ := h
      obtain ⟨side, hside⟩ := Option.isSome_iff_exists.mp h
      obtain ⟨-, l, hl⟩ := entrySide_eq_some hside
      rw [plan_eq_some_iff.mpr ⟨hopen, side, l, hside, hl, rfl⟩, Option.isSome_some]
  · intro p hp
    obtain ⟨-, side, l, hside, hl, rfl⟩ := plan_eq_some_iff.mp hp
    exact ⟨hside, answers_of_levels hside hl, rfl, quantity_le ..⟩
  · intro side hside
    obtain ⟨-, l, hl⟩ := entrySide_eq_some hside
    exact ⟨l.entry, l.stop, l.target, answers_of_levels hside hl⟩

end Strategy

end Playbook
