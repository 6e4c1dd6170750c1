import Playbook.Proofs.Number.Order
import Playbook.Proofs.Strategy.Bounds
import Playbook.Proofs.Trade.Exclusion

/-!
# Playbook.Proofs.Trade.Pullback

What a pullback is: the last candle meets the band around the average, and the price
before it was on the side of the trend.

Rules can be loosened: by a confirmation that asks for less, by a wider tolerance, and
by a wider band of the strength index or none.  Then no signal is lost
(`Pullback.Rules.signal_loosened`), because rounding keeps the band of the tolerance
within the wider one.
-/

namespace Playbook

open Number Schema

variable {side : Side} {m : Context}

/-! ## tolerances -/

/-- More ticks are no smaller distance, also when they are rounded. -/
theorem Symbol.tickDistance_mono (x : Symbol) {ticks ticks' : Float} (h : 0.0 ≤ ticks)
    (hle : ticks ≤ ticks') : x.contract.tickDistance ticks ≤ x.contract.tickDistance ticks' := by
  obtain ⟨hpos, hfinite⟩ := x.contract_tickSize
  exact mul_le_mul_of_pos hpos hfinite h hle

namespace Pullback

/-! ## looser rules -/

/-- A band that holds all values of another one. -/
structure RsiBand.Within (band band' : RsiBand) : Prop where
  min : band'.min ≤ band.min
  max : band.max ≤ band'.max

theorem RsiBand.allows_iff {band : RsiBand} {rsi : Float} :
    band.allows rsi = true ↔ band.min ≤ rsi ∧ rsi ≤ band.max := by
  rw [allows, Bool.and_eq_true, decide_eq_true_eq, decide_eq_true_eq]

/-- A wider band allows what a narrower one does. -/
theorem RsiBand.Within.allows {band band' : RsiBand} (h : band.Within band') {rsi : Float}
    (hallows : band.allows rsi = true) : band'.allows rsi = true := by
  rw [allows_iff] at hallows ⊢
  obtain ⟨hmin, hmax⟩ := hallows
  constructor
  · calc band'.min ≤ band.min := h.min
      _ ≤ rsi := hmin
  · calc rsi ≤ band.max := hmax
      _ ≤ band'.max := h.max

namespace Rules

/-- Rules `rules'` ask for no more than `rules` do, for the same average. -/
structure LoosenedTo (rules rules' : Rules) : Prop where
  emaPeriod : rules'.emaPeriod = rules.emaPeriod
  confirmation : rules'.confirmation = rules.confirmation ∨ rules'.confirmation = .touch
  tolerance : rules.toleranceTicks ≤ rules'.toleranceTicks
  rsiBand : ∀ band', rules'.rsiBand = some band' →
    ∃ band, rules.rsiBand = some band ∧ band.Within band'

variable {rules rules' : Rules}

/-- With a band, there is an index, and it lies in the band. -/
theorem rsiAllows_iff : rules.rsiAllows m = true ↔
    ∀ band, rules.rsiBand = some band → ∃ rsi, m.indicators.rsi = some rsi ∧
      rsi.isFinite = true ∧ band.allows rsi = true := by
  rw [rsiAllows]
  cases rules.rsiBand with
  | none => simp
  | some band => simp [Indicators.usableRsi, Option.any_eq_true]

/-- No band at all allows everything. -/
theorem LoosenedTo.rsiAllows (h : rules.LoosenedTo rules') (hallows : rules.rsiAllows m = true) :
    rules'.rsiAllows m = true := by
  rw [rsiAllows_iff] at hallows ⊢
  intro band' hband'
  obtain ⟨band, hband, hwithin⟩ := h.rsiBand band' hband'
  obtain ⟨rsi, hrsi, hfinite, hin⟩ := hallows band hband
  exact ⟨rsi, hrsi, hfinite, hwithin.allows hin⟩

section touches

variable {average tolerance tolerance' approach : Float} {c : Candle}

/-- A candle that is touched within a tolerance is touched within a wider one. -/
theorem touches_mono (haverage : average.isFinite = true) (h : 0.0 ≤ tolerance)
    (hle : tolerance ≤ tolerance') (htouches : touches side average tolerance approach c = true) :
    touches side average tolerance' approach c = true := by
  have habove := add_mono_of_finite haverage h hle
  have hbelow := sub_antitone_of_finite haverage h hle
  cases side with
  | long =>
      simp only [touches, Bool.and_eq_true, decide_eq_true_eq] at htouches ⊢
      obtain ⟨⟨hside, hlow⟩, hclose⟩ := htouches
      refine ⟨⟨hside, ?_⟩, ?_⟩
      · calc c.low ≤ average + tolerance := hlow
          _ ≤ average + tolerance' := habove
      · calc average - tolerance' ≤ average - tolerance := hbelow
          _ ≤ c.close := hclose
  | short =>
      simp only [touches, Bool.and_eq_true, decide_eq_true_eq] at htouches ⊢
      obtain ⟨⟨hside, hhigh⟩, hclose⟩ := htouches
      refine ⟨⟨hside, ?_⟩, ?_⟩
      · calc average - tolerance' ≤ average - tolerance := hbelow
          _ ≤ c.high := hhigh
      · calc c.close ≤ average + tolerance := hclose
          _ ≤ average + tolerance' := habove

/-- The range of a candle that is touched meets the band of the tolerance. -/
theorem meets_of_touches (hsane : c.isSane = true)
    (htouches : touches side average tolerance approach c = true) :
    c.low ≤ average + tolerance ∧ average - tolerance ≤ c.high := by
  simp only [Candle.isSane, Bool.and_eq_true, decide_eq_true_eq] at hsane
  obtain ⟨⟨⟨⟨⟨-, -⟩, -⟩, hhigh⟩, -⟩, hlow⟩ := hsane
  cases side with
  | long =>
      simp only [touches, Bool.and_eq_true, decide_eq_true_eq] at htouches
      obtain ⟨⟨-, hmeets⟩, hclose⟩ := htouches
      refine ⟨hmeets, ?_⟩
      calc average - tolerance ≤ c.close := hclose
        _ ≤ c.high := hhigh
  | short =>
      simp only [touches, Bool.and_eq_true, decide_eq_true_eq] at htouches
      obtain ⟨⟨-, hmeets⟩, hclose⟩ := htouches
      refine ⟨?_, hmeets⟩
      calc c.low ≤ c.close := hlow
        _ ≤ average + tolerance := hclose

/-- Each confirmation asks for a touch. -/
theorem touches_of_confirms (h : rules.confirms side average tolerance approach c = true) :
    touches side average tolerance approach c = true := by
  rw [confirms, Bool.and_eq_true] at h
  exact h.1

/-- A wider tolerance and a weaker confirmation accept the same candle. -/
theorem LoosenedTo.confirms (h : rules.LoosenedTo rules') (haverage : average.isFinite = true)
    (hpos : 0.0 ≤ tolerance) (hle : tolerance ≤ tolerance')
    (hconfirms : rules.confirms side average tolerance approach c = true) :
    rules'.confirms side average tolerance' approach c = true := by
  rw [Rules.confirms, Bool.and_eq_true] at hconfirms ⊢
  refine ⟨touches_mono haverage hpos hle hconfirms.1, ?_⟩
  obtain hsame | htouch := h.confirmation
  · rw [hsame]
    exact hconfirms.2
  · rw [htouch]

end touches

/-- No signal is lost when rules are loosened. -/
theorem signal_of_loosened (h : rules.LoosenedTo rules') (hticks : 0.0 ≤ rules.toleranceTicks)
    (x : Symbol) (hsignal : rules.signal x.contract side m = true) :
    rules'.signal x.contract side m = true := by
  obtain ⟨hallows, average, last, haverage, hlast, hconfirms⟩ := signal_eq_true_iff.mp hsignal
  have hfinite : average.isFinite = true := (Option.filter_eq_some_iff.mp haverage).2
  exact signal_eq_true_iff.mpr ⟨h.rsiAllows hallows, average, last, h.emaPeriod ▸ haverage, hlast,
    h.confirms hfinite (x.tickDistance_nonneg hticks) (x.tickDistance_mono hticks h.tolerance)
      hconfirms⟩

/-! ## rules of documents -/

/-- Rules that some document describes. -/
def Accepted (rules : Rules) : Prop :=
  ∃ document s, Strategy.ofJson document = .ok s ∧ s.entry = .pullback rules

/-- The tolerance is not below zero. -/
theorem Accepted.toleranceTicks (h : rules.Accepted) : NotNegative rules.toleranceTicks := by
  obtain ⟨document, s, hs, hrules⟩ := h
  obtain ⟨o, -, hsections⟩ := (reads_strategy [] document s).mp hs
  obtain ⟨v, -, members, -, hentry⟩ := hsections.entry
  rw [hrules] at hentry
  cases hentry with
  | pullback hr => exact notNegative_of_ticks (by constructor <;> decide) hr.tolerance

/-- **Pullbacks**: a signal under rules is one under all looser rules.  It says that the
strength index, if the rules have a band for it, is there and in the band, and that the last
candle is well-formed, meets the band around the average, and was approached from the side
of the trend. -/
theorem signal_loosened (h : rules.Accepted) (x : Symbol) (side : Side) (m : Context)
    (hsignal : rules.signal x.contract side m = true) :
    (∀ rules', rules.LoosenedTo rules' → rules'.signal x.contract side m = true) ∧
      (∀ band, rules.rsiBand = some band → ∃ rsi, m.indicators.rsi = some rsi ∧
        rsi.isFinite = true ∧ band.min ≤ rsi ∧ rsi ≤ band.max) ∧
      ∃ average last, m.indicators.average rules.emaPeriod = some average ∧
        m.lastCandle = some last ∧ last.isSane = true ∧
        last.low ≤ average + x.contract.tickDistance rules.toleranceTicks ∧
        average - x.contract.tickDistance rules.toleranceTicks ≤ last.high ∧
        side.beyond average (approach m last) = true := by
  refine ⟨fun rules' hloosened => ?_, ?_, ?_⟩
  · exact signal_of_loosened hloosened h.toleranceTicks.2 x hsignal
  · intro band hband
    obtain ⟨rsi, hrsi, hfinite, hin⟩ :=
      rsiAllows_iff.mp (signal_eq_true_iff.mp hsignal).1 band hband
    exact ⟨rsi, hrsi, hfinite, RsiBand.allows_iff.mp hin⟩
  · obtain ⟨-, average, last, haverage, hlast, hconfirms⟩ := signal_eq_true_iff.mp hsignal
    obtain ⟨hlast, hsane⟩ := Option.filter_eq_some_iff.mp hlast
    obtain ⟨hlow, hhigh⟩ := meets_of_touches hsane (touches_of_confirms hconfirms)
    exact ⟨average, last, haverage, hlast, hsane, hlow, hhigh, beyond_of_confirms hconfirms⟩

/-- A document with a band, and with the defaults for the rest. -/
def pullbackDocument : Json :=
  .object [
    ("pattern", .string "ema_pullback"),
    ("instrument", .object [("symbol", .string "ES")]),
    ("direction", .string "long"),
    ("entry", .object [
      ("emaPeriod", .integer 20),
      ("rsiFilter", .object [("min", .integer 40), ("max", .integer 60)]),
      ("stop", .object [("method", .string "structure")])]),
    ("risk", .object [("riskPercent", .integer 1), ("maxContracts", .integer 3)]),
    ("session", .object [("session", .string "all")])]

/-- The rules in that document. -/
def bouncing : Rules := ⟨20, .bounce, 2.0, some ⟨40.0, 60.0⟩, .swing 1.0, .risk 2.0⟩

/-- The same rules, loosened in all respects. -/
def touching : Rules := ⟨20, .touch, 4.0, some ⟨40.0, 65.0⟩, .swing 1.0, .risk 2.0⟩

theorem bouncing_accepted : bouncing.Accepted :=
  ⟨pullbackDocument, ⟨.es, .long, .pullback bouncing, ⟨1.0, 3⟩, ⟨.all, .trader⟩⟩,
    Checked.toOption_eq_some.mp (by decide +kernel), rfl⟩

theorem bouncing_loosenedTo : bouncing.LoosenedTo touching where
  emaPeriod := rfl
  confirmation := .inr rfl
  tolerance := by decide
  rsiBand band' h := by
    obtain rfl := Option.some.inj h
    exact ⟨_, rfl, by decide, by decide⟩

/-- A candle that dips to an average from above and closes above it, rising. -/
def dip : Context where
  candles := [
    ⟨⟨0, 0⟩, 5006.0, 5006.0, 5006.0, 5006.0, 0.0⟩,
    ⟨⟨60, 0⟩, 5001.0, 5004.0, 5000.5, 5003.0, 0.0⟩]
  quote := none
  indicators := ⟨[(20, 5000.0)], some 55.0, none⟩
  openingRange := none
  swing := none
  time := ⟨120, 0⟩

/-- A dip that bounces is one that touches, too. -/
theorem signal_loosened_dip :
    bouncing.Accepted ∧ bouncing.signal (Symbol.contract .es) .long dip = true ∧
      bouncing.LoosenedTo touching ∧ touching.signal (Symbol.contract .es) .long dip = true := by
  have hsignal : bouncing.signal (Symbol.contract .es) .long dip = true := by decide +kernel
  obtain ⟨hlooser, -, -⟩ := signal_loosened bouncing_accepted .es .long dip hsignal
  exact ⟨bouncing_accepted, hsignal, bouncing_loosenedTo, hlooser touching bouncing_loosenedTo⟩

end Rules

end Pullback

end Playbook
