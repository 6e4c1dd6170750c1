import Playbook.Proofs.Strategy.RoundTrip
import Playbook.Proofs.Trade.Signal

/-!
# Playbook.Proofs.Trade.Quote

Quotes without a usable price.

The current price falls back to the last close then, as it does without a quote.
The reference close does not: it looks at whether there is a quote, not at whether
its price is usable, so it is the last close as well, instead of the close before
the current price.  No price can cross a level on the way from a close to the same
close, so an opening-range strategy does not enter at all; all other strategies
decide as they would without the quote (`alike_of_unusable_quote`).
-/

namespace Playbook

/-- The same context without its quote. -/
def Context.unquoted (m : Context) : Context := { m with quote := none }

/-- There is a quote, but its price is infinite or no number. -/
def Context.QuoteUnusable (m : Context) : Prop := ∃ q, m.quote = some q ∧ ¬q.last.isFinite = true

namespace Context.QuoteUnusable

variable {m : Context}

/-- A quote that cannot be used does not count for the current price. -/
theorem currentPrice (h : m.QuoteUnusable) : m.currentPrice = m.unquoted.currentPrice := by
  obtain ⟨q, hq, hlast⟩ := h
  rw [Context.currentPrice, hq, Option.map_some, Option.filter_some, if_neg hlast, Option.none_or]
  rfl

/-- The reference close is the current price itself. -/
theorem referenceClose (h : m.QuoteUnusable) : m.referenceClose = m.currentPrice := by
  rw [h.currentPrice]
  obtain ⟨q, hq, -⟩ := h
  rw [Context.referenceClose, hq]
  rfl

end Context.QuoteUnusable

/-! ## opening range -/

/-- A price has not crossed a level since it was the same. -/
theorem Level.not_crossed_self (side : Side) (price level : Float) :
    crossed side price level (some price) = false := by
  rw [crossed, Option.any_some, Bool.and_not_self]

/-- The reference close is the current price then, and no price crosses a level by staying where
it is. -/
theorem OpeningRange.Rules.signal_of_unusable (rules : OpeningRange.Rules) (c : Contract)
    (side : Side) {m : Context} (h : m.QuoteUnusable) : rules.signal c side m = false := by
  rw [signal, h.referenceClose]
  cases m.tradableRange with
  | none => rfl
  | some r =>
      cases m.currentPrice with
      | none => rfl
      | some price => exact Level.not_crossed_self side price _

/-! ## decisions -/

/-- Where no opening range is looked at, only the current price depends on the quote. -/
theorem EntryRules.alike_of_unusable {rules : EntryRules} (hpattern : rules.pattern ≠ .openingRange)
    (c : Contract) {m : Context} (h : m.QuoteUnusable) : rules.Alike c m.unquoted m := by
  cases rules with
  | openingRange r => exact absurd rfl hpattern
  | pullback r =>
      exact ⟨fun _ => rfl, fun _ => h.currentPrice, fun side _ => by cases side <;> rfl,
        fun _ _ _ => rfl⟩
  | breakout r =>
      refine ⟨fun _ => rfl, fun side => ?_, fun _ _ => rfl, fun _ _ _ => rfl⟩
      change r.entryPrice side m = r.entryPrice side m.unquoted
      rw [Breakout.Rules.entryPrice, Breakout.Rules.entryPrice, h.currentPrice]
      rfl

namespace Strategy

/-- **Unusable quotes**: a strategy decides as it would without the quote, except that
one for the opening range does not enter. -/
theorem alike_of_unusable_quote (s : Strategy) {m : Context} (h : m.QuoteUnusable) :
    (s.pattern ≠ .openingRange → s.Alike m.unquoted m) ∧
      (s.pattern = .openingRange →
        m.referenceClose = m.currentPrice ∧ s.entrySide m = none ∧
          (∀ tz balance, s.plan tz m balance = none) ∧ s.entryPrice m = s.entryPrice m.unquoted ∧
            (s.direction ≠ .both → ∀ entry, s.stopPrice entry m = s.stopPrice entry m.unquoted) ∧
              ∀ entry stop, s.targetPrice entry stop m = s.targetPrice entry stop m.unquoted) := by
  constructor
  · intro hpattern
    exact alike_of_rules (s.entry.alike_of_unusable hpattern s.contract h)
  · intro hpattern
    have hrules : ∃ r, s.entry = .openingRange r := by
      cases hr : s.entry with
      | openingRange r => exact ⟨r, rfl⟩
      | pullback r => simp [pattern, EntryRules.pattern, hr] at hpattern
      | breakout r => simp [pattern, EntryRules.pattern, hr] at hpattern
    obtain ⟨r, hr⟩ := hrules
    have hside : s.entrySide m = none := by
      rw [entrySide, List.find?_eq_none]
      intro side _
      rw [fires, hr, EntryRules.signal, r.signal_of_unusable s.contract side h]
      exact Bool.false_ne_true
    refine ⟨h.referenceClose, hside, ?_, ?_, ?_, ?_⟩
    · intro tz balance
      rw [plan_eq_bind, hside, Option.bind_none]
    · simp only [entryPrice, hr, EntryRules.entryPrice, OpeningRange.Rules.entryPrice,
        h.currentPrice]
    · intro hone entry
      have hpriceSide : s.priceSide m = s.priceSide m.unquoted := by
        cases hdirection : s.direction with
        | both => exact absurd hdirection hone
        | _ => simp only [priceSide, hdirection]
      simp only [stopPrice, hr, hpriceSide, EntryRules.stopPrice]
      rfl
    · intro entry stop
      simp only [targetPrice, hr, EntryRules.targetPrice]
      rfl

/-- The last close is above an opening range, the close before it is within, and
there is a quote without a price. -/
def brokenQuote : Context where
  candles := [
    ⟨⟨0, 0⟩, 5004.0, 5006.0, 5003.0, 5005.0, 0.0⟩, ⟨⟨300, 0⟩, 5005.0, 5012.0, 5004.0, 5011.0, 0.0⟩]
  quote := some ⟨0.0 / 0.0, none, none⟩
  indicators := .empty
  openingRange := some ⟨5010.0, 5000.0, true⟩
  swing := none
  time := ⟨600, 0⟩

/-- The last price of this quote is no number. -/
theorem brokenQuote_unusable : brokenQuote.QuoteUnusable := ⟨_, rfl, by decide⟩

/-- So the opening range of the sample does not fire, although a candle has just closed beyond
it. -/
theorem entrySide_of_brokenQuote :
    brokenQuote.QuoteUnusable ∧ ofSample.pattern = .openingRange ∧
      brokenQuote.referenceClose = brokenQuote.currentPrice ∧
        ofSample.entrySide brokenQuote = none := by
  obtain ⟨-, h⟩ := alike_of_unusable_quote ofSample brokenQuote_unusable
  obtain ⟨hreference, hside, -⟩ := h rfl
  exact ⟨brokenQuote_unusable, rfl, hreference, hside⟩

/-- Without the quote, the last close is the current price, the reference is the close
before it, and the strategy enters. -/
theorem brokenQuote_not_alike :
    ofJson sample = .ok ofSample ∧ brokenQuote.QuoteUnusable ∧
      brokenQuote.referenceClose = some 5011.0 ∧
        brokenQuote.unquoted.referenceClose = some 5005.0 ∧
          ofSample.entrySide brokenQuote = none ∧
            ofSample.entrySide brokenQuote.unquoted = some .long ∧
              ¬ofSample.Alike brokenQuote.unquoted brokenQuote := by
  have hafter : brokenQuote.referenceClose = some 5011.0 := by decide +kernel
  have hbefore : brokenQuote.unquoted.referenceClose = some 5005.0 := by decide +kernel
  have hnone : ofSample.entrySide brokenQuote = none := by decide +kernel
  have hlong : ofSample.entrySide brokenQuote.unquoted = some .long := by decide +kernel
  refine ⟨ofJson_sample, brokenQuote_unusable, hafter, hbefore, hnone, hlong, ?_⟩
  intro h
  have hside := h.entrySide
  rw [hnone, hlong] at hside
  cases hside

end Strategy

end Playbook
