import Playbook.Proofs.Json.RoundTrip
import Playbook.Proofs.Strategy.Equality
import Playbook.Proofs.Strategy.Ordered
import Playbook.Proofs.Strategy.RoundTrip
import Playbook.Strategy.Writer

/-!
# Playbook.Proofs.Strategy.Canonical

The text that identifies a strategy says everything about it: strategies with one
text are equal (`Strategy.eq_of_canonicalText`).  Their documents in normal form can
be printed, a printed document is read again, and neither the writing of numbers nor
the order of members loses anything.

The converse needs equality of numbers to the bit.  Both zeros are `==`, but they are
written differently; so strategies that are `==` have one text exactly if their
negative zeros are at the same places (`Strategy.canonicalText_eq_iff_of_beq`).
-/

namespace Playbook

open Json Schema

/-! ## printable documents -/

/-- A number of things is small enough to be read as one again. -/
theorem printable_whole {least most n : Nat} {v : Json} (hmost : most ≤ 0xFFFFFFFFFFFFFFFF)
    (h : IsWhole least most v n) : Printable (.integer n) := by
  obtain ⟨-, -, -, -, hn⟩ := h
  constructor <;> omega

theorem printable_distance (d : Distance) : Printable d.toJson :=
  ⟨(by decide : ["method", "value", "unit"].Nodup), trivial, printable_ofFloat _, trivial, trivial⟩

/-- A method with one number has two members of different names. -/
theorem printable_valueMethod (name : String) (x : Float) : Printable (valueMethod name x) :=
  ⟨(by decide : ["method", "value"].Nodup), trivial, printable_ofFloat _, trivial⟩

theorem printable_bufferMethod (name : String) (x : Float) : Printable (bufferMethod name x) :=
  ⟨(by decide : ["method", "bufferTicks"].Nodup), trivial, printable_ofFloat _, trivial⟩

section patterns

variable {o : Members}

/-- The period is the only number here that is written as an integer. -/
theorem printable_openingRules {r : OpeningRange.Rules} (h : OpeningRules o r) :
    Printable r.toJson := by
  have hstop : Printable r.stop.toJson := by
    cases r.stop with
    | percentage x => exact printable_valueMethod _ x
    | oppositeSide => exact ⟨(by decide : ["method"].Nodup), trivial, trivial⟩
    | fixed d => exact printable_distance d
    | atr x => exact printable_valueMethod _ x
  have htarget : Printable r.target.toJson := by
    cases r.target with
    | risk x => exact printable_valueMethod _ x
    | extension x => exact printable_valueMethod _ x
    | fixed d => exact printable_distance d
  obtain ⟨_, -, hperiod⟩ := h.period
  exact ⟨(by decide : ["periodMinutes", "breakoutBufferTicks", "stop", "target"].Nodup),
    printable_whole (by decide) hperiod, printable_ofFloat _, hstop, htarget, trivial⟩

/-- The members have different names with a band and without one. -/
theorem printable_pullbackRules {r : Pullback.Rules} (h : PullbackRules o r) :
    Printable r.toJson := by
  have hstop : Printable r.stop.toJson := by
    cases r.stop with
    | swing x => exact printable_bufferMethod _ x
    | atr x => exact printable_valueMethod _ x
    | fixed d => exact printable_distance d
  have htarget : Printable r.target.toJson := by
    cases r.target with
    | risk x => exact printable_valueMethod _ x
  obtain ⟨_, -, hperiod⟩ := h.period
  have hperiod := printable_whole (by decide) hperiod
  rw [Pullback.Rules.toJson]
  cases r.rsiBand with
  | none =>
      exact ⟨(by decide : ["emaPeriod", "confirmation", "touchToleranceTicks", "stop",
        "target"].Nodup), hperiod, trivial, printable_ofFloat _, hstop, htarget, trivial⟩
  | some b =>
      have hband : Printable b.toJson := ⟨(by decide : ["min", "max"].Nodup),
        printable_ofFloat _, printable_ofFloat _, trivial⟩
      exact ⟨(by decide : ["emaPeriod", "confirmation", "touchToleranceTicks", "rsiFilter", "stop",
        "target"].Nodup), hperiod, trivial, printable_ofFloat _, hband, hstop, htarget, trivial⟩

theorem printable_breakoutRules {r : Breakout.Rules} (h : BreakoutRules o r) :
    Printable r.toJson := by
  have hstop : Printable r.stop.toJson := by
    cases r.stop with
    | level x => exact printable_bufferMethod _ x
    | atr x => exact printable_valueMethod _ x
    | fixed d => exact printable_distance d
  have htarget : Printable r.target.toJson := by
    cases r.target with
    | risk x => exact printable_valueMethod _ x
    | extension x => exact printable_valueMethod _ x
  have hlookback : Printable (.integer r.lookback) := by
    obtain ⟨_, -, h⟩ | ⟨-, h⟩ := h.lookback
    · exact printable_whole (by decide) h
    · rw [h]
      exact ⟨by decide, by decide⟩
  exact ⟨(by decide : ["lookbackPeriods", "confirmation", "stop", "target"].Nodup),
    hlookback, trivial, hstop, htarget, trivial⟩

theorem printable_entry {r : EntryRules} (h : Entry o r) : Printable r.toJson := by
  cases h with
  | openingRange hr => exact printable_openingRules hr
  | pullback hr => exact printable_pullbackRules hr
  | breakout hr => exact printable_breakoutRules hr

/-- A session is printable with the ends of a custom one and without. -/
theorem printable_session (s : Session) : Printable s.toJson := by
  obtain ⟨kind, zone⟩ := s
  cases kind with
  | custom start stop =>
      exact ⟨(by decide : ["session", "customStart", "customEnd", "timezone"].Nodup),
        trivial, trivial, trivial, trivial, trivial⟩
  | _ => exact ⟨(by decide : ["session", "timezone"].Nodup), trivial, trivial, trivial⟩

theorem printable_risk {r : Risk} (h : RiskLimits o r) : Printable r.toJson := by
  obtain ⟨_, -, hmax⟩ := h.maxContracts
  exact ⟨(by decide : ["riskPercent", "maxContracts"].Nodup), printable_ofFloat _,
    printable_whole (by decide) hmax, trivial⟩

end patterns

namespace Strategy

variable {document documentA documentB : Json} {s a b : Strategy}

/-- The document in normal form can be printed. -/
theorem printable_toJson (h : Document document s) : Printable s.toJson := by
  obtain ⟨o, -, h⟩ := h
  obtain ⟨_, -, _, -, hentry⟩ := h.entry
  obtain ⟨_, -, _, -, hrisk⟩ := h.risk
  exact ⟨(by decide : ["instrument", "direction", "pattern", "entry", "risk", "session"].Nodup),
    ⟨(by decide : ["symbol"].Nodup), trivial, trivial⟩, trivial, trivial, printable_entry hentry,
    printable_risk hrisk, printable_session _, trivial⟩

/-! ## reading the text -/

/-- A strategy that was read is described by its document. -/
theorem document_of_ok (h : ofJson document = .ok s) : Document document s :=
  (reads_strategy [] document s).mp h

/-- The document in normal form describes the strategy. -/
theorem document_toJson (h : Document document s) : Document s.toJson s := by
  obtain ⟨o, -, hs⟩ := h
  exact writesFields_strategy o s hs

/-- It does so with its members in order, too. -/
theorem document_toJson_ordered (h : Document document s) : Document s.toJson.ordered s :=
  document_ordered (document_toJson h)

/-- A document describes one strategy. -/
theorem eq_of_document (ha : Document document a) (hb : Document document b) : a = b := by
  have ha := (reads_strategy [] document a).mpr ha
  have hb := (reads_strategy [] document b).mpr hb
  exact Except.ok.inj (ha.symm.trans hb)

/-- One text is written for one value only, and that value describes one strategy. -/
theorem eq_of_compact_eq (ha : Document documentA a) (hb : Document documentB b)
    (h : a.canonicalText = b.canonicalText) : a = b := by
  have hdocument : a.toJson.ordered = b.toJson.ordered :=
    compact_inj (printable_ordered _ (printable_toJson ha))
      (printable_ordered _ (printable_toJson hb)) (String.ofList_injective h)
  have ha := document_toJson_ordered ha
  rw [hdocument] at ha
  exact eq_of_document ha (document_toJson_ordered hb)

/-- **The text that identifies a strategy determines it**: strategies with one text
are equal, to the bit and by comparing; so strategies with one fingerprint that differ
have texts that differ and have one hash. -/
theorem eq_of_canonicalText (ha : ofJson documentA = .ok a) (hb : ofJson documentB = .ok b) :
    (a.canonicalText = b.canonicalText → a = b ∧ (a == b) = true) ∧
      (a.fingerprint = b.fingerprint → a ≠ b →
        a.canonicalText ≠ b.canonicalText ∧
          Fingerprint.ofText a.canonicalText = Fingerprint.ofText b.canonicalText) := by
  have ha := document_of_ok ha
  have hb := document_of_ok hb
  constructor
  · intro h
    obtain rfl := eq_of_compact_eq ha hb h
    exact ⟨rfl, (Strategy.isKnown ha).beq_self⟩
  · intro h hne
    exact ⟨fun htext => hne (eq_of_compact_eq ha hb htext), h⟩

/-- The sample with a buffer beyond the range. -/
def sampleWith (ticks : Float) : Json :=
  .object [
    ("pattern", .string "orb"),
    ("instrument", .object [("symbol", .string "ES")]),
    ("direction", .string "both"),
    ("entry", .object [
      ("periodMinutes", .integer 15),
      ("breakoutBufferTicks", .real ticks),
      ("stop", .object [("method", .string "fixed_distance"), ("value", .integer 8)]),
      ("target", .object [("method", .string "r_multiple"), ("value", .real 1.5)])]),
    ("risk", .object [("riskPercent", .integer 1), ("maxContracts", .integer 3)]),
    ("session", .object [
      ("session", .string "custom"), ("customStart", .string "09:30"),
      ("customEnd", .string "16:00"), ("timezone", .string "America/New_York")])]

/-- What the sample with a buffer describes. -/
def ofSampleWith (ticks : Float) : Strategy where
  symbol := .es
  direction := .both
  entry := .openingRange ⟨15, ticks, .fixed ⟨8.0, .ticks⟩, .risk 1.5⟩
  risk := ⟨1.0, 3⟩
  session := ⟨.custom (.ofSecond ((9 * 60 + 30) * 60)) (.ofSecond (16 * 3600)), .trader⟩

/-- Another buffer makes another text. -/
theorem canonicalText_ne_of_buffers :
    ofJson (sampleWith 1.0) = .ok (ofSampleWith 1.0) ∧
      ofJson (sampleWith 2.0) = .ok (ofSampleWith 2.0) ∧
        (ofSampleWith 1.0).canonicalText ≠ (ofSampleWith 2.0).canonicalText := by
  have hone : ofJson (sampleWith 1.0) = .ok (ofSampleWith 1.0) :=
    Checked.toOption_eq_some.mp (by decide +kernel)
  have htwo : ofJson (sampleWith 2.0) = .ok (ofSampleWith 2.0) :=
    Checked.toOption_eq_some.mp (by decide +kernel)
  have hne : ofSampleWith 1.0 ≠ ofSampleWith 2.0 := by decide +kernel
  exact ⟨hone, htwo, fun htext => hne ((eq_of_canonicalText hone htwo).1 htext).1⟩

/-! ## negative zeros -/

/-- A buffer that is a negative zero makes another text than one that is zero, though
the strategies are `==`. -/
theorem canonicalText_ne_of_negativeZero :
    ofJson (sampleWith 0.0) = .ok (ofSampleWith 0.0) ∧
      ofJson (sampleWith (-0.0)) = .ok (ofSampleWith (-0.0)) ∧
        (ofSampleWith 0.0 == ofSampleWith (-0.0)) = true ∧
          (ofSampleWith 0.0).canonicalText ≠ (ofSampleWith (-0.0)).canonicalText := by
  have hpositive : ofJson (sampleWith 0.0) = .ok (ofSampleWith 0.0) :=
    Checked.toOption_eq_some.mp (by decide +kernel)
  have hnegative : ofJson (sampleWith (-0.0)) = .ok (ofSampleWith (-0.0)) :=
    Checked.toOption_eq_some.mp (by decide +kernel)
  have hne : ofSampleWith 0.0 ≠ ofSampleWith (-0.0) := by decide +kernel
  refine ⟨hpositive, hnegative, by decide +kernel, fun htext => hne ?_⟩
  exact eq_of_compact_eq (document_of_ok hpositive) (document_of_ok hnegative) htext

/-- **The text of strategies that are `==`** is the same exactly if they have their
negative zeros at the same places, and then they have one fingerprint. -/
theorem canonicalText_eq_iff_of_beq (ha : ofJson documentA = .ok a)
    (hb : ofJson documentB = .ok b) (h : (a == b) = true) :
    (a.canonicalText = b.canonicalText ↔ a.negativeZeros = b.negativeZeros) ∧
      (a.negativeZeros = b.negativeZeros → a.fingerprint = b.fingerprint) := by
  have ha := document_of_ok ha
  have hb := document_of_ok hb
  have heq (hzeros : a.negativeZeros = b.negativeZeros) : a = b :=
    (Strategy.isKnown ha).eq_of_beq b h hzeros
  refine ⟨⟨?_, ?_⟩, ?_⟩
  · intro htext
    rw [eq_of_compact_eq ha hb htext]
  · intro hzeros
    rw [heq hzeros]
  · intro hzeros
    rw [heq hzeros]

/-- A buffer of zero that is written out has the fingerprint of a buffer left out. -/
theorem fingerprint_eq_of_zeroBuffer :
    ofJson sample = .ok ofSample ∧ ofJson (sampleWith 0.0) = .ok (ofSampleWith 0.0) ∧
      (ofSample == ofSampleWith 0.0) = true ∧
        ofSample.fingerprint = (ofSampleWith 0.0).fingerprint := by
  have hzero : ofJson (sampleWith 0.0) = .ok (ofSampleWith 0.0) :=
    Checked.toOption_eq_some.mp (by decide +kernel)
  have hbeq : (ofSample == ofSampleWith 0.0) = true := by decide +kernel
  exact ⟨ofJson_sample, hzero, hbeq,
    (canonicalText_eq_iff_of_beq ofJson_sample hzero hbeq).2 (by decide)⟩

end Strategy

end Playbook
