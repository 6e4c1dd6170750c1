import Playbook.Proofs.Json.Ordered
import Playbook.Proofs.Strategy.Schema

/-!
# Playbook.Proofs.Strategy.Ordered

The order of members means nothing: a document with its members in the order of
their names describes the strategy that it described before (`document_ordered`).

A relation of the schema looks members up by their names, and what is found is found
in any order; so the law goes through the relations, field by field.
-/

namespace Playbook.Schema

open Number Time

variable {α : Type}

/-- What a value means does not depend on the order of members. -/
def Unordered (means : Json → α → Prop) : Prop := ∀ v x, means v x → means v.ordered x

/-- What members mean does not depend on their order. -/
def UnorderedFields (means : Members → α → Prop) : Prop :=
  ∀ o x, means o x → means (Json.orderedMembers o) x

/-! ## fields -/

section fields

variable {o : Members} {name : String} {means : Json → α → Prop} {x absent : α}

/-- Reordering makes no value null, so a field that is there stays there. -/
theorem ordered_eq_null {v : Json} (h : v.ordered = .null) : v = .null := by
  cases v with
  | null => rfl
  | _ => contradiction

/-- A field is found with its own members reordered, too. -/
theorem Has.ordered {v : Json} (h : Has o name v) :
    Has (Json.orderedMembers o) name v.ordered := by
  obtain ⟨hlookup, hnull⟩ := h
  refine ⟨?_, fun hv => hnull (ordered_eq_null hv)⟩
  rw [Json.lookup_orderedMembers, hlookup, Option.map_some]

/-- No field comes up that was absent. -/
theorem Lacks.ordered (h : Lacks o name) : Lacks (Json.orderedMembers o) name := by
  intro v hv
  obtain ⟨hlookup, hnull⟩ := hv
  rw [Json.lookup_orderedMembers] at hlookup
  obtain ⟨w, hw, rfl⟩ := Option.map_eq_some_iff.mp hlookup
  refine h w ⟨hw, ?_⟩
  rintro rfl
  exact hnull rfl

/-- A required field means the same if its value does. -/
theorem Required.ordered (h : Required o name means x) (hmeans : Unordered means) :
    Required (Json.orderedMembers o) name means x := by
  obtain ⟨v, hv, hx⟩ := h
  exact ⟨v.ordered, hv.ordered, hmeans v x hx⟩

/-- An optional field is read or left out as before. -/
theorem Optional.ordered (h : Optional o name absent means x) (hmeans : Unordered means) :
    Optional (Json.orderedMembers o) name absent means x := by
  obtain hx | ⟨hlacks, rfl⟩ := h
  · exact .inl (hx.ordered hmeans)
  · exact .inr ⟨hlacks.ordered, rfl⟩

/-- An object means the same if its members do in their new order. -/
theorem unordered_object {means : Members → α → Prop} (h : UnorderedFields means) :
    Unordered (IsObject means) := by
  intro v x hv
  obtain ⟨o, rfl, hx⟩ := hv
  exact ⟨Json.orderedMembers o, rfl, h o x hx⟩

/-- There is nothing to reorder in a text. -/
theorem unordered_text {means : String → α → Prop} : Unordered (IsText means) := by
  intro v x hv
  obtain ⟨s, rfl, hx⟩ := hv
  exact ⟨s, rfl, hx⟩

/-- There is nothing to reorder in a number, however it is written. -/
theorem unordered_number : Unordered IsNumber := by
  intro v x hv
  cases hv with
  | integer hx => exact .integer hx
  | real hx => exact .real hx

theorem unordered_numberThat {bounds : Float → Prop} : Unordered (IsNumberThat bounds) := by
  intro v x hv
  exact ⟨unordered_number v x hv.1, hv.2⟩

/-- There is nothing to reorder in a number of things. -/
theorem unordered_whole {least most : Nat} : Unordered (IsWhole least most) := by
  intro v n hv
  obtain ⟨x, hx, hbounds⟩ := hv
  exact ⟨x, unordered_number v x hx, hbounds⟩

end fields

/-! ## distances and methods -/

section methods

variable {o : Members}

/-- A distance is two fields with values that have no members. -/
theorem FixedDistance.ordered {d : Distance} (h : FixedDistance o d) :
    FixedDistance (Json.orderedMembers o) d where
  value := h.value.ordered unordered_numberThat
  unit := h.unit.ordered unordered_text

/-- The name of a method is found behind the other members, too. -/
theorem Method.ordered {name : String} (h : Method o name) : Method (Json.orderedMembers o) name :=
  Has.ordered h

theorem Value.ordered {x : Float} (h : Value o x) : Value (Json.orderedMembers o) x :=
  Required.ordered h unordered_numberThat

end methods

/-! ## patterns -/

/-- The stop of an opening range, method by method: its name first, then the fields that it
needs. -/
theorem unordered_openingStop : UnorderedFields OpeningStop := by
  intro o x h
  cases h with
  | percentage hm hx => exact .percentage hm.ordered (hx.ordered unordered_numberThat)
  | oppositeSide hm => exact .oppositeSide hm.ordered
  | fixed hm hd => exact .fixed hm.ordered hd.ordered
  | atr hm hx => exact .atr hm.ordered hx.ordered

/-- The target of an opening range, method by method. -/
theorem unordered_openingTarget : UnorderedFields OpeningTarget := by
  intro o x h
  cases h with
  | risk hm hx => exact .risk hm.ordered hx.ordered
  | extension hm hx => exact .extension hm.ordered hx.ordered
  | fixed hm hd => exact .fixed hm.ordered hd.ordered

/-- The rules of an opening range, with the objects of stop and target inside. -/
theorem unordered_openingRules : UnorderedFields OpeningRules := fun _ _ h =>
  { period := h.period.ordered unordered_whole
    buffer := h.buffer.ordered unordered_numberThat
    stop := h.stop.ordered (unordered_object unordered_openingStop)
    target := h.target.ordered (unordered_object unordered_openingTarget) }

/-- A band of the RSI, where one is given; that its lower end is below the upper one is not about
fields. -/
theorem unordered_someBand : UnorderedFields SomeBand := by
  intro o b h
  obtain ⟨band, hband, rfl⟩ := h
  exact ⟨band, ⟨hband.min.ordered unordered_numberThat, hband.max.ordered unordered_numberThat,
    hband.ordered⟩, rfl⟩

/-- The stop of a pullback; the buffer beyond a swing may be absent. -/
theorem unordered_pullbackStop : UnorderedFields PullbackStop := by
  intro o x h
  cases h with
  | swing hm hx => exact .swing hm.ordered (hx.ordered unordered_numberThat)
  | atr hm hx => exact .atr hm.ordered hx.ordered
  | fixed hm hd => exact .fixed hm.ordered hd.ordered

theorem unordered_pullbackTarget : UnorderedFields PullbackTarget := by
  intro o x h
  cases h with
  | risk hm hx => exact .risk hm.ordered hx.ordered

/-- The rules of a pullback, with the objects of band, stop and target inside. -/
theorem unordered_pullbackRules : UnorderedFields PullbackRules := fun _ _ h =>
  { period := h.period.ordered unordered_whole
    confirmation := h.confirmation.ordered unordered_text
    tolerance := h.tolerance.ordered unordered_numberThat
    band := h.band.ordered (unordered_object unordered_someBand)
    stop := h.stop.ordered (unordered_object unordered_pullbackStop)
    target := h.target.ordered (unordered_object unordered_pullbackTarget) }

/-- The stop of a breakout, method by method. -/
theorem unordered_breakoutStop : UnorderedFields BreakoutStop := by
  intro o x h
  cases h with
  | level hm hx => exact .level hm.ordered (hx.ordered unordered_numberThat)
  | atr hm hx => exact .atr hm.ordered hx.ordered
  | fixed hm hd => exact .fixed hm.ordered hd.ordered

theorem unordered_breakoutTarget : UnorderedFields BreakoutTarget := by
  intro o x h
  cases h with
  | risk hm hx => exact .risk hm.ordered hx.ordered
  | extension hm hx => exact .extension hm.ordered hx.ordered

/-- The rules of a breakout, with the objects of stop and target inside. -/
theorem unordered_breakoutRules : UnorderedFields BreakoutRules := fun _ _ h =>
  { lookback := h.lookback.ordered unordered_whole
    confirmation := h.confirmation.ordered unordered_text
    stop := h.stop.ordered (unordered_object unordered_breakoutStop)
    target := h.target.ordered (unordered_object unordered_breakoutTarget) }

/-! ## sections -/

/-- The pattern is told outside the entry, so each pattern has the law of its own rules. -/
theorem unordered_entry : UnorderedFields Entry := by
  intro o r h
  cases h with
  | openingRange hr => exact .openingRange (unordered_openingRules o _ hr)
  | pullback hr => exact .pullback (unordered_pullbackRules o _ hr)
  | breakout hr => exact .breakout (unordered_breakoutRules o _ hr)

theorem unordered_risk : UnorderedFields RiskLimits := fun _ _ h =>
  { percent := h.percent.ordered unordered_numberThat
    maxContracts := h.maxContracts.ordered unordered_whole }

/-- The name of a session is found as it was, and so are the ends of a custom one. -/
theorem unordered_kind : UnorderedFields Kind := by
  intro o kind h
  cases h with
  | ny hv => exact .ny hv.ordered
  | globex hv => exact .globex hv.ordered
  | all hv => exact .all hv.ordered
  | custom hv hstart hstop hne =>
      exact .custom hv.ordered (hstart.ordered unordered_text) (hstop.ordered unordered_text) hne

/-- A session is its kind and its zone. -/
theorem unordered_session : UnorderedFields SessionHours := fun o s h =>
  { kind := unordered_kind o s.kind h.kind
    zone := h.zone.ordered unordered_text }

theorem unordered_instrument : UnorderedFields Instrument := fun _ _ h =>
  Required.ordered h unordered_text

/-- The sections of a document, each with the law of its own members. -/
theorem unordered_sections : UnorderedFields Sections := fun _ _ h =>
  { pattern := h.pattern.ordered unordered_text
    instrument := h.instrument.ordered (unordered_object unordered_instrument)
    direction := h.direction.ordered unordered_text
    entry := h.entry.ordered (unordered_object unordered_entry)
    risk := h.risk.ordered (unordered_object unordered_risk)
    session := h.session.ordered (unordered_object unordered_session) }

/-- **The order of members means nothing.** -/
theorem document_ordered {document : Json} {s : Strategy} (h : Document document s) :
    Document document.ordered s :=
  unordered_object unordered_sections document s h

end Playbook.Schema
