import Playbook.Proofs.Json.Path
import Playbook.Proofs.Strategy.Canonical

/-!
# Playbook.Proofs.Strategy.Completion

Documents that are partly in normal form: a document that takes over values from the
normal form of its strategy, at any paths, describes the same strategy
(`Strategy.ofJson_adopt`).  So defaults can be written out, and names and clock times
replaced by their normal forms, one by one.

Both documents describe the strategy, and every field of the mixed document is a field of
one of them or mixed itself; so the law goes through the relations of the schema, field by
field.
-/

namespace Playbook.Schema

open Number Time
open Json (Takes Mixed)

variable {α : Type}

/-- What two values mean is still meant when one of them takes over a value of the other. -/
def Mixable (means : Json → α → Prop) : Prop :=
  ∀ other v v' x, Takes other v v' → means other x → means v x → means v' x

/-- What two objects mean is meant by mixed members. -/
def MixableFields (means : Members → α → Prop) : Prop :=
  ∀ other old o x, Mixed other old o → means other x → means old x → means o x

/-! ## fields -/

section fields

variable {other old o : Members} {name : String} {means : Json → α → Prop} {x absent : α}

/-- An object has one value for a field. -/
theorem Has.unique {v w : Json} (hv : Has o name v) (hw : Has o name w) : v = w :=
  Option.some.inj (hv.1.symm.trans hw.1)

/-- A field is that of one of two objects, or they both have it and it takes over a value. -/
theorem has_of_mixed (h : Mixed other old o) (name : String) :
    (∀ v, Has o name v ↔ Has old name v) ∨ (∀ v, Has o name v ↔ Has other name v) ∨
      ∃ w v v', Has other name w ∧ Has old name v ∧ Has o name v' ∧ Takes w v v' := by
  have hsame {o' : Members} (hlookup : o.lookup name = o'.lookup name) (v : Json) :
      Has o name v ↔ Has o' name v := by rw [Has, Has, hlookup]
  obtain hold | hother | ⟨w, v, v', hw, hv, hv', htakes⟩ := h name
  · exact .inl (hsame hold)
  · exact .inr (.inl (hsame hother))
  · obtain rfl | rfl | ⟨_, _, _, rfl, rfl, rfl, -⟩ := htakes.cases
    · exact .inr (.inl (hsame (hv'.trans hw.symm)))
    · exact .inl (hsame (hv'.trans hv.symm))
    · have hnull (members : Members) : Json.object members ≠ .null := Json.noConfusion
      exact .inr (.inr ⟨_, _, _, ⟨hw, hnull _⟩, ⟨hv, hnull _⟩, ⟨hv', hnull _⟩, htakes⟩)

/-- A required field looks at the values that the object has for it, and at nothing else. -/
theorem Required.of_same {o' : Members} (h : Required o' name means x)
    (hsame : ∀ v, Has o name v ↔ Has o' name v) : Required o name means x := by
  obtain ⟨v, hv, hx⟩ := h
  exact ⟨v, (hsame v).mpr hv, hx⟩

theorem Optional.of_same {o' : Members} (h : Optional o' name absent means x)
    (hsame : ∀ v, Has o name v ↔ Has o' name v) : Optional o name absent means x := by
  obtain hx | ⟨hlacks, rfl⟩ := h
  · exact .inl (hx.of_same hsame)
  · exact .inr ⟨fun v hv => hlacks v ((hsame v).mp hv), rfl⟩

/-- A field of mixed members is that of one object or mixed itself. -/
theorem Required.mixed (hother : Required other name means x) (hold : Required old name means x)
    (h : Mixed other old o) (hmeans : Mixable means) : Required o name means x := by
  obtain hsame | hsame | ⟨w, v, v', hw, hv, hv', htakes⟩ := has_of_mixed h name
  · exact hold.of_same hsame
  · exact hother.of_same hsame
  · obtain ⟨w', hw', hxw⟩ := hother
    obtain ⟨u, hu, hxu⟩ := hold
    obtain rfl := hw.unique hw'
    obtain rfl := hv.unique hu
    exact ⟨v', hv', hmeans _ _ _ _ htakes hxw hxu⟩

/-- If one object has the field and the other one lacks it, the mixed one has it or lacks it as
one of them does. -/
theorem Optional.mixed (hother : Optional other name absent means x)
    (hold : Optional old name absent means x) (h : Mixed other old o) (hmeans : Mixable means) :
    Optional o name absent means x := by
  obtain hsame | hsame | ⟨w, v, v', hw, hv, hv', htakes⟩ := has_of_mixed h name
  · exact hold.of_same hsame
  · exact hother.of_same hsame
  · -- Both objects have the field, so its meaning is not that of an absent one.
    have hother := hother.resolve_right fun habsent => habsent.1 w hw
    have hold := hold.resolve_right fun habsent => habsent.1 v hv
    exact .inl (hother.mixed hold h hmeans)

/-- A text that a field has in both objects. -/
theorem Has.mixed {s : String} (hother : Has other name (.string s))
    (hold : Has old name (.string s)) (h : Mixed other old o) : Has o name (.string s) := by
  obtain hsame | hsame | ⟨w, v, v', hw, hv, hv', htakes⟩ := has_of_mixed h name
  · exact (hsame _).mpr hold
  · exact (hsame _).mpr hother
  · obtain rfl := hw.unique hother
    obtain rfl := hv.unique hold
    obtain rfl | rfl | ⟨_, _, _, hobject, -⟩ := htakes.cases
    · exact hv'
    · exact hv'
    · contradiction

/-- An object takes over a value below it, or is taken over as a whole. -/
theorem mixable_object {means : Members → α → Prop} (h : MixableFields means) :
    Mixable (IsObject means) := by
  intro other v v' x htakes hother hv
  obtain rfl | rfl | ⟨new, old, o, rfl, rfl, rfl, hmixed⟩ := htakes.cases
  · exact hother
  · exact hv
  · obtain ⟨_, hnew, hxnew⟩ := hother
    obtain ⟨_, hold, hxold⟩ := hv
    cases hnew
    cases hold
    exact ⟨o, rfl, h new old o x hmixed hxnew hxold⟩

/-- What has no members is taken over as a whole. -/
theorem mixable_of_not_object (h : ∀ o x, ¬means (.object o) x) : Mixable means := by
  intro other v v' x htakes hother hv
  obtain rfl | rfl | ⟨new, _, _, rfl, -⟩ := htakes.cases
  · exact hother
  · exact hv
  · exact absurd hother (h new x)

/-- Two texts with one meaning, and one of them is taken. -/
theorem mixable_text {means : String → α → Prop} : Mixable (IsText means) :=
  mixable_of_not_object fun _ _ h => nomatch h

theorem mixable_numberThat {bounds : Float → Prop} : Mixable (IsNumberThat bounds) :=
  mixable_of_not_object fun _ _ h => nomatch h.1

/-- Two literals with one number, and one of them is taken. -/
theorem mixable_whole {least most : Nat} : Mixable (IsWhole least most) :=
  mixable_of_not_object fun _ _ h => by
    obtain ⟨x, hx, -⟩ := h
    contradiction

end fields

/-! ## distances and methods -/

section methods

variable {other old o : Members}

/-- The value may come from one object and the unit from the other one. -/
theorem FixedDistance.mixed {d : Distance} (hother : FixedDistance other d)
    (hold : FixedDistance old d) (h : Mixed other old o) : FixedDistance o d where
  value := hother.value.mixed hold.value h mixable_numberThat
  unit := hother.unit.mixed hold.unit h mixable_text

/-- Both objects have the same method, since they mean the same. -/
theorem Method.mixed {name : String} (hother : Method other name) (hold : Method old name)
    (h : Mixed other old o) : Method o name := Has.mixed hother hold h

theorem Value.mixed {x : Float} (hother : Value other x) (hold : Value old x)
    (h : Mixed other old o) : Value o x := Required.mixed hother hold h mixable_numberThat

end methods

/-! ## patterns -/

/-- Two stops that mean the same have the same method, so the fields of one method are mixed. -/
theorem mixable_openingStop : MixableFields OpeningStop := by
  intro other old o x h hother hold
  cases hother with
  | percentage hm hx =>
      cases hold with
      | percentage hm' hx' =>
          exact .percentage (hm.mixed hm' h) (hx.mixed hx' h mixable_numberThat)
  | oppositeSide hm =>
      cases hold with
      | oppositeSide hm' => exact .oppositeSide (hm.mixed hm' h)
  | fixed hm hd =>
      cases hold with
      | fixed hm' hd' => exact .fixed (hm.mixed hm' h) (hd.mixed hd' h)
  | atr hm hx =>
      cases hold with
      | atr hm' hx' => exact .atr (hm.mixed hm' h) (hx.mixed hx' h)

theorem mixable_openingTarget : MixableFields OpeningTarget := by
  intro other old o x h hother hold
  cases hother with
  | risk hm hx =>
      cases hold with
      | risk hm' hx' => exact .risk (hm.mixed hm' h) (hx.mixed hx' h)
  | extension hm hx =>
      cases hold with
      | extension hm' hx' => exact .extension (hm.mixed hm' h) (hx.mixed hx' h)
  | fixed hm hd =>
      cases hold with
      | fixed hm' hd' => exact .fixed (hm.mixed hm' h) (hd.mixed hd' h)

/-- The rules of an opening range: numbers are taken as they are, stop and target may be mixed. -/
theorem mixable_openingRules : MixableFields OpeningRules := fun _ _ _ _ h hother hold =>
  { period := hother.period.mixed hold.period h mixable_whole
    buffer := hother.buffer.mixed hold.buffer h mixable_numberThat
    stop := hother.stop.mixed hold.stop h (mixable_object mixable_openingStop)
    target := hother.target.mixed hold.target h (mixable_object mixable_openingTarget) }

/-- A band is mixed end by end. -/
theorem mixable_someBand : MixableFields SomeBand := by
  intro other old o b h hother hold
  obtain ⟨band, hband, rfl⟩ := hother
  obtain ⟨_, hband', heq⟩ := hold
  cases heq
  exact ⟨band, ⟨hband.min.mixed hband'.min h mixable_numberThat,
    hband.max.mixed hband'.max h mixable_numberThat, hband.ordered⟩, rfl⟩

/-- The methods of the stop of a pullback, with a buffer that one of the objects may lack. -/
theorem mixable_pullbackStop : MixableFields PullbackStop := by
  intro other old o x h hother hold
  cases hother with
  | swing hm hx =>
      cases hold with
      | swing hm' hx' => exact .swing (hm.mixed hm' h) (hx.mixed hx' h mixable_numberThat)
  | atr hm hx =>
      cases hold with
      | atr hm' hx' => exact .atr (hm.mixed hm' h) (hx.mixed hx' h)
  | fixed hm hd =>
      cases hold with
      | fixed hm' hd' => exact .fixed (hm.mixed hm' h) (hd.mixed hd' h)

theorem mixable_pullbackTarget : MixableFields PullbackTarget := by
  intro other old o x h hother hold
  cases hother with
  | risk hm hx =>
      cases hold with
      | risk hm' hx' => exact .risk (hm.mixed hm' h) (hx.mixed hx' h)

/-- The rules of a pullback; what one of the objects lacks is as the other one has it written
out. -/
theorem mixable_pullbackRules : MixableFields PullbackRules := fun _ _ _ _ h hother hold =>
  { period := hother.period.mixed hold.period h mixable_whole
    confirmation := hother.confirmation.mixed hold.confirmation h mixable_text
    tolerance := hother.tolerance.mixed hold.tolerance h mixable_numberThat
    band := hother.band.mixed hold.band h (mixable_object mixable_someBand)
    stop := hother.stop.mixed hold.stop h (mixable_object mixable_pullbackStop)
    target := hother.target.mixed hold.target h (mixable_object mixable_pullbackTarget) }

theorem mixable_breakoutStop : MixableFields BreakoutStop := by
  intro other old o x h hother hold
  cases hother with
  | level hm hx =>
      cases hold with
      | level hm' hx' => exact .level (hm.mixed hm' h) (hx.mixed hx' h mixable_numberThat)
  | atr hm hx =>
      cases hold with
      | atr hm' hx' => exact .atr (hm.mixed hm' h) (hx.mixed hx' h)
  | fixed hm hd =>
      cases hold with
      | fixed hm' hd' => exact .fixed (hm.mixed hm' h) (hd.mixed hd' h)

theorem mixable_breakoutTarget : MixableFields BreakoutTarget := by
  intro other old o x h hother hold
  cases hother with
  | risk hm hx =>
      cases hold with
      | risk hm' hx' => exact .risk (hm.mixed hm' h) (hx.mixed hx' h)
  | extension hm hx =>
      cases hold with
      | extension hm' hx' => exact .extension (hm.mixed hm' h) (hx.mixed hx' h)

theorem mixable_breakoutRules : MixableFields BreakoutRules := fun _ _ _ _ h hother hold =>
  { lookback := hother.lookback.mixed hold.lookback h mixable_whole
    confirmation := hother.confirmation.mixed hold.confirmation h mixable_text
    stop := hother.stop.mixed hold.stop h (mixable_object mixable_breakoutStop)
    target := hother.target.mixed hold.target h (mixable_object mixable_breakoutTarget) }

/-! ## sections -/

/-- Both entries are of the pattern of the strategy. -/
theorem mixable_entry : MixableFields Entry := by
  intro other old o r h hother hold
  cases hother with
  | openingRange hr =>
      cases hold with
      | openingRange hr' => exact .openingRange (mixable_openingRules _ _ _ _ h hr hr')
  | pullback hr =>
      cases hold with
      | pullback hr' => exact .pullback (mixable_pullbackRules _ _ _ _ h hr hr')
  | breakout hr =>
      cases hold with
      | breakout hr' => exact .breakout (mixable_breakoutRules _ _ _ _ h hr hr')

theorem mixable_risk : MixableFields RiskLimits := fun _ _ _ _ h hother hold =>
  { percent := hother.percent.mixed hold.percent h mixable_numberThat
    maxContracts := hother.maxContracts.mixed hold.maxContracts h mixable_whole }

/-- Both sessions have one name, so a custom one has both ends in both objects. -/
theorem mixable_kind : MixableFields Kind := by
  intro other old o kind h hother hold
  cases hother with
  | ny hv =>
      cases hold with
      | ny hv' => exact .ny (hv.mixed hv' h)
  | globex hv =>
      cases hold with
      | globex hv' => exact .globex (hv.mixed hv' h)
  | all hv =>
      cases hold with
      | all hv' => exact .all (hv.mixed hv' h)
  | custom hv hstart hstop hne =>
      cases hold with
      | custom hv' hstart' hstop' _ =>
          exact .custom (hv.mixed hv' h) (hstart.mixed hstart' h mixable_text)
            (hstop.mixed hstop' h mixable_text) hne

/-- A zone may be taken over alone. -/
theorem mixable_session : MixableFields SessionHours := fun _ _ _ _ h hother hold =>
  { kind := mixable_kind _ _ _ _ h hother.kind hold.kind
    zone := hother.zone.mixed hold.zone h mixable_text }

theorem mixable_instrument : MixableFields Instrument := fun _ _ _ _ h hother hold =>
  Required.mixed hother hold h mixable_text

/-- The sections of two documents for one strategy. -/
theorem mixable_sections : MixableFields Sections := fun _ _ _ _ h hother hold =>
  { pattern := hother.pattern.mixed hold.pattern h mixable_text
    instrument := hother.instrument.mixed hold.instrument h (mixable_object mixable_instrument)
    direction := hother.direction.mixed hold.direction h mixable_text
    entry := hother.entry.mixed hold.entry h (mixable_object mixable_entry)
    risk := hother.risk.mixed hold.risk h (mixable_object mixable_risk)
    session := hother.session.mixed hold.session h (mixable_object mixable_session) }

/-- A document for a strategy that takes over values of another one, at any paths, is a
document for the strategy. -/
theorem document_adopt {document other : Json} {s : Strategy} (hother : Document other s)
    (h : Document document s) (paths : List (List String)) :
    Document (document.adopt other paths) s :=
  Json.adopt_induction
    (fun v v' htakes hv => mixable_object mixable_sections other v v' s htakes hother hv) h paths

end Playbook.Schema

namespace Playbook.Strategy

open Schema

/-- **Writing out what is implicit changes no strategy.**  A document that takes over values
from the normal form of its strategy, at any paths, is read as the same strategy, and so it
has the same fingerprint.  All those values are there that have an object to be put into, and
beside their paths the document is as it was. -/
theorem ofJson_adopt {document : Json} {s : Strategy} (h : ofJson document = .ok s)
    (paths : List (List String)) :
    ofJson (document.adopt s.toJson paths) = .ok s ∧
      (ofJson (document.adopt s.toJson paths)).map fingerprint = (ofJson document).map fingerprint ∧
      (∀ path ∈ paths, ∀ v, s.toJson.at? path = some v → document.HasPlace path →
        (document.adopt s.toJson paths).at? path = some v) ∧
      ∀ q, (∀ path ∈ paths, ¬path <+: q ∧ ¬q <+: path) →
        (document.adopt s.toJson paths).at? q = document.at? q := by
  have hdocument := document_of_ok h
  have hadopt : ofJson (document.adopt s.toJson paths) = .ok s :=
    (reads_strategy [] _ s).mpr (document_adopt (document_toJson hdocument) hdocument paths)
  refine ⟨hadopt, by rw [hadopt, h], fun path hmem v hv hplace => ?_, fun q hq => ?_⟩
  · exact Json.at?_adopt hmem hv hplace
  · exact Json.at?_adopt_of_not_prefix hq

/-- Fields that the sample lacks, and fields that it has in other forms. -/
def samplePaths : List (List String) := [
  ["entry", "breakoutBufferTicks"], ["entry", "stop", "unit"], ["pattern"],
  ["instrument", "symbol"], ["session", "customStart"], ["session", "timezone"]]

/-- Some fields of the sample are written out, and others stay as they are. -/
theorem ofJson_adopt_sample :
    ofJson sample = .ok ofSample ∧
      ofJson (sample.adopt ofSample.toJson samplePaths) = .ok ofSample ∧
      (ofJson (sample.adopt ofSample.toJson samplePaths)).map fingerprint =
        (ofJson sample).map fingerprint ∧
      (sample.adopt ofSample.toJson samplePaths).at? ["entry", "breakoutBufferTicks"] =
        some (.ofFloat 0.0) ∧
      (sample.adopt ofSample.toJson samplePaths).at? ["risk", "riskPercent"] =
        some (.integer 1) := by
  obtain ⟨hread, hfingerprint, hvalues, hbeside⟩ := ofJson_adopt ofJson_sample samplePaths
  refine ⟨ofJson_sample, hread, hfingerprint, hvalues _ (by decide) _ rfl ?_, ?_⟩
  · exact Json.hasPlace_cons_iff.mpr ⟨_, rfl, .inr ⟨_, rfl,
      Json.hasPlace_cons_iff.mpr ⟨_, rfl, .inl rfl⟩⟩⟩
  · exact hbeside ["risk", "riskPercent"] (by decide)

end Playbook.Strategy
