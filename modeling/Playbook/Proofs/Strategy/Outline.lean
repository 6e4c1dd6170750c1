import Playbook.Proofs.Json.Outline
import Playbook.Proofs.Strategy.Explained

/-!
# Playbook.Proofs.Strategy.Outline

What is read of a document.

Three kinds of texts in a document decide what else is read of it: the name of the pattern,
the methods of the stop and of the target, and the name of the session.  `Strategy.outline`
has the names that are read with these texts.  Every reader stays in its outline
(`Reader.StaysIn`), and so documents that agree on the outline of one of them are read alike
(`Strategy.ofJson_outline`).
-/

namespace Playbook

open Checked
open Json (Outline)

variable {α β : Type}

/-! ## readers of values -/

namespace Reader

/-- A reader does not look inside a value. -/
def Flat (read : Reader α) : Prop := ∀ path v v', v'.shown = v.shown → read path v' = read path v

/-- A reader looks at nothing in a value but its outline. -/
def StaysIn (outline : Json → Outline) (read : Reader α) : Prop :=
  ∀ path v v', (outline v).AgreeOn v v' → read path v' = read path v

/-- A reader that does not look inside stays in any outline. -/
theorem Flat.staysIn {read : Reader α} (h : read.Flat) (outline : Json → Outline) :
    read.StaysIn outline := fun path v v' hagree => h path v v' hagree.shown_eq

/-- What is done with the result reads nothing. -/
theorem StaysIn.map {outline : Json → Outline} {read : Reader α} (h : read.StaysIn outline)
    (f : α → β) : StaysIn outline fun path v => (read path v).map f :=
  fun path v v' hagree => congrArg (Except.map f) (h path v v' hagree)

/-- Nor does what is done with it next, if that sees the place and the result only. -/
theorem Flat.bind {read : Reader α} (h : read.Flat) (f : Path → α → Checked β) :
    Flat fun path v => (read path v).bind (f path) :=
  fun path v v' hshown => congrArg (Except.bind · (f path)) (h path v v' hshown)

/-- A reader is flat if it takes what a value shows for the value. -/
theorem flat_of_shown {read : Reader α}
    (h : ∀ path v, read path (v.shown.getD .null) = read path v) : read.Flat := by
  intro path v v' hshown
  rw [← h path v', ← h path v, hshown]

/-- Of a value that is no text only the kind matters, and that is shown. -/
theorem flat_string : Flat string :=
  flat_of_shown fun path v => by cases v <;> rfl

/-- The same for a number. -/
theorem flat_number : Flat number :=
  flat_of_shown fun path v => by cases v <;> rfl

theorem flat_numberThat (rule : NumberRule) : Flat (numberThat rule) := flat_number.bind _

theorem flat_whole (range : WholeRange) : Flat (whole range) := flat_number.bind _

theorem flat_choice (named : List (String × α)) : Flat (choice named) := flat_string.bind _

end Reader

open Reader

/-! ## readers of objects -/

/-- A reader of an object looks at nothing in it but its outline. -/
def FieldsStayIn (outline : Json → Outline) (read : Fields → Checked α) : Prop :=
  ∀ path o o', (outline (.object o)).AgreeOn (.object o) (.object o') →
    read ⟨path, o'⟩ = read ⟨path, o⟩

/-- Of a value that is no object nothing but its kind is reported. -/
theorem inside_of_kind_ne {read : Fields → Checked α} {v : Json} (h : v.kind ≠ .object)
    (path : Path) : inside read path v = .error [⟨path, .wrongKind .object v.kind⟩] := by
  cases v with
  | object o => contradiction
  | _ => rfl

/-- A reader of an object may be used on any value, since the kind of a value is shown. -/
theorem staysIn_inside {outline : Json → Outline} {read : Fields → Checked α}
    (h : FieldsStayIn outline read) : (inside read).StaysIn outline := by
  intro path v v' hagree
  have hkind := Json.kind_eq_of_shown hagree.shown_eq
  by_cases hobject : v.kind = .object
  · obtain ⟨o, rfl⟩ := Json.kind_eq_object_iff.mp hobject
    obtain ⟨o', rfl⟩ := Json.kind_eq_object_iff.mp hkind
    exact h path o o' hagree
  · rw [inside_of_kind_ne hobject, inside_of_kind_ne (hkind ▸ hobject), hkind]

/-- What is done with the result reads nothing. -/
theorem FieldsStayIn.map {outline : Json → Outline} {read : Fields → Checked α}
    (h : FieldsStayIn outline read) (f : α → β) :
    FieldsStayIn outline fun fields => (read fields).map f :=
  fun path o o' hagree => congrArg (Except.map f) (h path o o' hagree)

/-- A method without fields reads nothing. -/
theorem fieldsStayIn_const (outline : Json → Outline) (a : Checked α) :
    FieldsStayIn outline fun _ => a := fun _ _ _ _ => rfl

/-! ## fields -/

section

variable {inner : List (String × Outline)} {name : String} {t : Outline}
  {o o' : List (String × Json)} {outline : Json → Outline} {read : Reader α}

/-- A field that is there is the part of the object with its name. -/
theorem Fields.part_of_value? {path : Path} {v : Json}
    (h : Fields.value? ⟨path, o⟩ name = some v) : (Json.object o).part name = v := by
  obtain ⟨hlookup, -⟩ := Fields.value?_eq_some_iff.mp h
  exact congrArg (Option.getD · .null) hlookup

/-- A null member is absent for the reader, and shows nothing either. -/
theorem Fields.seen_value? (path : Path) (o : List (String × Json)) (name : String)
    (q : List String) : ((Fields.value? ⟨path, o⟩ name).bind fun v => v.seen q) =
      (o.lookup name).bind fun v => v.seen q := by
  rw [Fields.value?]
  cases o.lookup name with
  | none => rfl
  | some v =>
    cases v with
    | null => cases q <;> rfl
    | _ => rfl

/-- A field that is there shows something; so both objects have it or none. -/
theorem Fields.shown_of_value? {path : Path} {v : Json}
    (h : Fields.value? ⟨path, o⟩ name = some v) : v.shown ≠ none := by
  obtain ⟨-, hnull⟩ := Fields.value?_eq_some_iff.mp h
  cases v with
  | null => contradiction
  | _ => nofun

/-- A field is there in both objects or in none, and its values agree on what is below. -/
theorem Json.Outline.AgreeOn.field (h : (Outline.fields inner).AgreeOn (.object o) (.object o'))
    (ht : inner.lookup name = some t) (path : Path) :
    Option.Rel t.AgreeOn (Fields.value? ⟨path, o⟩ name) (Fields.value? ⟨path, o'⟩ name) := by
  have hseen : ∀ q, t.reads q → ((Fields.value? ⟨path, o'⟩ name).bind fun v => v.seen q) =
      (Fields.value? ⟨path, o⟩ name).bind fun v => v.seen q := fun q hq => by
    rw [Fields.seen_value?, Fields.seen_value?]
    exact h.seen_member ht hq
  have hnil := hseen [] (by cases t; rfl)
  cases hv : Fields.value? ⟨path, o⟩ name with
  | none =>
      cases hv' : Fields.value? ⟨path, o'⟩ name with
      | none => exact .none
      | some v' =>
          rw [hv, hv'] at hnil
          exact absurd hnil (Fields.shown_of_value? hv')
  | some v =>
      cases hv' : Fields.value? ⟨path, o'⟩ name with
      | none =>
          rw [hv, hv'] at hnil
          exact absurd hnil.symm (Fields.shown_of_value? hv)
      | some v' =>
          rw [hv, hv'] at hseen
          exact .some hseen

/-- What is read of a field, and what is taken if it is absent. -/
theorem Json.Outline.AgreeOn.elim (h : (Outline.fields inner).AgreeOn (.object o) (.object o'))
    (hread : read.StaysIn outline)
    (ht : inner.lookup name = some (outline ((Json.object o).part name))) (path : Path)
    (absent : Checked α) :
    (Fields.value? ⟨path, o'⟩ name).elim absent (read (path ++ [name])) =
      (Fields.value? ⟨path, o⟩ name).elim absent (read (path ++ [name])) := by
  have hfield := h.field ht path
  cases hv : Fields.value? ⟨path, o⟩ name with
  | none =>
      rw [hv] at hfield
      generalize Fields.value? ⟨path, o'⟩ name = w at hfield
      cases hfield
      rfl
  | some v =>
      rw [hv, Fields.part_of_value? hv] at hfield
      generalize Fields.value? ⟨path, o'⟩ name = w at hfield
      cases hfield with
      | some hagree => exact hread _ _ _ hagree

/-- A required field is read alike, or reported alike as missing. -/
theorem Json.Outline.AgreeOn.required
    (h : (Outline.fields inner).AgreeOn (.object o) (.object o')) (hread : read.StaysIn outline)
    (ht : inner.lookup name = some (outline ((Json.object o).part name))) (path : Path) :
    Fields.required ⟨path, o'⟩ name read = Fields.required ⟨path, o⟩ name read := by
  rw [Fields.required_eq_elim, Fields.required_eq_elim]
  exact h.elim hread ht path _

/-- So is an optional field, or left out alike. -/
theorem Json.Outline.AgreeOn.optional
    (h : (Outline.fields inner).AgreeOn (.object o) (.object o')) (hread : read.StaysIn outline)
    (ht : inner.lookup name = some (outline ((Json.object o).part name))) (path : Path)
    (absent : α) :
    Fields.optional ⟨path, o'⟩ name absent read = Fields.optional ⟨path, o⟩ name absent read := by
  rw [Fields.optional_eq_elim, Fields.optional_eq_elim]
  exact h.elim hread ht path _

/-- So is a required object whose own fields stay in the outline below it. -/
theorem Json.Outline.AgreeOn.requiredObject {read : Fields → Checked α}
    (h : (Outline.fields inner).AgreeOn (.object o) (.object o'))
    (hread : FieldsStayIn outline read)
    (ht : inner.lookup name = some (outline ((Json.object o).part name))) (path : Path) :
    Fields.requiredObject ⟨path, o'⟩ name read = Fields.requiredObject ⟨path, o⟩ name read := by
  rw [Fields.requiredObject_eq_required, Fields.requiredObject_eq_required]
  exact h.required (staysIn_inside hread) ht path

/-- A field whose reader is flat may have any outline below it. -/
theorem Json.Outline.AgreeOn.required_flat
    (h : (Outline.fields inner).AgreeOn (.object o) (.object o')) (hread : read.Flat)
    (ht : inner.lookup name = some t) (path : Path) :
    Fields.required ⟨path, o'⟩ name read = Fields.required ⟨path, o⟩ name read :=
  h.required (hread.staysIn fun _ => t) ht path

theorem Json.Outline.AgreeOn.optional_flat
    (h : (Outline.fields inner).AgreeOn (.object o) (.object o')) (hread : read.Flat)
    (ht : inner.lookup name = some t) (path : Path) (absent : α) :
    Fields.optional ⟨path, o'⟩ name absent read = Fields.optional ⟨path, o⟩ name absent read :=
  h.optional (hread.staysIn fun _ => t) ht path absent

end

/-! ## choices -/

/-- The name of a choice, and the names that belong to what is chosen. -/
def Json.chosen (v : Json) (name : String) (belonging : List (String × List String)) :
    List String :=
  name :: ((v.part name).string?.bind fun s => belonging.lookup s).getD []

/-- What may be chosen stays with the names that belong to it. -/
abbrev ChoicesStayIn (belonging : List (String × List String))
    (choices : List (String × (Fields → Checked α))) : Prop :=
  List.Forall₂ (fun choice names => choice.1 = names.1 ∧
    FieldsStayIn (fun _ => .flat names.2) choice.2) choices belonging

section

variable {belonging : List (String × List String)} {choices : List (String × (Fields → Checked α))}
  {names : List String} {name : String} {o o' : List (String × Json)} {path : Path}

/-- The two tables have the same names, so the reader of a name has its fields beside it. -/
theorem ChoicesStayIn.exists_lookup (h : ChoicesStayIn belonging choices) {s : String}
    {read : Fields → Checked α} (hread : choices.lookup s = some read) :
    ∃ names, belonging.lookup s = some names ∧ FieldsStayIn (fun _ => .flat names) read := by
  induction h with
  | nil => contradiction
  | @cons choice names choices belonging hstays _ ih =>
      obtain ⟨n, read'⟩ := choice
      obtain ⟨rfl, hstays⟩ := hstays
      rw [Json.lookup_cons_eq_ite] at hread ⊢
      split
      · next hs =>
        rw [if_pos hs] at hread
        exact ⟨names.2, rfl, Option.some.inj hread ▸ hstays⟩
      · next hs =>
        rw [if_neg hs] at hread
        exact ih hread

/-- The reader that is chosen reads alike, as the names that belong to it are in the outline. -/
theorem ChoicesStayIn.read_eq (hchoices : ChoicesStayIn belonging choices)
    (h : (Outline.flat names).AgreeOn (.object o) (.object o'))
    (hsub : (Json.object o).chosen name belonging ⊆ names) {read : Fields → Checked α}
    (hread : Fields.required ⟨path, o⟩ name (choice choices) = .ok read) :
    read ⟨path, o'⟩ = read ⟨path, o⟩ := by
  obtain ⟨s, hs, hlookup⟩ := Fields.exists_of_text _ name hread
  obtain ⟨fields, hfields, hstays⟩ := hchoices.exists_lookup hlookup
  refine hstays path o o' (h.flat_of_subset fun n hn => hsub (List.mem_cons_of_mem name ?_))
  rw [Fields.part_of_value? hs, Json.string?, Option.bind_some, hfields, Option.getD_some]
  exact hn

/-- The name of a method decides which names are read with it, and both are in the outline. -/
theorem fieldsStayIn_method (hchoices : ChoicesStayIn belonging choices) :
    FieldsStayIn (fun v => .flat (v.chosen "method" belonging)) (·.method choices) := by
  intro path o o' h
  have hchoice : Fields.required ⟨path, o'⟩ "method" (choice choices) =
      Fields.required ⟨path, o⟩ "method" (choice choices) :=
    h.required_flat (flat_choice choices) rfl path
  simp only [Fields.method, hchoice]
  cases hread : Fields.required ⟨path, o⟩ "method" (choice choices) with
  | error ps => rfl
  | ok read => exact hchoices.read_eq h (List.Subset.refl _) hread

end

/-! ## methods -/

/-- Most methods read one number. -/
theorem fieldsStayIn_value (rule : NumberRule) :
    FieldsStayIn (fun _ => .flat ["value"]) (·.required "value" (numberThat rule)) :=
  fun path _ _ h => h.required_flat (flat_numberThat rule) rfl path

/-- A fixed distance has a unit besides. -/
theorem fieldsStayIn_distance :
    FieldsStayIn (fun _ => .flat ["value", "unit"]) Distance.ofFields := by
  intro path o o' h
  refine congrArg (Except.map _) (congrArg₂ both ?_ ?_)
  · exact h.required_flat (flat_numberThat .positive) rfl path
  · exact h.optional_flat (flat_choice DistanceUnit.named) rfl path _

/-- A buffer in ticks may be absent. -/
theorem fieldsStayIn_buffer (absent : Float) :
    FieldsStayIn (fun _ => .flat ["bufferTicks"]) (·.ticks "bufferTicks" absent) :=
  fun path _ _ h => h.optional_flat (flat_numberThat .notNegative) rfl path absent

namespace Pattern

/-- The names that belong to the methods of a stop. -/
def stopFields : Pattern → List (String × List String)
  | .openingRange => [
    ("percentage", ["value"]),
    ("opposite_side", []),
    ("fixed_distance", ["value", "unit"]),
    ("atr_multiple", ["value"])]
  | .pullback => [
    ("structure", ["bufferTicks"]),
    ("atr_multiple", ["value"]),
    ("fixed_distance", ["value", "unit"])]
  | .breakout => [
    ("breakout_level", ["bufferTicks"]),
    ("atr_multiple", ["value"]),
    ("fixed_distance", ["value", "unit"])]

/-- The names that belong to the methods of a target. -/
def targetFields : Pattern → List (String × List String)
  | .openingRange => [
    ("r_multiple", ["value"]),
    ("extension", ["value"]),
    ("fixed_distance", ["value", "unit"])]
  | .pullback => [("r_multiple", ["value"])]
  | .breakout => [("r_multiple", ["value"]), ("extension", ["value"])]

/-- The names in an entry. -/
def fields : Pattern → List String
  | .openingRange => ["periodMinutes", "breakoutBufferTicks", "stop", "target"]
  | .pullback => ["emaPeriod", "confirmation", "touchToleranceTicks", "rsiFilter", "stop", "target"]
  | .breakout => ["lookbackPeriods", "confirmation", "stop", "target"]

/-- What is read below a name in an entry. -/
def below (p : Pattern) (entry : Json) : String → Outline
  | "stop" => .flat ((entry.part "stop").chosen "method" p.stopFields)
  | "target" => .flat ((entry.part "target").chosen "method" p.targetFields)
  | "rsiFilter" => .flat ["min", "max"]
  | _ => .leaf

/-- What is read of an entry. -/
def outline (p : Pattern) (entry : Json) : Outline :=
  .fields (p.fields.map fun name => (name, p.below entry name))

/-- Below the stop of an entry the outline has the names that go with its method. -/
theorem names_stop (p : Pattern) (entry : Json) : (p.outline entry).names ["stop"] =
    (entry.part "stop").chosen "method" p.stopFields := by
  cases p <;> exact Outline.names_flat _

/-- Below the target it has those that go with the method of the target. -/
theorem names_target (p : Pattern) (entry : Json) : (p.outline entry).names ["target"] =
    (entry.part "target").chosen "method" p.targetFields := by
  cases p <;> exact Outline.names_flat _

end Pattern

/-! ## patterns -/

/-- The methods of the stop of an opening range, in the order of the table. -/
theorem fieldsStayIn_openingStop :
    FieldsStayIn (fun v => .flat (v.chosen "method" (Pattern.stopFields .openingRange)))
      OpeningRange.Stop.ofFields := by
  refine fieldsStayIn_method (.cons ⟨rfl, ?_⟩ (.cons ⟨rfl, ?_⟩ (.cons ⟨rfl, ?_⟩
    (.cons ⟨rfl, ?_⟩ .nil))))
  · exact (fieldsStayIn_value .percentage).map _
  · exact fieldsStayIn_const _ _
  · exact fieldsStayIn_distance.map _
  · exact (fieldsStayIn_value .positive).map _

/-- The methods of its target. -/
theorem fieldsStayIn_openingTarget :
    FieldsStayIn (fun v => .flat (v.chosen "method" (Pattern.targetFields .openingRange)))
      OpeningRange.Target.ofFields := by
  refine fieldsStayIn_method (.cons ⟨rfl, ?_⟩ (.cons ⟨rfl, ?_⟩ (.cons ⟨rfl, ?_⟩ .nil)))
  · exact (fieldsStayIn_value .positive).map _
  · exact (fieldsStayIn_value .positive).map _
  · exact fieldsStayIn_distance.map _

/-- The fields of an opening range, with the outlines of stop and target below them. -/
theorem fieldsStayIn_openingRules :
    FieldsStayIn (Pattern.outline .openingRange) OpeningRange.Rules.ofFields := by
  intro path o o' h
  refine congrArg (Except.map _) (congrArg₂ both ?_ (congrArg₂ both ?_ (congrArg₂ both ?_ ?_)))
  · exact h.required_flat (flat_whole _) rfl path
  · exact h.optional_flat (flat_numberThat _) rfl path _
  · exact h.requiredObject fieldsStayIn_openingStop rfl path
  · exact h.requiredObject fieldsStayIn_openingTarget rfl path

/-- The two ends of a band are compared behind the reading, which looks at nothing else. -/
theorem fieldsStayIn_band :
    FieldsStayIn (fun _ => .flat ["min", "max"]) Pullback.RsiBand.ofFields := by
  intro path o o' h
  refine congrArg₂ Except.bind (congrArg₂ both ?_ ?_) rfl
  · exact h.required_flat (flat_numberThat _) rfl path
  · exact h.required_flat (flat_numberThat _) rfl path

/-- The methods of the stop of a pullback. -/
theorem fieldsStayIn_pullbackStop :
    FieldsStayIn (fun v => .flat (v.chosen "method" (Pattern.stopFields .pullback)))
      Pullback.Stop.ofFields := by
  refine fieldsStayIn_method (.cons ⟨rfl, ?_⟩ (.cons ⟨rfl, ?_⟩ (.cons ⟨rfl, ?_⟩ .nil)))
  · exact (fieldsStayIn_buffer _).map _
  · exact (fieldsStayIn_value .positive).map _
  · exact fieldsStayIn_distance.map _

theorem fieldsStayIn_pullbackTarget :
    FieldsStayIn (fun v => .flat (v.chosen "method" (Pattern.targetFields .pullback)))
      Pullback.Target.ofFields :=
  fieldsStayIn_method (.cons ⟨rfl, (fieldsStayIn_value .positive).map _⟩ .nil)

/-- The fields of a pullback; band and target may be absent. -/
theorem fieldsStayIn_pullbackRules :
    FieldsStayIn (Pattern.outline .pullback) Pullback.Rules.ofFields := by
  intro path o o' h
  refine congrArg (Except.map _) (congrArg₂ both ?_ (congrArg₂ both ?_ (congrArg₂ both ?_
    (congrArg₂ both ?_ (congrArg₂ both ?_ ?_)))))
  · exact h.required_flat (flat_whole _) rfl path
  · exact h.optional_flat (flat_choice _) rfl path _
  · exact h.optional_flat (flat_numberThat _) rfl path _
  · exact h.optional ((staysIn_inside fieldsStayIn_band).map some) rfl path _
  · exact h.requiredObject fieldsStayIn_pullbackStop rfl path
  · exact h.optional (staysIn_inside fieldsStayIn_pullbackTarget) rfl path _

/-- The methods of the stop of a breakout. -/
theorem fieldsStayIn_breakoutStop :
    FieldsStayIn (fun v => .flat (v.chosen "method" (Pattern.stopFields .breakout)))
      Breakout.Stop.ofFields := by
  refine fieldsStayIn_method (.cons ⟨rfl, ?_⟩ (.cons ⟨rfl, ?_⟩ (.cons ⟨rfl, ?_⟩ .nil)))
  · exact (fieldsStayIn_buffer _).map _
  · exact (fieldsStayIn_value .positive).map _
  · exact fieldsStayIn_distance.map _

/-- The methods of its target. -/
theorem fieldsStayIn_breakoutTarget :
    FieldsStayIn (fun v => .flat (v.chosen "method" (Pattern.targetFields .breakout)))
      Breakout.Target.ofFields := by
  refine fieldsStayIn_method (.cons ⟨rfl, ?_⟩ (.cons ⟨rfl, ?_⟩ .nil))
  · exact (fieldsStayIn_value .positive).map _
  · exact (fieldsStayIn_value .positive).map _

/-- The fields of a breakout. -/
theorem fieldsStayIn_breakoutRules :
    FieldsStayIn (Pattern.outline .breakout) Breakout.Rules.ofFields := by
  intro path o o' h
  refine congrArg (Except.map _) (congrArg₂ both ?_ (congrArg₂ both ?_ (congrArg₂ both ?_ ?_)))
  · exact h.optional_flat (flat_whole _) rfl path _
  · exact h.optional_flat (flat_choice _) rfl path _
  · exact h.requiredObject fieldsStayIn_breakoutStop rfl path
  · exact h.requiredObject fieldsStayIn_breakoutTarget rfl path

/-- Each pattern has its own outline of an entry. -/
theorem fieldsStayIn_entry (p : Pattern) : FieldsStayIn p.outline (EntryRules.ofFields p) := by
  cases p with
  | openingRange => exact fieldsStayIn_openingRules.map _
  | pullback => exact fieldsStayIn_pullbackRules.map _
  | breakout => exact fieldsStayIn_breakoutRules.map _

/-! ## sections -/

theorem flat_pattern : Flat Pattern.reader := flat_string.bind _

theorem flat_symbol : Flat Symbol.reader := flat_string.bind _

theorem flat_zone : Flat ZoneName.reader := flat_string.bind _

theorem flat_clock : Flat clockReader := flat_string.bind _

theorem fieldsStayIn_instrument :
    FieldsStayIn (fun _ => .flat ["symbol"]) (·.required "symbol" Symbol.reader) :=
  fun path _ _ h => h.required_flat flat_symbol rfl path

theorem fieldsStayIn_risk :
    FieldsStayIn (fun _ => .flat ["riskPercent", "maxContracts"]) Risk.ofFields := by
  intro path o o' h
  refine congrArg (Except.map _) (congrArg₂ both ?_ ?_)
  · exact h.required_flat (flat_numberThat _) rfl path
  · exact h.required_flat (flat_whole _) rfl path

/-- The names that belong to the names of sessions. -/
def SessionKind.belonging : List (String × List String) := [
  ("ny", []),
  ("globex", []),
  ("all", []),
  ("custom", ["customStart", "customEnd"])]

/-- Only a custom session has fields of its own. -/
theorem SessionKind.belonging_of_ne {s : String} (h : s ≠ "custom") :
    (belonging.lookup s).getD [] = [] := by
  simp only [belonging, Json.lookup_cons_eq_ite, if_neg h]
  split_ifs <;> rfl

/-- What is read of a session. -/
def Session.outline (v : Json) : Outline :=
  .flat ("timezone" :: v.chosen "session" SessionKind.belonging)

/-- The two ends are compared behind the reading. -/
theorem fieldsStayIn_custom :
    FieldsStayIn (fun _ => .flat ["customStart", "customEnd"]) SessionKind.customOfFields := by
  intro path o o' h
  refine congrArg₂ Except.bind (congrArg₂ both ?_ ?_) rfl
  · exact h.required_flat flat_clock rfl path
  · exact h.required_flat flat_clock rfl path

/-- The sessions with their own hours read nothing but their name. -/
theorem choicesStayIn_session : ChoicesStayIn SessionKind.belonging SessionKind.readers :=
  .cons ⟨rfl, fieldsStayIn_const _ _⟩ (.cons ⟨rfl, fieldsStayIn_const _ _⟩
    (.cons ⟨rfl, fieldsStayIn_const _ _⟩ (.cons ⟨rfl, fieldsStayIn_custom⟩ .nil)))

/-- The name of a session is read first, and decides whether its ends are. -/
theorem fieldsStayIn_session : FieldsStayIn Session.outline Session.ofFields := by
  intro path o o' h
  have hname : Fields.required ⟨path, o'⟩ "session" (choice SessionKind.readers) =
      Fields.required ⟨path, o⟩ "session" (choice SessionKind.readers) :=
    h.required_flat (flat_choice _) rfl path
  refine congrArg (Except.map _) (congrArg₂ both hname (congrArg₂ both ?_ ?_))
  · exact h.optional_flat flat_zone rfl path _
  · rw [hname]
    cases hread : Fields.required ⟨path, o⟩ "session" (choice SessionKind.readers) with
    | error ps => rfl
    | ok read => exact choicesStayIn_session.read_eq h (List.subset_cons_self _ _) hread

/-! ## documents -/

/-- The pattern that a document names. -/
def Pattern.ofDocument? (v : Json) : Option Pattern := (v.part "pattern").string?.bind ofName?

/-- The pattern that is read is the one that the document names. -/
theorem Pattern.ofDocument?_of_required {path : Path} {o : List (String × Json)} {p : Pattern}
    (h : Fields.required ⟨path, o⟩ "pattern" reader = .ok p) : ofDocument? (.object o) = some p := by
  obtain ⟨s, hs, hp⟩ := Fields.exists_of_text _ _ h
  rw [ofDocument?, Fields.part_of_value? hs]
  exact hp

namespace Strategy

/-- What is read of a document. -/
def outline (v : Json) : Outline :=
  .fields ([
    ("pattern", .leaf),
    ("instrument", .flat ["symbol"]),
    ("direction", .leaf),
    ("risk", .flat ["riskPercent", "maxContracts"]),
    ("session", Session.outline (v.part "session"))] ++
    (Pattern.ofDocument? v).elim [] fun p => [("entry", p.outline (v.part "entry"))])

/-- The sections of a document; the outline has an entry only where the reader looks at it. -/
theorem fieldsStayIn_strategy : FieldsStayIn outline ofFields := by
  intro path o o' h
  have hpattern : Fields.required ⟨path, o'⟩ "pattern" Pattern.reader =
      Fields.required ⟨path, o⟩ "pattern" Pattern.reader :=
    h.required_flat flat_pattern rfl path
  refine congrArg (Except.map _) (congrArg₂ both hpattern (congrArg₂ both ?_ (congrArg₂ both ?_
    (congrArg₂ both ?_ (congrArg₂ both ?_ ?_)))))
  · exact h.requiredObject fieldsStayIn_instrument rfl path
  · exact h.required_flat (flat_choice _) rfl path
  -- Only with a pattern is the entry read, and then it is in the outline.
  · rw [hpattern]
    cases hread : Fields.required ⟨path, o⟩ "pattern" Pattern.reader with
    | error ps => rfl
    | ok p =>
        refine h.requiredObject (fieldsStayIn_entry p) ?_ path
        rw [Pattern.ofDocument?_of_required hread]
        rfl
  · exact h.requiredObject fieldsStayIn_risk rfl path
  · exact h.requiredObject fieldsStayIn_session rfl path

/-- The names that belong to another pattern, method or session than that of a document. -/
inductive Foreign (v : Json) : List String → String → Prop where
  /-- Without a pattern there is no entry. -/
  | entry : Pattern.ofDocument? v = none → Foreign v [] "entry"
  | pattern {p : Pattern} {name : String} : Pattern.ofDocument? v = some p → name ∉ p.fields →
      Foreign v ["entry"] name
  | stop {p : Pattern} {method name : String} : Pattern.ofDocument? v = some p →
      v.at? ["entry", "stop", "method"] = some (.string method) →
      name ∉ "method" :: (p.stopFields.lookup method).getD [] → Foreign v ["entry", "stop"] name
  | target {p : Pattern} {method name : String} : Pattern.ofDocument? v = some p →
      v.at? ["entry", "target", "method"] = some (.string method) →
      name ∉ "method" :: (p.targetFields.lookup method).getD [] → Foreign v ["entry", "target"] name
  | hours {name : String} : v.at? ["session", "session"] ≠ some (.string "custom") →
      name ∈ ["customStart", "customEnd"] → Foreign v ["session"] name

section

variable {v : Json} {place : List String} {name : String} {p : Pattern}

/-- Inside the entry the outline is that of the pattern. -/
theorem names_entry (hp : Pattern.ofDocument? v = some p) (place : List String) :
    (outline v).names ("entry" :: place) = (p.outline (v.part "entry")).names place := by
  rw [outline, hp]
  rfl

/-- Below a stop or a target it has the name of the method and the names that belong to it. -/
theorem names_chosen (hp : Pattern.ofDocument? v = some p) {part method : String}
    {belonging : List (String × List String)}
    (hbelow : (p.outline (v.part "entry")).names [part] =
      ((v.part "entry").part part).chosen "method" belonging)
    (hmethod : v.at? ["entry", part, "method"] = some (.string method)) :
    (outline v).names ["entry", part] = "method" :: (belonging.lookup method).getD [] := by
  rw [Json.at?_cons_cons, Json.at?_cons_cons] at hmethod
  rw [names_entry hp, hbelow, Json.chosen, Json.part_eq_string_iff.mpr hmethod]
  rfl

/-- A session that is not custom has no ends in the outline. -/
theorem names_session (hcustom : v.at? ["session", "session"] ≠ some (.string "custom")) :
    (outline v).names ["session"] = ["timezone", "session"] := by
  have hnames : (outline v).names ["session"] =
      "timezone" :: (v.part "session").chosen "session" SessionKind.belonging := Outline.names_flat _
  rw [hnames, Json.chosen]
  cases hs : ((v.part "session").part "session").string? with
  | none => rfl
  | some s =>
      have hne : s ≠ "custom" := by
        rintro rfl
        rw [Json.at?_cons_cons] at hcustom
        exact hcustom (Json.part_eq_string_iff.mp (Json.string?_eq_some_iff.mp hs))
      rw [Option.bind_some, SessionKind.belonging_of_ne hne]

/-- What belongs to something else is not in the outline. -/
theorem Foreign.not_mem_names (h : Foreign v place name) : name ∉ (outline v).names place := by
  cases h with
  | entry hnone =>
      have hnames : (outline v).names [] =
          ["pattern", "instrument", "direction", "risk", "session"] := by
        rw [outline, hnone]
        rfl
      rw [hnames]
      decide
  | @pattern p _ hp hname =>
      rw [names_entry hp]
      cases p <;> exact hname
  | stop hp hmethod hname => rwa [names_chosen hp (Pattern.names_stop _ _) hmethod]
  | target hp hmethod hname => rwa [names_chosen hp (Pattern.names_target _ _) hmethod]
  | hours hcustom hname =>
      rw [names_session hcustom]
      obtain rfl | hname := List.mem_cons.mp hname
      · decide
      · obtain rfl := List.mem_singleton.mp hname
        decide

end

/-- **Nothing but the outline is read**: documents that agree on the outline of one of them,
where null counts as absent, give the same strategy or the same problems.  So a name that is
not known at its place may be added, changed and taken away, whatever is below it, and the
names of other patterns, methods and sessions are not known. -/
theorem ofJson_outline (v : Json) :
    (∀ v', (outline v).AgreeOn v v' → ofJson v' = ofJson v) ∧
      (∀ place name, name ∉ (outline v).names place → ∀ new,
        ofJson (v.putAt (place ++ [name]) new) = ofJson v ∧
          ofJson (v.removeAt (place ++ [name])) = ofJson v) ∧
      ∀ place name, Foreign v place name → name ∉ (outline v).names place := by
  have hstays : ∀ v', (outline v).AgreeOn v v' → ofJson v' = ofJson v := fun v' hagree =>
    staysIn_inside fieldsStayIn_strategy [] v v' hagree
  refine ⟨hstays, fun place name hname new => ?_, fun place name => Foreign.not_mem_names⟩
  obtain ⟨hput, hremove⟩ := Outline.agreeOn_of_not_mem_names hname v new
  exact ⟨hstays _ hput, hstays _ hremove⟩

example : "value" ∉ (outline (.object [("pattern", .string "orb"), ("entry", .object
    [("stop", .object [("method", .string "opposite_side"), ("value", .integer 2)])])])).names
      ["entry", "stop"] := by
  decide

end Strategy

end Playbook
