import Mathlib
import Playbook.Proofs.Strategy.Outline
import Playbook.Proofs.Strategy.Reader
import Playbook.Proofs.Strategy.Sections

/-!
# Playbook.Proofs.Strategy.Places

The places of the problems of a document.

A document is read in a fixed order and every place is looked at once, so the problems
stand in that order and no place has two (`Reports.sublist`).  Where an object cannot be
read, nothing in it is read, so no problem is below another one (`Reports.apart`).  And two
fields are compared only if both can be read (`Reports.joint`).  Every way to put readers
together keeps this law; orders are relative to the place of the reader.
-/

namespace Playbook

open Checked Schema

variable {α β : Type}

/-! ## the law -/

/-- Whether a cause is about two fields together. -/
def Cause.isJoint : Cause → Bool
  | .bandEmpty | .sameClocks => true
  | _ => false

/-- Two problems, the second behind the first, at places that do not lie below each other.
Only that the hours of a session are empty is said of the session as a whole behind a problem
with its zone. -/
def Problem.Apart (p q : Problem) : Prop :=
  ¬p.path <+: q.path ∧
    (q.path <+: p.path → q.cause = .sameClocks ∧ p.path = q.path ++ ["timezone"])

/-- The problems of what is read at a place, which is in this order, and the condition on
problems that are about two fields. -/
structure Reports (joint : Problem → Prop) (place : Path) (order : List Path)
    (ps : List Problem) : Prop where
  sublist : (ps.map Problem.path).Sublist (order.map (place ++ ·))
  apart : ps.Pairwise Problem.Apart
  joint : ∀ p ∈ ps, p.cause.isJoint = true → joint p

/-- Two places that do not lie below each other. -/
def Beside (a b : Path) : Prop := ¬a <+: b ∧ ¬b <+: a

instance (a b : Path) : Decidable (Beside a b) := inferInstanceAs (Decidable (_ ∧ _))

section

variable {joint joint' : Problem → Prop} {place : Path} {order order' : List Path}
  {ps qs : List Problem} {cause : Cause} {name : String}

theorem Reports.nil : Reports joint place order [] := ⟨List.nil_sublist _, .nil, nofun⟩

/-- One problem with the value as a whole. -/
theorem Reports.whole (hnil : [] ∈ order) (h : cause.isJoint = true → joint ⟨place, cause⟩) :
    Reports joint place order [⟨place, cause⟩] where
  sublist := List.singleton_sublist.mpr (List.mem_map.mpr ⟨[], hnil, List.append_nil place⟩)
  apart := List.pairwise_singleton _ _
  joint := by
    intro p hp
    rwa [List.mem_singleton.mp hp]

/-- One problem that is about one field. -/
theorem Reports.single (hnil : [] ∈ order) (h : cause.isJoint = false) :
    Reports joint place order [⟨place, cause⟩] :=
  .whole hnil fun hjoint => absurd hjoint (Bool.eq_false_iff.mp h)

/-- Places may be left out, and the condition on problems may be weaker. -/
theorem Reports.mono (h : Reports joint place order ps) (horder : order.Sublist order')
    (hjoint : ∀ p, joint p → joint' p) : Reports joint' place order' ps :=
  ⟨h.sublist.trans (horder.map _), h.apart, fun p hp hcause => hjoint p (h.joint p hp hcause)⟩

/-- An order may have more places than there are problems. -/
theorem Reports.widen (h : Reports joint place order ps) (horder : order.Sublist order') :
    Reports joint place order' ps := h.mono horder fun _ => id

theorem Reports.exists_mem (h : Reports joint place order ps) {p : Problem} (hp : p ∈ ps) :
    ∃ a ∈ order, place ++ a = p.path :=
  List.mem_map.mp (h.sublist.subset (List.mem_map_of_mem hp))

/-- No problem is below another one, but for the zone of a session with empty hours. -/
theorem Reports.eq_or_zone (h : Reports joint place order ps) {p q : Problem} (hp : p ∈ ps)
    (hq : q ∈ ps) (hbelow : p.path <+: q.path) :
    p = q ∨ p.cause = .sameClocks ∧ q.path = p.path ++ ["timezone"] := by
  let Settled (p q : Problem) : Prop := p.path <+: q.path →
    p = q ∨ p.cause = .sameClocks ∧ q.path = p.path ++ ["timezone"]
  have hsettled : ps.Pairwise fun p q => Settled p q ∧ Settled q p :=
    h.apart.imp fun hapart => ⟨fun h => absurd h hapart.1, fun h => .inr (hapart.2 h)⟩
  have hsymm : Std.Symm fun p q => Settled p q ∧ Settled q p := ⟨fun _ _ => And.symm⟩
  have hself : ∀ p ∈ ps, Settled p p ∧ Settled p p :=
    fun _ _ => ⟨fun _ => .inl rfl, fun _ => .inl rfl⟩
  exact (hsettled.forall_of_forall hself hp hq).1 hbelow

/-- What is read one after the other at places beside each other. -/
theorem Reports.append (hps : Reports joint place order ps) (hqs : Reports joint place order' qs)
    (hbeside : ∀ a ∈ order, ∀ b ∈ order', Beside a b) :
    Reports joint place (order ++ order') (ps ++ qs) where
  sublist := by
    rw [List.map_append, List.map_append]
    exact hps.sublist.append hqs.sublist
  apart := by
    refine List.pairwise_append.mpr ⟨hps.apart, hqs.apart, fun p hp q hq => ?_⟩
    obtain ⟨a, ha, hpath⟩ := hps.exists_mem hp
    obtain ⟨b, hb, hpath'⟩ := hqs.exists_mem hq
    obtain ⟨hab, hba⟩ := hbeside a ha b hb
    rw [Problem.Apart, ← hpath, ← hpath', List.prefix_append_right_inj,
      List.prefix_append_right_inj]
    exact ⟨hab, fun h => absurd h hba⟩
  joint := by
    intro p hp
    exact (List.mem_append.mp hp).elim (hps.joint p) (hqs.joint p)

/-- The problems of a field among those of the object. -/
theorem Reports.inField (h : Reports joint (place ++ [name]) order ps) :
    Reports joint place (order.map (name :: ·)) ps where
  sublist := by
    have hplaces : (order.map (name :: ·)).map (place ++ ·) =
        order.map ((place ++ [name]) ++ ·) := by
      rw [List.map_map]
      exact List.map_congr_left fun a _ => (List.append_cons place name a)
    rw [hplaces]
    exact h.sublist
  apart := h.apart
  joint := h.joint

/-! ## checked values -/

/-- A step is taken only where there is no problem yet. -/
theorem reports_bind {a : Checked α} {f : α → Checked β}
    (ha : Reports joint place order a.problems)
    (hf : ∀ x, a = .ok x → Reports joint place order (f x).problems) :
    Reports joint place order (problems (a.bind f)) := by
  cases a with
  | ok x => exact hf x rfl
  | error ps => exact ha

/-- A demand that is not met is one problem; if it is about two fields, the condition has to
hold. -/
theorem reports_demand {ok : Bool} (hnil : [] ∈ order) (x : α)
    (h : ok = false → cause.isJoint = true → joint ⟨place, cause⟩) :
    Reports joint place order (demand ok place cause x).problems := by
  cases ok with
  | true => exact .nil
  | false => exact .whole hnil (h rfl)

theorem reports_ofOption (x : Option α) (h : cause.isJoint = false) :
    Reports joint place [[]] (ofOption x place cause).problems := by
  cases x with
  | some x => exact .nil
  | none => exact .single List.mem_cons_self h

end

/-! ## values -/

namespace Reader

/-- A reader that finds at most one problem, with the value as a whole. -/
def ReportsWhole (read : Reader α) : Prop :=
  ∀ joint path v, Reports joint path [[]] (read path v).problems

/-- Readers of values without members report one problem with the value, or none. -/
theorem reportsWhole_string : ReportsWhole string := by
  intro joint path v
  cases v with
  | string s => exact .nil
  | _ => exact .single List.mem_cons_self rfl

theorem reportsWhole_number : ReportsWhole number := by
  intro joint path v
  rw [number]
  cases v.float?.filter Float.isFinite with
  | some x => exact .nil
  | none => exact .single List.mem_cons_self rfl

/-- Bounds are tested on a number only, so they make no second problem. -/
theorem reportsWhole_numberThat (rule : NumberRule) : ReportsWhole (numberThat rule) :=
  fun joint path v => reports_bind (reportsWhole_number joint path v) fun x _ =>
    reports_demand List.mem_cons_self x nofun

/-- What is read has a meaning, or it has not. -/
theorem ReportsWhole.means {read : Reader β} (h : read.ReportsWhole) {means : β → Option α}
    {cause : β → Cause} (hcause : ∀ x, (cause x).isJoint = false) :
    ReportsWhole fun path v => (read path v).bind fun x => ofOption (means x) path (cause x) :=
  fun joint path v => reports_bind (h joint path v) fun x _ => reports_ofOption _ (hcause x)

theorem reportsWhole_whole (range : WholeRange) : ReportsWhole (whole range) :=
  reportsWhole_number.means fun _ => rfl

theorem reportsWhole_choice (named : List (String × α)) : ReportsWhole (choice named) :=
  reportsWhole_string.means fun _ => rfl

end Reader

open Reader

/-! ## objects -/

/-- A reader of objects without comparisons, with the order of its fields. -/
def ReportsFields (order : List Path) (read : Fields → Checked α) : Prop :=
  ∀ joint f, Reports joint f.path order (read f).problems

/-- A field with an object: the field itself, and what is in the object. -/
def within (name : String) (order : List Path) : List Path := ([] :: order).map (name :: ·)

section

variable {joint : Problem → Prop} {order : List Path} (f : Fields) (name : String)

/-- What is no object is one problem; otherwise the problems are those inside. -/
theorem reports_inside {read : Fields → Checked α} {path : Path} {v : Json} (hnil : [] ∈ order)
    (h : ∀ o, v = .object o → Reports joint path order (read ⟨path, o⟩).problems) :
    Reports joint path order (inside read path v).problems := by
  cases v with
  | object o => exact h o rfl
  | _ => exact .single hnil rfl

namespace Fields

/-- The problems of a field are below its name, or it is missing. -/
theorem reports_required {read : Reader α} (hnil : [] ∈ order)
    (h : ∀ v, f.value? name = some v →
      Reports joint (f.place name) order (read (f.place name) v).problems) :
    Reports joint f.path (order.map (name :: ·)) (f.required name read).problems := by
  rw [required_eq_elim]
  cases hv : f.value? name with
  | some v => exact (h v hv).inField
  | none => exact (Reports.single hnil rfl).inField

theorem reports_optional {read : Reader α} (absent : α)
    (h : ∀ v, f.value? name = some v →
      Reports joint (f.place name) order (read (f.place name) v).problems) :
    Reports joint f.path (order.map (name :: ·)) (f.optional name absent read).problems := by
  rw [optional_eq_elim]
  cases hv : f.value? name with
  | some v => exact (h v hv).inField
  | none => exact .nil

theorem reports_requiredWhole {read : Reader α} (h : read.ReportsWhole) :
    Reports joint f.path [[name]] (f.required name read).problems :=
  f.reports_required name List.mem_cons_self fun _ _ => h _ _ _

theorem reports_optionalWhole {read : Reader α} (h : read.ReportsWhole) (absent : α) :
    Reports joint f.path [[name]] (f.optional name absent read).problems :=
  f.reports_optional name absent fun _ _ => h _ _ _

/-- An object in a field has its own place and those inside. -/
theorem reports_requiredObject {read : Fields → Checked α} (hnil : [] ∈ order)
    (h : ∀ o, f.value? name = some (.object o) →
      Reports joint (f.place name) order (read ⟨f.place name, o⟩).problems) :
    Reports joint f.path (order.map (name :: ·)) (f.requiredObject name read).problems := by
  rw [requiredObject_eq_required]
  refine f.reports_required name hnil fun v hv => ?_
  refine reports_inside hnil fun o ho => h o ?_
  rw [hv, ho]

/-- The same with the order of a reader that is known for all objects. -/
theorem reports_object {read : Fields → Checked α} (h : ReportsFields order read) :
    Reports joint f.path (within name order) (f.requiredObject name read).problems :=
  f.reports_requiredObject name List.mem_cons_self fun o _ =>
    (h joint ⟨_, o⟩).widen (List.sublist_cons_self _ _)

end Fields

/-- What is done with the result makes no problem. -/
theorem ReportsFields.map {read : Fields → Checked α} (h : ReportsFields order read) (g : α → β) :
    ReportsFields order fun f => (read f).map g := by
  intro joint f
  rw [problems_map]
  exact h joint f

/-- With a method only its own fields are read. -/
theorem reportsFields_method {methods : List (String × (Fields → Checked α))}
    (h : ∀ m ∈ methods, ∃ part, List.Sublist part order ∧ ReportsFields part m.2) :
    ReportsFields (["method"] :: order) (·.method methods) := by
  intro joint f
  refine reports_bind ?_ fun read hread => ?_
  · exact (f.reports_requiredWhole "method" (reportsWhole_choice methods)).widen
      (List.singleton_sublist.mpr List.mem_cons_self)
  · obtain ⟨s, hmem⟩ := f.mem_of_choice "method" hread
    obtain ⟨part, hpart, hreports⟩ := h (s, read) hmem
    exact (hreports joint f).widen (hpart.trans (List.sublist_cons_self _ _))

end

/-! ## stops and targets -/

theorem reportsFields_none (a : α) : ReportsFields [] fun _ => (.ok a : Checked α) :=
  fun _ _ => .nil

theorem reportsFields_value (rule : NumberRule) :
    ReportsFields [["value"]] (·.required "value" (numberThat rule)) :=
  fun _ f => f.reports_requiredWhole "value" (reportsWhole_numberThat rule)

theorem reportsFields_buffer (absent : Float) :
    ReportsFields [["bufferTicks"]] (·.ticks "bufferTicks" absent) :=
  fun _ f => f.reports_optionalWhole "bufferTicks" (reportsWhole_numberThat .notNegative) absent

/-- The value of a distance is read first, then its unit. -/
theorem reportsFields_distance : ReportsFields [["value"], ["unit"]] Distance.ofFields := by
  intro joint f
  rw [Distance.ofFields, problems_map, problems_both]
  refine (reportsFields_value .positive joint f).append ?_ (by decide)
  exact f.reports_optionalWhole "unit" (reportsWhole_choice _) _

namespace Pattern

/-- The fields of a stop in the order in which they are read. -/
def stopOrder : Pattern → List Path
  | .openingRange => [["method"], ["value"], ["unit"]]
  | .pullback | .breakout => [["method"], ["bufferTicks"], ["value"], ["unit"]]

/-- The fields of a target in the order in which they are read. -/
def targetOrder : Pattern → List Path
  | .openingRange => [["method"], ["value"], ["unit"]]
  | .pullback | .breakout => [["method"], ["value"]]

/-- The fields of an entry in the order in which they are read. -/
def entryOrder : Pattern → List Path
  | .openingRange => [["periodMinutes"]] ++ ([["breakoutBufferTicks"]] ++
      (within "stop" (stopOrder .openingRange) ++ within "target" (targetOrder .openingRange)))
  | .pullback => [["emaPeriod"]] ++ ([["confirmation"]] ++ ([["touchToleranceTicks"]] ++
      (within "rsiFilter" [["min"], ["max"]] ++
        (within "stop" (stopOrder .pullback) ++ within "target" (targetOrder .pullback)))))
  | .breakout => [["lookbackPeriods"]] ++ ([["confirmation"]] ++
      (within "stop" (stopOrder .breakout) ++ within "target" (targetOrder .breakout)))

end Pattern

/-- For each method the places of its fields are in the order of all of them. -/
theorem reportsFields_openingStop :
    ReportsFields (Pattern.stopOrder .openingRange) OpeningRange.Stop.ofFields := by
  refine reportsFields_method ?_
  simp only [List.forall_mem_cons]
  refine ⟨⟨_, ?_, (reportsFields_value .percentage).map _⟩, ⟨_, ?_, reportsFields_none _⟩,
    ⟨_, ?_, reportsFields_distance.map _⟩, ⟨_, ?_, (reportsFields_value .positive).map _⟩, nofun⟩
  all_goals decide

theorem reportsFields_openingTarget :
    ReportsFields (Pattern.targetOrder .openingRange) OpeningRange.Target.ofFields := by
  refine reportsFields_method ?_
  simp only [List.forall_mem_cons]
  refine ⟨⟨_, ?_, (reportsFields_value .positive).map _⟩,
    ⟨_, ?_, (reportsFields_value .positive).map _⟩, ⟨_, ?_, reportsFields_distance.map _⟩, nofun⟩
  all_goals decide

theorem reportsFields_pullbackStop :
    ReportsFields (Pattern.stopOrder .pullback) Pullback.Stop.ofFields := by
  refine reportsFields_method ?_
  simp only [List.forall_mem_cons]
  refine ⟨⟨_, ?_, (reportsFields_buffer _).map _⟩, ⟨_, ?_, (reportsFields_value .positive).map _⟩,
    ⟨_, ?_, reportsFields_distance.map _⟩, nofun⟩
  all_goals decide

theorem reportsFields_pullbackTarget :
    ReportsFields (Pattern.targetOrder .pullback) Pullback.Target.ofFields := by
  refine reportsFields_method ?_
  simp only [List.forall_mem_cons]
  exact ⟨⟨_, .refl _, (reportsFields_value .positive).map _⟩, nofun⟩

theorem reportsFields_breakoutStop :
    ReportsFields (Pattern.stopOrder .breakout) Breakout.Stop.ofFields := by
  refine reportsFields_method ?_
  simp only [List.forall_mem_cons]
  refine ⟨⟨_, ?_, (reportsFields_buffer _).map _⟩, ⟨_, ?_, (reportsFields_value .positive).map _⟩,
    ⟨_, ?_, reportsFields_distance.map _⟩, nofun⟩
  all_goals decide

theorem reportsFields_breakoutTarget :
    ReportsFields (Pattern.targetOrder .breakout) Breakout.Target.ofFields := by
  refine reportsFields_method ?_
  simp only [List.forall_mem_cons]
  exact ⟨⟨_, .refl _, (reportsFields_value .positive).map _⟩,
    ⟨_, .refl _, (reportsFields_value .positive).map _⟩, nofun⟩

/-! ## entries -/

/-- The places of an opening range, field by field. -/
theorem reportsFields_openingRules :
    ReportsFields (Pattern.entryOrder .openingRange) OpeningRange.Rules.ofFields := by
  intro joint f
  simp only [OpeningRange.Rules.ofFields, problems_map, problems_both]
  refine .append ?_ (.append ?_ (.append ?_ ?_ ?_) ?_) ?_
  · exact f.reports_requiredWhole _ (reportsWhole_whole _)
  · exact f.reports_optionalWhole _ (reportsWhole_numberThat _) _
  · exact f.reports_object _ reportsFields_openingStop
  · exact f.reports_object _ reportsFields_openingTarget
  all_goals decide

/-- The ends of a band are compared if both are numbers that a band can have. -/
theorem reports_band {joint : Problem → Prop} (f : Fields)
    (hjoint : ∀ min max, Required f.members "min" (IsNumberThat fun x => 0.0 ≤ x ∧ x ≤ 100.0) min →
      Required f.members "max" (IsNumberThat fun x => 0.0 ≤ x ∧ x ≤ 100.0) max → ¬min < max →
      joint ⟨f.path, .bandEmpty⟩) :
    Reports joint f.path ([] :: [["min"], ["max"]]) (Pullback.RsiBand.ofFields f).problems := by
  refine reports_bind ?_ fun band hband => reports_demand List.mem_cons_self _ fun hempty _ => ?_
  · rw [problems_both]
    have hmin : Reports joint f.path [["min"]] _ :=
      f.reports_requiredWhole "min" (reportsWhole_numberThat .rsi)
    have hmax : Reports joint f.path [["max"]] _ :=
      f.reports_requiredWhole "max" (reportsWhole_numberThat .rsi)
    exact (hmin.append hmax (by decide)).widen (List.sublist_cons_self _ _)
  · obtain ⟨hmin, hmax⟩ := both_eq_ok.mp hband
    exact hjoint _ _ ((Fields.required_eq_ok reads_rsi).mp hmin)
      ((Fields.required_eq_ok reads_rsi).mp hmax) (of_decide_eq_false hempty)

/-- The places of a pullback; only its band is about two fields, and only if both ends are
read. -/
theorem reports_pullbackRules {joint : Problem → Prop} {f : Fields}
    (hjoint : ∀ o, Has f.members "rsiFilter" (.object o) → ∀ min max,
      Required o "min" (IsNumberThat fun x => 0.0 ≤ x ∧ x ≤ 100.0) min →
      Required o "max" (IsNumberThat fun x => 0.0 ≤ x ∧ x ≤ 100.0) max → ¬min < max →
      joint ⟨f.place "rsiFilter", .bandEmpty⟩) :
    Reports joint f.path (Pattern.entryOrder .pullback) (Pullback.Rules.ofFields f).problems := by
  simp only [Pullback.Rules.ofFields, problems_map, problems_both]
  refine .append ?_ (.append ?_ (.append ?_ (.append ?_ (.append ?_ ?_ ?_) ?_) ?_) ?_) ?_
  · exact f.reports_requiredWhole _ (reportsWhole_whole _)
  · exact f.reports_optionalWhole _ (reportsWhole_choice _) _
  · exact f.reports_optionalWhole _ (reportsWhole_numberThat _) _
  · refine f.reports_optional _ _ fun v hv => ?_
    rw [problems_map]
    refine reports_inside List.mem_cons_self fun o ho => reports_band ⟨_, o⟩ (hjoint o ?_)
    exact ho ▸ Fields.value?_eq_some_iff.mp hv
  · exact f.reports_object _ reportsFields_pullbackStop
  · refine f.reports_optional _ _ fun v _ => reports_inside List.mem_cons_self fun o _ => ?_
    exact (reportsFields_pullbackTarget joint ⟨_, o⟩).widen (List.sublist_cons_self _ _)
  all_goals decide

theorem reportsFields_breakoutRules :
    ReportsFields (Pattern.entryOrder .breakout) Breakout.Rules.ofFields := by
  intro joint f
  simp only [Breakout.Rules.ofFields, problems_map, problems_both]
  refine .append ?_ (.append ?_ (.append ?_ ?_ ?_) ?_) ?_
  · exact f.reports_optionalWhole _ (reportsWhole_whole _) _
  · exact f.reports_optionalWhole _ (reportsWhole_choice _) _
  · exact f.reports_object _ reportsFields_breakoutStop
  · exact f.reports_object _ reportsFields_breakoutTarget
  all_goals decide

/-- The places of an entry are those of its pattern. -/
theorem reports_entry {joint : Problem → Prop} (p : Pattern) (f : Fields)
    (hjoint : ∀ o, Has f.members "rsiFilter" (.object o) → ∀ min max,
      Required o "min" (IsNumberThat fun x => 0.0 ≤ x ∧ x ≤ 100.0) min →
      Required o "max" (IsNumberThat fun x => 0.0 ≤ x ∧ x ≤ 100.0) max → ¬min < max →
      joint ⟨f.place "rsiFilter", .bandEmpty⟩) :
    Reports joint f.path p.entryOrder (EntryRules.ofFields p f).problems := by
  cases p with
  | openingRange => exact reportsFields_openingRules.map _ joint f
  | breakout => exact reportsFields_breakoutRules.map _ joint f
  | pullback =>
      rw [EntryRules.ofFields, problems_map]
      exact reports_pullbackRules hjoint

/-! ## sections -/

theorem reportsWhole_pattern : Pattern.reader.ReportsWhole :=
  reportsWhole_string.means fun _ => rfl

theorem reportsWhole_symbol : Symbol.reader.ReportsWhole := by
  intro joint path v
  refine reports_bind (reportsWhole_string joint path v) fun s _ => ?_
  split
  · exact .single List.mem_cons_self rfl
  · exact reports_ofOption _ rfl

theorem reportsWhole_zone : ZoneName.reader.ReportsWhole :=
  reportsWhole_string.means fun _ => rfl

theorem reportsWhole_clock : Reader.ReportsWhole clockReader :=
  reportsWhole_string.means fun _ => rfl

theorem reportsFields_instrument :
    ReportsFields [["symbol"]] (·.required "symbol" Symbol.reader) :=
  fun _ f => f.reports_requiredWhole "symbol" reportsWhole_symbol

/-- The percentage is read before the number of contracts. -/
theorem reportsFields_risk : ReportsFields [["riskPercent"], ["maxContracts"]] Risk.ofFields := by
  intro joint f
  rw [Risk.ofFields, problems_map, problems_both]
  refine (f.reports_requiredWhole _ (reportsWhole_numberThat _)).append ?_ (by decide)
  exact f.reports_requiredWhole _ (reportsWhole_whole _)

/-- The ends of custom hours are compared if both are clock times. -/
theorem reports_custom {joint : Problem → Prop} (f : Fields) :
    Reports joint f.path [["customStart"], ["customEnd"]]
        (SessionKind.customOfFields f).problems ∨
      (SessionKind.customOfFields f).problems = [⟨f.path, .sameClocks⟩] ∧
        ∃ clock, Required f.members "customStart" (IsText ClockText) clock ∧
          Required f.members "customEnd" (IsText ClockText) clock := by
  have hstart : Reports joint f.path [["customStart"]] _ :=
    f.reports_requiredWhole "customStart" reportsWhole_clock
  have hstop : Reports joint f.path [["customEnd"]] _ :=
    f.reports_requiredWhole "customEnd" reportsWhole_clock
  have hboth := hstart.append hstop (by decide)
  rw [← problems_both] at hboth
  rw [SessionKind.customOfFields]
  cases hclocks : (f.required "customStart" clockReader).both
      (f.required "customEnd" clockReader) with
  | error ps =>
      rw [hclocks] at hboth
      exact .inl hboth
  | ok clocks =>
      obtain ⟨start, stop⟩ := clocks
      obtain ⟨hstart, hstop⟩ := both_eq_ok.mp hclocks
      rw [Fields.required_eq_ok reads_clock] at hstart hstop
      change Reports joint f.path _ (demand (start ≠ stop) f.path .sameClocks _).problems ∨
        (demand (start ≠ stop) f.path .sameClocks _).problems = _ ∧ _
      by_cases hsame : start = stop
      · rw [decide_eq_false (not_not.mpr hsame)]
        exact .inr ⟨rfl, start, hstart, hsame ▸ hstop⟩
      · rw [decide_eq_true hsame]
        exact .inl .nil

/-- The fields of a session in the order in which they are read.  What is wrong with the session
as a whole comes last. -/
def Session.order : List Path :=
  [["session"]] ++ ([["timezone"]] ++ ([["customStart"], ["customEnd"]] ++ [[]]))

/-- That hours are empty is said of the session, behind a problem with its zone. -/
theorem Reports.behindZone {joint : Problem → Prop} {place : Path} {ps : List Problem}
    (h : Reports joint place [["timezone"]] ps) (hjoint : joint ⟨place, .sameClocks⟩) :
    Reports joint place Session.order (ps ++ [⟨place, .sameClocks⟩]) where
  sublist := by
    have hself : (List.map Problem.path [⟨place, .sameClocks⟩]).Sublist
        (List.map (place ++ ·) [[]]) := by
      rw [List.map_singleton, List.map_singleton, List.append_nil]
    have horder : ([["timezone"]] ++ [[]] : List Path).Sublist Session.order := by decide
    rw [List.map_append]
    refine (h.sublist.append hself).trans ?_
    rw [← List.map_append]
    exact horder.map _
  apart := by
    refine List.pairwise_append.mpr ⟨h.apart, List.pairwise_singleton _ _, fun p hp q hq => ?_⟩
    obtain ⟨a, ha, hpath⟩ := h.exists_mem hp
    obtain rfl := List.mem_singleton.mp ha
    obtain rfl := List.mem_singleton.mp hq
    refine ⟨fun hbelow => ?_, fun _ => ⟨rfl, hpath.symm⟩⟩
    have hlength : p.path.length ≤ place.length := hbelow.length_le
    rw [← hpath, List.length_append, List.length_singleton] at hlength
    omega
  joint := by
    intro p hp hcause
    obtain hp | hp := List.mem_append.mp hp
    · exact h.joint p hp hcause
    · rwa [List.mem_singleton.mp hp]

/-- The zone of a session is read before its ends, which are compared last. -/
theorem reports_session {joint : Problem → Prop} (f : Fields)
    (hjoint : Has f.members "session" (.string "custom") → ∀ clock,
      Required f.members "customStart" (IsText ClockText) clock →
      Required f.members "customEnd" (IsText ClockText) clock → joint ⟨f.path, .sameClocks⟩) :
    Reports joint f.path Session.order (Session.ofFields f).problems := by
  have hname : Reports joint f.path [["session"]] _ :=
    f.reports_requiredWhole "session" (reportsWhole_choice SessionKind.readers)
  have hzone : Reports joint f.path [["timezone"]] _ :=
    f.reports_optionalWhole "timezone" reportsWhole_zone ZoneName.trader
  -- Nothing is said of the session as a whole, unless hours are empty.
  have hfields {ps : List Problem}
      (h : Reports joint f.path [["customStart"], ["customEnd"]] ps) :
      Reports joint f.path Session.order
        ((f.required "session" (choice SessionKind.readers)).problems ++
          ((f.optional "timezone" ZoneName.trader ZoneName.reader).problems ++ ps)) :=
    Reports.widen (hname.append (hzone.append h (by decide)) (by decide)) (by decide)
  simp only [Session.ofFields, problems_map, problems_both]
  cases hread : f.required "session" (choice SessionKind.readers) with
  | error ps =>
      rw [hread] at hfields
      exact hfields .nil
  | ok read =>
      rw [hread] at hfields
      obtain ⟨s, hs, hlookup⟩ := f.exists_of_text "session" hread
      obtain ⟨before, after, hreaders, -⟩ := List.lookup_eq_some_iff.mp hlookup
      have hmem : (s, read) ∈ SessionKind.readers := by
        rw [hreaders]
        exact List.mem_append_right before List.mem_cons_self
      simp only [SessionKind.readers, List.mem_cons, List.not_mem_nil, or_false,
        Prod.mk.injEq] at hmem
      obtain ⟨rfl, rfl⟩ | ⟨rfl, rfl⟩ | ⟨rfl, rfl⟩ | ⟨rfl, rfl⟩ := hmem
      · exact hfields .nil
      · exact hfields .nil
      · exact hfields .nil
      · obtain hcustom | ⟨hsame, clock, hstart, hstop⟩ := reports_custom f
        · exact hfields hcustom
        · rw [whenOk, hsame]
          exact hzone.behindZone (hjoint (Fields.value?_eq_some_iff.mp hs) clock hstart hstop)

/-! ## documents -/

/-- The places of a document in the order in which they are read.  Without a pattern the entry
is not read. -/
def Strategy.order (p : Option Pattern) : List Path :=
  [["pattern"]] ++ (within "instrument" [["symbol"]] ++ ([["direction"]] ++
    (p.elim [] (fun p => within "entry" p.entryOrder) ++
      (within "risk" [["riskPercent"], ["maxContracts"]] ++ Session.order.map ("session" :: ·)))))

/-- Two fields that can be read, each on its own, and do not go together. -/
inductive Clash (o : Members) : Problem → Prop where
  | band {entry band : Members} {min max : Float} : Has o "entry" (.object entry) →
      Has entry "rsiFilter" (.object band) →
      Required band "min" (IsNumberThat fun x => 0.0 ≤ x ∧ x ≤ 100.0) min →
      Required band "max" (IsNumberThat fun x => 0.0 ≤ x ∧ x ≤ 100.0) max → ¬min < max →
      Clash o ⟨["entry", "rsiFilter"], .bandEmpty⟩
  | clocks {session : Members} {clock : Time.Clock} : Has o "session" (.object session) →
      Has session "session" (.string "custom") →
      Required session "customStart" (IsText ClockText) clock →
      Required session "customEnd" (IsText ClockText) clock →
      Clash o ⟨["session"], .sameClocks⟩

/-- The sections are read one after the other, and each has its own places. -/
theorem reports_strategy (o : Members) :
    Reports (Clash o) [] (Strategy.order (Pattern.ofDocument? (.object o)))
      (Strategy.ofFields ⟨[], o⟩).problems := by
  let f : Fields := ⟨[], o⟩
  -- The entry is read for the pattern that the document names, if it names one.
  have hentry : Reports (Clash o) []
      ((Pattern.ofDocument? (.object o)).elim [] fun p => within "entry" p.entryOrder)
      ((f.required "pattern" Pattern.reader).whenOk fun p =>
        f.requiredObject "entry" (EntryRules.ofFields p)).problems := by
    cases hpattern : f.required "pattern" Pattern.reader with
    | error ps => exact .nil
    | ok p =>
        rw [Pattern.ofDocument?_of_required hpattern]
        refine f.reports_requiredObject _ List.mem_cons_self fun entry hentry => ?_
        refine (reports_entry p ⟨_, entry⟩ fun band hband min max hmin hmax hempty => ?_).widen
          (List.sublist_cons_self _ _)
        exact .band (Fields.value?_eq_some_iff.mp hentry) hband hmin hmax hempty
  have hsession : Reports (Clash o) [] (Session.order.map ("session" :: ·))
      (f.requiredObject "session" Session.ofFields).problems := by
    refine f.reports_requiredObject _ (by decide) fun session hsession => ?_
    refine reports_session ⟨_, session⟩ fun hcustom clock hstart hstop => ?_
    exact .clocks (Fields.value?_eq_some_iff.mp hsession) hcustom hstart hstop
  simp only [Strategy.ofFields, problems_map, problems_both]
  generalize Pattern.ofDocument? (.object o) = p at hentry
  refine .append (f.reports_requiredWhole _ reportsWhole_pattern) (.append
    (f.reports_object _ reportsFields_instrument) (.append
      (f.reports_requiredWhole _ (reportsWhole_choice _)) (.append hentry (.append
        (f.reports_object _ reportsFields_risk) hsession ?_) ?_) ?_) ?_) ?_
  all_goals obtain _ | (_ | _ | _) := p <;> decide

namespace Strategy

/-- The places of the schema in the order in which they are read, for each pattern. -/
def readingOrder (p : Option Pattern) : List String :=
  ["pattern", "instrument", "instrument.symbol", "direction"] ++
  (match p with
  | none => []
  | some .openingRange => [
    "entry", "entry.periodMinutes", "entry.breakoutBufferTicks",
    "entry.stop", "entry.stop.method", "entry.stop.value", "entry.stop.unit",
    "entry.target", "entry.target.method", "entry.target.value", "entry.target.unit"]
  | some .pullback => [
    "entry", "entry.emaPeriod", "entry.confirmation", "entry.touchToleranceTicks",
    "entry.rsiFilter", "entry.rsiFilter.min", "entry.rsiFilter.max",
    "entry.stop", "entry.stop.method", "entry.stop.bufferTicks", "entry.stop.value",
    "entry.stop.unit",
    "entry.target", "entry.target.method", "entry.target.value"]
  | some .breakout => [
    "entry", "entry.lookbackPeriods", "entry.confirmation",
    "entry.stop", "entry.stop.method", "entry.stop.bufferTicks", "entry.stop.value",
    "entry.stop.unit",
    "entry.target", "entry.target.method", "entry.target.value"]) ++
  ["risk", "risk.riskPercent", "risk.maxContracts",
    "session.session", "session.timezone", "session.customStart", "session.customEnd", "session"]

/-- The places are written as paths with points. -/
theorem text_order (p : Option Pattern) : (order p).map Path.text = readingOrder p := by
  obtain _ | (_ | _ | _) := p <;> decide +kernel

theorem nodup_readingOrder (p : Option Pattern) : (readingOrder p).Nodup := by
  obtain _ | (_ | _ | _) := p <;> decide +kernel

/-- **No place has two problems, and problems stand in the order of the schema.**  A document
that is no object has one problem, at `$`.  Otherwise no problem is below another one, but for
the zone of a session with equal clock times, and two fields are compared only if each of them
can be read. -/
theorem problems_in_order (document : Json) :
    let ps := (ofJson document).problems
    let places := ps.map fun p => p.notice.path
    places.Nodup ∧
      (places = ["$"] ∨ places.Sublist (readingOrder (Pattern.ofDocument? document))) ∧
      (∀ p ∈ ps, ∀ q ∈ ps, p.path <+: q.path → p = q ∨
        p = ⟨["session"], .sameClocks⟩ ∧ q.path = ["session", "timezone"]) ∧
      ∀ p ∈ ps, p.cause.isJoint = true → ∃ o, document = .object o ∧ Clash o p := by
  intro ps places
  by_cases hobject : document.kind = .object
  · obtain ⟨o, rfl⟩ := Json.kind_eq_object_iff.mp hobject
    have h : Reports (Clash o) [] (order (Pattern.ofDocument? (.object o))) ps :=
      reports_strategy o
    have hsublist : places.Sublist (readingOrder (Pattern.ofDocument? (.object o))) := by
      have htexts := h.sublist.map Path.text
      simp only [List.nil_append, List.map_id', text_order, List.map_map] at htexts
      exact htexts
    refine ⟨hsublist.nodup (nodup_readingOrder _), .inr hsublist, fun p hp q hq hbelow => ?_,
      fun p hp hjoint => ⟨o, rfl, h.joint p hp hjoint⟩⟩
    refine (h.eq_or_zone hp hq hbelow).imp_right fun ⟨hcause, hpath⟩ => ?_
    -- Of the session as a whole only this is said when its fields are read.
    cases h.joint p hp (by rw [hcause]; rfl) with
    | band => contradiction
    | clocks => exact ⟨rfl, hpath⟩
  · have hone : ps = [⟨[], .wrongKind .object document.kind⟩] := by
      change problems (inside ofFields [] document) = _
      rw [inside_of_kind_ne hobject]
      rfl
    have hplaces : places = ["$"] := by
      change ps.map _ = _
      rw [hone]
      rfl
    refine ⟨hplaces ▸ List.nodup_singleton _, .inl hplaces, ?_, ?_⟩
    · intro p hp q hq _
      rw [hone, List.mem_singleton] at hp hq
      exact .inl (hp.trans hq.symm)
    · intro p hp hjoint
      rw [hone, List.mem_singleton] at hp
      rw [hp] at hjoint
      contradiction

/-- A document with problems in all its sections but the pattern. -/
def tangled : Json := .object [
  ("session", .object [
    ("session", .string "custom"), ("timezone", .integer (-5)),
    ("customStart", .string "9:30"), ("customEnd", .string "09:30")]),
  ("risk", .object [("riskPercent", .integer 7), ("maxContracts", .integer 3)]),
  ("entry", .object [
    ("emaPeriod", .integer 21), ("rsiFilter", .object [("min", .integer 70), ("max", .integer 30)]),
    ("stop", .object [("method", .string "fixed_distance"), ("value", .integer 0),
      ("unit", .string "inches")]),
    ("target", .string "far")]),
  ("pattern", .string "ema_pullback"),
  ("instrument", .object [("symbol", .string " ")])]

/-- Nine problems in the order of the schema.  The two comparisons are made, because a band from
70 to 30 has numbers for its ends and `9:30` is the same clock time as `09:30`. -/
theorem problems_in_order_tangled :
    ((ofJson tangled).problems.map fun p => p.notice.path) = [
      "instrument.symbol", "direction", "entry.rsiFilter", "entry.stop.value", "entry.stop.unit",
      "entry.target", "risk.riskPercent", "session.timezone", "session"] ∧
    ((ofJson tangled).problems.map fun p => p.notice.path).Sublist
      (readingOrder (some .pullback)) ∧
    ∃ o, tangled = .object o ∧ Clash o ⟨["entry", "rsiFilter"], .bandEmpty⟩ ∧
      Clash o ⟨["session"], .sameClocks⟩ := by
  obtain ⟨-, horder, -, hjoint⟩ := problems_in_order tangled
  have hplaces : ((ofJson tangled).problems.map fun p => p.notice.path) = [
      "instrument.symbol", "direction", "entry.rsiFilter", "entry.stop.value", "entry.stop.unit",
      "entry.target", "risk.riskPercent", "session.timezone", "session"] := by decide +kernel
  refine ⟨hplaces, horder.resolve_left fun h => ?_, _, rfl, ?_, ?_⟩
  · rw [hplaces] at h
    contradiction
  · obtain ⟨o, ho, hclash⟩ := hjoint ⟨["entry", "rsiFilter"], .bandEmpty⟩ (by decide +kernel) rfl
    exact Json.object.inj ho ▸ hclash
  · obtain ⟨o, ho, hclash⟩ := hjoint ⟨["session"], .sameClocks⟩ (by decide +kernel) rfl
    exact Json.object.inj ho ▸ hclash

end Strategy

end Playbook
