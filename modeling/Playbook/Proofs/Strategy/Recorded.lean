import Playbook.Proofs.Strategy.Explained
import Playbook.Proofs.Strategy.Recorder

/-!
# Playbook.Proofs.Strategy.Recorded

A document that is refused always says why, also when it is read with a record of
problems on the side (`refused_says_why`): without a value there is a problem in the
record.

Reading with a record is compared with reading without one: `settled` forgets values that
were read in spite of problems, and then both ways to read agree (`settled_strategy`).
Every way to put readers together keeps this law.
-/

namespace Playbook

open Checked

variable {α β : Type}

/-! ## choices -/

/-- A table of results is searched like the table that they are made of. -/
theorem choice_map (g : α → β) (named : List (String × α)) (path : Path) (v : Json) :
    Reader.choice (named.map fun p => (p.1, g p.2)) path v =
      (Reader.choice named path v).map g := by
  have hnames : (named.map fun p => (p.1, g p.2)).map Prod.fst = named.map Prod.fst := by
    rw [List.map_map]
    rfl
  cases v with
  | string s =>
      simp only [Reader.choice, Reader.string, Except.bind, hnames, Json.lookup_map fun _ => g]
      cases named.lookup s <;> rfl
  | _ => rfl

/-- So a required field with such a table is read by the other one. -/
theorem Fields.required_choice_map (f : Fields) (name : String) (g : α → β)
    (named : List (String × α)) :
    f.required name (Reader.choice (named.map fun p => (p.1, g p.2))) =
      (f.required name (Reader.choice named)).map g := by
  rw [required, required]
  cases f.value? name with
  | none => rfl
  | some v => exact choice_map g named (f.place name) v

namespace Recorded

/-! ## settling -/

/-- A value without problems, or else the problems. -/
def settled : Recorded α → Checked α
  | ⟨some x, []⟩ => .ok x
  | ⟨_, ps⟩ => .error ps

theorem settled_ofChecked (a : Checked α) : (ofChecked a).settled = a := by
  cases a <;> rfl

/-- To settle is to forget, and it does not matter when. -/
theorem settled_map (a : Recorded α) (f : α → β) : (a.map f).settled = a.settled.map f := by
  obtain ⟨_ | x, _ | ⟨p, ps⟩⟩ := a <;> rfl

/-- A pair is settled if both parts are; the problems of both are kept. -/
theorem settled_both (a : Recorded α) (b : Recorded β) :
    (a.both b).settled = a.settled.both b.settled := by
  obtain ⟨_ | x, _ | ⟨p, ps⟩⟩ := a <;> obtain ⟨_ | y, _ | ⟨q, qs⟩⟩ := b <;> rfl

/-- Two values that are not there in spite of problems are not so together. -/
theorem both_ofChecked (a : Checked α) (b : Checked β) :
    (ofChecked a).both (ofChecked b) = ofChecked (a.both b) := by
  cases a <;> cases b <;> rfl

/-- A step that needs a value is taken exactly if there is one. -/
theorem settled_andThen (a : Checked α) (next : α → Recorded β) :
    ((ofChecked a).andThen next).settled = a.bind fun x => (next x).settled := by
  cases a with
  | ok x => rfl
  | error ps => exact congrArg Except.error (List.append_nil ps)

/-- A step that is left out without a value adds no problem. -/
theorem settled_whenThere (a : Checked α) (next : α → Recorded β) :
    ((ofChecked a).whenThere next).settled = a.whenOk fun x => (next x).settled := by
  cases a <;> rfl

/-- A default does not settle what was refused with a problem. -/
theorem settled_orElse {a : Checked α} (ha : a.Explained) (found : α → Recorded β) (x : β) :
    ((ofChecked a).orElse found (ok x)).settled = a.bind fun y => (found y).settled := by
  cases a with
  | ok y => rfl
  | error ps =>
      cases ps with
      | nil => exact absurd rfl ha
      | cons p ps => exact congrArg Except.error (List.append_nil (p :: ps))

/-- What explains itself is finished as it is settled. -/
theorem finish_eq_settled {a : Recorded α} (h : a.settled.Explained) (unexplained : Problem) :
    a.finish unexplained = a.settled := by
  obtain ⟨_ | x, _ | ⟨p, ps⟩⟩ := a
  · exact absurd rfl h
  · rfl
  · rfl
  · rfl

/-- What explains itself has a value or a problem. -/
theorem value_or_problems {a : Recorded α} (h : a.settled.Explained) :
    a.value.isSome ∨ a.problems ≠ [] := by
  obtain ⟨_ | x, _ | ⟨p, ps⟩⟩ := a
  · exact absurd rfl h
  · exact .inr (List.cons_ne_nil p ps)
  · exact .inl rfl
  · exact .inl rfl

/-! ## fields -/

section Fields

variable (f : Fields) {name : String}

/-- A required field is recorded as it is checked. -/
theorem settled_required (read : Reader α) :
    (required f name read).settled = f.required name read :=
  settled_ofChecked _

/-- An optional field: a default stands in where the field is refused as well, but with the
problems of that. -/
theorem settled_optional {read : Reader α} (hread : read.Explains) (found : α → Recorded β)
    (x : β) :
    ((optional f name read).orElse found (ok x)).settled =
      f.optional name x fun path v => (read path v).bind fun y => (found y).settled := by
  rw [optional, Fields.optional]
  cases f.value? name with
  | none => rfl
  | some v => exact settled_orElse (hread (f.place name) v) found x

theorem settled_orDefault {read : Reader α} (hread : read.Explains) (x : α) :
    ((optional f name read).orDefault x).settled = f.optional name x read := by
  have hbind (path : Path) (v : Json) :
      ((read path v).bind fun y => (ok y).settled) = read path v := by
    cases read path v <;> rfl
  rw [orDefault, settled_optional f hread]
  simp only [hbind]

/-- What is inside an object is read only where there is one. -/
theorem settled_object {read : Fields → Recorded α} {read' : Fields → Checked α}
    (h : ∀ f, (read f).settled = read' f) :
    ((object f name).andThen read).settled = f.requiredObject name read' := by
  rw [object, required, settled_andThen, Fields.requiredObject, funext h]

/-- A name that is unknown leaves its default beside the problem. -/
theorem settled_choice (named : List (String × α)) (x : α) :
    (choice f name named x).settled = f.optional name x (.choice named) :=
  settled_orDefault f (Reader.explains_choice named) x

theorem settled_ticks (x : Float) : (ticks f name x).settled = f.ticks name x :=
  settled_orDefault f (Reader.explains_numberThat .notNegative) x

theorem settled_positive : (positive f).settled = f.positive := settled_required f _

/-- A distance in an unknown unit is taken to be in ticks, and still refused. -/
theorem settled_distance : (distance f).settled = Distance.ofFields f := by
  rw [distance, settled_map, settled_both, settled_positive, settled_choice, Distance.ofFields]

theorem settled_valueMethod (make : Float → α) :
    ((positive f).map make).settled = f.positive.map make := by
  rw [settled_map, settled_positive]

theorem settled_fixedMethod (make : Distance → α) :
    ((distance f).map make).settled = (Distance.ofFields f).map make := by
  rw [settled_map, settled_distance]

theorem settled_bufferMethod (make : Float → α) :
    ((ticks f "bufferTicks" Default.stopBufferTicks).map make).settled =
      (f.ticks "bufferTicks" Default.stopBufferTicks).map make := by
  rw [settled_map, settled_ticks]

end Fields

/-! ## methods -/

section Methods

variable (f : Fields) {methods : List (String × (Fields → Checked α))}
  {arm arm' : String → Recorded α}

/-- Cases by the name of a method are as good as readers that stand beside the names. -/
theorem settled_method {names : List String} (hnames : methods.map Prod.fst = names)
    (h : ∀ m ∈ methods, (arm m.1).settled = m.2 f) :
    ((method f names).andThen arm).settled = f.method methods := by
  subst hnames
  have hlookup (s : String) : ((methods.map Prod.fst).map fun n => (n, n)).lookup s =
      (methods.lookup s).map fun _ => s := by
    rw [List.map_map]
    exact Json.lookup_map (fun n _ => n) methods s
  have hnames : ((methods.map Prod.fst).map fun n => (n, n)).map Prod.fst =
      methods.map Prod.fst := by
    rw [List.map_map]
    exact List.map_id _
  rw [method, required, settled_andThen, Fields.method, Fields.required, Fields.required]
  cases f.value? "method" with
  | none => rfl
  | some v =>
      cases v with
      | string s =>
          simp only [Reader.choice, Reader.string, Except.bind, hnames, hlookup]
          cases hread : methods.lookup s with
          | none => rfl
          | some read =>
              obtain ⟨before, after, hmethods, -⟩ := List.lookup_eq_some_iff.mp hread
              exact h (s, read) (hmethods ▸ List.mem_append_right before List.mem_cons_self)
      | _ => rfl

/-- The name of a method is one of those it was checked against. -/
theorem mem_of_method {names : List String} {name : String}
    (h : (method f names).value = some name) : name ∈ names := by
  have hok : f.required "method" (Reader.choice (names.map fun n => (n, n))) = .ok name := by
    rw [method, required] at h
    cases hread : f.required "method" (Reader.choice (names.map fun n => (n, n))) with
    | ok s =>
        rw [hread] at h
        exact congrArg _ (Option.some.inj h)
    | error ps =>
        rw [hread] at h
        contradiction
  obtain ⟨s, hmem⟩ := f.mem_of_choice "method" hok
  obtain ⟨n, hn, heq⟩ := List.mem_map.mp hmem
  obtain ⟨-, rfl⟩ := Prod.mk.inj heq
  exact hn

/-- So it does not matter what is read for other names. -/
theorem andThen_method_congr {names : List String} (h : ∀ n ∈ names, arm n = arm' n) :
    (method f names).andThen arm = (method f names).andThen arm' := by
  rw [andThen, andThen, orElse, orElse]
  cases hname : (method f names).value with
  | none => rfl
  | some n =>
      rw [Option.elim_some, Option.elim_some, h n (mem_of_method f hname)]

end Methods

section Cases

variable (other : Otherwise) (f : Fields)

/-- An unknown method never gets as far as its fields, so the method that would stand in for it
does not matter. -/
theorem settled_openingStop : (openingStop other f).settled = OpeningRange.Stop.ofFields f := by
  rw [openingStop, OpeningRange.Stop.ofFields]
  refine settled_method f rfl ?_
  simp only [List.forall_mem_cons]
  refine ⟨?_, rfl, settled_fixedMethod f _, settled_valueMethod f _, nofun⟩
  rw [settled_map, settled_required]

theorem settled_openingTarget :
    (openingTarget other f).settled = OpeningRange.Target.ofFields f := by
  rw [openingTarget, OpeningRange.Target.ofFields]
  refine settled_method f rfl ?_
  simp only [List.forall_mem_cons]
  exact ⟨settled_valueMethod f _, settled_valueMethod f _, settled_fixedMethod f _, nofun⟩

theorem settled_pullbackStop : (pullbackStop other f).settled = Pullback.Stop.ofFields f := by
  rw [pullbackStop, Pullback.Stop.ofFields]
  refine settled_method f rfl ?_
  simp only [List.forall_mem_cons]
  exact ⟨settled_bufferMethod f _, settled_valueMethod f _, settled_fixedMethod f _, nofun⟩

theorem settled_pullbackTarget : (pullbackTarget f).settled = Pullback.Target.ofFields f := by
  rw [pullbackTarget, Pullback.Target.ofFields]
  refine settled_method f rfl ?_
  simp only [List.forall_mem_cons]
  exact ⟨settled_valueMethod f _, nofun⟩

theorem settled_breakoutStop : (breakoutStop other f).settled = Breakout.Stop.ofFields f := by
  rw [breakoutStop, Breakout.Stop.ofFields]
  refine settled_method f rfl ?_
  simp only [List.forall_mem_cons]
  exact ⟨settled_bufferMethod f _, settled_valueMethod f _, settled_fixedMethod f _, nofun⟩

/-- Here the value is read first, and then the name tells what it is. -/
theorem settled_breakoutTarget :
    (breakoutTarget other f).settled = Breakout.Target.ofFields f := by
  have hvalue (make : Float → Breakout.Target) :
      ((positive f).andThen fun value => ok (make value)).settled = f.positive.map make := by
    rw [positive, required, settled_andThen, Fields.positive]
    cases f.required "value" (.numberThat .positive) <;> rfl
  rw [breakoutTarget, Breakout.Target.ofFields]
  refine settled_method f rfl ?_
  simp only [List.forall_mem_cons]
  exact ⟨hvalue _, hvalue _, nofun⟩

/-! ## patterns -/

theorem settled_openingRules :
    (openingRules other f).settled = OpeningRange.Rules.ofFields f := by
  simp only [openingRules, settled_map, settled_both, settled_required, settled_ticks,
    settled_object f (settled_openingStop other), settled_object f (settled_openingTarget other),
    OpeningRange.Rules.ofFields]

/-- The ends of a band are compared if both are there, as without a record. -/
theorem settled_band : (band f).settled = Pullback.RsiBand.ofFields f := by
  simp only [band, required, both_ofChecked, settled_andThen, settled_ofChecked,
    Pullback.RsiBand.ofFields]

theorem settled_pullbackRules :
    (pullbackRules other f).settled = Pullback.Rules.ofFields f := by
  have hfilter (o : Checked Fields) : (o.bind fun f => (Pullback.RsiBand.ofFields f).map some) =
      (o.bind Pullback.RsiBand.ofFields).map some := by
    cases o <;> rfl
  simp only [pullbackRules, settled_map, settled_both, settled_required, settled_choice,
    settled_ticks, settled_optional f Reader.explains_object, settled_band, hfilter,
    settled_object f (settled_pullbackStop other), settled_pullbackTarget,
    Pullback.Rules.ofFields]

theorem settled_breakoutRules :
    (breakoutRules other f).settled = Breakout.Rules.ofFields f := by
  simp only [breakoutRules, settled_map, settled_both, settled_ofChecked, settled_choice,
    settled_object f (settled_breakoutStop other), settled_object f (settled_breakoutTarget other),
    Breakout.Rules.ofFields]

theorem settled_entryRules (pattern : Pattern) :
    (entryRules other pattern f).settled = EntryRules.ofFields pattern f := by
  cases pattern with
  | openingRange => rw [entryRules, settled_map, settled_openingRules, EntryRules.ofFields]
  | pullback => rw [entryRules, settled_map, settled_pullbackRules, EntryRules.ofFields]
  | breakout => rw [entryRules, settled_map, settled_breakoutRules, EntryRules.ofFields]

/-! ## sections -/

theorem settled_risk : (risk f).settled = Risk.ofFields f := by
  simp only [risk, settled_map, settled_both, settled_required, Risk.ofFields]

/-- The ends of a session are compared if both are there. -/
theorem settled_custom : (custom f).settled = SessionKind.customOfFields f := by
  simp only [custom, required, both_ofChecked, settled_andThen, settled_ofChecked,
    SessionKind.customOfFields]

theorem settled_session : (session f).settled = Session.ofFields f := by
  let settle (read : Fields → Recorded SessionKind) : Fields → Checked SessionKind :=
    fun f => (read f).settled
  have hreaders : SessionKind.readers = kinds.map fun p => (p.1, settle p.2) := by
    simp only [SessionKind.readers, ← funext settled_custom]
    rfl
  have hkind (name : Checked (Fields → Recorded SessionKind))
      (name' : Checked (Fields → Checked SessionKind)) (zone : Checked ZoneName)
      (hname : name' = name.map settle) {make : _ × ZoneName × SessionKind → Session}
      {make' : _ × ZoneName × SessionKind → Session}
      (hmake : ∀ read zone kind, make' (settle read, zone, kind) = make (read, zone, kind)) :
      (name.both (zone.both (name.whenOk fun read => (read f).settled))).map make =
        (name'.both (zone.both (name'.whenOk fun read => read f))).map make' := by
    subst hname
    cases name with
    | ok read =>
        change (Checked.both (.ok read) (zone.both (read f).settled)).map make =
          (Checked.both (.ok (settle read)) (zone.both (read f).settled)).map make'
        cases zone.both (read f).settled with
        | ok p => exact congrArg Except.ok (hmake read p.1 p.2).symm
        | error ps => rfl
    | error ps => cases zone <;> rfl
  simp only [session, settled_map, settled_both, required, settled_whenThere, settled_ofChecked,
    settled_optional f Reader.explains_string, Session.ofFields]
  refine hkind _ _ _ ?_ fun _ _ _ => rfl
  rw [hreaders]
  exact f.required_choice_map "session" settle kinds

/-! ## documents -/

/-- The entry is read where there is a pattern, with a record and without one. -/
theorem settled_sections : (sections other f).settled = Strategy.ofFields f := by
  have hinstrument :
      ((object f "instrument").andThen fun f => required f "symbol" Symbol.reader).settled =
        f.requiredObject "instrument" fun f => f.required "symbol" Symbol.reader :=
    settled_object f fun f => settled_required f _
  have hentry (p : Pattern) : ((object f "entry").andThen (entryRules other p)).settled =
      f.requiredObject "entry" (EntryRules.ofFields p) :=
    settled_object f fun f => settled_entryRules other f p
  simp only [sections, settled_map, settled_both, settled_required, hinstrument,
    settled_object f settled_risk, settled_object f settled_session, Strategy.ofFields]
  simp only [required, settled_whenThere, hentry]

/-- **Both ways to read agree**, whatever is read for methods that none of the cases is
about. -/
theorem settled_strategy (document : Json) :
    (strategy other document).settled = Strategy.ofJson document := by
  rw [strategy, settled_andThen, Strategy.ofJson, funext (settled_sections other)]

end Cases

/-! ## other methods -/

section Otherwise

variable (other : Otherwise)

/-- What stands in for an unknown method is never used: it may as well be nothing. -/
theorem openingStop_silent : openingStop other = openingStop .silent := by
  funext f
  exact andThen_method_congr f (by simp)

theorem openingTarget_silent : openingTarget other = openingTarget .silent := by
  funext f
  exact andThen_method_congr f (by simp)

theorem pullbackStop_silent : pullbackStop other = pullbackStop .silent := by
  funext f
  exact andThen_method_congr f (by simp)

theorem breakoutStop_silent : breakoutStop other = breakoutStop .silent := by
  funext f
  exact andThen_method_congr f (by simp)

theorem breakoutTarget_silent : breakoutTarget other = breakoutTarget .silent := by
  funext f
  exact andThen_method_congr f (by simp)

theorem entryRules_silent : entryRules other = entryRules .silent := by
  funext pattern f
  cases pattern with
  | openingRange =>
      simp only [entryRules, openingRules, openingStop_silent other, openingTarget_silent other]
  | pullback => simp only [entryRules, pullbackRules, pullbackStop_silent other]
  | breakout =>
      simp only [entryRules, breakoutRules, breakoutStop_silent other, breakoutTarget_silent other]

theorem strategy_silent : strategy other = strategy .silent := by
  funext document
  have hsections : sections other = sections .silent := by
    funext f
    simp only [sections, entryRules_silent other]
  rw [strategy, strategy, hsections]

end Otherwise

end Recorded

/-! ## refused documents -/

/-- **A document that is refused says why**: without a value there is a problem in the
record.  So the record settles what becomes of a document, nothing is left to be reported
in place of an empty record, and no case is ever about another method. -/
theorem Strategy.refused_says_why (document : Json) (other : Recorded.Otherwise)
    (unexplained : Problem) :
    ((Recorded.strategy other document).value.isSome ∨
        (Recorded.strategy other document).problems ≠ []) ∧
      (Recorded.strategy other document).finish unexplained = Strategy.ofJson document ∧
      Strategy.ofJson document ≠ .error [] ∧
      Recorded.strategy other document = Recorded.strategy .silent document := by
  have hsettled := Recorded.settled_strategy other document
  have hexplained := Strategy.explained_ofJson document
  rw [← hsettled] at hexplained
  refine ⟨Recorded.value_or_problems hexplained, ?_, ?_, ?_⟩
  · rw [Recorded.finish_eq_settled hexplained, hsettled]
  · exact Strategy.explained_ofJson document
  · rw [Recorded.strategy_silent other]

end Playbook
