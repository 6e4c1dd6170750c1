import Playbook.Proofs.Strategy.Checked
import Playbook.Strategy.Reader

/-!
# Playbook.Proofs.Strategy.Explained

Whatever is refused is explained: where a reader gives no value, it gives a problem.

Most ways to put readers together keep this law.  The exception is `whenOk`, which
leaves out what depends on a missing value and says nothing; but then that value stands
beside it in a `both`, with its problems (`Checked.explained_both`).
-/

namespace Playbook

variable {α β : Type}

/-! ## checked values -/

namespace Checked

/-- There is a value, or at least one problem. -/
def Explained (a : Checked α) : Prop := a ≠ .error []

/-- Without problems there is a value: the form in which the law is used. -/
theorem Explained.exists_ok {a : Checked α} (h : a.Explained) (hnone : a.problems = []) :
    ∃ x, a = .ok x := by
  cases a with
  | ok x => exact ⟨x, rfl⟩
  | error ps =>
      rw [problems] at hnone
      rw [hnone] at h
      exact absurd rfl h

theorem explained_ok (x : α) : Explained (.ok x) := nofun

/-- A list of problems that begins with one is not empty. -/
theorem explained_error (p : Problem) (ps : List Problem) :
    Explained (.error (p :: ps) : Checked α) := nofun

/-- What is done with a value takes no problem away. -/
theorem explained_map {a : Checked α} (h : a.Explained) (f : α → β) :
    Explained (a.map f : Checked β) := by
  cases a with
  | ok x => exact explained_ok (f x)
  | error ps =>
      intro heq
      exact h (congrArg _ (Except.error.inj heq))

/-- A step is explained if what it goes on from is, and if it explains itself. -/
theorem explained_bind {a : Checked α} (h : a.Explained) {f : α → Checked β}
    (hf : ∀ x, a = .ok x → (f x).Explained) : Explained (a.bind f : Checked β) := by
  cases a with
  | ok x => exact hf x rfl
  | error ps =>
      intro heq
      exact h (congrArg _ (Except.error.inj heq))

/-- What stands beside a missing value need not be explained. -/
theorem explained_both {a : Checked α} {b : Checked β} (ha : a.Explained)
    (hb : ∀ x, a = .ok x → b.Explained) : (a.both b).Explained := by
  cases a with
  | ok x =>
      cases b with
      | ok y => exact explained_ok (x, y)
      | error ps =>
          intro heq
          exact hb x rfl (congrArg _ (Except.error.inj heq))
  | error ps =>
      intro heq
      have hnil : ps ++ b.problems = [] := Except.error.inj heq
      exact ha (congrArg _ (List.append_eq_nil_iff.mp hnil).1)

/-- What depends on a value that is there has to explain itself. -/
theorem explained_whenOk {a : Checked α} (ha : ∃ x, a = .ok x) {f : α → Checked β}
    (hf : ∀ x, a = .ok x → (f x).Explained) : (a.whenOk f).Explained := by
  obtain ⟨x, rfl⟩ := ha
  exact hf x rfl

theorem explained_demand (ok : Bool) (path : Path) (cause : Cause) (x : α) :
    (demand ok path cause x).Explained := by
  unfold demand
  split
  · exact explained_ok x
  · exact explained_error _ _

theorem explained_ofOption (x : Option α) (path : Path) (cause : Cause) :
    (ofOption x path cause).Explained := by
  cases x with
  | some x => exact explained_ok x
  | none => exact explained_error _ _

end Checked

open Checked

/-! ## values -/

namespace Reader

/-- A reader explains what it refuses. -/
def Explains (read : Reader α) : Prop := ∀ path v, (read path v).Explained

/-- Anything but an object has the wrong kind, and that is said. -/
theorem explains_object : Explains object := by
  intro path v
  cases v with
  | object members => exact explained_ok _
  | _ => exact explained_error _ _

theorem explains_string : Explains string := by
  intro path v
  cases v with
  | string s => exact explained_ok s
  | _ => exact explained_error _ _

/-- Anything but a number has the wrong kind, and so has a number that is not finite. -/
theorem explains_number : Explains number := by
  intro path v
  rw [number]
  split
  · exact explained_ok _
  · exact explained_error _ _

theorem explains_numberThat (rule : NumberRule) : Explains (numberThat rule) :=
  fun path v => explained_bind (explains_number path v) fun x _ => explained_demand _ path _ x

theorem explains_whole (range : WholeRange) : Explains (whole range) :=
  fun path v => explained_bind (explains_number path v) fun _ _ => explained_ofOption _ path _

theorem explains_choice (named : List (String × α)) : Explains (choice named) :=
  fun path v => explained_bind (explains_string path v) fun _ _ => explained_ofOption _ path _

end Reader

/-! ## fields -/

/-- A reader of an object explains what it refuses. -/
def ExplainsFields (read : Fields → Checked α) : Prop := ∀ f, (read f).Explained

/-- A reader of objects explains itself if it explains what it finds inside. -/
theorem explains_inside {read : Fields → Checked α} (h : ExplainsFields read) :
    (Reader.inside read).Explains :=
  fun path v => explained_bind (Reader.explains_object path v) fun f _ => h f

namespace Fields

variable (f : Fields) (name : String)

/-- A field that is missing is a problem, and one that is there is explained by its reader. -/
theorem explained_required {read : Reader α} (h : read.Explains) :
    (f.required name read).Explained := by
  rw [required]
  split
  · exact h _ _
  · exact explained_error _ _

/-- A field that may be absent has its own value then. -/
theorem explained_optional {read : Reader α} (h : read.Explains) (absent : α) :
    (f.optional name absent read).Explained := by
  rw [optional]
  split
  · exact h _ _
  · exact explained_ok absent

theorem explained_requiredObject {read : Fields → Checked α} (h : ExplainsFields read) :
    (f.requiredObject name read).Explained :=
  explained_bind (f.explained_required name Reader.explains_object) fun f _ => h f

/-- What is found by a text. -/
theorem exists_of_text {look : String → Option α} {cause : String → Cause} {x : α}
    (h : f.required name (fun path v => (Reader.string path v).bind fun s =>
      ofOption (look s) path (cause s)) = .ok x) :
    ∃ s, f.value? name = some (.string s) ∧ look s = some x := by
  rw [required] at h
  split at h
  · next v hv =>
    obtain ⟨s, hs, hlook⟩ := bind_eq_ok.mp h
    obtain rfl := string_eq_ok.mp hs
    exact ⟨s, hv, ofOption_eq_ok.mp hlook⟩
  · contradiction

/-- A text that is chosen stands among the choices. -/
theorem mem_of_choice {named : List (String × α)} {x : α}
    (h : f.required name (Reader.choice named) = .ok x) : ∃ s, (s, x) ∈ named := by
  obtain ⟨s, -, hlookup⟩ := f.exists_of_text name h
  obtain ⟨before, after, rfl, -⟩ := List.lookup_eq_some_iff.mp hlookup
  exact ⟨s, List.mem_append_right before List.mem_cons_self⟩

/-- Without a method its fields are not read, but then the method itself is a problem. -/
theorem explained_method {methods : List (String × (Fields → Checked α))}
    (h : ∀ m ∈ methods, ExplainsFields m.2) : (f.method methods).Explained := by
  refine explained_bind (f.explained_required "method" (Reader.explains_choice methods)) ?_
  intro read hread
  obtain ⟨s, hmem⟩ := f.mem_of_choice "method" hread
  exact h (s, read) hmem f

theorem explained_ticks (absent : Float) : (f.ticks name absent).Explained :=
  f.explained_optional name (Reader.explains_numberThat .notNegative) absent

theorem explained_positive : f.positive.Explained :=
  f.explained_required "value" (Reader.explains_numberThat .positive)

end Fields

/-- A distance explains its value and its unit. -/
theorem explains_distance : ExplainsFields Distance.ofFields := fun f =>
  explained_map (explained_both f.explained_positive fun _ _ =>
    f.explained_optional "unit" (Reader.explains_choice _) _) _

/-- The three shapes of methods, each for whatever is made of its number. -/
theorem explains_valueMethod (make : Float → α) :
    ExplainsFields fun f => f.positive.map make :=
  fun f => explained_map f.explained_positive make

theorem explains_fixedMethod (make : Distance → α) :
    ExplainsFields fun f => (Distance.ofFields f).map make :=
  fun f => explained_map (explains_distance f) make

theorem explains_bufferMethod (make : Float → α) :
    ExplainsFields fun f => (f.ticks "bufferTicks" Default.stopBufferTicks).map make :=
  fun f => explained_map (f.explained_ticks _ _) make

/-! ## patterns -/

/-- Every method of a stop has one of these shapes, or no field at all. -/
theorem explains_openingStop : ExplainsFields OpeningRange.Stop.ofFields := by
  intro f
  refine f.explained_method ?_
  simp only [List.forall_mem_cons]
  refine ⟨fun f => ?_, fun f => explained_ok _, explains_fixedMethod _, explains_valueMethod _,
    nofun⟩
  exact explained_map (f.explained_required "value" (Reader.explains_numberThat _)) _

theorem explains_openingTarget : ExplainsFields OpeningRange.Target.ofFields := by
  intro f
  refine f.explained_method ?_
  simp only [List.forall_mem_cons]
  exact ⟨explains_valueMethod _, explains_valueMethod _, explains_fixedMethod _, nofun⟩

theorem explains_openingRules : ExplainsFields OpeningRange.Rules.ofFields := by
  intro f
  refine explained_map (explained_both ?_ fun _ _ => explained_both ?_ fun _ _ =>
    explained_both ?_ fun _ _ => ?_) _
  · exact f.explained_required _ (Reader.explains_whole _)
  · exact f.explained_ticks _ _
  · exact f.explained_requiredObject _ explains_openingStop
  · exact f.explained_requiredObject _ explains_openingTarget

/-- The ends of a band are compared only if both are there, so both explain themselves first. -/
theorem explains_band : ExplainsFields Pullback.RsiBand.ofFields := by
  intro f
  refine explained_bind (explained_both ?_ fun _ _ => ?_) fun _ _ => explained_demand _ _ _ _
  · exact f.explained_required _ (Reader.explains_numberThat _)
  · exact f.explained_required _ (Reader.explains_numberThat _)

theorem explains_pullbackStop : ExplainsFields Pullback.Stop.ofFields := by
  intro f
  refine f.explained_method ?_
  simp only [List.forall_mem_cons]
  exact ⟨explains_bufferMethod _, explains_valueMethod _, explains_fixedMethod _, nofun⟩

theorem explains_pullbackTarget : ExplainsFields Pullback.Target.ofFields := by
  intro f
  refine f.explained_method ?_
  simp only [List.forall_mem_cons]
  exact ⟨explains_valueMethod _, nofun⟩

theorem explains_pullbackRules : ExplainsFields Pullback.Rules.ofFields := by
  intro f
  refine explained_map (explained_both ?_ fun _ _ => explained_both ?_ fun _ _ =>
    explained_both ?_ fun _ _ => explained_both ?_ fun _ _ => explained_both ?_ fun _ _ => ?_) _
  · exact f.explained_required _ (Reader.explains_whole _)
  · exact f.explained_optional _ (Reader.explains_choice _) _
  · exact f.explained_ticks _ _
  · exact f.explained_optional _
      (fun path v => explained_map (explains_inside explains_band path v) _) _
  · exact f.explained_requiredObject _ explains_pullbackStop
  · exact f.explained_optional _ (explains_inside explains_pullbackTarget) _

theorem explains_breakoutStop : ExplainsFields Breakout.Stop.ofFields := by
  intro f
  refine f.explained_method ?_
  simp only [List.forall_mem_cons]
  exact ⟨explains_bufferMethod _, explains_valueMethod _, explains_fixedMethod _, nofun⟩

theorem explains_breakoutTarget : ExplainsFields Breakout.Target.ofFields := by
  intro f
  refine f.explained_method ?_
  simp only [List.forall_mem_cons]
  exact ⟨explains_valueMethod _, explains_valueMethod _, nofun⟩

theorem explains_breakoutRules : ExplainsFields Breakout.Rules.ofFields := by
  intro f
  refine explained_map (explained_both ?_ fun _ _ => explained_both ?_ fun _ _ =>
    explained_both ?_ fun _ _ => ?_) _
  · exact f.explained_optional _ (Reader.explains_whole _) _
  · exact f.explained_optional _ (Reader.explains_choice _) _
  · exact f.explained_requiredObject _ explains_breakoutStop
  · exact f.explained_requiredObject _ explains_breakoutTarget

/-! ## sections -/

/-- An unknown name of a pattern is a problem. -/
theorem explains_pattern : Pattern.reader.Explains :=
  fun path v =>
    explained_bind (Reader.explains_string path v) fun _ _ => explained_ofOption _ path _

theorem explains_symbol : Symbol.reader.Explains := by
  intro path v
  refine explained_bind (Reader.explains_string path v) fun s _ => ?_
  split
  · exact explained_error _ _
  · exact explained_ofOption _ path _

theorem explains_instrument : ExplainsFields fun f => f.required "symbol" Symbol.reader :=
  fun f => f.explained_required "symbol" explains_symbol

/-- The entry explains itself by the rules of its pattern. -/
theorem explains_entry (pattern : Pattern) : ExplainsFields (EntryRules.ofFields pattern) := by
  intro f
  cases pattern with
  | openingRange => exact explained_map (explains_openingRules f) _
  | pullback => exact explained_map (explains_pullbackRules f) _
  | breakout => exact explained_map (explains_breakoutRules f) _

theorem explains_risk : ExplainsFields Risk.ofFields := by
  intro f
  refine explained_map (explained_both ?_ fun _ _ => ?_) _
  · exact f.explained_required _ (Reader.explains_numberThat _)
  · exact f.explained_required _ (Reader.explains_whole _)

/-- A text that describes no zone is a problem. -/
theorem explains_zone : ZoneName.reader.Explains :=
  fun path v =>
    explained_bind (Reader.explains_string path v) fun _ _ => explained_ofOption _ path _

theorem explains_clock : Reader.Explains clockReader :=
  fun path v =>
    explained_bind (Reader.explains_string path v) fun _ _ => explained_ofOption _ path _

/-- Ends that are the same are a problem of the session. -/
theorem explains_custom : ExplainsFields SessionKind.customOfFields := by
  intro f
  refine explained_bind (explained_both ?_ fun _ _ => ?_) fun _ _ => explained_demand _ _ _ _
  · exact f.explained_required _ explains_clock
  · exact f.explained_required _ explains_clock

/-- A session without a name leaves its ends unread, and its name explains that. -/
theorem explains_session : ExplainsFields Session.ofFields := by
  intro f
  -- without a name nothing is read for it, and the name has the problem
  refine explained_map (explained_both ?_ fun read hread => explained_both ?_ fun _ _ => ?_) _
  · exact f.explained_required _ (Reader.explains_choice _)
  · exact f.explained_optional _ explains_zone _
  · refine explained_whenOk ⟨read, hread⟩ fun read hread => ?_
    obtain ⟨s, hmem⟩ := f.mem_of_choice "session" hread
    simp only [SessionKind.readers, List.mem_cons, List.not_mem_nil, or_false,
      Prod.mk.injEq] at hmem
    obtain ⟨-, rfl⟩ | ⟨-, rfl⟩ | ⟨-, rfl⟩ | ⟨-, rfl⟩ := hmem
    · exact explained_ok _
    · exact explained_ok _
    · exact explained_ok _
    · exact explains_custom f

/-! ## documents -/

/-- Without a pattern the entry is not read, and the pattern explains that. -/
theorem explains_strategy : ExplainsFields Strategy.ofFields := by
  intro f
  refine explained_map (explained_both ?_ fun pattern hpattern => explained_both ?_ fun _ _ =>
    explained_both ?_ fun _ _ => explained_both ?_ fun _ _ => explained_both ?_ fun _ _ => ?_) _
  · exact f.explained_required _ explains_pattern
  · exact f.explained_requiredObject _ explains_instrument
  · exact f.explained_required _ (Reader.explains_choice _)
  · exact explained_whenOk ⟨pattern, hpattern⟩ fun p _ =>
      f.explained_requiredObject _ (explains_entry p)
  · exact f.explained_requiredObject _ explains_risk
  · exact f.explained_requiredObject _ explains_session

/-- **A document that is refused says why.** -/
theorem Strategy.explained_ofJson (document : Json) : (Strategy.ofJson document).Explained :=
  explains_inside explains_strategy [] document

end Playbook
