import Playbook.Proofs.Json.Ordered
import Playbook.Proofs.Strategy.Schema
import Playbook.Strategy.Checked

/-!
# Playbook.Proofs.Strategy.Checked

The laws of readers against relations of the schema.

`Reads read means` says that a reader of values gives `x` for `v` exactly if
`means v x`, and `ReadsFields` says the same of a reader of objects.  Every way
to put readers together keeps these laws.
-/

namespace Playbook

open Number Time Schema

variable {α β : Type}

/-! ## checked values -/

namespace Checked

/-- A pair is right if both parts are; otherwise the problems of both are kept. -/
theorem both_eq_ok {a : Checked α} {b : Checked β} {x : α × β} :
    a.both b = .ok x ↔ a = .ok x.1 ∧ b = .ok x.2 := by
  obtain ⟨x, y⟩ := x
  cases a with
  | error ps => simp only [both, reduceCtorEq, false_and]
  | ok a =>
      cases b with
      | error ps => simp only [both, reduceCtorEq, and_false]
      | ok b => simp only [both, Except.ok.injEq, Prod.mk.injEq]

/-- A result is what is made of a right value. -/
theorem map_eq_ok {a : Checked α} {f : α → β} {y : β} :
    a.map f = .ok y ↔ ∃ x, a = .ok x ∧ f x = y := by
  cases a with
  | error ps => simp only [Except.map, reduceCtorEq, false_and, exists_false]
  | ok a => simp only [Except.map, Except.ok.injEq, exists_eq_left']

theorem bind_eq_ok {a : Checked α} {f : α → Checked β} {y : β} :
    a.bind f = .ok y ↔ ∃ x, a = .ok x ∧ f x = .ok y := by
  cases a with
  | error ps => simp only [Except.bind, reduceCtorEq, false_and, exists_false]
  | ok a => simp only [Except.bind, Except.ok.injEq, exists_eq_left']

/-- A result that another one depends on is right with it; only the problems differ from
`bind`. -/
theorem whenOk_eq_ok {a : Checked α} {f : α → Checked β} {y : β} :
    a.whenOk f = .ok y ↔ ∃ x, a = .ok x ∧ f x = .ok y := by
  cases a with
  | error ps => simp only [whenOk, reduceCtorEq, false_and, exists_false]
  | ok a => simp only [whenOk, Except.ok.injEq, exists_eq_left']

/-- A demand that is met leaves the value as it is. -/
theorem demand_eq_ok {ok : Bool} {path : Path} {cause : Cause} {x y : α} :
    demand ok path cause x = .ok y ↔ ok = true ∧ x = y := by
  unfold demand
  split <;> simp_all

theorem ofOption_eq_ok {o : Option α} {path : Path} {cause : Cause} {x : α} :
    ofOption o path cause = .ok x ↔ o = some x := by
  cases o with
  | none => simp only [ofOption, reduceCtorEq]
  | some a => simp only [ofOption, Except.ok.injEq, Option.some.injEq]

/-- Without its problems a result can be compared, and so computed. -/
theorem toOption_eq_some {a : Checked α} {x : α} : a.toOption = some x ↔ a = .ok x := by
  cases a with
  | error ps => simp only [Except.toOption, reduceCtorEq]
  | ok a => simp only [Except.toOption, Option.some.injEq, Except.ok.injEq]

end Checked

open Checked

/-! ## values -/

/-- A reader gives what the schema says about a value. -/
def Reads (read : Reader α) (means : Json → α → Prop) : Prop :=
  ∀ path v x, read path v = .ok x ↔ means v x

/-- A reader of an object gives what the schema says about its members. -/
def ReadsFields (read : Fields → Checked α) (means : Members → α → Prop) : Prop :=
  ∀ f x, read f = .ok x ↔ means f.members x

/-- Read the members of an object. -/
def Reader.inside (read : Fields → Checked α) : Reader α :=
  fun path v => (Reader.object path v).bind read

/-- A reader of members makes a reader of objects. -/
theorem reads_object {read : Fields → Checked α} {means : Members → α → Prop}
    (h : ReadsFields read means) :
    Reads (fun path v => (Reader.object path v).bind read) (IsObject means) := by
  intro path v x
  rw [bind_eq_ok]
  constructor
  · intro hok
    obtain ⟨f, hf, hx⟩ := hok
    cases v with
    | object o =>
        obtain rfl := Except.ok.inj hf
        exact ⟨o, rfl, (h _ x).mp hx⟩
    | _ => contradiction
  · intro hmeans
    obtain ⟨o, rfl, hx⟩ := hmeans
    exact ⟨⟨path, o⟩, rfl, (h _ x).mpr hx⟩

theorem string_eq_ok {path : Path} {v : Json} {s : String} :
    Reader.string path v = .ok s ↔ v = .string s := by
  cases v with
  | string t => simp only [Reader.string, Except.ok.injEq, Json.string.injEq]
  | _ => simp only [Reader.string, reduceCtorEq]

/-- A reader that looks a text up gives what the text means. -/
theorem reads_text {look : String → Option α} {cause : String → Cause}
    {means : String → α → Prop} (h : ∀ s x, look s = some x ↔ means s x) :
    Reads (fun path v => (Reader.string path v).bind fun s =>
      ofOption (look s) path (cause s)) (IsText means) := by
  intro path v x
  rw [bind_eq_ok]
  constructor
  · intro hok
    obtain ⟨s, hs, hx⟩ := hok
    exact ⟨s, string_eq_ok.mp hs, (h s x).mp (ofOption_eq_ok.mp hx)⟩
  · intro hmeans
    obtain ⟨s, rfl, hx⟩ := hmeans
    exact ⟨s, rfl, ofOption_eq_ok.mpr ((h s x).mpr hx)⟩

/-- A table of names that are all different reads exactly the names in it. -/
theorem reads_choice {named : List (String × α)} {means : String → α → Prop}
    (hnames : (named.map Prod.fst).Nodup) (h : ∀ s x, (s, x) ∈ named ↔ means s x) :
    Reads (Reader.choice named) (IsText means) :=
  reads_text fun s x => (Json.lookup_eq_some_iff_mem hnames).trans (h s x)

/-! ## numbers -/

/-- A number is read from both kinds of literals, if it is finite. -/
theorem reads_number : Reads Reader.number IsNumber := by
  intro path v x
  have hnumber : Reader.number path v = .ok x ↔ v.float? = some x ∧ x.isFinite = true := by
    rw [Reader.number, ← Option.filter_eq_some_iff]
    cases v.float?.filter Float.isFinite with
    | none => simp only [reduceCtorEq]
    | some y => simp only [Except.ok.injEq, Option.some.injEq]
  rw [hnumber]
  constructor
  · intro h
    obtain ⟨hfloat, hfinite⟩ := h
    cases v with
    | integer n =>
        obtain rfl := Option.some.inj hfloat
        exact .integer hfinite
    | real y =>
        obtain rfl := Option.some.inj hfloat
        exact .real hfinite
    | _ => contradiction
  · intro h
    cases h with
    | integer hfinite => exact ⟨rfl, hfinite⟩
    | real hfinite => exact ⟨rfl, hfinite⟩

/-- A rule that says what the bounds say reads the numbers within them. -/
theorem reads_numberThat {rule : NumberRule} {bounds : Float → Prop}
    (h : ∀ x, rule.admits x = true ↔ bounds x) :
    Reads (Reader.numberThat rule) (IsNumberThat bounds) := by
  intro path v x
  rw [Reader.numberThat, bind_eq_ok]
  constructor
  · intro hok
    obtain ⟨y, hy, hx⟩ := hok
    obtain ⟨hadmits, rfl⟩ := demand_eq_ok.mp hx
    exact ⟨(reads_number path v y).mp hy, (h y).mp hadmits⟩
  · intro hmeans
    obtain ⟨hnumber, hbounds⟩ := hmeans
    exact ⟨x, (reads_number path v x).mpr hnumber, demand_eq_ok.mpr ⟨(h x).mpr hbounds, rfl⟩⟩

/-- A number of things is a number without a fraction, between its bounds. -/
theorem reads_whole (range : WholeRange) :
    Reads (Reader.whole range) (IsWhole range.min (range.max.getD WholeRange.largest)) := by
  intro path v n
  have hcontains : range.contains n = true ↔
      range.min ≤ n ∧ n ≤ range.max.getD WholeRange.largest := by
    rw [WholeRange.contains, Bool.and_eq_true, decide_eq_true_eq, decide_eq_true_eq]
  rw [Reader.whole, bind_eq_ok]
  constructor
  · intro h
    obtain ⟨x, hx, hn⟩ := h
    obtain ⟨hnatural, hrange⟩ := Option.filter_eq_some_iff.mp (ofOption_eq_ok.mp hn)
    exact ⟨x, (reads_number path v x).mp hx, (natural?_eq_some_iff x n).mp hnatural,
      hcontains.mp hrange⟩
  · intro h
    obtain ⟨x, hx, hvalue, hrange⟩ := h
    refine ⟨x, (reads_number path v x).mpr hx, ofOption_eq_ok.mpr ?_⟩
    exact Option.filter_eq_some_iff.mpr
      ⟨(natural?_eq_some_iff x n).mpr hvalue, hcontains.mpr hrange⟩

/-! ## fields -/

namespace Fields

/-- A field is there if its name is found with a value that is not null. -/
theorem value?_eq_some_iff {f : Fields} {name : String} {v : Json} :
    f.value? name = some v ↔ Has f.members name v := by
  rw [value?, Has, Option.filter_eq_some_iff]
  cases v <;> simp [Json.kind]

/-- A field is absent if its name is not found, or found with null. -/
theorem value?_eq_none_iff {f : Fields} {name : String} :
    f.value? name = none ↔ Lacks f.members name := by
  simp only [Lacks, ← value?_eq_some_iff, Option.eq_none_iff_forall_ne_some, ne_eq]

/-- A required field is read at its own place, where it is also missed. -/
theorem required_eq_elim (f : Fields) (name : String) (read : Reader α) :
    f.required name read =
      (f.value? name).elim (.error [⟨f.place name, .missing⟩]) (read (f.place name)) := by
  rw [required]
  cases f.value? name <;> rfl

/-- An optional field has a value to take when it is absent. -/
theorem optional_eq_elim (f : Fields) (name : String) (absent : α) (read : Reader α) :
    f.optional name absent read = (f.value? name).elim (.ok absent) (read (f.place name)) := by
  rw [optional]
  cases f.value? name <;> rfl

/-- A required object is a required field whose reader looks inside. -/
theorem requiredObject_eq_required (f : Fields) (name : String) (read : Fields → Checked α) :
    f.requiredObject name read = f.required name (Reader.inside read) := by
  rw [requiredObject, required, required]
  cases f.value? name <;> rfl

/-- A required field is read if it is there and means something. -/
theorem required_eq_ok {f : Fields} {name : String} {read : Reader α} {means : Json → α → Prop}
    (h : Reads read means) {x : α} :
    f.required name read = .ok x ↔ Required f.members name means x := by
  unfold required Required
  simp only [← value?_eq_some_iff]
  cases f.value? name with
  | none => simp only [reduceCtorEq, false_and, exists_false]
  | some v => simp only [Option.some.injEq, exists_eq_left', h (f.place name) v x]

/-- An optional field is read if it means something, or is absent. -/
theorem optional_eq_ok {f : Fields} {name : String} {absent : α} {read : Reader α}
    {means : Json → α → Prop} (h : Reads read means) {x : α} :
    f.optional name absent read = .ok x ↔ Optional f.members name absent means x := by
  rw [optional, Optional, ← required_eq_ok h, ← value?_eq_none_iff, required]
  cases f.value? name with
  | none => simp only [reduceCtorEq, false_or, true_and, Except.ok.injEq, eq_comm]
  | some v => simp only [reduceCtorEq, false_and, or_false]

/-- A required object is read if its members mean something. -/
theorem requiredObject_eq_ok {f : Fields} {name : String} {read : Fields → Checked α}
    {means : Members → α → Prop} (h : ReadsFields read means) {x : α} :
    f.requiredObject name read = .ok x ↔ Required f.members name (IsObject means) x := by
  rw [requiredObject_eq_required]
  exact required_eq_ok (reads_object h)

/-- A method is read by its name. -/
theorem method_eq_ok {f : Fields} {methods : List (String × (Fields → Checked α))}
    (hnames : (methods.map Prod.fst).Nodup) {x : α} :
    f.method methods = .ok x ↔
      ∃ p ∈ methods, Method f.members p.1 ∧ p.2 f = .ok x := by
  rw [method, bind_eq_ok]
  simp only [required_eq_ok (reads_choice hnames fun _ _ => Iff.rfl)]
  constructor
  · intro h
    obtain ⟨read, ⟨v, hv, name, rfl, hmem⟩, hx⟩ := h
    exact ⟨(name, read), hmem, hv, hx⟩
  · intro h
    obtain ⟨⟨name, read⟩, hmem, hmethod, hx⟩ := h
    exact ⟨read, ⟨_, hmethod, name, rfl, hmem⟩, hx⟩

end Fields

end Playbook
