import Playbook.Market.Reader
import Playbook.Proofs.Json.Valued

/-!
# Playbook.Proofs.Market.Single

Texts of contexts that write no field twice.

A text may repeat the name of a field, where a value has one member of each name.  What
is selected from a text is only what is written once (`single_of_select`), so a text that
repeats a field that is read is no context.
-/

namespace Playbook

open Json (Tree ofTree? ofItems? ofMembers? put lookup_cons_eq_ite lookup_put)
open Json.Literal (text? number?)

namespace Shape

/-! ## fields that are written once -/

/-- Moving averages whose names are written without escapes, where only a number may be
replaced by a later member of its name. -/
structure PlainAverages (members : List (List Char × Tree)) : Prop where
  plain : ∀ m ∈ members, '\\' ∉ m.1
  numbers : members.Pairwise fun m m' => m.1 = m'.1 → ∃ literal, m.2 = .number literal

mutual

/-- No field of a record is written twice, in all parts of a tree that are read. -/
def Single (shape : Shape) : Tree → Prop
  | .object members =>
    match shape with
    | .record fields => SingleMembers fields members
    | .averages => PlainAverages members
    | _ => True
  | .array items =>
    match shape with
    | .record fields => SingleFields fields items
    | .list item => SingleItems item items
    | _ => True
  | _ => True

/-- No field is among the members of an object twice, or written twice inside one. -/
def SingleMembers (fields : List (String × Shape)) : List (List Char × Tree) → Prop
  | [] => True
  | (name, t) :: rest =>
    (∀ n shape, text? name = some n → fields.lookup n = some shape →
      Single shape t ∧ ∀ m ∈ rest, text? m.1 ≠ some n) ∧
    SingleMembers fields rest

/-- No field is written twice inside the fields of a record that is written as an array. -/
def SingleFields (fields : List (String × Shape)) : List Tree → Prop
  | [] => True
  | t :: rest =>
    match fields with
    | [] => True
    | (_, shape) :: fields => Single shape t ∧ SingleFields fields rest

/-- No field is written twice inside the items of a list. -/
def SingleItems (item : Shape) : List Tree → Prop
  | [] => True
  | t :: rest => Single item t ∧ SingleItems item rest

end

/-! ## what is selected from is single -/

section Inversion

variable {fields : List (String × Shape)} {done sel : List (String × Json)}
  {name : List Char} {t : Tree} {rest : List (List Char × Tree)}

/-- What selecting a member does. -/
theorem selectMembers_cons (h : selectMembers fields done ((name, t) :: rest) = some sel) :
    ∃ n, text? name = some n ∧
      ((fields.lookup n = none ∧ selectMembers fields done rest = some sel) ∨
        ∃ shape v, fields.lookup n = some shape ∧ done.lookup n = none ∧
          select shape t = some v ∧ selectMembers fields (done ++ [(n, v)]) rest = some sel) := by
  rw [selectMembers] at h
  split at h
  · contradiction
  · next n hn =>
    refine ⟨n, hn, ?_⟩
    split at h
    · next hfield => exact .inl ⟨hfield, h⟩
    · next shape hfield =>
      split at h
      · contradiction
      · next hdone =>
        split at h
        · next v hv =>
          exact .inr ⟨shape, v, hfield, Option.not_isSome_iff_eq_none.mp hdone, hv, h⟩
        · contradiction

/-- What selecting an average does. -/
theorem selectAverages_cons (h : selectAverages done ((name, t) :: rest) = some sel) :
    ∃ literal v, t = .number literal ∧ number? literal = some v ∧
      (Indicators.period? name).isSome ∧
      selectAverages (put done (String.ofList name) v) rest = some sel := by
  cases t with
  | number literal =>
      rw [selectAverages] at h
      split at h
      · next p v hp hv => exact ⟨literal, v, rfl, hv, by rw [hp]; rfl, h⟩
      · contradiction
  | _ => contradiction

/-- A field that was selected does not occur again. -/
theorem text?_ne_of_selectMembers {n : String} {shape : Shape} (hn : fields.lookup n = some shape)
    (hdone : (done.lookup n).isSome) (h : selectMembers fields done rest = some sel) :
    ∀ m ∈ rest, text? m.1 ≠ some n := by
  induction rest generalizing done with
  | nil => exact nofun
  | cons m rest ih =>
      obtain ⟨k, hk, ⟨hfield, h⟩ | ⟨_, v, hfield, hnew, -, h⟩⟩ := selectMembers_cons h
      · refine List.forall_mem_cons.mpr ⟨fun hm => ?_, ih hdone h⟩
        rw [hk, Option.some.injEq] at hm
        rw [hm, hn] at hfield
        contradiction
      · refine List.forall_mem_cons.mpr ⟨fun hm => ?_, ih ?_ h⟩
        · rw [hk, Option.some.injEq] at hm
          rw [hm] at hnew
          rw [hnew] at hdone
          contradiction
        · rw [List.lookup_append, Option.isSome_or, hdone]
          rfl

end Inversion

/-- The digits of a period need no escapes. -/
theorem plain_of_period? {name : List Char} (h : (Indicators.period? name).isSome) :
    '\\' ∉ name := by
  obtain ⟨n, hn⟩ := Option.isSome_iff_exists.mp h
  obtain ⟨hnumeral, -⟩ := Option.filter_eq_some_iff.mp hn
  unfold Text.plainNumeral at hnumeral
  split at hnumeral
  · decide
  · contradiction
  · contradiction
  · split at hnumeral
    · next hdigits => exact fun hmem => absurd (List.all_eq_true.mp hdigits _ hmem) (by decide)
    · contradiction

/-- Averages that are selected have plain names, and repeat one only where its average was a
number. -/
theorem plainAverages_of_select {members : List (List Char × Tree)}
    {done sel : List (String × Json)} (h : selectAverages done members = some sel) :
    PlainAverages members := by
  induction members generalizing done with
  | nil => exact ⟨nofun, .nil⟩
  | cons m members ih =>
      obtain ⟨literal, v, hnumber, -, hperiod, h⟩ := selectAverages_cons h
      exact ⟨List.forall_mem_cons.mpr ⟨plain_of_period? hperiod, (ih h).plain⟩,
        (ih h).numbers.cons fun _ _ _ => ⟨literal, hnumber⟩⟩

mutual

/-- **A part of a text that is read repeats no field.** -/
theorem single_of_select (shape : Shape) (t : Tree) {w : Json} (h : select shape t = some w) :
    Single shape t := by
  cases t with
  | object members =>
      cases shape with
      | record fields =>
          rw [select] at h
          obtain ⟨sel, hsel, -⟩ := Option.map_eq_some_iff.mp h
          exact singleMembers_of_select fields members hsel
      | averages =>
          rw [select] at h
          obtain ⟨sel, hsel, -⟩ := Option.map_eq_some_iff.mp h
          exact plainAverages_of_select hsel
      | _ => trivial
  | array items =>
      cases shape with
      | record fields =>
          rw [select] at h
          obtain ⟨sel, hsel, -⟩ := Option.map_eq_some_iff.mp h
          exact singleFields_of_select fields items hsel
      | list item =>
          rw [select] at h
          obtain ⟨sel, hsel, -⟩ := Option.map_eq_some_iff.mp h
          exact singleItems_of_select item items hsel
      | _ => trivial
  | _ => trivial

/-- Members that are selected do not repeat a field. -/
theorem singleMembers_of_select (fields : List (String × Shape))
    (members : List (List Char × Tree)) {done sel : List (String × Json)}
    (h : selectMembers fields done members = some sel) : SingleMembers fields members := by
  match members with
  | [] => trivial
  | (name, t) :: rest =>
      obtain ⟨k, hk, ⟨hfield, h⟩ | ⟨shape, v, hfield, hnew, hv, h⟩⟩ := selectMembers_cons h
      · refine ⟨fun n shape' hn hfield' => ?_, singleMembers_of_select fields rest h⟩
        rw [hk, Option.some.injEq] at hn
        rw [hn, hfield'] at hfield
        contradiction
      · refine ⟨fun n shape' hn hfield' => ?_, singleMembers_of_select fields rest h⟩
        rw [hk, Option.some.injEq] at hn
        subst hn
        obtain rfl := Option.some.inj (hfield.symm.trans hfield')
        refine ⟨single_of_select shape t hv, text?_ne_of_selectMembers hfield ?_ h⟩
        rw [List.lookup_append, hnew]
        simp

/-- Items of an array have no names to repeat, but there may be repetitions inside them. -/
theorem singleFields_of_select (fields : List (String × Shape)) (items : List Tree)
    {ws : List Json} (h : selectFields fields items = some ws) : SingleFields fields items := by
  match items, fields with
  | [], _ => trivial
  | _ :: _, [] => trivial
  | t :: rest, (_, shape) :: fields =>
      rw [selectFields] at h
      split at h
      · next v vs hv hvs =>
        exact ⟨single_of_select shape t hv, singleFields_of_select fields rest hvs⟩
      · contradiction

theorem singleItems_of_select (item : Shape) (items : List Tree) {ws : List Json}
    (h : selectItems item items = some ws) : SingleItems item items := by
  match items with
  | [] => trivial
  | t :: rest =>
      rw [selectItems] at h
      split at h
      · next v vs hv hvs =>
        exact ⟨single_of_select item t hv, singleItems_of_select item rest hvs⟩
      · contradiction

end

end Shape

end Playbook
