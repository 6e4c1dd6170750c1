import Playbook.Market.Reader
import Playbook.Proofs.Json.Ordered
import Playbook.Proofs.Number.Error
import Playbook.Proofs.Time.Instant

/-!
# Playbook.Proofs.Market.Record

When writing loses nothing of what was read.

`Lossless` is the law of a reader and a writer: what the reader makes of a value does not
depend on the order of members, and it is read again from the value that is written for it.
`LosslessField` is the same law for one field of a record, whether the field has to be there,
may be null, or is filled in; a record is lossless if its fields are (`lossless_record`).
-/

namespace Playbook

open Json Time

variable {α β : Type}

/-! ## values -/

/-- Reading does not depend on the order of members, and undoes writing for all that can be
read from a value. -/
structure Lossless (read : Json → Option α) (write : α → Json) : Prop where
  ordered : ∀ {v}, Printable v → read v.ordered = read v
  kept : ∀ {v x}, Printable v → read v = some x → read (write x) = some x
  printable : ∀ {v x}, Printable v → read v = some x → Printable (write x)

/-- What was read survives being written, also with the members in order. -/
theorem Lossless.survives {read : Json → Option α} {write : α → Json} (h : Lossless read write)
    {v : Json} {x : α} (hv : Printable v) (hx : read v = some x) :
    read (write x) = some x ∧ read (write x).ordered = some x :=
  ⟨h.kept hv hx, (h.ordered (h.printable hv hx)).trans (h.kept hv hx)⟩

/-- The numbers of a value are finite; integers are far below the overflow. -/
theorem isFinite_of_float? {v : Json} {x : Float} (hv : Printable v)
    (h : v.float? = some x) : x.isFinite = true := by
  cases v with
  | integer n =>
      obtain rfl := Option.some.inj h
      obtain ⟨hlow, hhigh⟩ := hv
      apply Number.isFinite_ofInt
      calc (n.natAbs : ℚ)
        _ ≤ 2 ^ (64 : ℤ) := by
            have hn : n.natAbs ≤ 2 ^ 64 := by omega
            exact_mod_cast hn
        _ < 2 ^ (1023 : ℤ) := zpow_lt_zpow_right₀ (by decide) (by decide)
        _ ≤ Number.overflow := Number.two_zpow_le_overflow
  | real y =>
      obtain rfl := Option.some.inj h
      exact hv
  | _ => contradiction

/-- A finite number is written as one and read back. -/
theorem float?_ofFloat {x : Float} (h : x.isFinite = true) : (ofFloat x).float? = some x := by
  rw [ofFloat, if_pos h]
  rfl

/-- There is nothing to put in order in a number. -/
theorem float?_ordered (v : Json) : v.ordered.float? = v.float? := by
  cases v <;> rfl

/-- Numbers that are read are finite. -/
theorem lossless_number : Lossless float? ofFloat where
  ordered {v} _ := float?_ordered v
  kept hv h := float?_ofFloat (isFinite_of_float? hv h)
  printable _ _ := printable_ofFloat _

theorem lossless_flag : Lossless flag? .bool where
  ordered {v} _ := by cases v <;> rfl
  kept _ _ := rfl
  printable _ _ := trivial

/-- An instant is written with its nanoseconds, so that nothing of it is lost. -/
theorem lossless_instant : Lossless instant? Instant.toJson where
  ordered {v} _ := by cases v <;> rfl
  kept {v t} _ h := by
    cases v with
    | string s => exact Instant.read_write (Instant.valid_of_read h)
    | _ => contradiction
  printable _ _ := trivial

/-! ## fields -/

/-- The same fields, with their members in order. -/
def SameFields (fields fields' : List (String × Json)) : Prop :=
  ∀ name, fields'.lookup name = (fields.lookup name).map ordered

/-- The value of a member can be written if all of them can. -/
theorem printable_of_lookup {fields : List (String × Json)} {name : String} {v : Json}
    (h : PrintableMembers fields) (hv : fields.lookup name = some v) : Printable v := by
  induction fields with
  | nil => contradiction
  | cons m fields ih =>
      obtain ⟨n, w⟩ := m
      rw [lookup_cons_eq_ite] at hv
      split at hv
      · obtain rfl := Option.some.inj hv
        exact h.1
      · exact ih h.2 hv

/-- A field of a record: what is read does not depend on the order of members, and it is read
again from any record that has what is written for it. -/
structure LosslessField (name : String) (read : List (String × Json) → Option α)
    (write : α → Json) : Prop where
  ordered : ∀ {f f'}, PrintableMembers f → SameFields f f' → read f' = read f
  kept : ∀ {f f' x}, PrintableMembers f → read f = some x → f'.lookup name = some (write x) →
    read f' = some x
  printable : ∀ {f x}, PrintableMembers f → read f = some x → Printable (write x)

/-- An optional field is absent, or it is read. -/
theorem optional?_eq_some {f : List (String × Json)} {name : String} {read : Json → Option α}
    {o : Option α} (h : optional? f name read = some o) :
    o = none ∨ ∃ v x, f.lookup name = some v ∧ read v = some x ∧ o = some x := by
  unfold optional? at h
  split at h
  · exact .inl (Option.some.inj h).symm
  · exact .inl (Option.some.inj h).symm
  · next v _ hv =>
    obtain ⟨x, hx, rfl⟩ := Option.map_eq_some_iff.mp h
    exact .inr ⟨v, x, hv, hx, rfl⟩

namespace Lossless

variable {read : Json → Option α} {write : α → Json} (h : Lossless read write) (name : String)

include h

/-- A field in whose absence something is read that a value gives as well, or nothing. -/
theorem field {absent : Option α}
    (habsent : ∀ x, absent = some x → ∃ v, Printable v ∧ read v = some x) :
    LosslessField name (fun f => (f.lookup name).elim absent read) write := by
  have hread {f : List (String × Json)} {x : α} (hf : PrintableMembers f)
      (hx : (f.lookup name).elim absent read = some x) : ∃ v, Printable v ∧ read v = some x := by
    cases hv : f.lookup name with
    | none => exact habsent x (by rwa [hv] at hx)
    | some v => exact ⟨v, printable_of_lookup hf hv, by rwa [hv] at hx⟩
  refine ⟨fun {f f'} hf hsame => ?_, fun hf hx hwritten => ?_, fun hf hx => ?_⟩
  · rw [hsame]
    cases hv : f.lookup name with
    | none => rfl
    | some v => exact h.ordered (printable_of_lookup hf hv)
  · obtain ⟨v, hv, hx⟩ := hread hf hx
    rw [hwritten]
    exact h.kept hv hx
  · obtain ⟨v, hv, hx⟩ := hread hf hx
    exact h.printable hv hx

/-- A field that has to be there. -/
theorem required : LosslessField name (fun f => (f.lookup name).bind read) write := by
  have hfield : (fun f : List (String × Json) => (f.lookup name).bind read) =
      fun f => (f.lookup name).elim none read := by
    funext f
    cases f.lookup name <;> rfl
  rw [hfield]
  exact h.field name nofun

/-- A field that is filled in if it is absent, with what some value gives. -/
theorem default (absent : α) (v : Json) (hv : Printable v) (habsent : read v = some absent) :
    LosslessField name (fun f => default? f name absent read) write := by
  have hfield : (fun f => default? f name absent read) =
      fun f => (f.lookup name).elim (some absent) read := by
    funext f
    rw [default?]
    cases f.lookup name <;> rfl
  rw [hfield]
  exact h.field name fun x hx => ⟨v, hv, habsent.trans hx⟩

/-- A field that may be absent or null, where null is no value. -/
theorem optional (hnull : read .null = none) :
    LosslessField name (fun f => optional? f name read) (fun o => o.elim .null write) where
  ordered {f f'} hf hsame := by
    rw [optional?, optional?, hsame]
    cases hv : f.lookup name with
    | none => rfl
    | some v =>
        have hread := h.ordered (printable_of_lookup hf hv)
        cases v <;> first | rfl | exact congrArg (Option.map some) hread
  kept {f f' o} hf ho hwritten := by
    rw [optional?, hwritten]
    obtain rfl | ⟨v, x, hv, hx, rfl⟩ := optional?_eq_some ho
    · rfl
    · have hkept := h.kept (printable_of_lookup hf hv) hx
      rw [Option.elim_some]
      split
      · contradiction
      · next heq =>
        rw [Option.some.inj heq, hnull] at hkept
        contradiction
      · next w _ heq => rw [← Option.some.inj heq, hkept, Option.map_some]
  printable hf ho := by
    obtain rfl | ⟨v, x, hv, hx, rfl⟩ := optional?_eq_some ho
    · trivial
    · exact h.printable (printable_of_lookup hf hv) hx

end Lossless

/-- The fields of a record, by their names: `LosslessField` for all of them together. -/
structure LosslessFields (names : List String) (read : List (String × Json) → Option α)
    (write : α → List (String × Json)) : Prop where
  names_eq : ∀ x, (write x).map Prod.fst = names
  ordered : ∀ {f f'}, PrintableMembers f → SameFields f f' → read f' = read f
  kept : ∀ {f f' x}, PrintableMembers f → read f = some x →
    (∀ m ∈ write x, f'.lookup m.1 = some m.2) → read f' = some x
  printable : ∀ {f x}, PrintableMembers f → read f = some x → PrintableMembers (write x)

/-- A record without fields loses nothing; each field is added in front. -/
theorem losslessFields_nil : LosslessFields [] (fun _ => some ()) fun _ => [] where
  names_eq _ := rfl
  ordered _ _ := rfl
  kept _ h _ := h
  printable _ _ := trivial

/-- One more field. -/
theorem LosslessField.cons {name : String} {names : List String}
    {read : List (String × Json) → Option α} {write : α → Json}
    {reads : List (String × Json) → Option β} {writes : β → List (String × Json)}
    (h : LosslessField name read write) (hs : LosslessFields names reads writes) :
    LosslessFields (name :: names) (fun f => (read f).bind fun x => (reads f).map (x, ·))
      (fun p => (name, write p.1) :: writes p.2) where
  names_eq p := congrArg (name :: ·) (hs.names_eq p.2)
  ordered hf hsame := by
    rw [h.ordered hf hsame, hs.ordered hf hsame]
  kept {f f' p} hf hp hwritten := by
    obtain ⟨x, hx, hp⟩ := Option.bind_eq_some_iff.mp hp
    obtain ⟨y, hy, rfl⟩ := Option.map_eq_some_iff.mp hp
    obtain ⟨hwritten, hwrittens⟩ := List.forall_mem_cons.mp hwritten
    rw [h.kept hf hx hwritten, hs.kept hf hy hwrittens]
    rfl
  printable hf hp := by
    obtain ⟨x, hx, hp⟩ := Option.bind_eq_some_iff.mp hp
    obtain ⟨y, hy, rfl⟩ := Option.map_eq_some_iff.mp hp
    exact ⟨h.printable hf hx, hs.printable hf hy⟩

/-! ## records -/

theorem orderedItems_eq_map (vs : List Json) : orderedItems vs = vs.map ordered := by
  induction vs with
  | nil => rfl
  | cons v vs ih => rw [orderedItems, ih, List.map_cons]

/-- An array for a record has a value for each name, as far as it goes. -/
theorem printableMembers_zip (names : List String) {items : List Json}
    (h : PrintableItems items) : PrintableMembers (names.zip items) := by
  induction names generalizing items with
  | nil => trivial
  | cons n names ih =>
      cases items with
      | nil => trivial
      | cons v items => exact ⟨h.1, ih h.2⟩

/-- The fields of a record are values of their own, in either form. -/
theorem printable_of_record? {names : List String} {v : Json} {f : List (String × Json)}
    (hv : Printable v) (h : v.record? names = some f) : PrintableMembers f := by
  cases v with
  | object members =>
      obtain rfl := Option.some.inj h
      exact hv.2
  | array items =>
      obtain ⟨-, h⟩ := Option.ite_none_right_eq_some.mp h
      obtain rfl := Option.some.inj h
      exact printableMembers_zip names hv
  | _ => contradiction

/-- A record has the same fields, whatever the order of members; the fields of the array form
stay in their order. -/
theorem record?_ordered (names : List String) (v : Json) :
    Option.Rel SameFields (v.record? names) (v.ordered.record? names) := by
  cases v with
  | object members => exact .some fun name => lookup_orderedMembers members name
  | array items =>
      rw [Json.ordered, orderedItems_eq_map, Json.record?, Json.record?, List.length_map]
      split
      · rw [List.zip_map_right]
        exact .some fun name => lookup_map (fun _ => ordered) (names.zip items) name
      · exact .none
  | _ => exact .none

/-- **Records**: what is made of lossless fields is read again from the object that has them. -/
theorem lossless_record {names : List String} {fields : List (String × Json) → Option α}
    {members : α → List (String × Json)} (h : LosslessFields names fields members)
    (hnames : names.Nodup) (make : α → β) {read : Json → Option β} {write : β → Json}
    (hread : ∀ v, read v = (v.record? names).bind fun f => (fields f).map make)
    (hwrite : ∀ x, write (make x) = .object (members x)) : Lossless read write where
  ordered {v} hv := by
    have hsame := record?_ordered names v
    rw [hread, hread]
    cases hf : v.record? names with
    | none =>
        rw [hf] at hsame
        cases hf' : v.ordered.record? names with
        | none => rfl
        | some f' => rw [hf'] at hsame; contradiction
    | some f =>
        rw [hf] at hsame
        cases hf' : v.ordered.record? names with
        | none => rw [hf'] at hsame; contradiction
        | some f' =>
            rw [hf', Option.rel_some_some] at hsame
            exact congrArg (Option.map make) (h.ordered (printable_of_record? hv hf) hsame)
  kept hv hy := by
    obtain ⟨f, hf, hy⟩ := Option.bind_eq_some_iff.mp (hread _ ▸ hy)
    obtain ⟨x, hx, rfl⟩ := Option.map_eq_some_iff.mp hy
    have hwritten : ∀ m ∈ members x, (members x).lookup m.1 = some m.2 := fun m hm =>
      (lookup_eq_some_iff_mem (h.names_eq x ▸ hnames)).mpr hm
    have hkept := h.kept (printable_of_record? hv hf) hx hwritten
    rw [hwrite, hread]
    exact congrArg (Option.map make) hkept
  printable hv hy := by
    obtain ⟨f, hf, hy⟩ := Option.bind_eq_some_iff.mp (hread _ ▸ hy)
    obtain ⟨x, hx, rfl⟩ := Option.map_eq_some_iff.mp hy
    rw [hwrite]
    exact ⟨h.names_eq x ▸ hnames, h.printable (printable_of_record? hv hf) hx⟩

/-! ## lists -/

section items

variable {read : Json → Option α} {write : α → Json}

theorem mapM_cons_eq_some_iff {v : Json} {vs : List Json} {xs : List α} :
    (v :: vs).mapM read = some xs ↔
      ∃ y ys, read v = some y ∧ vs.mapM read = some ys ∧ xs = y :: ys := by
  simp only [List.mapM_cons, Option.bind_eq_bind, Option.bind_eq_some_iff, Option.pure_def,
    Option.some.injEq]
  exact ⟨fun ⟨y, hy, ys, hys, h⟩ => ⟨y, ys, hy, hys, h.symm⟩,
    fun ⟨y, ys, hy, hys, h⟩ => ⟨y, hy, ys, hys, h.symm⟩⟩

/-- Items are read one by one, whatever the order of members in them. -/
theorem Lossless.mapM_ordered (h : Lossless read write) {vs : List Json}
    (hvs : PrintableItems vs) : (orderedItems vs).mapM read = vs.mapM read := by
  induction vs with
  | nil => rfl
  | cons v vs ih => rw [orderedItems, List.mapM_cons, List.mapM_cons, h.ordered hvs.1, ih hvs.2]

/-- Items that were read are kept one by one. -/
theorem Lossless.mapM_kept (h : Lossless read write) {vs : List Json} {xs : List α}
    (hvs : PrintableItems vs) (hxs : vs.mapM read = some xs) :
    (xs.map write).mapM read = some xs ∧ PrintableItems (xs.map write) := by
  induction vs generalizing xs with
  | nil =>
      obtain rfl := Option.some.inj hxs
      exact ⟨rfl, trivial⟩
  | cons v vs ih =>
      obtain ⟨y, ys, hy, hys, rfl⟩ := mapM_cons_eq_some_iff.mp hxs
      obtain ⟨hkept, hprintable⟩ := ih hvs.2 hys
      exact ⟨mapM_cons_eq_some_iff.mpr ⟨y, ys, h.kept hvs.1 hy, hkept, rfl⟩,
        h.printable hvs.1 hy, hprintable⟩

end items

end Playbook
