import Playbook.Proofs.Market.Single

/-!
# Playbook.Proofs.Market.Selection

Reading a context from a text and reading it from the value of the text.

Selecting the parts of a text that are read is `Faithful` to its value where no field is
written twice: what a reader makes of the parts is what it makes of the value.  This is
proved reader by reader, up to contexts (`faithful_context`).

A reader of a record is described by `Follows`: it depends on the fields only through
readers that selecting is faithful to, and fails where one of them fails.
-/

namespace Playbook

open Json (Tree ofTree? ofItems? ofMembers? put lookup_cons_eq_ite lookup_put)
open Json.Literal (text? number?)

namespace Shape

/-- What is selected from a tree is read as the value of the tree is read. -/
def Faithful {α : Type} (shape : Shape) (read : Json → Option α) : Prop :=
  ∀ t v, ofTree? t = some v → Single shape t → (select shape t).bind read = read v

variable {α : Type}

/-! ## values -/

/-- What is read as a value is selected as a whole. -/
theorem select_value (t : Tree) : select .value t = ofTree? t := by
  cases t <;> rfl

theorem faithful_value (read : Json → Option α) : Faithful .value read := fun t v hv _ => by
  rw [select_value, hv, Option.bind_some]

/-- A number has a numeric value. -/
theorem isSome_float?_of_number? {literal : List Char} {v : Json}
    (h : number? literal = some v) : v.float?.isSome := by
  obtain ⟨n, -, hv⟩ := Option.bind_eq_some_iff.mp h
  split at hv
  · rw [← Option.some.inj hv]
    rfl
  · obtain ⟨x, -, rfl⟩ := Option.map_eq_some_iff.mp hv
    rfl

/-- Nothing else has. -/
theorem number_of_isSome_float? {t : Tree} {v : Json} (hv : ofTree? t = some v)
    (h : v.float?.isSome) : ∃ literal, t = .number literal := by
  cases t with
  | number literal => exact ⟨literal, rfl⟩
  | null | bool b =>
      rw [← Option.some.inj hv] at h
      contradiction
  | string body | array items | object members =>
      obtain ⟨_, -, rfl⟩ := Option.map_eq_some_iff.mp hv
      contradiction

theorem null_of_select {shape : Shape} {t : Tree} (h : select shape t = some .null) :
    t = .null := by
  cases t with
  | null => rfl
  | bool b => exact absurd (show some (Json.bool b) = some .null from h) nofun
  | number literal => exact absurd (isSome_float?_of_number? h) nofun
  | string body =>
      obtain ⟨_, -, hnull⟩ := Option.map_eq_some_iff.mp h
      contradiction
  | array items =>
      cases shape <;> obtain ⟨_, -, hnull⟩ := Option.map_eq_some_iff.mp h <;> contradiction
  | object members =>
      cases shape <;> obtain ⟨_, -, hnull⟩ := Option.map_eq_some_iff.mp h <;> contradiction

/-- Read a value that may be null. -/
def nullable (read : Json → Option α) : Json → Option (Option α)
  | .null => some none
  | v => (read v).map some

/-- What is not null is read as it is without that case. -/
theorem nullable_of_ne {v : Json} (h : v ≠ .null) (read : Json → Option α) :
    nullable read v = (read v).map some := by
  cases v with
  | null => contradiction
  | _ => rfl

/-- A reader that takes null for absent is as good on what was selected. -/
theorem Faithful.nullable {shape : Shape} {read : Json → Option α} (h : Faithful shape read) :
    Faithful shape (nullable read) := fun t v hv hsingle => by
  by_cases ht : t = .null
  · subst ht
    rw [← Option.some.inj hv]
    rfl
  · have hselected {w : Json} (hw : select shape t = some w) : w ≠ .null := by
      rintro rfl
      exact ht (null_of_select hw)
    have hne : v ≠ .null := by
      rintro rfl
      exact ht (null_of_select ((select_value t).trans hv))
    rw [nullable_of_ne hne, ← h t v hv hsingle]
    cases hw : select shape t with
    | none => rfl
    | some w => rw [Option.bind_some, Option.bind_some, nullable_of_ne (hselected hw)]

/-! ## lists -/

theorem selectItems_bind {item : Shape} {read : Json → Option α} (h : Faithful item read)
    {items : List Tree} {vs : List Json} (hvs : ofItems? items = some vs)
    (hsingle : SingleItems item items) :
    ((selectItems item items).bind fun ws => ws.mapM read) = vs.mapM read := by
  induction items generalizing vs with
  | nil =>
      rw [← Option.some.inj hvs]
      rfl
  | cons t items ih =>
      rw [ofItems?] at hvs
      split at hvs
      · next v vs' hv hvs' =>
        rw [← Option.some.inj hvs, selectItems, List.mapM_cons, ← h t v hv hsingle.1,
          ← ih hvs' hsingle.2]
        cases select item t with
        | none => rfl
        | some w =>
            cases selectItems item items with
            | none => exact (Option.bind_fun_none (read w)).symm
            | some ws => exact List.mapM_cons
      · contradiction

/-- A list of records. -/
theorem faithful_candles (h : Faithful (flat Candle.fields) Candle.ofJson?) :
    Faithful (.list (flat Candle.fields)) Context.candles? := fun t v hv hsingle => by
  cases t with
  | array items =>
      obtain ⟨vs, hvs, rfl⟩ := Option.map_eq_some_iff.mp hv
      rw [select, Option.bind_map]
      exact selectItems_bind h hvs hsingle
  | _ => exact congrArg (·.bind Context.candles?) hv

/-! ## moving averages -/

/-- What is selected of averages is what all members are read as. -/
theorem selectAverages_sound {members : List (List Char × Tree)} {done sel : List (String × Json)}
    (h : selectAverages done members = some sel) : ofMembers? done members = some sel := by
  induction members generalizing done with
  | nil => exact h
  | cons m members ih =>
      obtain ⟨name, t⟩ := m
      obtain ⟨literal, v, rfl, hv, hperiod, h⟩ := selectAverages_cons h
      rw [ofMembers?, Json.text?_of_plain (plain_of_period? hperiod), ofTree?, hv]
      exact ih h

/-- Averages that are read: periods with numbers. -/
def Averages (members : List (String × Json)) : Prop :=
  ∀ n v, members.lookup n = some v → (Indicators.period? n.toList).isSome ∧ v.float?.isSome

/-- An object of averages that is read has numerals for names and numbers for values. -/
theorem averages_of_readAverages {members : List (String × Json)} {done out : List (Nat × Float)}
    (h : Indicators.readAverages done members = some out) : Averages members := by
  induction members generalizing done with
  | nil => exact nofun
  | cons m members ih =>
      obtain ⟨name, v⟩ := m
      rw [Indicators.readAverages] at h
      split at h
      · next p x hp hx =>
        intro n w hn
        rw [lookup_cons_eq_ite] at hn
        split at hn
        · next hname =>
          rw [← Option.some.inj hn, hname, hp, hx]
          exact ⟨rfl, rfl⟩
        · exact ih h n w hn
      · contradiction

/-- The last members of their names show whether all members are averages. -/
theorem selectAverages_complete {members : List (List Char × Tree)}
    {done out : List (String × Json)} (hplain : PlainAverages members)
    (hout : ofMembers? done members = some out) (h : Averages out) :
    selectAverages done members = some out := by
  induction members generalizing done with
  | nil => exact hout
  | cons m members ih =>
      obtain ⟨name, t⟩ := m
      obtain ⟨hname, hnames⟩ := List.forall_mem_cons.mp hplain.plain
      obtain ⟨hnumber, hnumbers⟩ := List.pairwise_cons.mp hplain.numbers
      rw [ofMembers?, Json.text?_of_plain hname] at hout
      cases hv : ofTree? t with
      | none =>
          rw [hv] at hout
          contradiction
      | some v =>
          rw [hv] at hout
          have hput : (put done (String.ofList name) v).lookup (String.ofList name) = some v := by
            rw [lookup_put, if_pos rfl]
          -- The period is still there, the number as well if its name does not come again.
          have hperiod : (Indicators.period? name).isSome := by
            have hthere := Json.isSome_lookup_ofMembers? hout (by rw [hput]; rfl)
            obtain ⟨w, hw⟩ := Option.isSome_iff_exists.mp hthere
            simpa using (h _ w hw).1
          have hliteral : ∃ literal, t = .number literal := by
            by_cases hagain : ∃ m ∈ members, name = m.1
            · obtain ⟨m, hm, heq⟩ := hagain
              exact hnumber m hm heq
            · refine number_of_isSome_float? hv (h (String.ofList name) v ?_).2
              rw [Json.lookup_ofMembers? hout, hput]
              intro m hm heq
              rw [Json.text?_of_plain (hnames m hm), Option.some.injEq] at heq
              exact hagain ⟨m, hm, (String.ofList_inj.mp heq).symm⟩
          obtain ⟨literal, rfl⟩ := hliteral
          obtain ⟨p, hp⟩ := Option.isSome_iff_exists.mp hperiod
          rw [ofTree?] at hv
          rw [selectAverages, hp, hv]
          exact ih ⟨hnames, hnumbers⟩ hout

/-- Averages are read alike if their names are plain and replace numbers only. -/
theorem faithful_averages : Faithful .averages Indicators.averages? := fun t v hv hsingle => by
  cases t with
  | object members =>
      obtain ⟨out, hout, rfl⟩ := Option.map_eq_some_iff.mp hv
      rw [select]
      cases hsel : selectAverages [] members with
      | some sel =>
          rw [← Option.some.inj ((selectAverages_sound hsel).symm.trans hout)]
          rfl
      | none =>
          cases hread : Indicators.readAverages [] out with
          | none => exact hread.symm
          | some averages =>
              have h := selectAverages_complete hsingle hout (averages_of_readAverages hread)
              rw [hsel] at h
              contradiction
  | _ => exact congrArg (·.bind Indicators.averages?) hv

/-! ## fields -/

/-- What was selected is read as the value is. -/
def StandsFor (shape : Shape) (w v : Json) : Prop :=
  ∀ {β : Type} (read : Json → Option β), Faithful shape read → read w = read v

/-- The value is read by no reader. -/
def Unreadable (shape : Shape) (v : Json) : Prop :=
  ∀ {β : Type} (read : Json → Option β), Faithful shape read → read v = none

/-- What is selected for a field stands for its value. -/
theorem standsFor_of_select {shape : Shape} {t : Tree} {w v : Json} (hv : ofTree? t = some v)
    (hsingle : Single shape t) (hw : select shape t = some w) : StandsFor shape w v :=
  fun read hread => by
    rw [← hread t v hv hsingle, hw, Option.bind_some]

theorem unreadable_of_select {shape : Shape} {t : Tree} {v : Json} (hv : ofTree? t = some v)
    (hsingle : Single shape t) (hnone : select shape t = none) : Unreadable shape v :=
  fun read hread => by
    rw [← hread t v hv hsingle, hnone, Option.bind_none]

section Records

variable {fields : List (String × Shape)}

/-- The same fields are among both lists of members, with what stands for their
values in the first. -/
def FieldsStandFor (fields : List (String × Shape)) (sel ms : List (String × Json)) : Prop :=
  ∀ n shape, fields.lookup n = some shape →
    (sel.lookup n = none ∧ ms.lookup n = none) ∨
      ∃ w v, sel.lookup n = some w ∧ ms.lookup n = some v ∧ StandsFor shape w v

/-- What selecting the fields among some members comes to. -/
inductive Selects (fields : List (String × Shape)) (ms : List (String × Json)) :
    Option (List (String × Json)) → Prop
  | all {sel : List (String × Json)} (h : FieldsStandFor fields sel ms) :
    Selects fields ms (some sel)
  | fault (n : String) (shape : Shape) (v : Json) (hn : fields.lookup n = some shape)
    (hv : ms.lookup n = some v) (h : Unreadable shape v) : Selects fields ms none

/-- Members that are no fields do not matter. -/
theorem FieldsStandFor.put {sel ms : List (String × Json)} (h : FieldsStandFor fields sel ms)
    {n : String} (hn : fields.lookup n = none) (v : Json) :
    FieldsStandFor fields sel (put ms n v) := fun k shape hk => by
  have hne : k ≠ n := by
    rintro rfl
    rw [hn] at hk
    contradiction
  rw [lookup_put, if_neg hne]
  exact h k shape hk

theorem FieldsStandFor.concat {sel ms : List (String × Json)} (h : FieldsStandFor fields sel ms)
    {n : String} {shape : Shape} {w v : Json} (hn : fields.lookup n = some shape)
    (hnew : sel.lookup n = none) (hw : StandsFor shape w v) :
    FieldsStandFor fields (sel ++ [(n, w)]) (Json.put ms n v) := fun k shape' hk => by
  rw [List.lookup_append, lookup_cons_eq_ite, lookup_put]
  by_cases hkn : k = n
  · subst hkn
    obtain rfl := Option.some.inj (hn.symm.trans hk)
    rw [hnew, if_pos rfl, if_pos rfl]
    exact .inr ⟨w, v, rfl, rfl, hw⟩
  · rw [if_neg hkn, if_neg hkn, List.lookup_nil, Option.or_none]
    exact h k shape' hk

theorem FieldsStandFor.cons {sel ms : List (String × Json)} (h : FieldsStandFor fields sel ms)
    {name : String} {shape : Shape} {w v : Json} (hw : StandsFor shape w v) :
    FieldsStandFor ((name, shape) :: fields) ((name, w) :: sel) ((name, v) :: ms) :=
  fun k shape' hk => by
  rw [lookup_cons_eq_ite] at hk
  rw [lookup_cons_eq_ite, lookup_cons_eq_ite]
  by_cases hkn : k = name
  · rw [if_pos hkn] at hk
    obtain rfl := Option.some.inj hk
    rw [if_pos hkn, if_pos hkn]
    exact .inr ⟨w, v, rfl, rfl, hw⟩
  · rw [if_neg hkn] at hk
    rw [if_neg hkn, if_neg hkn]
    exact h k shape' hk

/-- Selecting the fields among the members of an object. -/
theorem selects_members {members : List (List Char × Tree)} {done done' out : List (String × Json)}
    (hdone : FieldsStandFor fields done done')
    (hnew : ∀ m ∈ members, ∀ n, text? m.1 = some n → (fields.lookup n).isSome →
      done.lookup n = none)
    (hsingle : SingleMembers fields members) (hout : ofMembers? done' members = some out) :
    Selects fields out (selectMembers fields done members) := by
  induction members generalizing done done' with
  | nil =>
      obtain rfl := Option.some.inj hout
      exact .all hdone
  | cons m members ih =>
      obtain ⟨name, t⟩ := m
      obtain ⟨hfirst, hrest⟩ := List.forall_mem_cons.mp hnew
      rw [ofMembers?] at hout
      split at hout
      case h_2 => contradiction
      next n v hn hv =>
      rw [selectMembers, hn]
      dsimp only
      cases hfield : fields.lookup n with
      | none => exact ih (hdone.put hfield v) hrest hsingle.2 hout
      | some shape =>
          obtain ⟨ht, hothers⟩ := hsingle.1 n shape hn hfield
          have hfree : done.lookup n = none := hfirst n hn (by rw [hfield]; rfl)
          rw [hfree]
          dsimp only [Option.isSome_none]
          cases hw : select shape t with
          | none =>
              refine .fault n shape v hfield ?_ (unreadable_of_select hv ht hw)
              rw [Json.lookup_ofMembers? hout hothers, lookup_put, if_pos rfl]
          | some w =>
              refine ih (hdone.concat hfield hfree (standsFor_of_select hv ht hw)) ?_ hsingle.2 hout
              intro m hm k hk hknown
              have hkn : k ≠ n := fun h => hothers m hm (h ▸ hk)
              rw [List.lookup_append, hrest m hm k hk hknown, lookup_cons_eq_ite, if_neg hkn]
              rfl

/-- A name among other fields is another name. -/
theorem ne_of_lookup {n name : String} {shape : Shape} (hname : name ∉ fields.map Prod.fst)
    (hn : fields.lookup n = some shape) : n ≠ name := by
  rintro rfl
  obtain ⟨l, l', rfl, -⟩ := List.lookup_eq_some_iff.mp hn
  exact hname (by simp)

theorem length_ofItems? {items : List Tree} {vs : List Json} (h : ofItems? items = some vs) :
    vs.length = items.length := by
  induction items generalizing vs with
  | nil => rw [← Option.some.inj h]; rfl
  | cons t items ih =>
      rw [ofItems?] at h
      split at h
      · next v vs' hv hvs =>
        rw [← Option.some.inj h, List.length_cons, ih hvs, List.length_cons]
      · contradiction

/-- An array is selected as long as it is; one with more items than fields is not. -/
theorem length_selectFields {items : List Tree} {ws : List Json}
    (h : selectFields fields items = some ws) :
    ws.length = items.length ∧ items.length ≤ fields.length := by
  induction items generalizing fields ws with
  | nil =>
      rw [selectFields] at h
      rw [← Option.some.inj h]
      exact ⟨rfl, Nat.zero_le _⟩
  | cons t items ih =>
      cases fields with
      | nil => contradiction
      | cons field fields =>
          rw [selectFields] at h
          split at h
          · next w ws' hw hws =>
            obtain ⟨hlength, hle⟩ := ih hws
            rw [← Option.some.inj h, List.length_cons, hlength, List.length_cons, List.length_cons]
            exact ⟨rfl, Nat.succ_le_succ hle⟩
          · contradiction

/-- One field more in front. -/
theorem Selects.cons {ms : List (String × Json)} {sel : Option (List (String × Json))}
    (h : Selects fields ms sel) {name : String} (hname : name ∉ fields.map Prod.fst)
    {shape : Shape} {w v : Json} (hw : StandsFor shape w v) :
    Selects ((name, shape) :: fields) ((name, v) :: ms) (sel.map ((name, w) :: ·)) := by
  cases h with
  | all h => exact .all (h.cons hw)
  | fault n shape' v' hn hlookup h =>
      have hne := ne_of_lookup hname hn
      refine .fault n shape' v' ?_ ?_ h
      · rw [lookup_cons_eq_ite, if_neg hne, hn]
      · rw [lookup_cons_eq_ite, if_neg hne, hlookup]

/-- Selecting the fields of a record that is written as an array. -/
theorem selects_fields (hnames : (fields.map Prod.fst).Nodup) {items : List Tree} {vs : List Json}
    (hvs : ofItems? items = some vs) (hsingle : SingleFields fields items)
    (hlength : items.length ≤ fields.length) :
    Selects fields ((fields.map Prod.fst).zip vs)
      ((selectFields fields items).map (fields.map Prod.fst).zip) := by
  induction items generalizing fields vs with
  | nil =>
      obtain rfl := Option.some.inj hvs
      rw [selectFields, Option.map_some, List.zip_nil_right]
      exact .all fun _ _ _ => .inl ⟨rfl, rfl⟩
  | cons t items ih =>
      obtain _ | ⟨⟨name, shape⟩, fields⟩ := fields
      · contradiction
      obtain ⟨hname, hnames⟩ := List.nodup_cons.mp hnames
      rw [ofItems?] at hvs
      split at hvs
      case h_2 => contradiction
      next v vs' hv hvs' =>
      obtain rfl := Option.some.inj hvs
      have hrest := ih hnames hvs' hsingle.2 (Nat.le_of_succ_le_succ hlength)
      have hfield : ((name, shape) :: fields).lookup name = some shape := by
        rw [lookup_cons_eq_ite, if_pos rfl]
      rw [selectFields, List.map_cons, List.zip_cons_cons]
      cases hw : select shape t with
      | none =>
          refine .fault name shape v hfield ?_ (unreadable_of_select hv hsingle.1 hw)
          rw [lookup_cons_eq_ite, if_pos rfl]
      | some w =>
          have hcons := hrest.cons hname (standsFor_of_select hv hsingle.1 hw)
          cases hws : selectFields fields items with
          | none => rwa [hws] at hcons
          | some ws => rwa [hws] at hcons

/-! ## records -/

/-- A reader of a record reads the named fields, and nothing but fields, with readers
that selecting is faithful to. -/
structure Follows (fields : List (String × Shape)) (names : List String)
    (g : List (String × Json) → Option α) : Prop where
  eq : ∀ {sel ms}, FieldsStandFor fields sel ms → g sel = g ms
  eq_none : ∀ {ms n shape v}, n ∈ names → fields.lookup n = some shape → ms.lookup n = some v →
    Unreadable shape v → g ms = none

/-- A reader that looks at no more fields follows them. -/
theorem Follows.result (a : α) : Follows fields [] fun _ => some a where
  eq _ := rfl
  eq_none h := absurd h List.not_mem_nil

variable {β : Type} {names : List String} {n : String} {shape : Shape}

/-- Read one field, then go on. -/
theorem Follows.field {read : Json → Option β} {k : β → List (String × Json) → Option α}
    (pick : Option Json → Option β) (hpick : ∀ v, pick (some v) = read v)
    (hn : fields.lookup n = some shape) (hread : Faithful shape read)
    (hrest : ∀ b, Follows fields names (k b)) :
    Follows fields (n :: names) fun ms => (pick (ms.lookup n)).bind fun b => k b ms where
  eq {sel ms} h := by
    have hfirst : pick (sel.lookup n) = pick (ms.lookup n) := by
      obtain ⟨hsel, hms⟩ | ⟨w, v, hsel, hms, hw⟩ := h n shape hn
      · rw [hsel, hms]
      · rw [hsel, hms, hpick, hpick, hw read hread]
    rw [hfirst]
    exact congrArg _ (funext fun b => (hrest b).eq h)
  eq_none {ms m shape' v} hm hfield hv hbad := by
    obtain rfl | hm := List.mem_cons.mp hm
    · obtain rfl := Option.some.inj (hn.symm.trans hfield)
      rw [hv, hpick, hbad read hread, Option.bind_none]
    · rw [funext fun b => (hrest b).eq_none hm hfield hv hbad]
      exact Option.bind_fun_none _

/-- Read a field that has to be there. -/
theorem Follows.required {read : Json → Option β} {k : β → List (String × Json) → Option α}
    (hn : fields.lookup n = some shape) (hread : Faithful shape read)
    (hrest : ∀ b, Follows fields names (k b)) :
    Follows fields (n :: names) fun ms => ((ms.lookup n).bind read).bind fun b => k b ms :=
  .field (·.bind read) (fun _ => rfl) hn hread hrest

/-- Read a field that may be absent or null. -/
theorem Follows.optional {read : Json → Option β}
    {k : Option β → List (String × Json) → Option α}
    (hn : fields.lookup n = some shape) (hread : Faithful shape read)
    (hrest : ∀ b, Follows fields names (k b)) :
    Follows fields (n :: names) fun ms => (optional? ms n read).bind fun b => k b ms := by
  have hpick (ms : List (String × Json)) :
      optional? ms n read = (ms.lookup n).elim (some none) (Shape.nullable read) := by
    unfold optional?
    split
    · next h => rw [h, Option.elim_none]
    · next h => rw [h, Option.elim_some, Shape.nullable]
    · next v hne h => rw [h, Option.elim_some, nullable_of_ne hne]
  simp only [hpick]
  exact .field (·.elim (some none) (Shape.nullable read)) (fun _ => rfl) hn hread.nullable hrest

/-- Read a field that may be absent. -/
theorem Follows.default {read : Json → Option β} {k : β → List (String × Json) → Option α}
    {absent : β} (hn : fields.lookup n = some shape) (hread : Faithful shape read)
    (hrest : ∀ b, Follows fields names (k b)) :
    Follows fields (n :: names) fun ms => (default? ms n absent read).bind fun b => k b ms := by
  have hpick (ms : List (String × Json)) :
      default? ms n absent read = (ms.lookup n).elim (some absent) read := by
    unfold default?
    split <;> next h => rw [h]; rfl
  simp only [hpick]
  exact .field (·.elim (some absent) read) (fun _ => rfl) hn hread hrest

/-- Where selecting fails, a field is at fault that the reader cannot do without. -/
theorem Follows.eq_of_selects {g : List (String × Json) → Option α}
    (hg : Follows fields (fields.map Prod.fst) g) {sel : Option (List (String × Json))}
    {ms : List (String × Json)} (h : Selects fields ms sel) : sel.bind g = g ms := by
  cases h with
  | all h => exact hg.eq h
  | fault n shape v hn hv hbad =>
      refine (hg.eq_none ?_ hn hv hbad).symm
      by_contra hmem
      exact ne_of_lookup hmem hn rfl

/-- **A record is read from what was selected as from its value**, if all its fields
are. -/
theorem faithful_record {g : List (String × Json) → Option α}
    (hnames : (fields.map Prod.fst).Nodup) (hg : Follows fields (fields.map Prod.fst) g) :
    Faithful (.record fields) fun v => (v.record? (fields.map Prod.fst)).bind g :=
  fun t v hv hsingle => by
  cases t with
  | object members =>
      obtain ⟨out, hout, rfl⟩ := Option.map_eq_some_iff.mp hv
      have hempty : FieldsStandFor fields [] [] := fun _ _ _ => .inl ⟨rfl, rfl⟩
      rw [select, Option.bind_map]
      exact hg.eq_of_selects (selects_members hempty (fun _ _ _ _ _ => rfl) hsingle hout)
  | array items =>
      obtain ⟨vs, hvs, rfl⟩ := Option.map_eq_some_iff.mp hv
      have hrecord {us : List Json} (h : us.length = items.length) :
          (Json.array us).record? (fields.map Prod.fst) =
            if items.length ≤ fields.length then some ((fields.map Prod.fst).zip us) else none := by
        rw [Json.record?, List.length_map, h]
      rw [select]
      beta_reduce
      rw [hrecord (length_ofItems? hvs)]
      by_cases hle : items.length ≤ fields.length
      · rw [if_pos hle, Option.bind_some,
          ← hg.eq_of_selects (selects_fields hnames hvs hsingle hle)]
        cases h : selectFields fields items with
        | none => rfl
        | some ws =>
            rw [Option.map_some, Option.bind_some, hrecord (length_selectFields h).1, if_pos hle]
            rfl
      · rw [if_neg hle]
        cases h : selectFields fields items with
        | none => rfl
        | some ws => exact absurd (length_selectFields h).2 hle
  | _ => exact congrArg (·.bind fun v => (v.record? (fields.map Prod.fst)).bind g) hv

end Records

/-! ## contexts -/

/-- A record is read alike if its fields are; here those of a quote. -/
theorem faithful_quote : Faithful (flat Quote.fields) Quote.ofJson? :=
  faithful_record (by decide) <|
    .required rfl (faithful_value _) fun _ =>
    .optional rfl (faithful_value _) fun _ =>
    .optional rfl (faithful_value _) fun _ => .result _

theorem faithful_candle : Faithful (flat Candle.fields) Candle.ofJson? :=
  faithful_record (by decide) <|
    .required rfl (faithful_value _) fun _ =>
    .required rfl (faithful_value _) fun _ =>
    .required rfl (faithful_value _) fun _ =>
    .required rfl (faithful_value _) fun _ =>
    .required rfl (faithful_value _) fun _ =>
    .default rfl (faithful_value _) fun _ => .result _

theorem faithful_openingRange : Faithful (flat OpeningRange.fields) OpeningRange.ofJson? :=
  faithful_record (by decide) <|
    .required rfl (faithful_value _) fun _ =>
    .required rfl (faithful_value _) fun _ =>
    .required rfl (faithful_value _) fun _ => .result _

theorem faithful_swing : Faithful (flat Swing.fields) Swing.ofJson? :=
  faithful_record (by decide) <|
    .optional rfl (faithful_value _) fun _ =>
    .optional rfl (faithful_value _) fun _ => .result _

/-- Only the averages are no plain values. -/
theorem faithful_indicators :
    Faithful (.record [("ema", .averages), ("rsi", .value), ("atr", .value)])
      Indicators.ofJson? :=
  faithful_record (by decide) <|
    .default rfl faithful_averages fun _ =>
    .optional rfl (faithful_value _) fun _ =>
    .optional rfl (faithful_value _) fun _ => .result _

/-- **A context is read from what was selected as from the value of the text.** -/
theorem faithful_context : Faithful context Context.ofJson? :=
  faithful_record (by decide) <|
    .default rfl (faithful_candles faithful_candle) fun _ =>
    .optional rfl faithful_quote fun _ =>
    .default rfl faithful_indicators fun _ =>
    .optional rfl faithful_openingRange fun _ =>
    .optional rfl faithful_swing fun _ =>
    .required rfl (faithful_value _) fun _ => .result _

end Shape

namespace Context

open Shape

variable {s : List Char} {t : Tree}

/-- A text that repeats no field is read as its value. -/
theorem ofText?_eq_ofJson? (ht : Tree.read s = some t) {v : Json} (hv : ofTree? t = some v)
    (hsingle : Single Shape.context t) : ofText? s = ofJson? v := by
  rw [ofText?, ht, Option.bind_some]
  exact faithful_context t v hv hsingle

/-- A text that repeats a field is no context. -/
theorem ofText?_eq_none (ht : Tree.read s = some t) (hsingle : ¬Single Shape.context t) :
    ofText? s = none := by
  rw [ofText?, ht, Option.bind_some]
  cases h : select Shape.context t with
  | none => rfl
  | some w => exact absurd (single_of_select _ t h) hsingle

end Context

end Playbook
