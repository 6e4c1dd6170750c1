import Playbook.Proofs.Market.Record

/-!
# Playbook.Proofs.Market.Averages

Moving averages as a map from periods to values.

Averages that are read have ascending periods (`wellFormed_of_averages?`), whatever order
they were given in: averages of different periods can be put in either order
(`putAverage_comm`), and different names give different periods.  So the members that are
written for them are read as the same averages, in any order.
-/

namespace Playbook

open Json

namespace Indicators

/-! ## putting averages -/

section put

variable {p q : Nat} {x y : Float} {l : List (Nat × Float)}

/-- An average that is there was there before, or was put. -/
theorem mem_putAverage {a : Nat × Float} (h : a ∈ putAverage p x l) : a = (p, x) ∨ a ∈ l := by
  induction l with
  | nil => exact .inl (List.mem_singleton.mp h)
  | cons b l ih =>
      obtain ⟨r, z⟩ := b
      rw [putAverage] at h
      split_ifs at h
      · exact List.mem_cons.mp h
      · exact (List.mem_cons.mp h).imp_right (List.mem_cons_of_mem _)
      · obtain rfl | h := List.mem_cons.mp h
        · exact .inr List.mem_cons_self
        · exact (ih h).imp_right (List.mem_cons_of_mem _)

/-- Periods stay in ascending order. -/
theorem pairwise_putAverage (h : l.Pairwise fun a b => a.1 < b.1) :
    (putAverage p x l).Pairwise fun a b => a.1 < b.1 := by
  induction l with
  | nil => exact List.pairwise_singleton _ _
  | cons b l ih =>
      obtain ⟨r, z⟩ := b
      obtain ⟨hr, hl⟩ := List.pairwise_cons.mp h
      rw [putAverage]
      split_ifs with hlt heq
      · refine List.pairwise_cons.mpr ⟨fun a ha => ?_, h⟩
        obtain rfl | ha := List.mem_cons.mp ha
        · exact hlt
        · exact hlt.trans (hr a ha)
      · exact heq ▸ List.pairwise_cons.mpr ⟨hr, hl⟩
      · refine List.pairwise_cons.mpr ⟨fun a ha => ?_, ih hl⟩
        obtain rfl | ha := mem_putAverage ha
        · exact lt_of_le_of_ne (not_lt.mp hlt) (Ne.symm heq)
        · exact hr a ha

/-- A period above all others is put at the end. -/
theorem putAverage_of_lt (h : ∀ a ∈ l, a.1 < p) : putAverage p x l = l ++ [(p, x)] := by
  induction l with
  | nil => rfl
  | cons b l ih =>
      obtain ⟨r, z⟩ := b
      obtain ⟨hr, hl⟩ := List.forall_mem_cons.mp h
      rw [putAverage, if_neg hr.not_gt, if_neg hr.ne', ih hl, List.cons_append]

/-- **Averages of different periods** can be put in either order. -/
theorem putAverage_comm (h : p ≠ q) (x y : Float) (l : List (Nat × Float)) :
    putAverage p x (putAverage q y l) = putAverage q y (putAverage p x l) := by
  induction l with
  | nil =>
      simp only [putAverage]
      split_ifs <;> first | rfl | omega
  | cons b l ih =>
      obtain ⟨r, z⟩ := b
      -- both periods are compared with the first one there, and then with each other
      simp only [putAverage]
      split_ifs <;> simp only [putAverage] <;> split_ifs <;> first | rfl | omega | rw [ih]

end put

/-- Averages as an object can give them: finite values by ascending periods of 32 bits. -/
structure WellFormed (l : List (Nat × Float)) : Prop where
  ascending : l.Pairwise fun a b => a.1 < b.1
  period_le : ∀ a ∈ l, a.1 ≤ 0xFFFFFFFF
  finite : ∀ a ∈ l, a.2.isFinite = true

/-- Averages stay in the order of their periods. -/
theorem WellFormed.putAverage {p : Nat} {x : Float} {l : List (Nat × Float)} (h : WellFormed l)
    (hp : p ≤ 0xFFFFFFFF) (hx : x.isFinite = true) : WellFormed (putAverage p x l) where
  ascending := pairwise_putAverage h.ascending
  period_le a ha := by
    obtain rfl | ha := mem_putAverage ha
    · exact hp
    · exact h.period_le a ha
  finite a ha := by
    obtain rfl | ha := mem_putAverage ha
    · exact hx
    · exact h.finite a ha

/-! ## reading averages -/

/-- A name gives the period of which it is the decimal numeral. -/
theorem period?_eq_some_iff {name : List Char} {p : Nat} :
    period? name = some p ↔ name = Text.decimal p ∧ p ≤ 0xFFFFFFFF := by
  rw [period?, Option.filter_eq_some_iff, Text.plainNumeral_eq_some_iff, decide_eq_true_eq]

/-- One member is read and put. -/
theorem readAverages_cons_eq_some_iff {name : String} {v : Json} {ms : List (String × Json)}
    {done l : List (Nat × Float)} :
    readAverages done ((name, v) :: ms) = some l ↔
      ∃ p x, period? name.toList = some p ∧ v.float? = some x ∧
        readAverages (putAverage p x done) ms = some l := by
  rw [readAverages]
  constructor
  · intro h
    split at h
    · next p x hp hx => exact ⟨p, x, hp, hx, h⟩
    · contradiction
  · rintro ⟨p, x, hp, hx, h⟩
    rw [hp, hx]
    exact h

theorem wellFormed_of_readAverages {ms : List (String × Json)} {done l : List (Nat × Float)}
    (hms : PrintableMembers ms) (hdone : WellFormed done)
    (h : readAverages done ms = some l) : WellFormed l := by
  induction ms generalizing done with
  | nil =>
      obtain rfl := Option.some.inj h
      exact hdone
  | cons m ms ih =>
      obtain ⟨p, x, hp, hx, h⟩ := readAverages_cons_eq_some_iff.mp h
      exact ih hms.2 (hdone.putAverage (period?_eq_some_iff.mp hp).2
        (isFinite_of_float? hms.1 hx)) h

/-- What is read of an object is well-formed. -/
theorem wellFormed_of_averages? {v : Json} {l : List (Nat × Float)} (hv : v.Printable)
    (h : averages? v = some l) : WellFormed l := by
  cases v with
  | object ms => exact wellFormed_of_readAverages hv.2 ⟨.nil, nofun, nofun⟩ h
  | _ => contradiction

/-- Each average is put behind the ones in front of it. -/
theorem readAverages_write {done l : List (Nat × Float)} (h : WellFormed (done ++ l)) :
    readAverages done
        (l.map fun (p, x) => (String.ofList (Text.decimal p), ofFloat x)) =
      some (done ++ l) := by
  induction l generalizing done with
  | nil => rw [List.append_nil]; rfl
  | cons a l ih =>
      obtain ⟨p, x⟩ := a
      have hmem : (p, x) ∈ done ++ (p, x) :: l := List.mem_append_right _ List.mem_cons_self
      have hp : period? (String.ofList (Text.decimal p)).toList = some p := by
        rw [String.toList_ofList]
        exact period?_eq_some_iff.mpr ⟨rfl, h.period_le _ hmem⟩
      have hlast : ∀ b ∈ done, b.1 < p := fun b hb =>
        (List.pairwise_append.mp h.ascending).2.2 b hb _ List.mem_cons_self
      have hassoc : done ++ [(p, x)] ++ l = done ++ (p, x) :: l := by simp
      have hx : (ofFloat x).float? = some x := float?_ofFloat (h.finite (p, x) hmem)
      refine readAverages_cons_eq_some_iff.mpr ⟨p, x, hp, hx, ?_⟩
      rw [putAverage_of_lt hlast, ih (hassoc ▸ h), hassoc]

/-! ## order of members -/

/-- Two members of different names may be read in either order, since their periods differ. -/
theorem readAverages_swap {n n' : String} (hne : n ≠ n') (v v' : Json)
    {ms : List (String × Json)} {done l : List (Nat × Float)}
    (h : readAverages done ((n, v) :: (n', v') :: ms) = some l) :
    readAverages done ((n', v') :: (n, v) :: ms) = some l := by
  obtain ⟨p, x, hp, hx, h⟩ := readAverages_cons_eq_some_iff.mp h
  obtain ⟨p', x', hp', hx', h⟩ := readAverages_cons_eq_some_iff.mp h
  have hperiods : p ≠ p' := by
    rintro rfl
    have hname := (period?_eq_some_iff.mp hp).1.trans (period?_eq_some_iff.mp hp').1.symm
    exact hne (String.toList_injective hname)
  rw [putAverage_comm hperiods.symm] at h
  exact readAverages_cons_eq_some_iff.mpr
    ⟨p', x', hp', hx', readAverages_cons_eq_some_iff.mpr ⟨p, x, hp, hx, h⟩⟩

/-- Members with different names are put in any order. -/
theorem readAverages_perm {ms ms' : List (String × Json)} (h : ms.Perm ms')
    (hnames : (ms.map Prod.fst).Nodup) (done : List (Nat × Float)) :
    readAverages done ms' = readAverages done ms := by
  induction h generalizing done with
  | nil => rfl
  | cons m _ ih =>
      have hnames := (List.nodup_cons.mp hnames).2
      ext l
      rw [readAverages_cons_eq_some_iff, readAverages_cons_eq_some_iff]
      simp only [ih hnames]
  | swap m m' ms =>
      have hne : m'.1 ≠ m.1 := fun h => (List.nodup_cons.mp hnames).1 (h ▸ List.mem_cons_self)
      ext l
      exact ⟨readAverages_swap hne.symm _ _, readAverages_swap hne _ _⟩
  | trans h _ ih ih' => rw [ih' ((h.map Prod.fst).nodup_iff.mp hnames), ih hnames]

/-- The averages themselves are numbers, which have no members. -/
theorem readAverages_map_ordered (ms : List (String × Json)) (done : List (Nat × Float)) :
    readAverages done (ms.map fun m => (m.1, m.2.ordered)) = readAverages done ms := by
  induction ms generalizing done with
  | nil => rfl
  | cons m ms ih =>
      ext l
      rw [List.map_cons, readAverages_cons_eq_some_iff, readAverages_cons_eq_some_iff]
      simp only [ih, float?_ordered]

/-- So the order of the members of an object of averages does not matter. -/
theorem averages?_ordered {v : Json} (hv : v.Printable) : averages? v.ordered = averages? v := by
  cases v with
  | object ms =>
      have hnames : ((ms.map fun m => (m.1, m.2.ordered)).map Prod.fst).Nodup := by
        rw [List.map_map]
        exact hv.1
      have hperm := (orderedMembers_perm ms).symm
      exact (readAverages_perm hperm hnames []).trans (readAverages_map_ordered ms [])
  | _ => rfl

/-! ## writing averages -/

/-- The object of averages. -/
def averagesJson (l : List (Nat × Float)) : Json :=
  .object (l.map fun (p, x) => (String.ofList (Text.decimal p), .ofFloat x))

/-- Periods are written as their digits, which differ as the periods do. -/
theorem printable_averagesJson {l : List (Nat × Float)} (h : WellFormed l) :
    Printable (averagesJson l) := by
  constructor
  · have hnames : (l.map fun a => String.ofList (Text.decimal a.1)).Nodup :=
      List.pairwise_map.mpr <| h.ascending.imp fun hlt hsame =>
        hlt.ne (Text.decimal_injective (String.ofList_injective hsame))
    rw [List.map_map]
    exact hnames
  · clear h
    induction l with
    | nil => trivial
    | cons a l ih => exact ⟨printable_ofFloat _, ih⟩

/-- Averages come back as they were, in the order of their periods. -/
theorem lossless_averages : Lossless averages? averagesJson where
  ordered hv := averages?_ordered hv
  kept {v l} hv h := by
    have hl : WellFormed ([] ++ l) := wellFormed_of_averages? hv h
    exact readAverages_write hl
  printable hv h := printable_averagesJson (wellFormed_of_averages? hv h)

end Indicators

end Playbook
