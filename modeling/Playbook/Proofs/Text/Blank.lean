import Mathlib
import Playbook.Text

/-!
# Playbook.Proofs.Text.Blank

Trimming, words and letter case.

Trimming is described by what it leaves out: a text is its trimmed form with
blanks on both sides, and it is the only such form that is `Tight`.  Words are
described by what ends them (`words_append_cons`).
-/

namespace Playbook.Text

/-! ## blanks -/

/-- Nothing but blanks. -/
def AllBlank (s : List Char) : Prop := ∀ c ∈ s, isBlank c = true

/-- Neither starting nor ending with a blank. -/
structure Tight (s : List Char) : Prop where
  first : ∀ c ∈ s.head?, isBlank c = false
  last : ∀ c ∈ s.getLast?, isBlank c = false

theorem allBlank_nil : AllBlank [] := nofun

/-- A text without blanks is tight. -/
theorem tight_of_no_blank {s : List Char} (h : ∀ c ∈ s, isBlank c = false) : Tight s where
  first c hc := h c (List.mem_of_mem_head? hc)
  last c hc := h c (List.mem_of_mem_getLast? hc)

/-! ## trimming -/

/-- Blanks in front are dropped, up to the first character that is none. -/
theorem trimStart_append {b t : List Char} (hb : AllBlank b)
    (ht : ∀ c ∈ t.head?, isBlank c = false) : trimStart (b ++ t) = t := by
  rw [trimStart, List.dropWhile_append_of_pos hb]
  cases t with
  | nil => rfl
  | cons c t =>
      have hc : isBlank c = false := ht c rfl
      rw [List.dropWhile_cons_of_neg (by rw [hc]; decide)]

/-- Blanks at the end are taken off, and nothing else. -/
theorem trimEnd_append {b t : List Char} (hb : AllBlank b)
    (ht : ∀ c ∈ t.getLast?, isBlank c = false) : trimEnd (t ++ b) = t := by
  have hb' : AllBlank b.reverse := fun c hc => hb c (List.mem_reverse.mp hc)
  have h := trimStart_append hb' (t := t.reverse) (by rwa [List.head?_reverse])
  rw [trimEnd, List.reverse_append, ← trimStart, h, List.reverse_reverse]

/-- Only a tight text is left when the blanks around it are dropped. -/
theorem trim_append {b t b' : List Char} (hb : AllBlank b) (ht : Tight t) (hb' : AllBlank b') :
    trim (b ++ t ++ b') = t := by
  rw [trim, List.append_assoc]
  cases t with
  | nil =>
      have hall : AllBlank (b ++ b') := by
        intro c hc
        obtain hc | hc := List.mem_append.mp hc
        · exact hb c hc
        · exact hb' c hc
      rw [List.nil_append, ← List.append_nil (b ++ b'), trimStart_append hall (by simp)]
      rfl
  | cons c t => rw [trimStart_append (t := c :: t ++ b') hb ht.first, trimEnd_append hb' ht.last]

/-- A text without blanks at its ends stays as it is. -/
theorem trim_eq_self {t : List Char} (ht : Tight t) : trim t = t := by
  have h := trim_append allBlank_nil ht allBlank_nil
  rwa [List.nil_append, List.append_nil] at h

/-- What is taken off in front is blank, and what is left does not begin with a blank. -/
theorem trimStart_spec (s : List Char) :
    (∃ b, AllBlank b ∧ s = b ++ trimStart s) ∧ ∀ c ∈ (trimStart s).head?, isBlank c = false := by
  constructor
  · exact ⟨s.takeWhile isBlank, List.all_eq_true.mp List.all_takeWhile,
      List.takeWhile_append_dropWhile.symm⟩
  · intro c hc
    have h := List.head?_dropWhile_not isBlank s
    rw [trimStart] at hc
    rw [Option.mem_def.mp hc] at h
    exact h

/-- Trimming leaves a tight text and drops nothing but blanks. -/
theorem trim_spec (s : List Char) :
    ∃ b b', AllBlank b ∧ Tight (trim s) ∧ AllBlank b' ∧ s = b ++ trim s ++ b' := by
  obtain ⟨⟨b, hb, hs⟩, hfirst⟩ := trimStart_spec s
  obtain ⟨⟨b', hb', hs'⟩, hlast⟩ := trimStart_spec (trimStart s).reverse
  have hend : trimStart s = trim s ++ b'.reverse := by
    rw [trim, trimEnd, ← trimStart]
    have := congrArg List.reverse hs'
    rwa [List.reverse_reverse, List.reverse_append] at this
  refine ⟨b, b'.reverse, hb, ⟨?_, ?_⟩, ?_, ?_⟩
  · intro c hc
    refine hfirst c ?_
    rw [hend, List.head?_append, Option.mem_def.mp hc]
    rfl
  · intro c hc
    refine hlast c ?_
    rwa [trim, trimEnd, ← trimStart, List.getLast?_reverse] at hc
  · intro c hc
    exact hb' c (List.mem_reverse.mp hc)
  · rw [List.append_assoc, ← hend, ← hs]

/-! ## words -/

/-- A blank ends a word. -/
theorem words_append_cons {c : Char} (hc : isBlank c = true) (s t : List Char) :
    words (s ++ c :: t) = words s ++ words t := by
  rw [words, List.splitOnP_append_cons s t hc, List.filter_append, ← words, ← words]

/-- A character that is not blank belongs to a word. -/
theorem words_cons_ne_nil {c : Char} (hc : isBlank c = false) (s : List Char) :
    words (c :: s) ≠ [] := by
  obtain ⟨w, ws, hws⟩ := List.exists_cons_of_ne_nil (List.splitOnP_ne_nil isBlank s)
  have hc' : ¬isBlank c = true := by rw [hc]; decide
  rw [words, List.splitOnP_cons_eq_if_modifyHead, if_neg hc', hws, List.modifyHead_cons,
    List.filter_cons_of_pos rfl]
  exact List.cons_ne_nil _ _

theorem words_blank_append {b : List Char} (hb : AllBlank b) (s : List Char) :
    words (b ++ s) = words s := by
  induction b with
  | nil => rfl
  | cons c b ih =>
      have hc := words_append_cons (hb c List.mem_cons_self) [] (b ++ s)
      rw [List.nil_append] at hc
      rw [List.cons_append, hc, ih fun d hd => hb d (List.mem_cons_of_mem c hd)]
      rfl

theorem words_append_blank {b : List Char} (hb : AllBlank b) (s : List Char) :
    words (s ++ b) = words s := by
  cases b with
  | nil => rw [List.append_nil]
  | cons c b =>
      have hb' : AllBlank b := fun d hd => hb d (List.mem_cons_of_mem c hd)
      have hnone : words b = [] := (congrArg words (List.append_nil b)).symm.trans
        (words_blank_append hb' [])
      rw [words_append_cons (hb c List.mem_cons_self), hnone, List.append_nil]

/-- Trimming keeps the words. -/
theorem words_trim (s : List Char) : words (trim s) = words s := by
  obtain ⟨b, b', hb, -, hb', hs⟩ := trim_spec s
  conv_rhs => rw [hs]
  rw [words_append_blank hb', words_blank_append hb]

/-- Only a blank text has no words. -/
theorem words_eq_nil_iff {s : List Char} : words s = [] ↔ trim s = [] := by
  obtain ⟨-, -, -, htight, -⟩ := trim_spec s
  rw [← words_trim]
  cases htrim : trim s with
  | nil => exact iff_of_true rfl rfl
  | cons c t =>
      rw [htrim] at htight
      exact iff_of_false (words_cons_ne_nil (htight.first c rfl) t) (List.cons_ne_nil c t)

theorem ne_nil_of_mem_words {w s : List Char} (h : w ∈ words s) : w ≠ [] := by
  have hne := (List.mem_filter.mp h).2
  intro hnil
  rw [hnil] at hne
  contradiction

/-! ## characters -/

/-- Digits are not blank. -/
theorem isBlank_of_isDigit {c : Char} (h : c.isDigit = true) : isBlank c = false := by
  have h := Char.isDigit_iff_toNat.mp h
  rw [show '0'.toNat = 48 from rfl, show '9'.toNat = 57 from rfl] at h
  simp only [isBlank, blankRanges, List.any_cons, List.any_nil, Bool.or_false, Bool.or_eq_false_iff,
    Bool.and_eq_false_iff, decide_eq_false_iff_not]
  omega

/-- Printable ASCII characters are not blank. -/
theorem isBlank_of_printable {c : Char} (h : 33 ≤ c.toNat) (h' : c.toNat ≤ 126) :
    isBlank c = false := by
  simp only [isBlank, blankRanges, List.any_cons, List.any_nil, Bool.or_false, Bool.or_eq_false_iff,
    Bool.and_eq_false_iff, decide_eq_false_iff_not]
  omega

/-! ## letter case -/

/-- A blank is blank in lower case, and nothing else is. -/
theorem isBlank_toLower (c : Char) : isBlank c.toLower = isBlank c := by
  by_cases h : c.isUpper
  · have hc : 65 ≤ c.toNat ∧ c.toNat ≤ 90 := by
      simpa [Char.isUpper, UInt32.le_iff_toNat_le] using h
    have hlower : c.toLower.toNat = c.toNat + 32 := by
      rw [Char.toLower_eq_of_isUpper h, Char.toNat_ofNat, if_pos (.inl (by omega))]
    rw [isBlank_of_printable (by omega) (by omega), isBlank_of_printable (by omega) (by omega)]
  · rw [Char.toLower_eq_of_not_isUpper h]

theorem lower_lower (s : List Char) : lower (lower s) = lower s := by
  rw [lower, lower, List.map_map]
  exact List.map_congr_left fun c _ => c.toLower_toLower_eq_toLower

/-- Texts that are the same but for the case of their letters are the same in small letters. -/
theorem lower_eq_of_sameFolded {s t : List Char} (h : sameFolded s t = true) : lower s = lower t :=
  beq_iff_eq.mp h

end Playbook.Text
