import Playbook.Proofs.Json.Token

/-!
# Playbook.Proofs.Json.Line

A value that is written without blanks stands on one line: its text has no control
characters, since those in strings are escaped (`notControl_compact`).
-/

namespace Playbook.Json

open Number

/-- No character of a text is a control character. -/
def NotControl (s : List Char) : Prop := ∀ c ∈ s, 0x20 ≤ c.toNat

instance (s : List Char) : Decidable (NotControl s) := List.decidableBAll _ s

namespace NotControl

variable {s t : List Char} {c : Char}

/-- Texts are put together piece by piece, so the law is kept by that. -/
theorem append (hs : NotControl s) (ht : NotControl t) : NotControl (s ++ t) :=
  List.forall_mem_append.mpr ⟨hs, ht⟩

theorem cons (hc : 0x20 ≤ c.toNat) (hs : NotControl s) : NotControl (c :: s) :=
  List.forall_mem_cons.mpr ⟨hc, hs⟩

/-- What numbers are written with are no control characters. -/
theorem of_inNumber (h : ∀ c ∈ s, Token.inNumber c = true) : NotControl s := by
  intro c hc
  have hnumber := h c hc
  simp only [Token.inNumber, Bool.or_eq_true, decide_eq_true_eq] at hnumber
  obtain ((((hdigit | rfl) | rfl) | rfl) | rfl) | rfl := hnumber
  · exact Nat.le_trans (by decide) (Char.isDigit_iff_toNat.mp hdigit).1
  all_goals decide

end NotControl

/-! ## scalars -/

/-- Control characters are the ones that are written with four digits, or with a letter of their
own. -/
theorem notControl_escape (c : Char) : NotControl (escape c) := by
  unfold escape
  split
  case h_8 =>
    split
    · next hc =>
      have hunit : ∀ n : Fin 0x20, NotControl (unitEscape (Char.ofNat n)) := by decide
      have hescape := hunit ⟨c.toNat, hc⟩
      rwa [Char.ofNat_toNat] at hescape
    · next hc => exact List.forall_mem_singleton.mpr (Nat.le_of_not_lt hc)
  all_goals decide

/-- So strings are free of them, with their quotation marks. -/
theorem notControl_quoted (s : String) : NotControl (quoted s) := by
  have hbody : NotControl (s.toList.flatMap escape) := by
    intro c hc
    obtain ⟨d, -, hc⟩ := List.mem_flatMap.mp hc
    exact notControl_escape d c hc
  exact (hbody.append (by decide)).cons (by decide)

/-- Integers are digits, perhaps with a sign. -/
theorem notControl_decimalInt (n : Int) : NotControl (Text.decimalInt n) := by
  have hdecimal (n : Nat) : NotControl (Text.decimal n) := by
    refine NotControl.of_inNumber fun c hc => ?_
    rw [Token.inNumber, (isWhole_decimal n).digits c hc]
    rfl
  cases n with
  | ofNat n => exact hdecimal n
  | negSucc n => exact (hdecimal (n + 1)).cons (by decide)

/-- A number that is not finite has no text of its own. -/
theorem notControl_render (x : Float) : NotControl (Layout.document.render x) := by
  by_cases hx : x.isFinite = true
  · exact NotControl.of_inNumber (Literal.denotes_render hx).inNumber
  · rw [isFinite_eq] at hx
    rw [Layout.render, ofFloat?_eq]
    cases hparts : parts x with
    | notANumber | infinity =>
        dsimp only
        split_ifs <;> decide
    | zero | finite =>
        rw [hparts] at hx
        contradiction

/-! ## values -/

mutual

/-- Between the parts of a value there is punctuation only. -/
theorem notControl_compact (v : Json) : NotControl v.compact := by
  cases v with
  | null => decide
  | bool b => cases b <;> decide
  | integer n => exact notControl_decimalInt n
  | real x => exact notControl_render x
  | string s => exact notControl_quoted s
  | array items => exact ((notControl_compactItems items).append (by decide)).cons (by decide)
  | object members =>
      exact ((notControl_compactMembers members).append (by decide)).cons (by decide)

theorem notControl_compactItems (vs : List Json) : NotControl (compactItems vs) := by
  match vs with
  | [] => exact nofun
  | [v] => exact notControl_compact v
  | v :: w :: ws =>
      rw [compactItems]
      · exact (notControl_compact v).append ((notControl_compactItems (w :: ws)).cons (by decide))
      · exact nofun

theorem notControl_compactMembers (ms : List (String × Json)) :
    NotControl (compactMembers ms) := by
  match ms with
  | [] => exact nofun
  | [(name, v)] => exact (notControl_quoted name).append ((notControl_compact v).cons (by decide))
  | (name, v) :: m :: ms =>
      rw [compactMembers]
      · refine ((notControl_quoted name).append ((notControl_compact v).cons (by decide))).append ?_
        exact (notControl_compactMembers (m :: ms)).cons (by decide)
      · exact nofun

end

end Playbook.Json
