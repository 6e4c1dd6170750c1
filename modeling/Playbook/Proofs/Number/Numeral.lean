import Playbook.Number.Numeral
import Playbook.Proofs.Text.Numeral

/-!
# Playbook.Proofs.Number.Numeral

Numerals written from their parts and taken apart again (`read_write`).
-/

namespace Playbook.Number

/-- The text of a sign. -/
def Sign.write : Sign → List Char
  | .absent => []
  | .plus => ['+']
  | .minus => ['-']

namespace Numeral

/-- A point and the digits behind it. -/
def writeFraction : Option (List Char) → List Char
  | none => []
  | some ds => '.' :: ds

/-- A power of ten. -/
def writeExponent : Option (Sign × List Char) → List Char
  | none => []
  | some (s, ds) => 'e' :: (s.write ++ ds)

/-- The text of a numeral. -/
def write (n : Numeral) : List Char :=
  n.sign.write ++ (n.whole ++ (writeFraction n.fraction ++ writeExponent n.exponent))

/-- A numeral with digits wherever digits belong, and with some in front. -/
structure WellFormed (n : Numeral) : Prop where
  whole : ∀ c ∈ n.whole, c.isDigit = true
  whole_ne : n.whole ≠ []
  fraction : ∀ ds, n.fraction = some ds → ∀ c ∈ ds, c.isDigit = true
  exponent : ∀ s ds, n.exponent = some (s, ds) → ∀ c ∈ ds, c.isDigit = true
  exponent_ne : ∀ s ds, n.exponent = some (s, ds) → ds ≠ []

/-- A text that does not go on with a digit. -/
def EndsDigits (s : List Char) : Prop := ∀ c ∈ s.head?, c.isDigit = false

theorem endsDigits_nil : EndsDigits [] := nofun

theorem endsDigits_cons {c : Char} {s : List Char} (hc : c.isDigit = false) :
    EndsDigits (c :: s) := by
  intro d hd
  rwa [← Option.some.inj hd]

theorem takeDigits_append {ds rest : List Char} (hds : ∀ c ∈ ds, c.isDigit = true)
    (hrest : EndsDigits rest) : takeDigits (ds ++ rest) = (ds, rest) := by
  obtain ⟨htake, hdrop⟩ := Text.takeWhile_append_of_ends hds hrest
  rw [takeDigits, List.span_eq_takeWhile_dropWhile, htake, hdrop]

theorem takeDigits_self {ds : List Char} (hds : ∀ c ∈ ds, c.isDigit = true) :
    takeDigits ds = (ds, []) := by
  have h := takeDigits_append hds endsDigits_nil
  rwa [List.append_nil] at h

theorem takeSign_append (s : Sign) {ds : List Char} (hds : ∀ c ∈ ds.head?, c.isDigit = true)
    (hne : ds ≠ []) : takeSign (s.write ++ ds) = (s, ds) := by
  obtain ⟨d, ds, rfl⟩ := List.exists_cons_of_ne_nil hne
  have hd : d.isDigit = true := hds d rfl
  cases s with
  | plus => rfl
  | minus => rfl
  | absent =>
      rw [Sign.write, List.nil_append]
      unfold takeSign
      split
      · next h =>
        obtain ⟨rfl, -⟩ := List.cons.inj h
        contradiction
      · next h =>
        obtain ⟨rfl, -⟩ := List.cons.inj h
        contradiction
      · rfl

theorem head?_append {ds rest : List Char} (hds : ∀ c ∈ ds, c.isDigit = true) (hne : ds ≠ []) :
    ∀ c ∈ (ds ++ rest).head?, c.isDigit = true := by
  obtain ⟨d, ds, rfl⟩ := List.exists_cons_of_ne_nil hne
  intro c hc
  rw [← Option.some.inj hc]
  exact hds d List.mem_cons_self

theorem endsDigits_writeExponent (e : Option (Sign × List Char)) :
    EndsDigits (writeExponent e) := by
  cases e with
  | none => exact endsDigits_nil
  | some p => exact endsDigits_cons rfl

section

variable {n : Numeral} (h : n.WellFormed)
include h

theorem takeExponent_write : takeExponent (writeExponent n.exponent) = (n.exponent, []) := by
  cases hexponent : n.exponent with
  | none => rfl
  | some p =>
      obtain ⟨s, ds⟩ := p
      have hds := h.exponent s ds hexponent
      have hne := h.exponent_ne s ds hexponent
      have hsign := takeSign_append s (fun c hc => hds c (List.mem_of_mem_head? hc)) hne
      rw [writeExponent, takeExponent, if_pos (.inl rfl), hsign]
      dsimp only
      rw [takeDigits_self hds]

/-- A fraction that is written is found, and what follows it is left. -/
theorem takeFraction_write :
    takeFraction (writeFraction n.fraction ++ writeExponent n.exponent) =
      (n.fraction, writeExponent n.exponent) := by
  cases hfraction : n.fraction with
  | none =>
      cases n.exponent with
      | none => rfl
      | some p => rfl
  | some ds =>
      rw [writeFraction, List.cons_append, takeFraction]
      rw [takeDigits_append (h.fraction ds hfraction) (endsDigits_writeExponent _)]

/-- **A numeral is taken apart into the parts that it was written from.** -/
theorem read_write : read n.write = some n := by
  have hfraction : EndsDigits (writeFraction n.fraction ++ writeExponent n.exponent) := by
    cases n.fraction with
    | none => exact endsDigits_writeExponent _
    | some ds => exact endsDigits_cons rfl
  rw [read, write, takeSign_append n.sign (head?_append h.whole h.whole_ne)
    (List.append_ne_nil_of_left_ne_nil h.whole_ne _)]
  dsimp only
  rw [takeDigits_append h.whole hfraction]
  dsimp only
  rw [takeFraction_write h]
  dsimp only
  rw [takeExponent_write h]
  obtain ⟨sign, whole, fraction, exponent⟩ := n
  match exponent with
  | none => rfl
  | some (s, ds) =>
      have hne := h.exponent_ne s ds rfl
      cases ds with
      | nil => contradiction
      | cons d ds => rfl

end

end Numeral

end Playbook.Number
