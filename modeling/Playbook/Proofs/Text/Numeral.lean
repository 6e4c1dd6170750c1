import Mathlib
import Playbook.Text

/-!
# Playbook.Proofs.Text.Numeral

Runs of digits, read and written.  `numberUpTo` takes a numeral off the front of
a text that goes on with something else; `padded` writes one.  A plain numeral has no
zeros in front: it is the one that `decimal` writes (`plainNumeral_eq_some_iff`).
-/

namespace Playbook.Text

/-- A run of characters of one kind in front of something else is split off as a whole. -/
theorem takeWhile_append_of_ends {p : Char → Bool} {s rest : List Char}
    (hs : ∀ c ∈ s, p c = true) (hrest : ∀ c ∈ rest.head?, p c = false) :
    (s ++ rest).takeWhile p = s ∧ (s ++ rest).dropWhile p = rest := by
  rw [List.takeWhile_append_of_pos hs, List.dropWhile_append_of_pos hs]
  cases rest with
  | nil => exact ⟨List.append_nil s, rfl⟩
  | cons c rest =>
      have hc : ¬p c = true := by
        rw [hrest c rfl]
        exact Bool.false_ne_true
      rw [List.takeWhile_cons_of_neg hc, List.dropWhile_cons_of_neg hc, List.append_nil]
      exact ⟨rfl, rfl⟩

/-- One to `most` digits, with their value. -/
structure IsNumeral (most : Nat) (ds : List Char) (n : Nat) : Prop where
  digits : ∀ d ∈ ds, d.isDigit = true
  nonempty : ds ≠ []
  length_le : ds.length ≤ most
  value_eq : value ds = n

/-! ## digits -/

/-- The digits stand one after the other, from the code of zero. -/
theorem toNat_of_isDigit {c : Char} (hc : c.isDigit = true) : 48 ≤ c.toNat ∧ c.toNat ≤ 57 := by
  simp only [Char.isDigit, ge_iff_le, Bool.and_eq_true, decide_eq_true_eq] at hc
  exact hc

/-- One more digit at the end counts itself, and ten times the rest. -/
theorem value_append_singleton (ds : List Char) (c : Char) :
    value (ds ++ [c]) = 10 * value ds + (c.toNat - 48) := by
  rw [value, Nat.ofDigitChars_append, Nat.ofDigitChars_cons, Nat.ofDigitChars_nil]
  rfl

/-- Digits write a number below the power of ten for their count. -/
theorem value_lt {ds : List Char} (h : ∀ d ∈ ds, d.isDigit = true) : value ds < 10 ^ ds.length := by
  induction ds using List.reverseRecOn with
  | nil => decide
  | append_singleton ds d ih =>
      have hds := ih fun c hc => h c (List.mem_append_left _ hc)
      obtain ⟨-, hhigh⟩ := toNat_of_isDigit (h d (by simp))
      rw [value_append_singleton, List.length_append, List.length_singleton, pow_succ]
      omega

/-! ## reading -/

/-- The digits are taken off the front of the text. -/
theorem digitsUpTo_spec (most : Nat) (s : List Char) :
    (∀ d ∈ (digitsUpTo most s).1, d.isDigit = true) ∧ (digitsUpTo most s).1.length ≤ most ∧
      (digitsUpTo most s).1 ++ (digitsUpTo most s).2 = s := by
  induction most, s using digitsUpTo.induct with
  | case1 most c rest hc ds tail heq ih =>
      rw [heq] at ih
      rw [digitsUpTo, if_pos hc, heq]
      obtain ⟨hdigits, hlength, happend⟩ := ih
      refine ⟨?_, ?_, ?_⟩
      · intro d hd
        obtain rfl | hd := List.mem_cons.mp hd
        · exact hc
        · exact hdigits d hd
      · exact Nat.succ_le_succ hlength
      · rw [List.cons_append, happend]
  | case2 most c rest hc =>
      rw [digitsUpTo, if_neg hc]
      exact ⟨by simp, by simp, rfl⟩
  | case3 most s h =>
      rw [digitsUpTo]
      · exact ⟨by simp, by simp, rfl⟩
      · exact h

/-- Digits in front of something else are taken as a whole. -/
theorem digitsUpTo_append {most : Nat} {ds rest : List Char} (hd : ∀ d ∈ ds, d.isDigit = true)
    (hlength : ds.length ≤ most) (hrest : ∀ c ∈ rest.head?, c.isDigit = false) :
    digitsUpTo most (ds ++ rest) = (ds, rest) := by
  induction ds generalizing most with
  | nil =>
      cases rest with
      | nil => cases most <;> rfl
      | cons c rest =>
          have hc : c.isDigit = false := hrest c rfl
          cases most with
          | zero => rfl
          | succ most => rw [List.nil_append, digitsUpTo, if_neg (by rw [hc]; decide)]
  | cons d ds ih =>
      cases most with
      | zero => contradiction
      | succ most =>
          have hlength' : ds.length ≤ most := Nat.le_of_succ_le_succ hlength
          rw [List.cons_append, digitsUpTo, if_pos (hd d List.mem_cons_self),
            ih (fun d' h => hd d' (List.mem_cons_of_mem d h)) hlength']

/-- What is read is a numeral in front. -/
theorem exists_of_numberUpTo {most n : Nat} {s rest : List Char}
    (h : numberUpTo most s = some (n, rest)) : ∃ ds, IsNumeral most ds n ∧ s = ds ++ rest := by
  obtain ⟨hdigits, hlength, happend⟩ := digitsUpTo_spec most s
  unfold numberUpTo at h
  split at h
  · contradiction
  · next ds rest' hne heq =>
    obtain ⟨rfl, rfl⟩ := Prod.mk.inj (Option.some.inj h)
    rw [heq] at hdigits hlength happend
    exact ⟨ds, ⟨hdigits, hne, hlength, rfl⟩, happend.symm⟩

/-- A numeral in front of something else is read. -/
theorem numberUpTo_append {most n : Nat} {ds rest : List Char} (h : IsNumeral most ds n)
    (hrest : ∀ c ∈ rest.head?, c.isDigit = false) :
    numberUpTo most (ds ++ rest) = some (n, rest) := by
  rw [numberUpTo, digitsUpTo_append h.digits h.length_le hrest]
  split
  · next heq => exact absurd (Prod.mk.inj heq).1 h.nonempty
  · next heq =>
    obtain ⟨rfl, rfl⟩ := Prod.mk.inj heq
    rw [h.value_eq]

/-! ## writing -/

theorem isDigit_decimal (n : Nat) : ∀ d ∈ decimal n, d.isDigit = true := fun _ =>
  Nat.isDigit_of_mem_toDigits (by decide) (by decide)

theorem decimal_ne_nil (n : Nat) : decimal n ≠ [] := Nat.toDigits_ne_nil

/-- A number is the value of its own numeral. -/
theorem value_decimal (n : Nat) : value (decimal n) = n := Nat.ofDigitChars_ten_toDigits

/-- There is no zero in front of other digits. -/
theorem head?_decimal {n : Nat} (hn : 0 < n) : (decimal n).head? ≠ some '0' := by
  induction n using Nat.strong_induction_on with
  | h n ih =>
      obtain hlt | hle := Nat.lt_or_ge n 10
      · have hdigit : ∀ d : Fin 10, 0 < d.val → Nat.digitChar d ≠ '0' := by decide
        rw [decimal, Nat.toDigits_of_lt_base hlt, List.head?_cons, Ne, Option.some_inj]
        exact hdigit ⟨n, hlt⟩ hn
      · have hrest := ih (n / 10) (by omega) (by omega)
        obtain ⟨d, ds, h⟩ := List.exists_cons_of_ne_nil (decimal_ne_nil (n / 10))
        rw [decimal] at h hrest ⊢
        rw [Nat.toDigits_of_base_le (by decide) hle]
        rwa [h] at hrest ⊢

/-- A number that fits is filled up to the width. -/
theorem length_padded {width n : Nat} (hwidth : 0 < width) (hn : n < 10 ^ width) :
    (padded width n).length = width := by
  have hlength : (decimal n).length ≤ width :=
    (Nat.length_toDigits_le_iff (by decide) hwidth).mpr hn
  rw [padded, List.length_append, List.length_replicate]
  omega

/-- A number is written with as many digits as it takes. -/
theorem isNumeral_padded_of_le {width most n : Nat} (h : (padded width n).length ≤ most) :
    IsNumeral most (padded width n) n where
  digits d hd := by
    rw [padded, List.mem_append, List.mem_replicate] at hd
    obtain ⟨-, rfl⟩ | hd := hd
    · rfl
    · exact isDigit_decimal n d hd
  nonempty h := decimal_ne_nil n (List.append_eq_nil_iff.mp h).2
  length_le := h
  value_eq := by
    rw [value, padded, Nat.ofDigitChars_append, Nat.ofDigitChars_replicate_zero]
    exact value_decimal n

/-- A number that fits into a width is written with that width. -/
theorem isNumeral_padded {width n : Nat} (hwidth : 0 < width) (hn : n < 10 ^ width) :
    IsNumeral width (padded width n) n :=
  isNumeral_padded_of_le (length_padded hwidth hn).le

/-! ## plain numerals -/

/-- A digit is written back as itself. -/
theorem decimal_digit {c : Char} (hc : c.isDigit = true) : decimal (c.toNat - 48) = [c] := by
  obtain ⟨hlow, hhigh⟩ := toNat_of_isDigit hc
  have hdigits : ∀ d : Fin 10, Nat.digitChar d = Char.ofNat (48 + d) := by decide
  have hdigit := hdigits ⟨c.toNat - 48, by omega⟩
  dsimp only at hdigit
  rw [decimal, Nat.toDigits_of_lt_base (by omega), hdigit, Nat.add_sub_cancel' hlow,
    Char.ofNat_toNat]

/-- Digits without a zero in front are written back. -/
theorem decimal_value {d : Char} {ds : List Char} (hd : ∀ c ∈ d :: ds, c.isDigit = true)
    (hzero : d ≠ '0') : 0 < value (d :: ds) ∧ decimal (value (d :: ds)) = d :: ds := by
  induction ds using List.reverseRecOn with
  | nil =>
      have hdigit := hd d List.mem_cons_self
      have hvalue : value [d] = d.toNat - 48 := by
        rw [← List.nil_append [d], value_append_singleton]
        exact Nat.zero_add _
      have hne : d.toNat ≠ 48 := fun h => hzero (Char.toNat_inj.mp h)
      obtain ⟨hlow, -⟩ := toNat_of_isDigit hdigit
      rw [hvalue]
      exact ⟨by omega, decimal_digit hdigit⟩
  | append_singleton ds c ih =>
      have hc := hd c (by simp)
      obtain ⟨hpos, hwritten⟩ := ih fun c' h => hd c' (List.mem_append_left [c] h)
      obtain ⟨-, hhigh⟩ := toNat_of_isDigit hc
      rw [← List.cons_append, value_append_singleton]
      refine ⟨by omega, ?_⟩
      rw [decimal, ← Nat.toDigits_append_toDigits (by decide) hpos (by omega)]
      exact congrArg₂ _ hwritten (decimal_digit hc)

/-- A numeral that does not begin with zero is read if it is made of digits. -/
theorem plainNumeral_cons {d : Char} (ds : List Char) (hzero : d ≠ '0') :
    plainNumeral (d :: ds) =
      if (d :: ds).all Char.isDigit then some (value (d :: ds)) else none := by
  unfold plainNumeral
  split
  · next h => exact absurd (List.cons.inj h).1 hzero
  · next h => exact absurd (List.cons.inj h).1 hzero
  · contradiction
  · rfl

/-- **Plain numerals** are the ones that are written. -/
theorem plainNumeral_eq_some_iff {s : List Char} {n : Nat} :
    plainNumeral s = some n ↔ s = decimal n := by
  constructor
  · intro h
    match s with
    | [] => contradiction
    | d :: ds =>
        by_cases hzero : d = '0'
        · subst hzero
          cases ds with
          | nil =>
              obtain rfl := Option.some.inj h
              rfl
          | cons => contradiction
        · rw [plainNumeral_cons ds hzero] at h
          obtain ⟨hdigits, h⟩ := Option.ite_none_right_eq_some.mp h
          obtain rfl := Option.some.inj h
          exact (decimal_value (List.all_eq_true.mp hdigits) hzero).2.symm
  · rintro rfl
    obtain rfl | hn := n.eq_zero_or_pos
    · rfl
    · have hhead := head?_decimal hn
      have hdigits : (decimal n).all Char.isDigit = true :=
        List.all_eq_true.mpr (isDigit_decimal n)
      have hvalue := value_decimal n
      obtain ⟨d, ds, hds⟩ := List.exists_cons_of_ne_nil (decimal_ne_nil n)
      rw [hds] at hhead hdigits hvalue ⊢
      rw [List.head?_cons, Ne, Option.some_inj] at hhead
      rw [plainNumeral_cons ds hhead, if_pos hdigits, hvalue]

/-- So different numbers have different numerals. -/
theorem decimal_injective : Function.Injective decimal := by
  intro m n h
  have hm : plainNumeral (decimal m) = some m := plainNumeral_eq_some_iff.mpr rfl
  rw [h, plainNumeral_eq_some_iff.mpr rfl] at hm
  exact (Option.some.inj hm).symm

end Playbook.Text
