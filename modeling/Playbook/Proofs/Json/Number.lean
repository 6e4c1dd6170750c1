import Playbook.Json.Literal
import Playbook.Json.Token
import Playbook.Proofs.Number.Numeral
import Playbook.Proofs.Number.Shortest

/-!
# Playbook.Proofs.Json.Number

Numbers in documents: what is written for a finite number names this number
(`denotes_render`), and what is written for an integer of 64 bits names this integer
(`denotes_decimalInt`), so that no two numbers are written alike (`Denotes.unique`).
A numeral names the number that is nearest to it; what a reader computes from its
leading digits may be another one close by.

The text of a number is a numeral (`decimal_eq_write`).  Its digits stand on both
sides of the point, or in front of a power of ten, and zeros may have been added;
none of this changes the value (`value_documentNumeral`), and the value is all that
counts for the number that is named.
-/

namespace Playbook.Number

/-! ## digits -/

theorem value_zeros_append (k : Nat) (ds : List Char) :
    Text.value (List.replicate k '0' ++ ds) = Text.value ds := by
  rw [Text.value, Nat.ofDigitChars_append, Nat.ofDigitChars_replicate_zero, Nat.mul_zero]
  rfl

theorem value_append_zeros (ds : List Char) (k : Nat) :
    Text.value (ds ++ List.replicate k '0') = Text.value ds * 10 ^ k := by
  rw [Text.value, Nat.ofDigitChars_append, Nat.ofDigitChars_replicate_zero, Nat.mul_comm]
  rfl

namespace Decimal

variable (d : Decimal)

theorem isDigit_digits : ∀ c ∈ d.digits, c.isDigit = true := Text.isDigit_decimal _

theorem digits_ne_nil : d.digits ≠ [] := Text.decimal_ne_nil _

/-- The digits of a decimal are those of its coefficient. -/
theorem value_digits : Text.value d.digits = d.coefficient := Text.value_decimal _

end Decimal

/-! ## the numeral of a decimal -/

namespace Layout

/-- The digits around the point. -/
theorem value_split (d : Decimal) :
    (Text.value ((split d.digits d.order).1 ++ (split d.digits d.order).2) *
      10 ^ (-((split d.digits d.order).2.length : ℤ)) : ℚ) = d.value := by
  have hlength : 0 < d.digits.length := List.length_pos_of_ne_nil d.digits_ne_nil
  have hexponent : d.exponent = d.order + 1 - d.digits.length := by
    rw [Decimal.order]
    omega
  rw [Decimal.value, hexponent, ← d.value_digits, split]
  generalize d.digits = ds at hlength
  generalize d.order = order
  split
  · next horder =>
    have hzeros : '0' :: (List.replicate (-order - 1).toNat '0' ++ ds) =
        List.replicate ((-order - 1).toNat + 1) '0' ++ ds := by
      rw [List.replicate_succ, List.cons_append]
    rw [List.singleton_append, hzeros, value_zeros_append, List.length_append,
      List.length_replicate]
    congr 2
    push_cast
    omega
  · next horder =>
    dsimp only
    obtain hlt | hle := Nat.lt_or_ge (order.toNat + 1) ds.length
    · rw [Nat.sub_eq_zero_of_le hlt.le, List.replicate_zero, List.append_nil,
        List.take_append_drop, List.length_drop]
      congr 2
      omega
    · rw [List.take_of_length_le hle, List.drop_of_length_le hle, List.append_nil,
        value_append_zeros, List.length_nil]
      push_cast
      rw [mul_one, ← zpow_natCast]
      congr 2
      omega

end Layout

/-- The numeral that a decimal is written as in a document. -/
def documentNumeral (d : Decimal) : Numeral :=
  if Layout.document.positional d.order then
    let (whole, fraction) := Layout.split d.digits d.order
    ⟨.absent, whole, some (if fraction = [] then ['0'] else fraction), none⟩
  else
    ⟨.absent, d.digits.take 1, if d.digits.drop 1 = [] then none else some (d.digits.drop 1),
      some (if d.order < 0 then .minus else .plus, Text.decimal d.order.natAbs)⟩

/-- What is written for a decimal is the text of a numeral. -/
theorem decimal_eq_write (d : Decimal) :
    Layout.document.decimal d = (documentNumeral d).write := by
  rw [Layout.decimal, documentNumeral]
  split
  · dsimp only
    generalize Layout.split d.digits d.order = s
    obtain ⟨whole, fraction⟩ := s
    rw [Numeral.write]
    cases fraction with
    | nil => simp [Layout.joined, Layout.document, Sign.write, Numeral.writeFraction,
        Numeral.writeExponent]
    | cons c fraction => simp [Layout.joined, Sign.write, Numeral.writeFraction,
        Numeral.writeExponent]
  · obtain ⟨c, cs, h⟩ := List.exists_cons_of_ne_nil d.digits_ne_nil
    have hpower : Layout.power d.order =
        Numeral.writeExponent (some (if d.order < 0 then .minus else .plus,
          Text.decimal d.order.natAbs)) := by
      rw [Layout.power, Numeral.writeExponent]
      split <;> rfl
    rw [h, hpower, Numeral.write]
    cases cs with
    | nil => simp [Sign.write, Numeral.writeFraction]
    | cons c' cs => simp [Sign.write, Numeral.writeFraction]

/-- Neither the zeros behind the point nor the power of ten change the value. -/
theorem value_documentNumeral (d : Decimal) : (documentNumeral d).decimal.value = d.value := by
  rw [documentNumeral]
  split
  · have hsplit := Layout.value_split d
    generalize Layout.split d.digits d.order = s at hsplit
    obtain ⟨whole, fraction⟩ := s
    rw [← hsplit]
    cases fraction with
    | nil =>
        have hzero : Text.value (whole ++ ['0']) = Text.value whole * 10 :=
          value_append_zeros whole 1
        simp only [Numeral.decimal, Numeral.power, Decimal.value, if_pos, Option.getD_some,
          List.length_singleton, hzero, List.append_nil, List.length_nil]
        push_cast
        norm_num
        ring
    | cons c fraction => simp [Numeral.decimal, Numeral.power, Decimal.value]
  · have habs := Text.value_decimal d.order.natAbs
    obtain ⟨c, cs, hdigits⟩ := List.exists_cons_of_ne_nil d.digits_ne_nil
    have hexponent : d.exponent = d.order - cs.length := by
      rw [Decimal.order, hdigits, List.length_cons]
      push_cast
      omega
    have hpower : (if d.order < 0 then -(d.order.natAbs : ℤ) else d.order.natAbs) = d.order := by
      split <;> omega
    have hfraction : (if cs = [] then none else some cs).getD [] = cs := by
      cases cs <;> rfl
    have hvalue : d.value = Text.value (c :: cs) * 10 ^ (d.order - cs.length : ℤ) := by
      rw [Decimal.value, hexponent, ← d.value_digits, hdigits]
    rw [hvalue, hdigits]
    by_cases hneg : d.order < 0
    · rw [if_pos hneg] at hpower
      simp only [Numeral.decimal, Numeral.power, Decimal.value, List.take_succ_cons,
        List.take_zero, List.drop_succ_cons, List.drop_zero, if_pos hneg, habs, hpower, hfraction,
        List.singleton_append]
    · rw [if_neg hneg] at hpower
      simp only [Numeral.decimal, Numeral.power, Decimal.value, List.take_succ_cons,
        List.take_zero, List.drop_succ_cons, List.drop_zero, if_neg hneg, habs, hpower, hfraction,
        List.singleton_append]

/-- Digits as they may stand in front of the point. -/
structure IsWhole (ds : List Char) : Prop where
  digits : ∀ c ∈ ds, c.isDigit = true
  nonempty : ds ≠ []
  head : ds.head? ≠ some '0' ∨ ds.length = 1

theorem isWhole_decimal (n : Nat) : IsWhole (Text.decimal n) where
  digits := Text.isDigit_decimal n
  nonempty := Text.decimal_ne_nil n
  head := by
    obtain rfl | hn := n.eq_zero_or_pos
    · exact .inr rfl
    · exact .inl (Text.head?_decimal hn)

/-- The digits in front of the point have no useless zero, and those behind it are digits. -/
theorem isWhole_split {d : Decimal} (hd : 0 < d.coefficient) :
    IsWhole (Layout.split d.digits d.order).1 ∧
      ∀ c ∈ (Layout.split d.digits d.order).2, c.isDigit = true := by
  have hzeros (k : Nat) : ∀ c ∈ List.replicate k '0', c.isDigit = true := by
    intro c hc
    rw [(List.mem_replicate.mp hc).2]
    rfl
  have hdigits := d.isDigit_digits
  have hhead : d.digits.head? ≠ some '0' := Text.head?_decimal hd
  obtain ⟨c, cs, h⟩ := List.exists_cons_of_ne_nil d.digits_ne_nil
  rw [h] at hdigits hhead ⊢
  rw [Layout.split]
  split
  · refine ⟨isWhole_decimal 0, ?_⟩
    exact List.forall_mem_append.mpr ⟨hzeros _, hdigits⟩
  · dsimp only
    rw [List.take_succ_cons]
    refine ⟨⟨?_, nofun, .inl hhead⟩, fun c hc => hdigits c (List.mem_of_mem_drop hc)⟩
    rw [← List.take_succ_cons]
    exact List.forall_mem_append.mpr ⟨fun c hc => hdigits c (List.mem_of_mem_take hc), hzeros _⟩

end Playbook.Number

namespace Playbook.Json.Literal

open Number

/-- A numeral that a number literal may be. -/
structure IsNumeral (n : Numeral) : Prop where
  sign : n.sign ≠ .plus
  whole : IsWhole n.whole
  fraction : ∀ ds, n.fraction = some ds → ds ≠ [] ∧ ∀ c ∈ ds, c.isDigit = true
  exponent : ∀ s ds, n.exponent = some (s, ds) → ds ≠ [] ∧ ∀ c ∈ ds, c.isDigit = true

namespace IsNumeral

variable {n : Numeral} (h : IsNumeral n)
include h

theorem wellFormed : n.WellFormed where
  whole := h.whole.digits
  whole_ne := h.whole.nonempty
  fraction ds hds := (h.fraction ds hds).2
  exponent s ds hds := (h.exponent s ds hds).2
  exponent_ne s ds hds := (h.exponent s ds hds).1

/-- A numeral is found again in its own text. -/
theorem numeral?_write : numeral? n.write = some n := by
  have hstrict : isStrict n = true := by
    have hfraction : n.fraction ≠ some [] := fun hnil => (h.fraction [] hnil).1 rfl
    have hhead := h.whole.head
    simp only [isStrict, Bool.and_eq_true, Bool.or_eq_true, decide_eq_true_eq]
    exact ⟨⟨⟨h.sign, h.whole.nonempty⟩, hhead⟩, hfraction⟩
  rw [numeral?, Numeral.read_write h.wellFormed, Option.filter_some, if_pos hstrict]

/-- A numeral is one token. -/
theorem inNumber_write : ∀ c ∈ n.write, Token.inNumber c = true := by
  have hdigit {c : Char} (hc : c.isDigit = true) : Token.inNumber c = true := by
    simp [Token.inNumber, hc]
  have hsign (s : Sign) : ∀ c ∈ s.write, Token.inNumber c = true := by
    cases s <;> simp [Sign.write, Token.inNumber]
  have hfraction : ∀ c ∈ Numeral.writeFraction n.fraction, Token.inNumber c = true := by
    cases hsome : n.fraction with
    | none => exact fun _ hc => absurd hc List.not_mem_nil
    | some ds =>
        exact List.forall_mem_cons.mpr ⟨rfl, fun c hc => hdigit ((h.fraction ds hsome).2 c hc)⟩
  have hexponent : ∀ c ∈ Numeral.writeExponent n.exponent, Token.inNumber c = true := by
    cases hsome : n.exponent with
    | none => exact fun _ hc => absurd hc List.not_mem_nil
    | some p =>
        obtain ⟨s, ds⟩ := p
        refine List.forall_mem_cons.mpr ⟨rfl, List.forall_mem_append.mpr ⟨hsign s, ?_⟩⟩
        exact fun c hc => hdigit ((h.exponent s ds hsome).2 c hc)
  rw [Numeral.write, List.forall_mem_append, List.forall_mem_append, List.forall_mem_append]
  exact ⟨hsign _, fun c hc => hdigit (h.whole.digits c hc), hfraction, hexponent⟩

/-- There is something to read in every numeral. -/
theorem write_ne_nil : n.write ≠ [] := by
  rw [Numeral.write]
  exact List.append_ne_nil_of_right_ne_nil _
    (List.append_ne_nil_of_left_ne_nil h.whole.nonempty _)

end IsNumeral

/-- So what is written for a decimal is a numeral as JSON has it. -/
theorem isNumeral_documentNumeral {d : Decimal} (hd : 0 < d.coefficient) :
    IsNumeral (documentNumeral d) := by
  rw [documentNumeral]
  split
  · obtain ⟨hwhole, hfraction⟩ := isWhole_split hd
    generalize Layout.split d.digits d.order = s at hwhole hfraction
    obtain ⟨whole, fraction⟩ := s
    refine ⟨nofun, hwhole, ?_, nofun⟩
    intro ds hds
    obtain rfl := Option.some.inj hds
    split
    · exact ⟨List.cons_ne_nil _ _, (isWhole_decimal 0).digits⟩
    · next hne => exact ⟨hne, hfraction⟩
  · have hdigits := d.isDigit_digits
    have hhead : d.digits.head? ≠ some '0' := Text.head?_decimal hd
    obtain ⟨c, cs, h⟩ := List.exists_cons_of_ne_nil d.digits_ne_nil
    rw [h] at hdigits hhead ⊢
    obtain ⟨hc, hcs⟩ := List.forall_mem_cons.mp hdigits
    refine ⟨nofun, ⟨List.forall_mem_singleton.mpr hc, nofun, .inr rfl⟩, ?_, ?_⟩
    · intro ds hds
      cases cs with
      | nil => simp at hds
      | cons c' cs =>
          obtain rfl := Option.some.inj hds
          exact ⟨List.cons_ne_nil _ _, hcs⟩
    · intro s ds hds
      obtain ⟨-, rfl⟩ := Prod.mk.inj (Option.some.inj hds)
      exact ⟨(isWhole_decimal _).nonempty, (isWhole_decimal _).digits⟩

/-! ## what literals name -/

/-- The number that a numeral names: an integer, if it is one of 64 bits, and otherwise the
nearest binary64 number. -/
def named (n : Numeral) : Json :=
  match integer? n with
  | some i => .integer i
  | none => .real n.toFloat

/-- A text that is one token and a numeral for this number. -/
structure Denotes (s : List Char) (v : Json) : Prop where
  nonempty : s ≠ []
  inNumber : ∀ c ∈ s, Token.inNumber c = true
  names : ∃ n, numeral? s = some n ∧ named n = v

/-- A text names one number at most. -/
theorem Denotes.unique {s : List Char} {v w : Json} (hv : Denotes s v) (hw : Denotes s w) :
    v = w := by
  obtain ⟨n, hn, rfl⟩ := hv.names
  obtain ⟨n', hn', rfl⟩ := hw.names
  rw [Option.some.inj (hn.symm.trans hn')]

/-- A numeral that a literal may be names its number as it is written. -/
theorem IsNumeral.denotes {n : Numeral} {v : Json} (h : IsNumeral n) (hvalue : named n = v) :
    Denotes n.write v where
  nonempty := h.write_ne_nil
  inNumber := h.inNumber_write
  names := ⟨n, h.numeral?_write, hvalue⟩

/-- A numeral with a fraction or an exponent names the nearest number. -/
theorem denotes_real {n : Numeral} (h : IsNumeral n) (hinteger : n.isInteger = false) :
    Denotes n.write (.real n.toFloat) := by
  have hnone : integer? n = none := by
    rw [integer?, hinteger]
    rfl
  refine h.denotes ?_
  rw [named, hnone]

/-- It has a fraction or an exponent, so it is never taken for an integer. -/
theorem isInteger_documentNumeral (d : Decimal) : (documentNumeral d).isInteger = false := by
  rw [documentNumeral]
  split
  · rfl
  · simp [Numeral.isInteger]

/-- A decimal is written without a sign, and a minus sign may be put in front. -/
theorem sign_documentNumeral (d : Decimal) : (documentNumeral d).sign = .absent := by
  rw [documentNumeral]
  split <;> rfl

/-- The sign stands in front of everything else. -/
theorem write_minus {n : Numeral} (h : n.sign = .absent) :
    { n with sign := .minus }.write = '-' :: n.write := by
  rw [Numeral.write, Numeral.write, h]
  rfl

theorem IsNumeral.minus {n : Numeral} (h : IsNumeral n) : IsNumeral { n with sign := .minus } where
  sign := nofun
  whole := h.whole
  fraction := h.fraction
  exponent := h.exponent

/-- The decimal of a positive number, with or without a minus sign in front. -/
theorem denotes_decimal {d : Decimal} {x : Float} (hx : x.isFinite = true)
    (hzero : place (parts x) ≠ 0) (hread : d.toFloat = x) :
    Denotes (Layout.document.decimal d) (.real x) ∧
      Denotes ('-' :: Layout.document.decimal d) (.real (-x)) := by
  have hnumeral := isNumeral_documentNumeral (Decimal.coefficient_pos (hread ▸ hzero))
  have hsign := sign_documentNumeral d
  have hinteger := isInteger_documentNumeral d
  have hdecimal : (documentNumeral d).decimal.toFloat = x := by
    have hplace := (Decimal.toFloat_eq_iff hx hzero).mp hread
    rw [← value_documentNumeral] at hplace
    exact (Decimal.toFloat_eq_iff hx hzero).mpr hplace
  rw [decimal_eq_write, ← write_minus hsign]
  constructor
  · have hfloat : (documentNumeral d).toFloat = x := by
      rw [Numeral.toFloat, hdecimal, Numeral.signed, hsign]
      rfl
    exact hfloat ▸ denotes_real hnumeral hinteger
  · have hfloat : { documentNumeral d with sign := .minus }.toFloat = -x := by
      rw [← hdecimal]
      rfl
    exact hfloat ▸ denotes_real hnumeral.minus hinteger

/-- Zero is no number that a decimal is searched for. -/
theorem denotes_zero :
    Denotes (Layout.document.decimal ⟨0, 0⟩) (.real (ofParts (.zero .positive))) ∧
      Denotes ('-' :: Layout.document.decimal ⟨0, 0⟩) (.real (ofParts (.zero .negative))) := by
  have hwrite : Layout.document.decimal ⟨0, 0⟩ =
      (⟨.absent, ['0'], some ['0'], none⟩ : Numeral).write := rfl
  have hnumeral : IsNumeral ⟨.absent, ['0'], some ['0'], none⟩ := by
    refine ⟨nofun, isWhole_decimal 0, ?_, nofun⟩
    intro ds hds
    obtain rfl := Option.some.inj hds
    exact ⟨(isWhole_decimal 0).nonempty, (isWhole_decimal 0).digits⟩
  have hpositive : (⟨.absent, ['0'], some ['0'], none⟩ : Numeral).toFloat =
      ofParts (.zero .positive) := parts_inj (by rfl)
  have hnegative : (⟨.minus, ['0'], some ['0'], none⟩ : Numeral).toFloat =
      ofParts (.zero .negative) := parts_inj (by rfl)
  rw [hwrite, ← write_minus rfl, ← hpositive, ← hnegative]
  exact ⟨denotes_real hnumeral rfl, denotes_real hnumeral.minus rfl⟩

/-- **What is written for a finite number names it.** -/
theorem denotes_render {x : Float} (hx : x.isFinite = true) :
    Denotes (Layout.document.render x) (.real x) := by
  have hcanonical := canonical_parts x
  have hrange := inRange_parts x
  have hself := ofParts_parts x
  have habs := abs_eq x
  rw [Layout.render, ofFloat?_eq]
  cases hparts : parts x with
  | notANumber => exact absurd hparts (isFinite_ne hx)
  | infinity s =>
      rw [isFinite_eq, hparts] at hx
      contradiction
  | zero s =>
      rw [hparts] at hself
      rw [← hself]
      cases s with
      | positive => exact denotes_zero.1
      | negative => exact denotes_zero.2
  | finite s m e hm =>
      rw [hparts] at hcanonical hrange hself habs
      have hmagnitude : parts x.abs = .finite .positive m e hm := by
        rw [habs]
        exact parts_ofParts hcanonical hrange
      have hfinite : x.abs.isFinite = true := by
        rw [isFinite_eq, hmagnitude]
        rfl
      have hplace : place (parts x.abs) = m * 2 ^ e := by
        rw [hmagnitude]
        rfl
      have hzero : place (parts x.abs) ≠ 0 := by
        rw [hplace]
        positivity
      obtain ⟨hpositive, hnegative⟩ := denotes_decimal hfinite hzero
        (toFloat_shortest .toEven (v := ⟨s == .negative, m, e⟩) hfinite hplace hzero)
      dsimp only
      rw [if_neg hm.ne']
      cases s with
      | positive =>
          have hx : x.abs = x := parts_inj (by rw [hmagnitude, hparts])
          rw [hx] at hpositive ⊢
          exact hpositive
      | negative =>
          have hx : -x.abs = x := parts_inj (by rw [parts_neg, hmagnitude, hparts]; rfl)
          rw [hx] at hnegative
          exact hnegative

/-- **What is written for an integer of 64 bits names it.** -/
theorem denotes_decimalInt {i : Int} (hlow : -0x8000000000000000 ≤ i)
    (hhigh : i ≤ 0xFFFFFFFFFFFFFFFF) : Denotes (Text.decimalInt i) (.integer i) := by
  have hdigits (n : Nat) : IsNumeral ⟨.absent, Text.decimal n, none, none⟩ :=
    ⟨nofun, isWhole_decimal n, nofun, nofun⟩
  have hwrite (n : Nat) :
      (⟨.absent, Text.decimal n, none, none⟩ : Numeral).write = Text.decimal n := by
    simp [Numeral.write, Sign.write, Numeral.writeFraction, Numeral.writeExponent]
  cases i with
  | ofNat n =>
      have hhigh : (n : ℤ) ≤ 0xFFFFFFFFFFFFFFFF := hhigh
      have hinteger : integer? ⟨.absent, Text.decimal n, none, none⟩ = some (.ofNat n) := by
        simp only [integer?, Numeral.isInteger, Option.isNone_none, Bool.and_self, if_true,
          Text.value_decimal, reduceCtorEq, if_false]
        rw [if_pos (by omega)]
        rfl
      rw [Text.decimalInt, ← hwrite]
      refine (hdigits n).denotes ?_
      rw [named, hinteger]
  | negSucc n =>
      have hinteger : integer? ⟨.minus, Text.decimal (n + 1), none, none⟩ = some (.negSucc n) := by
        simp only [integer?, Numeral.isInteger, Option.isNone_none, Bool.and_self, if_true,
          Text.value_decimal]
        rw [if_pos (by omega)]
        rfl
      rw [Text.decimalInt, ← hwrite, ← write_minus rfl]
      refine (hdigits (n + 1)).minus.denotes ?_
      rw [named, hinteger]

end Playbook.Json.Literal
