import Mathlib
import Playbook.Number.Exact

/-!
# Playbook.Proofs.Number.Parts

Binary64 numbers by their parts.  The operations on numbers are defined on the
parts of a number: a sign, a mantissa and an exponent, or the word that it is
infinite, a zero or no number.

Packing parts into a word rounds nothing away that came out of a word
(`pack_unpack_of_valid`), and it commutes with the sign (`unpack_pack_neg`).  So a law of
an operation on parts is a law of the operation on numbers.
-/

namespace Playbook.Number

open Float.Model Float.Model.UnpackedFloat

/-! ## parts of fields -/

/-- The implicit bit stands in front of the stored mantissa. -/
theorem toNat_one_append (m : BitVec 52) : (1#1 ++ m).toNat = 2 ^ 52 + m.toNat := by
  rw [BitVec.toNat_append, ← Nat.shiftLeft_add_eq_or_of_lt m.isLt, BitVec.toNat_one (by decide),
    Nat.shiftLeft_eq, Nat.one_mul]

/-- The parts that fields stand for. -/
def ofFields (s : Sign) (e : BitVec 11) (m : BitVec 52) : UnpackedFloat :=
  if e = -1#11 then
    if m = 0#52 then .infinity s else .notANumber
  else if e = 0#11 then
    if h : 0 < m.toNat then .finite s m.toNat (-1074) h else .zero s
  else .finite s (2 ^ 52 + m.toNat) (e.toNat - 1075) (by omega)

/-- Fields that are put together come apart again. -/
theorem unpack_packComponents (s : Sign) (e : BitVec 11) (m : BitVec 52) :
    UnpackedFloat.unpack Format.binary64 (packComponents Format.binary64 s e m) =
      ofFields s e m := by
  rw [UnpackedFloat.unpack]
  simp only [unpackMantissa_packComponents, unpackExponent_packComponents,
    unpackSign_packComponents, Sign.ofBitVec_toBitVec]
  unfold ofFields
  have hbias : ((Format.binary64.exponentBias : Nat) : Int) = 1023 := rfl
  have hwidth : ((Format.binary64.mantissaBitsWithoutImplicit : Nat) : Int) = 52 := rfl
  by_cases hmax : e = -1#11
  · rw [if_pos hmax, if_pos hmax]
  · rw [if_neg hmax, if_neg hmax]
    by_cases hzero : e = 0#11
    · rw [if_pos hzero, if_pos hzero]
      by_cases hm : m = 0#52
      · rw [dif_pos hm, dif_neg (by simp [hm])]
      · have hpos : 0 < m.toNat := by simpa [BitVec.toNat_pos, BitVec.pos_iff_ne_zero]
        rw [dif_neg hm, dif_pos hpos, hbias, hwidth, hzero]
        rfl
    · rw [if_neg hzero, if_neg hzero, hbias, hwidth]
      congr 1
      exact toNat_one_append m

/-- The sign stands in a field of its own. -/
theorem ofFields_neg (s : Sign) (e : BitVec 11) (m : BitVec 52) :
    ofFields (-s) e m = (ofFields s e m).neg := by
  unfold ofFields
  repeat' split
  all_goals rfl

/-- The parts of fields are packed into these fields again. -/
theorem pack_ofFields (s : Sign) (e : BitVec 11) (m : BitVec 52)
    (h : ofFields s e m ≠ .notANumber) :
    UnpackedFloat.pack Format.binary64 (ofFields s e m) = packComponents Format.binary64 s e m := by
  unfold ofFields at h ⊢
  by_cases hmax : e = -1#11
  · rw [if_pos hmax] at h ⊢
    by_cases hm : m = 0#52
    · rw [if_pos hm, hmax, hm]
      rfl
    · rw [if_neg hm] at h
      contradiction
  · have hbias : ((Format.binary64.exponentBias : Nat) : Int) = 1023 := rfl
    have hwidth : Format.binary64.mantissaBits = 53 := rfl
    have hlt : m.toNat < 2 ^ 52 := m.isLt
    rw [if_neg hmax]
    by_cases hzero : e = 0#11
    · rw [if_pos hzero]
      by_cases hm : 0 < m.toNat
      · -- a subnormal number: the mantissa is too short for an implicit bit
        have hlog : m.toNat.log2 < 52 := (Nat.log2_lt (by omega)).mpr hlt
        rw [dif_pos hm, UnpackedFloat.pack]
        rw [if_neg (by decide), hwidth, if_neg (by omega), hzero, BitVec.ofNat_toNat,
          BitVec.setWidth_eq]
      · rw [dif_neg hm, hzero, show m = 0#52 from BitVec.eq_of_toNat_eq (by simpa using hm)]
        rfl
    · have hmax' : e.toNat ≠ 2047 := fun h => hmax (BitVec.eq_of_toNat_eq (by simpa using h))
      have hbiased : ((e.toNat : Int) - 1075 + (Format.binary64.exponentBias : Nat)
          + (Format.binary64.mantissaBitsWithoutImplicit : Nat)).toNat = e.toNat := by
        change ((e.toNat : Int) - 1075 + 1023 + 52).toNat = e.toNat
        omega
      have hlog : (2 ^ 52 + m.toNat).log2 = 52 :=
        (Nat.log2_eq_iff (by omega)).mpr ⟨by omega, by omega⟩
      have helt : e.toNat < 2 ^ 11 := e.isLt
      rw [if_neg hzero, UnpackedFloat.pack]
      simp only [hbiased]
      rw [if_neg (by omega), if_pos (by rw [hlog, hwidth]), BitVec.ofNat_toNat, BitVec.setWidth_eq]
      congr 1
      apply BitVec.eq_of_toNat_eq
      rw [BitVec.toNat_ofNat]
      omega

/-- A mantissa of full width with an exponent in range has fields. -/
theorem finite_eq_ofFields (s : Sign) (m : Nat) (e : Int) (h : 0 < m) (hm : 2 ^ 52 ≤ m)
    (hm' : m < 2 ^ 53) (he : -1074 ≤ e) (he' : e ≤ 971) :
    UnpackedFloat.finite s m e h =
      ofFields s (BitVec.ofNat 11 (e + 1075).toNat) (BitVec.ofNat 52 m) := by
  have hexp : (BitVec.ofNat 11 (e + 1075).toNat).toNat = (e + 1075).toNat := by
    rw [BitVec.toNat_ofNat]
    omega
  have hmant : (BitVec.ofNat 52 m).toNat = m - 2 ^ 52 := by
    rw [BitVec.toNat_ofNat]
    omega
  have hmax : BitVec.ofNat 11 (e + 1075).toNat ≠ -1#11 := by
    intro h
    have := congrArg BitVec.toNat h
    rw [hexp, show (-1#11).toNat = 2047 from rfl] at this
    omega
  have hzero : BitVec.ofNat 11 (e + 1075).toNat ≠ 0#11 := by
    intro h
    have := congrArg BitVec.toNat h
    rw [hexp, show (0#11).toNat = 0 from rfl] at this
    omega
  rw [ofFields, if_neg hmax, if_neg hzero]
  congr 1
  · omega
  · omega

/-! ## packing and unpacking -/

/-- Parts that fields stand for survive packing. -/
theorem unpack_pack_ofFields (s : Sign) (e : BitVec 11) (m : BitVec 52) :
    UnpackedFloat.unpack Format.binary64 (UnpackedFloat.pack Format.binary64 (ofFields s e m)) =
      ofFields s e m := by
  by_cases h : ofFields s e m = .notANumber
  · rw [h]
    rfl
  · rw [pack_ofFields s e m h, unpack_packComponents]

/-- Packing treats both signs alike. -/
theorem unpack_pack_neg (u : UnpackedFloat) :
    UnpackedFloat.unpack Format.binary64 (UnpackedFloat.pack Format.binary64 u.neg) =
      (UnpackedFloat.unpack Format.binary64 (UnpackedFloat.pack Format.binary64 u)).neg := by
  cases u with
  | notANumber => rfl
  | infinity s => cases s <;> rfl
  | zero s => cases s <;> rfl
  | finite s m e h =>
      change UnpackedFloat.unpack Format.binary64
        (UnpackedFloat.pack Format.binary64 (.finite (-s) m e h)) = _
      simp only [UnpackedFloat.pack, packedInfinity]
      repeat' split
      all_goals rw [unpack_packComponents, unpack_packComponents, ofFields_neg]

/-! ## parts of numbers -/

/-- The sign, mantissa and exponent of a number, or what it is instead. -/
def parts (x : Float) : UnpackedFloat := x.toModel.unpack

/-- The number with these parts. -/
def ofParts (u : UnpackedFloat) : Float := .ofModel (.pack u)

/-- A number is its parts. -/
@[simp] theorem ofParts_parts (x : Float) : ofParts (parts x) = x := by
  have h := pack_unpack_of_valid x.toModel.valid
  simp only [ofParts, parts, Float.Model.pack, Float.Model.unpack, h]

/-- Numbers with equal parts are equal. -/
theorem parts_inj {x y : Float} (h : parts x = parts y) : x = y := by
  rw [← ofParts_parts x, ← ofParts_parts y, h]

/-- Parts are packed alike with either sign. -/
theorem parts_ofParts_neg (u : UnpackedFloat) : parts (ofParts u.neg) = (parts (ofParts u)).neg :=
  unpack_pack_neg u

theorem parts_ofParts_ofFields (s : Sign) (e : BitVec 11) (m : BitVec 52) :
    parts (ofParts (ofFields s e m)) = ofFields s e m :=
  unpack_pack_ofFields s e m

/-! ## operations by parts -/

/-- The operations on numbers are those on their parts; so the laws of parts are laws of
numbers. -/
theorem neg_eq (x : Float) : -x = ofParts (parts x).neg := rfl

theorem add_eq (x y : Float) : x + y = ofParts (.add Format.binary64 (parts x) (parts y)) := rfl

theorem sub_eq (x y : Float) : x - y = ofParts (.sub Format.binary64 (parts x) (parts y)) := rfl

theorem mul_eq (x y : Float) : x * y = ofParts (.mul Format.binary64 (parts x) (parts y)) := rfl

theorem abs_eq (x : Float) : x.abs = ofParts (parts x).abs := rfl

theorem isFinite_eq (x : Float) : x.isFinite = (parts x).isFinite := rfl

theorem isNaN_eq (x : Float) : x.isNaN = (parts x).isNaN := rfl

/-- The order of numbers is a comparison of their parts. -/
theorem lt_iff (x y : Float) : x < y ↔ (parts x).compare (parts y) = some .lt := by
  change decide (((parts x).compare (parts y) == some .lt) = true) = true ↔ _
  rw [decide_eq_true_iff, beq_iff_eq]

theorem le_iff (x y : Float) : x ≤ y ↔ ((parts x).compare (parts y)).any (·.isLE) = true := by
  change decide (((parts x).compare (parts y)).any (·.isLE) = true) = true ↔ _
  rw [decide_eq_true_iff]

/-- Equality is a comparison of parts, by which a number that is none differs from itself. -/
theorem beq_iff (x y : Float) : (x == y) = true ↔ (parts x).compare (parts y) = some .eq := by
  change ((parts x).compare (parts y) == some .eq) = true ↔ _
  rw [beq_iff_eq]

/-- Negation changes the sign and nothing else. -/
@[simp] theorem parts_neg (x : Float) : parts (-x) = (parts x).neg := by
  rw [neg_eq, parts_ofParts_neg, ofParts_parts]

/-! ## order -/

/-- Comparing the other way round. -/
theorem compare_swap (u v : UnpackedFloat) : v.compare u = (u.compare v).map Ordering.swap := by
  cases u with
  | notANumber => cases v <;> rfl
  | infinity s =>
      cases v with
      | infinity t => cases s <;> cases t <;> rfl
      | _ => cases s <;> rfl
  | zero s =>
      cases v with
      | infinity t => cases t <;> rfl
      | finite t => cases t <;> rfl
      | _ => rfl
  | finite s m e h =>
      cases v with
      | infinity t => cases t <;> rfl
      | notANumber => rfl
      | zero t => cases s <;> rfl
      | finite t n f k =>
          have hswap : (compare f e).then (compare n m) =
              ((compare e f).then (compare m n)).swap := by
            rw [Ordering.swap_then, Int.compare_swap, Nat.compare_swap]
          cases s <;> cases t
          · exact congrArg some (congrArg Ordering.swap hswap)
          · rfl
          · rfl
          · exact congrArg some hswap

/-- Of two numbers at most one is below the other. -/
theorem lt_asymm {x y : Float} (h : x < y) : ¬ y < x := by
  rw [lt_iff] at h ⊢
  rw [compare_swap, h]
  decide

end Playbook.Number
