/-!
# Playbook.Number.Exact

What a binary64 number stands for: a sign and a natural number times a power
of two.  Whole parts and exact quotients are computed from this form in
natural numbers, so nothing here rounds.
-/

namespace Playbook.Number

/-- A finite number, `± mantissa * 2 ^ exponent`. -/
structure Exact where
  negative : Bool
  mantissa : Nat
  exponent : Int
deriving DecidableEq

namespace Exact

/-- The exact value of a finite number; none for infinities and for NaN. -/
def ofFloat? (x : Float) : Option Exact :=
  match x.toModel.unpack with
  | .zero s => some ⟨s == .negative, 0, 0⟩
  | .finite s m e _ => some ⟨s == .negative, m, e⟩
  | .infinity _ => none
  | .notANumber => none

/-- The numerator of the magnitude as a fraction `numerator / denominator`. -/
def numerator (v : Exact) : Nat := v.mantissa <<< v.exponent.toNat

/-- The denominator of the magnitude, a power of two. -/
def denominator (v : Exact) : Nat := 1 <<< (-v.exponent).toNat

/-- The magnitude rounded down to a natural number. -/
def floor (v : Exact) : Nat := v.numerator / v.denominator

/-- Whether the value has no fractional part. -/
def isWhole (v : Exact) : Bool := v.numerator % v.denominator == 0

end Exact

/-! ## Natural numbers among the binary64 numbers -/

/-- The natural number that `x` is, if it is one.  Negative zero counts as zero. -/
def natural? (x : Float) : Option Nat :=
  match Exact.ofFloat? x with
  | some v => if v.isWhole && (!v.negative || v.mantissa == 0) then some v.floor else none
  | none => none

/-- `x` rounded down and cut to `0 ‥ most`; zero for NaN. -/
def floorWithin (most : Nat) (x : Float) : Nat :=
  match Exact.ofFloat? x with
  | some v => if v.negative then 0 else min v.floor most
  | none => if 0.0 < x then most else 0

/-! ## The larger and the smaller of two -/

/-- The larger of two numbers; a NaN gives way to the other number. -/
def larger (a b : Float) : Float :=
  if a.isNaN then b else if b.isNaN then a else if a < b then b else a

/-- The smaller of two numbers; a NaN gives way to the other number. -/
def smaller (a b : Float) : Float :=
  if a.isNaN then b else if b.isNaN then a else if b < a then b else a

end Playbook.Number
