import Playbook.Number.Exact

/-!
# Playbook.Number.Shortest

The decimal that identifies a binary64 number with the fewest digits.

For one digit, two digits, and so on, the two neighbours of the number on the
decimal grid with that many digits are read back; the first grid with a
neighbour that reads back as the number wins, and of two such neighbours the
nearer one.  Where both are equally near, a `Tie` decides.
-/

namespace Playbook.Number

/-- A non-negative decimal, `coefficient * 10 ^ exponent`. -/
structure Decimal where
  coefficient : Nat
  exponent : Int
deriving DecidableEq

/-- Which of two equally near decimals is taken. -/
inductive Tie where
  /-- The one with an even last digit. -/
  | toEven
  /-- The larger one. -/
  | up
deriving DecidableEq

namespace Decimal

/-- The binary64 number nearest to a decimal. -/
def toFloat (d : Decimal) : Float :=
  Float.ofScientific d.coefficient (d.exponent < 0) d.exponent.natAbs

/-- Move the zeros at the end of the coefficient into the exponent, at most
`fuel` of them. -/
def strip : Nat → Decimal → Decimal
  | 0, d => d
  | fuel + 1, d =>
    if d.coefficient ≠ 0 ∧ d.coefficient % 10 = 0 then
      strip fuel ⟨d.coefficient / 10, d.exponent + 1⟩
    else d

/-- The decimal digits of the coefficient. -/
def digits (d : Decimal) : List Char := Nat.toDigits 10 d.coefficient

/-- The power of ten of the first digit: the decimal is `d₁.d₂d₃… * 10 ^ order`. -/
def order (d : Decimal) : Int := d.exponent + (d.digits.length : Int) - 1

end Decimal

namespace Exact

/-- The least `k` with magnitude below `10 ^ k`, for a magnitude above zero. -/
def scale (v : Exact) : Int :=
  if v.denominator ≤ v.numerator then
    ((Nat.toDigits 10 v.floor).length : Int)
  else
    1 - ((Nat.toDigits 10 ((v.denominator - 1) / v.numerator)).length : Int)

/-- The magnitude divided by `10 ^ g`, as a fraction. -/
def overPowerOfTen (v : Exact) (g : Int) : Nat × Nat :=
  (v.numerator * Nat.pow 10 (-g).toNat, v.denominator * Nat.pow 10 g.toNat)

/-- The candidate with grid `10 ^ g`: of the two neighbours of `v` on the grid
the nearer one that reads back as `x`. -/
def candidate (v : Exact) (tie : Tie) (x : Float) (g : Int) : Option Decimal :=
  let (n, d) := v.overPowerOfTen g
  let below : Decimal := ⟨n / d, g⟩
  let above : Decimal := ⟨n / d + 1, g⟩
  let middle := (2 * (n / d) + 1) * d
  let nearBelow := 2 * n < middle ∨ (2 * n = middle ∧ tie = .toEven ∧ n / d % 2 = 0)
  let first := if nearBelow then below else above
  let second := if nearBelow then above else below
  if first.toFloat.toBits = x.toBits then some first
  else if second.toFloat.toBits = x.toBits then some second
  else none

end Exact

/-- Seventeen digits tell any two binary64 numbers apart. -/
def mostDigits : Nat := 17

/-- The shortest decimal of a finite number above zero, `x` with exact value
`v`.  If no grid of at most `mostDigits` digits held one, the exact value would
be written. -/
def shortest (tie : Tie) (v : Exact) (x : Float) : Decimal :=
  let k := v.scale
  match (List.range mostDigits).findSome? fun n => v.candidate tie x (k - (n + 1 : Nat)) with
  | some d => d.strip mostDigits
  | none => ⟨v.numerator * Nat.pow 5 (-v.exponent).toNat, min 0 v.exponent⟩

end Playbook.Number
