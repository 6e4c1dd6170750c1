import Playbook.Json.Value
import Playbook.Number.Numeral

/-!
# Playbook.Json.Literal

What the literals of a JSON text stand for.

* `number?` admits digits without a useless zero in front, a fraction with
  digits, and no plus sign in front.  A number that is no integer of 64 bits is
  computed from its leading digits, as far as they fit into 64 bits, and a power
  of ten: this is fast, but the result may be off the nearest binary64 number, and
  infinite a little below the largest one.  The result has to be finite;
* `text?` resolves escapes; a code point outside the first plane is written as
  two escapes, and half of such a pair has no value.
-/

namespace Playbook.Json.Literal

open Number (Decimal Numeral)

/-! ## Numbers -/

/-- Whether a numeral is written as JSON demands. -/
def isStrict (n : Numeral) : Bool :=
  n.sign ≠ .plus && n.whole ≠ [] && (n.whole.head? ≠ some '0' || n.whole.length = 1)
    && n.fraction ≠ some []

/-- Read the parts of a number literal. -/
def numeral? (literal : List Char) : Option Numeral :=
  (Numeral.read literal).filter isStrict

/-- The integer that a numeral without fraction and exponent names, if it fits
into 64 bits with or without a sign.  There is no negative integer zero. -/
def integer? (n : Numeral) : Option Int :=
  if n.isInteger then
    let v := Text.value n.whole
    if n.sign = .minus then
      if v ≠ 0 ∧ v ≤ 0x8000000000000000 then some (-(v : Int)) else none
    else if v ≤ 0xFFFFFFFFFFFFFFFF then some v else none
  else none

/-- Take digits into a significand, as long as it stays within 64 bits.  The
answer ends with the digits that are left. -/
def takeDigits (significand : Nat) : List Char → Nat × List Char
  | [] => (significand, [])
  | d :: rest =>
    let next := significand * 10 + Text.value [d]
    if next ≤ 0xFFFFFFFFFFFFFFFF then takeDigits next rest else (significand, d :: rest)

/-- The decimal from which a numeral is computed, without its sign.  The digits
of the whole part that are left out count in the power of ten; those of the
fraction are tried again from its first digit. -/
def kept (n : Numeral) : Decimal :=
  let fraction := n.fraction.getD []
  let (whole, left) := takeDigits 0 n.whole
  let (all, left') := takeDigits whole fraction
  ⟨all, left.length - (fraction.length - left'.length) + n.power⟩

/-- The greatest power of ten in one step. -/
def mostPower : Nat := 308

/-- The binary64 number nearest to a power of ten. -/
def tenTo (k : Nat) : Float := Decimal.toFloat ⟨1, k⟩

/-- Divide a number by `10 ^ k`, in steps as long as anything is left of it. -/
def shrink (x : Float) (k : Nat) : Float :=
  if k ≤ mostPower then x / tenTo k
  else if x == 0.0 then x
  else shrink (x / tenTo mostPower) (k - mostPower)
termination_by k
decreasing_by
  simp only [mostPower] at *
  omega

/-- The value of a decimal as it is computed: its coefficient times a power of
ten or over one, each of them rounded.  It has to be finite. -/
def scaled? (d : Decimal) : Option Float :=
  let x := Float.ofNat d.coefficient
  if d.exponent < 0 then some (shrink x d.exponent.natAbs)
  else if d.exponent.natAbs ≤ mostPower then
    let y := x * tenTo d.exponent.natAbs
    if y.isFinite then some y else none
  else if x == 0.0 then some x
  else none

/-- The value of a number literal. -/
def number? (literal : List Char) : Option Json :=
  (numeral? literal).bind fun n =>
    match integer? n with
    | some i => some (.integer i)
    | none => (scaled? (kept n)).map fun x => .real (n.signed x)

/-! ## Strings -/

/-- The character that a short escape stands for. -/
def shortEscape : Char → Char
  | 'b' => '\x08'
  | 'f' => '\x0c'
  | 'n' => '\n'
  | 'r' => '\r'
  | 't' => '\t'
  | c => c

/-- Whether a code unit is the first half of a pair. -/
def isHighHalf (u : Nat) : Bool := 0xD800 ≤ u && u < 0xDC00

/-- Whether a code unit is the second half of a pair. -/
def isLowHalf (u : Nat) : Bool := 0xDC00 ≤ u && u < 0xE000

/-- The character that two halves name together. -/
def joinHalves (high low : Nat) : Char :=
  Char.ofNat (0x10000 + (high - 0xD800) * 0x400 + (low - 0xDC00))

/-- Resolve the escapes of a string.  `pending` is the first half of a pair
whose second half has to come next. -/
def characters? (pending : Option Nat) : List Char → Option (List Char)
  | [] => if pending.isSome then none else some []
  | '\\' :: 'u' :: a :: b :: c :: d :: rest =>
    match Text.hexQuad a b c d, pending with
    | some u, some high =>
      if isLowHalf u then (characters? none rest).map (joinHalves high u :: ·) else none
    | some u, none =>
      if isHighHalf u then characters? (some u) rest
      else if isLowHalf u then none
      else (characters? none rest).map (Char.ofNat u :: ·)
    | none, _ => none
  | '\\' :: e :: rest =>
    if pending.isSome then none else (characters? none rest).map (shortEscape e :: ·)
  | c :: rest =>
    if pending.isSome then none else (characters? none rest).map (c :: ·)

/-- The value of a string literal, given without its quotes. -/
def text? (body : List Char) : Option String := (characters? none body).map String.ofList

end Playbook.Json.Literal
