/-
Numbers of single precision, given by their 32 bits.

* `Single`: the bits; two numbers are equal when their bits are.
* `Single.value`, `Single.ofValue`: what the bits stand for, and back.
* `Single.add`, `Single.mul`, `Single.ofNat`, `Single.ofRatio`: exact results
  rounded once to the nearest number, a half to the even one.
* `Single.sameNumber`, `Single.isPositive`, `Single.isNonneg`,
  `Single.isFinite`: the comparisons that settings are checked with.
-/
import Scratchpad.Numeric.Rounding

namespace Scratchpad

/-- A number of single precision, given by its bits. -/
structure Single where
  bits : UInt32
  deriving DecidableEq, Repr

namespace Single

/-- What the bits of a number stand for. -/
inductive Value where
  | nan
  | infinite (negative : Bool)
  | finite (negative : Bool) (magnitude : Magnitude)
  deriving DecidableEq, Repr

/-- Reads the sign, the eight bits of the exponent and the mantissa. -/
def value (x : Single) : Value :=
  let code := x.bits.toNat
  let negative := decide (0x80000000 ≤ code)
  let exponent : Nat := code / 0x800000 % 256
  let fraction := code % 0x800000
  if exponent = 255 then
    if fraction = 0 then .infinite negative else .nan
  else if exponent = 0 then .finite negative ⟨fraction, -149⟩
  else .finite negative ⟨0x800000 + fraction, (exponent : Int) - 150⟩

/-- The bit that marks negative numbers. -/
def signCode (negative : Bool) : Nat := if negative then 0x80000000 else 0

/-- The number of a value. A finite value has a mantissa below `2 ^ 24`, and one
below `2 ^ 23` only with the least exponent, `-149`. -/
def ofValue : Value → Single
  | .nan => ⟨0x7FC00000⟩
  | .infinite negative => ⟨UInt32.ofNat (signCode negative + 0x7F800000)⟩
  | .finite negative ⟨mantissa, exponent⟩ =>
    if mantissa < 0x800000 then ⟨UInt32.ofNat (signCode negative + mantissa)⟩
    else ⟨UInt32.ofNat (signCode negative + (exponent + 149).toNat * 0x800000 + mantissa)⟩

/-- The number nearest to a signed quotient; beyond the range it is infinite. -/
def ofRatio (negative : Bool) (num den : Nat) : Single :=
  match BinaryFormat.single.round num den with
  | some magnitude => ofValue (.finite negative magnitude)
  | none => ofValue (.infinite negative)

/-- The number nearest to a magnitude. -/
def ofMagnitude (negative : Bool) (x : Magnitude) : Single := ofRatio negative x.num x.den

/-- The number nearest to a natural number. -/
def ofNat (n : Nat) : Single := ofRatio false n 1

instance (n : Nat) : OfNat Single n := ⟨ofNat n⟩

/-! ### Arithmetic -/

/-- The signed mantissa of a finite value brought to a smaller exponent. -/
def alignedMantissa (negative : Bool) (x : Magnitude) (exponent : Int) : Int :=
  let mantissa := x.mantissa <<< (x.exponent - exponent).toNat
  if negative then -mantissa else mantissa

/-- The sum of two finite values. A sum of zero is negative only when both
values are. -/
def addFinite (s₁ : Bool) (x₁ : Magnitude) (s₂ : Bool) (x₂ : Magnitude) : Single :=
  let exponent := min x₁.exponent x₂.exponent
  let total := alignedMantissa s₁ x₁ exponent + alignedMantissa s₂ x₂ exponent
  let negative := if total = 0 then s₁ && s₂ else decide (total < 0)
  ofMagnitude negative ⟨total.natAbs, exponent⟩

/-- The sum, rounded once. -/
def add (x y : Single) : Single :=
  match x.value, y.value with
  | .nan, _ | _, .nan => ofValue .nan
  | .infinite s, .infinite t => if s = t then ofValue (.infinite s) else ofValue .nan
  | .infinite s, _ | _, .infinite s => ofValue (.infinite s)
  | .finite s₁ x₁, .finite s₂ x₂ => addFinite s₁ x₁ s₂ x₂

/-- The product, rounded once. -/
def mul (x y : Single) : Single :=
  match x.value, y.value with
  | .nan, _ | _, .nan => ofValue .nan
  | .infinite s, .infinite t => ofValue (.infinite (s != t))
  | .infinite s, .finite t m | .finite t m, .infinite s =>
    if m.mantissa = 0 then ofValue .nan else ofValue (.infinite (s != t))
  | .finite s x₁, .finite t x₂ =>
    ofMagnitude (s != t) ⟨x₁.mantissa * x₂.mantissa, x₁.exponent + x₂.exponent⟩

instance : Add Single := ⟨add⟩
instance : Mul Single := ⟨mul⟩

/-! ### Comparison -/

/-- Neither infinite nor undefined. -/
def isFinite (x : Single) : Bool :=
  match x.value with
  | .finite _ _ => true
  | _ => false

/-- Above zero. -/
def isPositive (x : Single) : Bool :=
  match x.value with
  | .nan => false
  | .infinite negative => !negative
  | .finite negative m => !negative && m.mantissa != 0

/-- Zero, of either sign, or above it. -/
def isNonneg (x : Single) : Bool :=
  match x.value with
  | .nan => false
  | .infinite negative => !negative
  | .finite negative m => !negative || m.mantissa == 0

/-- Equality of numbers: the two zeros are the same number, and an undefined
value is not even the same as itself. -/
def sameNumber (x y : Single) : Bool :=
  match x.value, y.value with
  | .nan, _ | _, .nan => false
  | .finite _ m, .finite _ n => x.bits == y.bits || (m.mantissa == 0 && n.mantissa == 0)
  | _, _ => x.bits == y.bits

end Single

end Scratchpad
