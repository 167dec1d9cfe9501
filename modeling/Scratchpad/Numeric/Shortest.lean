/-
The shortest decimal that reads back as a number of single precision.

* `Decimal`: digits and a power of ten.
* `Magnitude.readsBack`: whether a decimal lies in the interval of numbers that
  round to a magnitude. The ends of the interval belong to it when the mantissa
  is even.
* `Magnitude.shortest`: of the powers of ten, taken from the greatest down, the
  first that has a multiple in that interval gives the digits; of two such
  multiples the nearer one, and of two equally near ones the one that the tie
  rule names.
-/
import Scratchpad.Numeric.Single

namespace Scratchpad

/-- The number `digits * 10 ^ exponent`. -/
structure Decimal where
  digits : Nat
  exponent : Int
  deriving DecidableEq, Repr

/-- Which of two equally near decimals is taken. -/
inductive Tie where
  | up
  | toEven
  deriving DecidableEq, Repr

namespace Magnitude

/-- Four times the least number that rounds to the magnitude, in units of its last
binary digit. Below a power of two the numbers lie twice as close. -/
def lowerEnd (x : Magnitude) : Nat :=
  if x.mantissa = 0x800000 ∧ -149 < x.exponent then 4 * x.mantissa - 1 else 4 * x.mantissa - 2

/-- Four times the greatest number that rounds to the magnitude, in units of its
last binary digit. -/
def upperEnd (x : Magnitude) : Nat := 4 * x.mantissa + 2

/-- The factors that bring a quarter of the last binary digit, and the power of
ten, to a common unit. -/
def scales (x : Magnitude) (power : Int) : Nat × Nat :=
  let quarter := x.exponent - 2
  (Nat.pow 10 (-power).toNat <<< quarter.toNat, Nat.pow 10 power.toNat <<< (-quarter).toNat)

/-- Whether `digits * 10 ^ power` rounds to the magnitude. -/
def readsBack (x : Magnitude) (power : Int) (digits : Nat) : Bool :=
  let (binary, decimal) := x.scales power
  if x.mantissa % 2 = 0 then
    decide (x.lowerEnd * binary ≤ digits * decimal ∧ digits * decimal ≤ x.upperEnd * binary)
  else decide (x.lowerEnd * binary < digits * decimal ∧ digits * decimal < x.upperEnd * binary)

/-- Whether the multiple `digits + 1` of the power is to be taken rather than
`digits`, when both read back. -/
def prefersNext (x : Magnitude) (tie : Tie) (power : Int) (digits : Nat) : Bool :=
  let (binary, decimal) := x.scales power
  let below := 4 * x.mantissa * binary - digits * decimal
  let above := (digits + 1) * decimal - 4 * x.mantissa * binary
  if below = above then
    match tie with
    | .up => true
    | .toEven => digits % 2 == 1
  else decide (above < below)

/-- The nearest multiple of the power that reads back. -/
def nearestOn? (x : Magnitude) (tie : Tie) (power : Int) : Option Decimal :=
  let (binary, decimal) := x.scales power
  let digits := 4 * x.mantissa * binary / decimal
  match x.readsBack power digits, x.readsBack power (digits + 1) with
  | true, true => some ⟨if x.prefersNext tie power digits then digits + 1 else digits, power⟩
  | true, false => some ⟨digits, power⟩
  | false, true => some ⟨digits + 1, power⟩
  | false, false => none

/-- The greatest power of ten of single precision. -/
def maxPower : Int := 38

/-- The number of powers of ten, from the greatest down, among which every number
of single precision has one whose multiples reach it. -/
def powerCount : Nat := 93

/-- The shortest decimal that reads back as a positive magnitude. -/
def shortest (x : Magnitude) (tie : Tie) : Decimal :=
  let fromPower (i : Nat) := x.nearestOn? tie (maxPower - (i : Int))
  ((List.range powerCount).findSome? fromPower).getD ⟨0, 0⟩

end Magnitude

end Scratchpad
