/-
Rounding of quotients to binary formats, in exact arithmetic.

* `divNearest`: a quotient rounded to the nearest integer, a half to the even
  neighbour.
* `BinaryFormat`: how many binary digits a format keeps and which exponents it
  has; `single` and `double` are the two formats in use.
* `BinaryFormat.round`: the magnitude of the format nearest to a quotient, or
  `none` where the nearest one would lie above the range.
-/

namespace Scratchpad

/-- The quotient rounded to the nearest integer, a half to the even neighbour. -/
def divNearest (num den : Nat) : Nat :=
  let quotient := num / den
  let rest := num % den
  if 2 * rest < den then quotient
  else if den < 2 * rest then quotient + 1
  else quotient + quotient % 2

/-- The number `mantissa * 2 ^ exponent`. -/
structure Magnitude where
  mantissa : Nat
  exponent : Int
  deriving DecidableEq, Repr

namespace Magnitude

/-- The numerator of a magnitude as a quotient of natural numbers. -/
def num (x : Magnitude) : Nat := x.mantissa <<< x.exponent.toNat

/-- The denominator of a magnitude as a quotient of natural numbers. -/
def den (x : Magnitude) : Nat := 1 <<< (-x.exponent).toNat

end Magnitude

/-- A binary format: mantissas of at most `precision` binary digits, exponents
from `minExponent` to `maxExponent`. -/
structure BinaryFormat where
  precision : Nat
  minExponent : Int
  maxExponent : Int

namespace BinaryFormat

/-- The format of 32 bits. -/
def single : BinaryFormat := ⟨24, -149, 104⟩

/-- The format of 64 bits. -/
def double : BinaryFormat := ⟨53, -1074, 971⟩

/-- The exponent of the greatest power of two that does not exceed the quotient
of two positive numbers. -/
def floorLog (num den : Nat) : Int :=
  let guess : Int := (num.log2 : Int) - (den.log2 : Int)
  if den <<< guess.toNat ≤ num <<< (-guess).toNat then guess else guess - 1

/-- The magnitude of the format nearest to the quotient, a half going to the
even mantissa; `none` if that lies above the range of the format. -/
def round (f : BinaryFormat) (num den : Nat) : Option Magnitude :=
  if num = 0 then some ⟨0, f.minExponent⟩
  else
    let exponent := max f.minExponent (floorLog num den - (f.precision - 1))
    let mantissa := divNearest (num <<< (-exponent).toNat) (den <<< exponent.toNat)
    let rounded : Magnitude :=
      if mantissa = 1 <<< f.precision then ⟨1 <<< (f.precision - 1), exponent + 1⟩
      else ⟨mantissa, exponent⟩
    if rounded.exponent ≤ f.maxExponent then some rounded else none

end BinaryFormat

end Scratchpad
