/-
Numbers of single precision as text.

* `Layout`: the decisions a way of writing numbers makes.
* `Layout.numeral`: the numeral of a decimal, plain or with an exponent as the
  layout says.
* `Layout.numeral?`: the numeral with the fewest digits that read back as a
  number; infinite and undefined values have none.
* `Layout.render`: a number as text.
-/
import Scratchpad.Numeric.Numeral
import Scratchpad.Numeric.Shortest

namespace Scratchpad

/-- How numbers are written. -/
structure Layout where
  /-- The least and the greatest exponent of a leading digit that is written
  plainly; every number is where this is absent. -/
  plain : Option (Int × Int)
  /-- Whether a whole number written plainly keeps the digit zero behind the
  point. -/
  pointZero : Bool
  /-- Whether a positive exponent has a sign. -/
  exponentPlus : Bool
  /-- Which of two equally near decimals is written. -/
  tie : Tie
  deriving DecidableEq, Repr

namespace Layout

/-- Whether a leading digit with the given exponent is written plainly. -/
def isPlain (layout : Layout) (exponent : Int) : Bool :=
  match layout.plain with
  | none => true
  | some (least, greatest) => decide (least ≤ exponent ∧ exponent ≤ greatest)

/-- The numeral of a decimal without an exponent. -/
def plainNumeral (layout : Layout) (negative : Bool) (d : Decimal) : Numeral :=
  let digits := Numeral.digitsOf d.digits
  let point := d.exponent + digits.length
  if 0 ≤ d.exponent then
    { negative
      whole := digits ++ List.replicate d.exponent.toNat 0
      fraction := if layout.pointZero then [0] else []
      exponent := none }
  else if 0 < point then
    { negative
      whole := digits.take point.toNat
      fraction := digits.drop point.toNat
      exponent := none }
  else
    { negative
      whole := [0]
      fraction := List.replicate (-point).toNat 0 ++ digits
      exponent := none }

/-- The numeral of a decimal. Its point stands behind the first digit if it has an
exponent. -/
def numeral (layout : Layout) (negative : Bool) (d : Decimal) : Numeral :=
  let digits := Numeral.digitsOf d.digits
  let exponent := d.exponent + digits.length - 1
  if layout.isPlain exponent then layout.plainNumeral negative d
  else { negative, whole := digits.take 1, fraction := digits.drop 1, exponent := some exponent }

/-- The numeral with the fewest digits that read back as a number. -/
def numeral? (layout : Layout) (x : Single) : Option Numeral :=
  match x.value with
  | .nan | .infinite _ => none
  | .finite negative m =>
    some (if m.mantissa = 0 then layout.plainNumeral negative ⟨0, 0⟩
      else layout.numeral negative (m.shortest layout.tie))

/-- A number as text. -/
def render (layout : Layout) (x : Single) : Text :=
  match layout.numeral? x with
  | some n => n.render layout.exponentPlus
  | none =>
    match x.value with
    | .infinite true => "-inf".toList
    | .infinite false => "inf".toList
    | _ => "NaN".toList

end Layout

end Scratchpad
