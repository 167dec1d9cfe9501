/-
Numbers typed by hand.

A typed number may have a sign, digits on either side of a point or on both, an
exponent, and blanks anywhere; the words `inf`, `infinity` and `nan` count too.

* `Entered`: the sign and the size of a typed number.
* `Entered.read?`: reads one from a text, to the nearest number of double
  precision.
* `Span`: the whole numbers from a least to a greatest one.
* `Span.fit`, `Span.fitSingle`: a number rounded to a whole one and brought into
  a span.
-/
import Scratchpad.Numeric.Numeral
import Scratchpad.Text.CharClass

namespace Scratchpad

/-- A number typed by hand. -/
structure Entered where
  negative : Bool
  /-- Missing for a number without bound and for one that is undefined. -/
  size : Option Magnitude
  deriving DecidableEq, Repr

namespace Entered

/-- The words for numbers without bound and for undefined ones. -/
def words : List Text := ["inf".toList, "infinity".toList, "nan".toList]

/-- The decimal exponents beyond which a number is out of the range of double
precision, on both sides. -/
def exponentBound : Nat := 400

/-- The number nearest to `digits * 10 ^ power`, or `none` beyond the range. -/
def magnitude? (digits : Nat) (power : Int) : Option Magnitude :=
  let zero : Magnitude := ⟨0, BinaryFormat.double.minExponent⟩
  let scale := power + (Numeral.digitsOf digits).length
  if digits = 0 then some zero
  else if (exponentBound : Int) < scale then none
  else if scale < -(exponentBound : Int) then some zero
  else BinaryFormat.double.round (digits * Nat.pow 10 power.toNat) (Nat.pow 10 (-power).toNat)

/-- The digits before and behind the point, of which there must be one. -/
def readMantissa? (t : Text) : Option (List Nat × List Nat × Text) :=
  let (whole, rest) := Numeral.splitDigits t
  let (fraction, rest) := match rest with
    | '.' :: rest => Numeral.splitDigits rest
    | rest => ([], rest)
  if whole.isEmpty && fraction.isEmpty then none else some (whole, fraction, rest)

/-- The number behind its sign. -/
def readUnsigned? (negative : Bool) (t : Text) : Option Entered :=
  if words.contains (t.map Char.toLower) then some ⟨negative, none⟩
  else do
    let (whole, fraction, rest) ← readMantissa? t
    let (exponent, rest) ← Numeral.readExponent? rest
    if rest.isEmpty then
      let power := exponent.getD 0 - fraction.length
      return ⟨negative, magnitude? (Numeral.ofDigits (whole ++ fraction)) power⟩
    else none

/-- The number that a text was meant for. The typographic minus is a minus. -/
def read? (t : Text) : Option Entered :=
  let typed := (t.filter fun c => !isBlank c).map fun c => if c = '\u2212' then '-' else c
  match Numeral.readSign typed with
  | (negative, rest) => readUnsigned? negative rest

end Entered

/-- The magnitude rounded to a whole number, a half away from zero. -/
def Magnitude.wholePart (x : Magnitude) : Nat := (2 * x.num + x.den) / (2 * x.den)

/-- The whole numbers from `least` to `greatest`. -/
structure Span where
  least : Nat
  greatest : Nat
  least_le : least ≤ greatest := by decide
  deriving DecidableEq, Repr

namespace Span

/-- A natural number brought into the span. -/
def clamp (s : Span) (n : Nat) : Nat := max s.least (min s.greatest n)

/-- A number rounded to a whole one and brought into the span. All negative numbers
are too small; a number without size is too great unless it is negative. -/
def fit (s : Span) (x : Entered) : Nat :=
  if x.negative then s.least
  else match x.size with
    | none => s.greatest
    | some m => s.clamp m.wholePart

/-- A number of single precision as a typed number would be. -/
def fitSingle (s : Span) (x : Single) : Nat :=
  match x.value with
  | .nan => s.fit ⟨false, none⟩
  | .infinite negative => s.fit ⟨negative, none⟩
  | .finite negative m => s.fit ⟨negative, some m⟩

end Span

end Scratchpad
