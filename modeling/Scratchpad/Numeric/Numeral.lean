/-
Decimal numerals as they are written in files, and the numbers they stand for.

* `Numeral`: the parts of a numeral: sign, digits, and exponent.
* `Numeral.render`, `Numeral.ofNat`: numerals as text, and the numeral of a
  natural number.
* `Numeral.read?`: reads the longest numeral at the front of a text. No digit
  but a single zero may follow a leading zero, and a point or an exponent mark
  needs a digit behind it.
* `Numeral.natural?`: the value of a numeral written without sign, point and
  exponent.
* `Numeral.single?`: the nearest number of single precision, reached in steps.
  An integer of 64 bits is rounded once. Otherwise the leading digits that fit
  in 64 bits are rounded to double precision, scaled by a power of ten in that
  precision, and rounded again; the result may be infinite. A numeral beyond
  the range of double precision stands for no number.
-/
import Scratchpad.Text
import Scratchpad.Numeric.Single

namespace Scratchpad

/-- A decimal numeral. `fraction` holds the digits behind the point, and is empty
without a point. -/
structure Numeral where
  negative : Bool
  whole : List Nat
  fraction : List Nat
  exponent : Option Int
  deriving DecidableEq, Repr

namespace Numeral

/-! ### Writing -/

/-- The decimal digits of a natural number. -/
def digitsOf (n : Nat) : List Nat := (Nat.toDigits 10 n).map (fun c => c.toNat - '0'.toNat)

/-- Digits as text. -/
def renderDigits (digits : List Nat) : Text := digits.map Nat.digitChar

/-- The numeral of a natural number. -/
def ofNat (n : Nat) : Numeral := ⟨false, digitsOf n, [], none⟩

/-- The exponent with its mark; `plus` says whether a positive one has a sign. -/
def renderExponent (plus : Bool) (e : Int) : Text :=
  let sign := if e < 0 then ['-'] else if plus then ['+'] else []
  'e' :: (sign ++ renderDigits (digitsOf e.natAbs))

/-- A numeral as text. -/
def render (plus : Bool) (n : Numeral) : Text :=
  let sign := if n.negative then ['-'] else []
  let fraction := if n.fraction.isEmpty then [] else '.' :: renderDigits n.fraction
  let exponent := match n.exponent with
    | none => []
    | some e => renderExponent plus e
  sign ++ renderDigits n.whole ++ fraction ++ exponent

/-! ### Reading -/

/-- The number written with the given decimal digits. -/
def ofDigits (digits : List Nat) : Nat := digits.foldl (fun n d => 10 * n + d) 0

/-- The digits at the front of a text, and the text behind them. -/
def splitDigits (t : Text) : List Nat × Text :=
  ((t.takeWhile Char.isDigit).map (fun c => c.toNat - '0'.toNat), t.dropWhile Char.isDigit)

/-- The digits at the front of a text, of which there must be one. -/
def readDigits? (t : Text) : Option (List Nat × Text) :=
  match splitDigits t with
  | ([], _) => none
  | (digits, rest) => some (digits, rest)

/-- The digits before the point: a single zero, or digits that start with another
digit. -/
def readWhole? : Text → Option (List Nat × Text)
  | '0' :: rest => some ([0], rest)
  | t => readDigits? t

/-- The point and the digits behind it. -/
def readFraction? : Text → Option (List Nat × Text)
  | '.' :: rest => readDigits? rest
  | t => some ([], t)

/-- The sign of an exponent. -/
def readSign : Text → Bool × Text
  | '-' :: rest => (true, rest)
  | '+' :: rest => (false, rest)
  | t => (false, t)

/-- The exponent with its mark. -/
def readExponent? : Text → Option (Option Int × Text)
  | [] => some (none, [])
  | c :: rest =>
    if c = 'e' ∨ c = 'E' then do
      let (negative, rest) := readSign rest
      let (digits, rest) ← readDigits? rest
      let size : Int := ofDigits digits
      return (some (if negative then -size else size), rest)
    else some (none, c :: rest)

/-- The numeral behind its sign. -/
def readUnsigned? (negative : Bool) (t : Text) : Option (Numeral × Text) := do
  let (whole, t) ← readWhole? t
  let (fraction, t) ← readFraction? t
  let (exponent, t) ← readExponent? t
  return (⟨negative, whole, fraction, exponent⟩, t)

/-- The numeral at the front of a text, and the text behind it. -/
def read? : Text → Option (Numeral × Text)
  | '-' :: rest => readUnsigned? true rest
  | t => readUnsigned? false t

/-! ### Values -/

/-- Whether a numeral is written without point and exponent. -/
def isInteger (n : Numeral) : Bool := n.fraction.isEmpty && n.exponent.isNone

/-- The value of a numeral written without sign, point and exponent. -/
def natural? (n : Numeral) : Option Nat :=
  if !n.negative && n.isInteger then some (ofDigits n.whole) else none

/-- Puts digits behind a number as long as it stays below `2 ^ 64`; the second
part of the result counts the digits taken. -/
def absorb (start : Nat) : List Nat → Nat × Nat
  | [] => (start, 0)
  | d :: rest =>
    if 10 * start + d < UInt64.size then
      let (result, taken) := absorb (10 * start + d) rest
      (result, taken + 1)
    else (start, 0)

/-- The leading digits of a numeral that fit in 64 bits, and the power of ten
they are to be scaled by. -/
def leading (n : Numeral) : Nat × Int :=
  let (start, wholeTaken) := absorb 0 n.whole
  let (digits, fractionTaken) := absorb start n.fraction
  (digits, (n.whole.length - wholeTaken : Nat) - (fractionTaken : Int) + n.exponent.getD 0)

/-- The greatest power of ten of double precision. -/
def maxPower : Nat := 308

/-- A power of ten in double precision. -/
def powerOfTen? (k : Nat) : Option Magnitude := BinaryFormat.double.round (Nat.pow 10 k) 1

/-- Multiplies by a power of ten in double precision. -/
def scaleUp? (x : Magnitude) (k : Nat) : Option Magnitude :=
  if x.mantissa = 0 then some x
  else if k ≤ maxPower then do
    let p ← powerOfTen? k
    BinaryFormat.double.round (x.num * p.num) (x.den * p.den)
  else none

/-- Divides by a power of ten in double precision, `10 ^ 308` at a time. -/
def scaleDown? : Nat → Magnitude → Nat → Option Magnitude
  | 0, x, _ => some x
  | steps + 1, x, k => do
    let p ← powerOfTen? (min k maxPower)
    let quotient ← BinaryFormat.double.round (x.num * p.den) (x.den * p.num)
    if k ≤ maxPower then return quotient else scaleDown? steps quotient (k - maxPower)

/-- The magnitude of a numeral in double precision. Three divisions by `10 ^ 308`
bring every number of 64 bits to zero. -/
def double? (n : Numeral) : Option Magnitude := do
  let (digits, power) := n.leading
  let x ← BinaryFormat.double.round digits 1
  if 0 ≤ power then scaleUp? x power.toNat else scaleDown? 3 x (-power).toNat

/-- The number of single precision that a numeral stands for. -/
def single? (n : Numeral) : Option Single :=
  let size := ofDigits n.whole
  if n.isInteger && decide (size < UInt64.size) &&
      (!n.negative || decide (size ≤ UInt64.size / 2)) then
    some (.ofRatio n.negative size 1)
  else n.double?.map (.ofMagnitude n.negative)

end Numeral

end Scratchpad
