/-
JSON values and their pretty form.

* `Json`: the values. Numbers keep their numerals, strings their characters and
  the code units written by number, and objects all their members in order, so
  that what a value means is left to who asks for it.
* `Json.textOf?`: the text that a string stands for, if every half of a
  surrogate pair has its other half.
* `Json.pretty`: the text of a value with one member or item a line.
-/
import Scratchpad.Numeric.Numeral

namespace Scratchpad

/-- A part of a string: a character, or a code unit of 16 bits written by its
number. -/
inductive StringPart where
  | char (c : Char)
  | unit (code : Nat)
  deriving DecidableEq, Repr

/-- A JSON value. -/
inductive Json where
  | null
  | bool (b : Bool)
  | number (n : Numeral)
  | string (parts : List StringPart)
  | array (items : List Json)
  | object (members : List (List StringPart × Json))
  deriving Repr

namespace Json

/-! ### Strings -/

/-- The parts of a string without code units. -/
def partsOf (t : Text) : List StringPart := t.map .char

/-- Whether a code unit is the first half of a pair. -/
def isHighHalf (code : Nat) : Bool := decide (0xD800 ≤ code ∧ code < 0xDC00)

/-- Whether a code unit is the second half of a pair. -/
def isLowHalf (code : Nat) : Bool := decide (0xDC00 ≤ code ∧ code < 0xE000)

/-- The text that a string stands for. Two halves next to each other stand for one
character; a half alone stands for nothing. -/
def textOf? : List StringPart → Option Text
  | [] => some []
  | .char c :: rest => (textOf? rest).map (c :: ·)
  | .unit high :: .unit low :: rest =>
    if isHighHalf high then
      if isLowHalf low then
        let code := 0x10000 + (high - 0xD800) * 0x400 + (low - 0xDC00)
        (textOf? rest).map (Char.ofNat code :: ·)
      else none
    else if isLowHalf high then none
    else (textOf? (.unit low :: rest)).map (Char.ofNat high :: ·)
  | .unit code :: rest =>
    if isHighHalf code || isLowHalf code then none
    else (textOf? rest).map (Char.ofNat code :: ·)

/-- Strings without code units stand for their characters. -/
@[simp] theorem textOf?_partsOf (t : Text) : textOf? (partsOf t) = some t := by
  induction t with
  | nil => rfl
  | cons c rest ih => simpa [partsOf, textOf?] using ih

/-! ### The pretty form -/

/-- A code unit by its number. -/
def renderUnit (code : Nat) : Text :=
  let digit (shift : Nat) := Nat.digitChar (code / shift % 16)
  ['\\', 'u', digit 4096, digit 256, digit 16, digit 1]

/-- A part of a string in quotes. -/
def renderPart : StringPart → Text
  | .unit code => renderUnit code
  | .char c =>
    if c = '"' ∨ c = '\\' then ['\\', c]
    else if c.toNat < 0x20 then renderUnit c.toNat
    else [c]

/-- A string in quotes. -/
def renderString (parts : List StringPart) : Text :=
  '"' :: (parts.flatMap renderPart ++ ['"'])

/-- A new line at the given depth. -/
def newLine (depth : Nat) : Text := '\n' :: List.replicate (2 * depth) ' '

/-- Puts lines between brackets, with commas between them; without lines the brackets
stand next to each other. -/
def bracket (depth : Nat) (first last : Char) (lines : List Text) : Text :=
  match lines with
  | [] => [first, last]
  | lines =>
    let items := (lines.map (newLine (depth + 1) ++ ·)).intersperse [',']
    first :: (items.flatten ++ newLine depth ++ [last])

mutual

/-- A value at a depth of indentation. -/
def prettyAt (depth : Nat) : Json → Text
  | null => "null".toList
  | bool true => "true".toList
  | bool false => "false".toList
  | number n => n.render true
  | string parts => renderString parts
  | array items => bracket depth '[' ']' (prettyItems (depth + 1) items)
  | object members => bracket depth '\x7b' '\x7d' (prettyMembers (depth + 1) members)

/-- The items of an array at a depth of indentation. -/
def prettyItems (depth : Nat) : List Json → List Text
  | [] => []
  | item :: rest => prettyAt depth item :: prettyItems depth rest

/-- The members of an object at a depth of indentation. -/
def prettyMembers (depth : Nat) : List (List StringPart × Json) → List Text
  | [] => []
  | (key, value) :: rest =>
    (renderString key ++ ':' :: ' ' :: prettyAt depth value) :: prettyMembers depth rest

end

/-- The text of a value, with two blanks of indentation for each level. -/
def pretty (j : Json) : Text := prettyAt 0 j

end Json

end Scratchpad
