/-
The classes of characters that decide where words begin and end.

* `isWordChar`: the characters of the word at the caret and of a coloured
  word: letters and numbers of every script, and the underscore.
* `joinsKeyword`: the characters next to which a keyword is only a part of
  a longer word; they include marks and the joiners, but not every number.
* `isBlank`: white space of every script.
* `startsName`, `continuesName`: the characters of declared names,
  which are ASCII.
-/
import Scratchpad.Text.Alphabetic
import Scratchpad.Text.Numeral
import Scratchpad.Text.Mark

namespace Scratchpad

/-- Letters of every script. -/
def isAlphabetic (c : Char) : Bool := alphabeticRanges.contains c.toNat

/-- Decimal digits of every script. -/
def isDecimalDigit (c : Char) : Bool := decimalDigitRanges.contains c.toNat

/-- Letters and numbers of every script. -/
def isAlphanumeric (c : Char) : Bool :=
  isAlphabetic c || isDecimalDigit c || otherNumberRanges.contains c.toNat

/-- Combining marks. -/
def isMark (c : Char) : Bool := markRanges.contains c.toNat

/-- Characters that only extend the character before them. -/
def isExtender (c : Char) : Bool := extenderRanges.contains c.toNat

/-- Connecting punctuation, category Pc: the underscore and its relatives. -/
def isConnector (c : Char) : Bool :=
  CodeRanges.contains [(0x5F, 0x5F), (0x203F, 0x2040), (0x2054, 0x2054), (0xFE33, 0xFE34),
    (0xFE4D, 0xFE4F), (0xFF3F, 0xFF3F)] c.toNat

/-- The two zero-width joiners, property Join_Control. -/
def isJoiner (c : Char) : Bool := CodeRanges.contains [(0x200C, 0x200D)] c.toNat

/-- White space of every script, property White_Space. -/
def isBlank (c : Char) : Bool :=
  CodeRanges.contains [(0x09, 0x0D), (0x20, 0x20), (0x85, 0x85), (0xA0, 0xA0), (0x1680, 0x1680),
    (0x2000, 0x200A), (0x2028, 0x2029), (0x202F, 0x202F), (0x205F, 0x205F), (0x3000, 0x3000)]
    c.toNat

/-- The characters of the word at the caret. -/
def isWordChar (c : Char) : Bool := isAlphanumeric c || c == '_'

/-- The characters that join a keyword next to them into a longer word. -/
def joinsKeyword (c : Char) : Bool :=
  isAlphabetic c || isMark c || isDecimalDigit c || isConnector c || isJoiner c

/-- The characters a declared name starts with. -/
def startsName (c : Char) : Bool := c.isAlpha || c == '_'

/-- The characters a declared name goes on with. -/
def continuesName (c : Char) : Bool := c.isAlphanum || c == '_'

end Scratchpad
