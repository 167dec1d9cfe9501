/-
The built-in vocabulary of the language, in the order in which it is suggested.

* `Category`: the three kinds of suggestions, with the glyph, the label and the
  colour that a row of the popup shows for each.
* `Entry`: a built-in symbol with its description.
* `catalog`: all entries; `catalog_nodup` says that no text occurs twice.
* `isReserved`: the reserved words, which name no variable.
-/
import Scratchpad.Text

namespace Scratchpad

/-- A colour with its opacity. -/
structure Colour where
  red : UInt8
  green : UInt8
  blue : UInt8
  alpha : UInt8 := 255
  deriving DecidableEq, Repr

/-- The kinds of suggestions. -/
inductive Category where
  /-- What can be called. -/
  | function
  /-- A reserved word or a literal. -/
  | keyword
  /-- A global value or a name declared in the document. -/
  | value
  deriving DecidableEq, Repr

namespace Category

/-- The sign at the start of a row. -/
def glyph : Category → String
  | function => "ƒ"
  | keyword => "⚡"
  | value => "x"

/-- The word at the end of a row. -/
def label : Category → String
  | function => "function"
  | keyword => "keyword"
  | value => "variable"

/-- The colour of the sign. -/
def colour : Category → Colour
  | function => ⟨86, 156, 214, 255⟩
  | keyword => ⟨197, 134, 192, 255⟩
  | value => ⟨181, 206, 168, 255⟩

end Category

/-- A built-in symbol of the language. -/
structure Entry where
  text : Text
  category : Category
  description : String
  deriving DecidableEq, Repr

namespace Entry

/-- A reserved word. -/
def keyword (text description : String) : Entry := ⟨text.toList, .keyword, description⟩

/-- A function. -/
def function (text description : String) : Entry := ⟨text.toList, .function, description⟩

/-- A value. -/
def value (text description : String) : Entry := ⟨text.toList, .value, description⟩

end Entry

/-! ### The entries -/

namespace Catalog

/-- The reserved words. -/
def keywords : List Entry := [
  .keyword "local" "Declare a local variable",
  .keyword "function" "Declare a function",
  .keyword "if" "Conditional statement",
  .keyword "then" "Begin the body of an if branch",
  .keyword "else" "Fallback branch of an if statement",
  .keyword "elseif" "Additional conditional branch",
  .keyword "end" "Close a block",
  .keyword "for" "Numeric or generic loop",
  .keyword "in" "Iterator clause of a generic for loop",
  .keyword "while" "Loop while a condition holds",
  .keyword "do" "Begin a block",
  .keyword "repeat" "Loop until a condition holds",
  .keyword "until" "Condition of a repeat loop",
  .keyword "return" "Return from a function",
  .keyword "break" "Exit the innermost loop",
  .keyword "goto" "Jump to a label",
  .keyword "and" "Logical and",
  .keyword "or" "Logical or",
  .keyword "not" "Logical negation",
  .keyword "nil" "The absence of a value",
  .keyword "true" "Boolean true",
  .keyword "false" "Boolean false"]

/-- The functions that need no prefix. -/
def globalFunctions : List Entry := [
  .function "print" "Print values to the console",
  .function "pairs" "Iterate over all key-value pairs of a table",
  .function "ipairs" "Iterate over the array part of a table",
  .function "type" "Name of the type of a value",
  .function "tostring" "Convert a value to a string",
  .function "tonumber" "Convert a value to a number",
  .function "require" "Load a module",
  .function "error" "Raise an error",
  .function "assert" "Raise an error if a value is false or nil",
  .function "pcall" "Call a function in protected mode",
  .function "xpcall" "Call a function in protected mode with a message handler",
  .function "select" "Select arguments from a vararg list",
  .function "next" "Next key-value pair of a table",
  .function "setmetatable" "Set the metatable of a table",
  .function "getmetatable" "Get the metatable of a value",
  .function "rawget" "Get a table field without metamethods",
  .function "rawset" "Set a table field without metamethods",
  .function "rawequal" "Compare values without metamethods",
  .function "rawlen" "Length of a value without metamethods"]

/-- The functions on strings. -/
def stringLibrary : List Entry := [
  .function "string.format" "Format values into a string",
  .function "string.sub" "Extract a substring",
  .function "string.len" "Length of a string",
  .function "string.upper" "Convert a string to upper case",
  .function "string.lower" "Convert a string to lower case",
  .function "string.find" "Find a pattern in a string",
  .function "string.match" "Match a pattern against a string",
  .function "string.gmatch" "Iterate over pattern matches",
  .function "string.gsub" "Replace pattern matches",
  .function "string.rep" "Repeat a string",
  .function "string.reverse" "Reverse a string",
  .function "string.byte" "Character codes of a string",
  .function "string.char" "String from character codes"]

/-- The functions on tables. -/
def tableLibrary : List Entry := [
  .function "table.insert" "Insert an element into a list",
  .function "table.remove" "Remove an element from a list",
  .function "table.concat" "Join list elements into a string",
  .function "table.sort" "Sort a list in place",
  .function "table.unpack" "Return list elements as multiple values",
  .function "table.pack" "Pack arguments into a table"]

/-- The functions and values of arithmetic. -/
def mathLibrary : List Entry := [
  .function "math.floor" "Round down to an integer",
  .function "math.ceil" "Round up to an integer",
  .function "math.abs" "Absolute value",
  .function "math.max" "Largest argument",
  .function "math.min" "Smallest argument",
  .function "math.sqrt" "Square root",
  .function "math.random" "Pseudo-random number",
  .function "math.randomseed" "Seed the pseudo-random generator",
  .function "math.fmod" "Remainder of a division",
  .function "math.tointeger" "Convert a float to an integer if exact",
  .value "math.pi" "The value of pi",
  .value "math.huge" "Positive infinity"]

/-- The functions that ask the system. -/
def osLibrary : List Entry := [
  .function "os.time" "Current time",
  .function "os.clock" "CPU time used by the program",
  .function "os.date" "Format a date"]

/-- The values that need no prefix. -/
def globalValues : List Entry := [
  .value "_G" "The global environment",
  .value "_VERSION" "The running Lua version",
  .value "self" "Receiver of a method call"]

end Catalog

open Catalog in
/-- All built-in symbols, in the order in which they are suggested. -/
def catalog : List Entry :=
  keywords ++ globalFunctions ++ stringLibrary ++ tableLibrary ++
    mathLibrary ++ osLibrary ++ globalValues

/-- No text occurs twice. -/
theorem catalog_nodup : (catalog.map Entry.text).Nodup := by decide +kernel

/-- Whether a word is reserved and cannot name a variable. -/
def isReserved (word : Text) : Bool :=
  catalog.any fun entry => entry.category == .keyword && entry.text == word

/-- Whether a word is a built-in function. -/
def isBuiltinFunction (word : Text) : Bool :=
  catalog.any fun entry => entry.category == .function && entry.text == word

end Scratchpad
