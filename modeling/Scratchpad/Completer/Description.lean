/-
The state of a completer in one line, for reports.

* `Completer.describe`: settings, caret, word, number of names, and popup. The
  document and the place of the surface are left out, which the two dots at the
  end stand for.
-/
import Scratchpad.Completer

namespace Scratchpad

/-- Numbers in descriptions keep a digit behind the point, and have an exponent below
`10 ^ -4` and from `10 ^ 16` on. -/
def descriptionNumbers : Layout where
  plain := some (-4, 15)
  pointZero := true
  exponentPlus := false
  tie := .up

/-- A number in a description. -/
def Single.describe (x : Single) : String := String.ofList (descriptionNumbers.render x)

/-- A character of a quoted text. What would extend the quote before it is written by
its code. -/
def quotedChar (c : Char) : Text :=
  if c = '"' ∨ c = '\\' then ['\\', c]
  else if isExtender c then "\\u\x7b".toList ++ Nat.toDigits 16 c.toNat ++ ['}']
  else [c]

/-- A text in quotes. -/
def Text.describe (t : Text) : String :=
  String.ofList ('"' :: (t.flatMap quotedChar ++ ['"']))

/-- A record with named fields; two dots stand for more of them. -/
def describeRecord (name : String) (fields : List (String × String)) (more : Bool) : String :=
  let parts := fields.map fun (field, value) => field ++ ": " ++ value
  let parts := if more then parts ++ [".."] else parts
  name ++ " \x7b " ++ ", ".intercalate parts ++ " \x7d"

/-- Options in a description. -/
def Options.describe (o : Options) : String :=
  describeRecord "AutocompleteOptions" [("max_candidates", toString o.maxCandidates.toNat),
    ("min_prefix_length", toString o.minPrefixLength.toNat)] false

/-- Metrics in a description. -/
def Metrics.describe (m : Metrics) : String :=
  describeRecord "SurfaceMetrics" [("char_width", m.charWidth.describe),
    ("line_height", m.lineHeight.describe), ("padding", m.padding.describe)] false

/-- A word in a description. -/
def WordSpan.describe (w : WordSpan) : String :=
  describeRecord "WordSpan" [("start", toString w.start), ("text", Text.describe w.text)] false

/-- A position in a description. -/
def Point.describe (p : Point) : String :=
  describeRecord "Point" [("x", p.x.describe), ("y", p.y.describe)] false

/-- A category in a description. -/
def Category.describe : Category → String
  | function => "Function"
  | keyword => "Keyword"
  | value => "VariableLike"

/-- A candidate in a description. -/
def Candidate.describe (c : Candidate) : String :=
  let description := match c.description with
    | none => "None"
    | some text => "Some(" ++ Text.describe text.toList ++ ")"
  describeRecord "Candidate" [("text", Text.describe c.text), ("category", c.category.describe),
    ("description", description)] false

/-- A popup in a description. -/
def Popup.describe : Popup → String
  | closed => "Closed"
  | shown l =>
    describeRecord "Open" [
      ("candidates", "[" ++ ", ".intercalate (l.candidates.map Candidate.describe) ++ "]"),
      ("selected", toString l.selected), ("anchor", l.anchor.describe)] false

/-- The state of a completer in one line. -/
def Completer.describe (c : Completer) : String :=
  describeRecord "AutocompleteController" [("options", c.options.describe),
    ("metrics", c.metrics.describe), ("cursor", toString c.caret), ("word", c.word.describe),
    ("identifiers", toString c.names.length), ("state", c.popup.describe)] true

end Scratchpad
