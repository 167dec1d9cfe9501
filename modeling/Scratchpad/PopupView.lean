/-
The popup as it is drawn, and what the pointer does to it.

* `PopupView`: the candidates to be drawn, and the position that is marked.
* `Label`, `PopupView.labels`: the texts of all rows with their colours, which
  are those of the dark theme.
* `ClickPhase`, `PopupView.click`: a click, phase by phase. A row is picked when
  the button is released over it; the popup closes as soon as the button goes
  down outside.
-/
import Scratchpad.Popup

namespace Scratchpad

/-- The grey of a given brightness. -/
def Colour.grey (brightness : UInt8) : Colour := ⟨brightness, brightness, brightness, 255⟩

/-- A text on the screen. -/
structure Label where
  text : Text
  colour : Colour
  deriving DecidableEq, Repr

/-- What the pointer did to the popup. -/
inductive PopupEvent where
  /-- A row was picked. -/
  | select (row : Nat)
  /-- The button went down outside. -/
  | close
  deriving DecidableEq, Repr

/-- The phases of a click, each of them one drawing. -/
inductive ClickPhase where
  | move
  | press
  | release
  | rest
  deriving DecidableEq, Repr

/-- The candidates to be drawn, and the position of the one that is marked. -/
structure PopupView where
  candidates : List Candidate
  selected : Nat
  deriving DecidableEq, Repr

namespace PopupView

/-- Whether anything is drawn. -/
def isShown (v : PopupView) : Bool := !v.candidates.isEmpty

/-- The colour of the text of a candidate. -/
def textColour (marked : Bool) : Colour := .grey (if marked then 255 else 140)

/-- The colour of descriptions and labels. -/
def smallColour : Colour := .grey 160

/-- The texts of one row. -/
def rowLabels (c : Candidate) (marked : Bool) : List Label :=
  let description := c.description.toList.map fun d => ⟨d.toList, smallColour⟩
  [⟨c.category.glyph.toList, c.category.colour⟩, ⟨c.text, textColour marked⟩] ++
    description ++ [⟨c.category.label.toList, smallColour⟩]

/-- The texts of all rows. -/
def labels (v : PopupView) : List Label :=
  (v.candidates.zipIdx.map fun (c, i) => rowLabels c (i == v.selected)).flatten

/-- The first row with the given text. -/
def row? (v : PopupView) (text : Text) : Option Nat :=
  v.candidates.findIdx? (·.text == text)

/-- What a click does in one of its phases; it goes outside the popup when there is no
row. -/
def click (v : PopupView) (row : Option Nat) (phase : ClickPhase) : Option PopupEvent :=
  if v.isShown then
    match row, phase with
    | some i, .release => some (.select i)
    | none, .press => some .close
    | _, _ => none
  else none

end PopupView

end Scratchpad
