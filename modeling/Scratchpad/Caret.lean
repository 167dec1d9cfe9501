/-
Where the caret is on the screen.

The text surface is taken for a grid of equal cells.

* `LineColumn`, `lineColumn`: line and column of the caret, counted from zero.
* `Point`: a position on the screen.
* `anchor`: the position of the popup: one cell below the caret, padded.
-/
import Scratchpad.Settings

namespace Scratchpad

/-- Line and column of a caret, counted from zero. -/
structure LineColumn where
  line : Nat := 0
  column : Nat := 0
  deriving DecidableEq, Repr

/-- The position behind one more character. -/
def LineColumn.advance (p : LineColumn) (c : Char) : LineColumn :=
  if c = '\n' then ⟨p.line + 1, 0⟩ else ⟨p.line, p.column + 1⟩

/-- Line and column of a caret, which is clamped to the document. -/
def lineColumn (document : Text) (caret : Nat) : LineColumn :=
  (document.take caret).foldl LineColumn.advance {}

/-- A position on the screen, in points. -/
structure Point where
  x : Single := 0
  y : Single := 0
  deriving DecidableEq, Repr

/-- Whether two positions are the same place. An undefined coordinate is not even
the same as itself. -/
def Point.samePlace (p q : Point) : Bool := p.x.sameNumber q.x && p.y.sameNumber q.y

/-- The position of the popup for a caret on a surface that begins at `origin`. -/
def anchor (document : Text) (caret : Nat) (origin : Point) (metrics : Metrics) : Point :=
  let cell := lineColumn document caret
  { x := origin.x + .ofNat cell.column * metrics.charWidth + metrics.padding
    y := origin.y + .ofNat (cell.line + 1) * metrics.lineHeight + metrics.padding }

end Scratchpad
