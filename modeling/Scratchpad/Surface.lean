/-
The text surface: typing into a text at a caret.

* `Input`: what the keyboard and the clipboard send.
* `Surface`: a text with its caret, which is never behind its end.
* `Surface.insert`, `Surface.deleteBack`, `Surface.deleteForward`,
  `Surface.stepLeft`, `Surface.stepRight`: the operations.
* `Surface.handle`, `Surface.run`: what inputs do to the surface, and whether
  they count as a change of the text.
-/
import Scratchpad.Popup

namespace Scratchpad

/-- The keys that are told apart. -/
inductive SurfaceKey where
  | enter
  | tab
  | escape
  | up
  | down
  | left
  | right
  | backspace
  | delete
  deriving DecidableEq, Repr

/-- The key as the popup takes it. -/
def SurfaceKey.forPopup : SurfaceKey → Key
  | enter => .enter
  | tab => .tab
  | escape => .escape
  | up => .up
  | down => .down
  | _ => .other

/-- What the keyboard and the clipboard send. -/
inductive Input where
  | text (t : Text)
  | paste (t : Text)
  | key (k : SurfaceKey)
  deriving DecidableEq, Repr

/-- A text with its caret. -/
structure Surface where
  content : Text
  caret : Nat
  caret_le : caret ≤ content.length
  deriving DecidableEq, Repr

namespace Surface

/-- A surface with the caret brought into the text. -/
def place (content : Text) (caret : Nat) : Surface :=
  ⟨content, min caret content.length, Nat.min_le_right _ _⟩

/-- Inserts a text at the caret, which goes behind it. -/
def insert (s : Surface) (t : Text) : Surface :=
  place (s.content.take s.caret ++ t ++ s.content.drop s.caret) (s.caret + t.length)

/-- Removes the character before the caret, if there is one. -/
def deleteBack (s : Surface) : Surface :=
  place (s.content.take (s.caret - 1) ++ s.content.drop s.caret) (s.caret - 1)

/-- Removes the character behind the caret, if there is one. -/
def deleteForward (s : Surface) : Surface :=
  place (s.content.take s.caret ++ s.content.drop (s.caret + 1)) s.caret

/-- Moves the caret one character to the left. -/
def stepLeft (s : Surface) : Surface := place s.content (s.caret - 1)

/-- Moves the caret one character to the right. -/
def stepRight (s : Surface) : Surface := place s.content (s.caret + 1)

/-- Texts that the surface does not take for typing: line breaks come from keys. -/
def ignored : List Text := [[], ['\n'], ['\r']]

/-- The surface after an input, and whether the input counts as a change: a delete
key always does. The arrows up and down depend on the lines on the screen and have
no effect here. -/
def handle (s : Surface) : Input → Surface × Bool
  | .text t => if ignored.contains t then (s, false) else (s.insert t, true)
  | .paste t => if t.isEmpty then (s, false) else (s.insert t, true)
  | .key .enter => (s.insert ['\n'], true)
  | .key .tab => (s.insert ['\t'], true)
  | .key .backspace => (s.deleteBack, true)
  | .key .delete => (s.deleteForward, true)
  | .key .left => (s.stepLeft, false)
  | .key .right => (s.stepRight, false)
  | .key .escape | .key .up | .key .down => (s, false)

/-- The surface after inputs, and whether one of them counts as a change. -/
def run (s : Surface) (inputs : List Input) : Surface × Bool :=
  inputs.foldl (fun (s, changed) i => ((s.handle i).1, changed || (s.handle i).2)) (s, false)

end Surface

end Scratchpad
