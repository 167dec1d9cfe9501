/-
The word that is being typed, and its replacement by a suggestion.

* `WordSpan`: the part of a word before the caret, with its position.
* `WordSpan.atCaret`: the longest run of word characters that ends at the caret.
* `WordSpan.replace`: puts a text in the place of the word, cutting the document
  at the bytes of its two ends; `replace_eq` says that this cuts at the
  characters it should.
-/
import Scratchpad.Text.CharClass
import Scratchpad.Text

namespace Scratchpad

/-- The part of a word before the caret. -/
structure WordSpan where
  /-- The position of its first character. -/
  start : Nat := 0
  text : Text := []
  deriving DecidableEq, Repr

namespace WordSpan

/-- The number of characters. -/
def length (w : WordSpan) : Nat := w.text.length

/-- Whether there is no character. -/
def isEmpty (w : WordSpan) : Bool := w.text.isEmpty

/-- The longest run of word characters that ends at the caret, which is clamped to
the text. -/
def atCaret (t : Text) (caret : Nat) : WordSpan :=
  let before := t.take caret
  let text := (before.reverse.takeWhile isWordChar).reverse
  ⟨before.length - text.length, text⟩

/-- The document with the word replaced by `completion`, and the position behind
it. -/
def replace (w : WordSpan) (document completion : Text) : Text × Nat :=
  let first := document.byteIndex w.start
  let last := document.byteIndex (w.start + w.length)
  (document.beforeByte first ++ completion ++ document.fromByte last,
    w.start + completion.length)

/-- Cutting at bytes cuts between the characters. -/
theorem replace_eq (w : WordSpan) (document completion : Text) :
    w.replace document completion =
      (document.take w.start ++ completion ++ document.drop (w.start + w.length),
        w.start + completion.length) := by
  simp [replace]

@[simp] theorem atCaret_zero (t : Text) : atCaret t 0 = ⟨0, []⟩ := by simp [atCaret]

/-- The word ends at the caret. -/
theorem start_add_length_atCaret (t : Text) (caret : Nat) :
    (atCaret t caret).start + (atCaret t caret).length = min caret t.length := by
  have h := (List.takeWhile_prefix isWordChar (l := (t.take caret).reverse)).length_le
  simp only [List.length_reverse, List.length_take] at h
  simp only [atCaret, length, List.length_reverse, List.length_take]
  omega

end WordSpan

end Scratchpad
