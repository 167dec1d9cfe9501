/-
Acceptance replaces the word before the caret, and nothing else.

* `Completer.Accepted`: the completion that is handed out for a text and the completer left
  behind: the text stands where the word stood, everything around it is as before.
* `Completer.Coherent.accepted_complete`: completing a candidate of a coherent completer is
  such an acceptance, because the stored word ends at the caret.
* `Completer.acceptance_replaces_word`: the keys and the rows that accept do so with the
  candidate they stand for; rows that do not exist and keys without a listing do nothing.
-/
import Mathlib.Tactic
import Scratchpad.Proofs.Completer.Coherence

namespace Scratchpad

namespace Completer

variable {c : Completer}

/-- The completion `done` and the completer `after` are what accepting the text `x` makes of
the completer `c`. -/
structure Accepted (c : Completer) (x : Text) (done : Completion) (after : Completer) : Prop where
  text_eq : done.text = x
  document_eq : done.document = c.document.take c.word.start ++ x ++ c.document.drop c.caret
  caret_eq : done.caret = c.word.start + x.length
  /-- The document, the caret, their names and their word are new, the popup is closed, and
  nothing else changes. -/
  after_eq : after =
    { c with document := done.document, caret := done.caret, names := identifiers done.document,
             word := .atCaret done.document done.caret, popup := .closed }
  /-- A text of word characters is the word before the caret behind it. -/
  word_eq : (∀ ch ∈ x, isWordChar ch) → after.word = ⟨c.word.start, x⟩

/-- The stored word ends at the caret, so that cutting it out leaves what is behind the
caret. -/
lemma Coherent.replace_word (h : c.Coherent) (x : Text) :
    c.word.replace c.document x =
      (c.document.take c.word.start ++ x ++ c.document.drop c.caret, c.word.start + x.length) := by
  rw [WordSpan.replace_eq, h.start_add_length]

/-- The popup has closed before a candidate is completed. -/
lemma Coherent.accepted_complete (h : c.Coherent) (x : Candidate) :
    c.Accepted x.text ({ c with popup := .closed }.complete x).reply
      ({ c with popup := .closed }.complete x).completer := by
  have hreplace := h.replace_word x.text
  refine ⟨rfl, ?_, ?_, rfl, fun hx => ?_⟩
  · exact congrArg Prod.fst hreplace
  · exact congrArg Prod.snd hreplace
  · -- the word of `c` cannot start earlier, and the inserted text does not extend it
    have hsplice := WordSpan.atCaret_splice c.document (c.document.drop c.caret) c.caret hx
    rw [← h.word_eq] at hsplice
    rw [completer_complete]
    simpa only [Completer.complete, hreplace] using hsplice

/-! ### The inputs that accept -/

lemma pressKey_of_accepted {key : Key} {x : Candidate}
    (h : c.popup.pressKey key = (.accepted x, .closed)) :
    c.pressKey key =
      { { c with popup := .closed }.complete x with
        reply := .consumed (some ({ c with popup := .closed }.complete x).reply) } := by
  rw [pressKey, h]

lemma pickRow_of_accepted {row : ℕ} {x : Candidate}
    (h : c.popup.selectRow row = (.accepted x, .closed)) :
    c.pickRow row =
      { { c with popup := .closed }.complete x with
        reply := some ({ c with popup := .closed }.complete x).reply } := by
  rw [pickRow, h]

lemma pressKey_of_closed (h : c.popup = .closed) (key : Key) :
    c.pressKey key = { completer := c, reply := .notConsumed, notices := [] } := by
  rw [pressKey, h, Popup.pressKey_closed]
  simp [← h]

lemma pickRow_of_le {row : ℕ} (h : c.popup.candidates.length ≤ row) :
    c.pickRow row = { completer := c, reply := none, notices := [] } := by
  rw [pickRow, Popup.selectRow_of_le h]

/-- **Acceptance**: Enter and Tab put the selected candidate, and a row its own candidate, in the
place of the word before the caret. A row that does not exist, and every key while nothing is
shown, leaves the whole completer as it is and is not used up. -/
theorem acceptance_replaces_word (h : c.Reachable) :
    (∀ l, c.popup = .shown l →
      (∀ key, key = .enter ∨ key = .tab →
        ∃ done, (c.pressKey key).reply = .consumed (some done) ∧
          c.Accepted l.choice.text done (c.pressKey key).completer) ∧
      (∀ row, ∀ hrow : row < l.candidates.length,
        ∃ done, (c.pickRow row).reply = some done ∧
          c.Accepted (l.candidates[row]).text done (c.pickRow row).completer)) ∧
    (∀ row, c.popup.candidates.length ≤ row →
      c.pickRow row = { completer := c, reply := none, notices := [] }) ∧
    (c.popup = .closed → ∀ key,
      c.pressKey key = { completer := c, reply := .notConsumed, notices := [] }) := by
  refine ⟨fun l hl => ⟨fun key hkey => ?_, fun row hrow => ?_⟩, fun row => pickRow_of_le,
    pressKey_of_closed⟩
  · have haccept : c.popup.pressKey key = (.accepted l.choice, .closed) := by
      rw [hl]
      rcases hkey with rfl | rfl <;> rfl
    rw [pressKey_of_accepted haccept]
    exact ⟨_, rfl, h.coherent.accepted_complete l.choice⟩
  · have haccept : c.popup.selectRow row = (.accepted l.candidates[row], .closed) := by
      rw [hl, Popup.selectRow_of_lt hrow]
    rw [pickRow_of_accepted haccept]
    exact ⟨_, rfl, h.coherent.accepted_complete l.candidates[row]⟩

/-- Behind a letter of two bytes and before a bracket, Enter turns `pri` into `print`. -/
theorem acceptance_replaces_word_behind_wide_letter :
    let c := ({} : Completer).run [.edit "é pri(1)".toList 5]
    c.Reachable ∧ ∃ l, c.popup = .shown l ∧ l.choice.text = "print".toList ∧
      (c.pressKey .enter).reply =
        .consumed (some ⟨"print".toList, "é print(1)".toList, 7⟩) ∧
      ∃ done, (c.pressKey .enter).reply = .consumed (some done) ∧
        c.Accepted l.choice.text done (c.pressKey .enter).completer := by
  intro c
  have h : c.Reachable := isFresh_default.reachable_run _
  obtain ⟨l, hl⟩ : ∃ l, c.popup = .shown l := Popup.isOpen_iff.mp (by decide +kernel)
  have hchoice : c.popup.choice?.map Candidate.text = some "print".toList := by decide +kernel
  rw [hl] at hchoice
  have haccept := ((acceptance_replaces_word h).1 l hl).1 .enter (Or.inl rfl)
  exact ⟨h, l, hl, Option.some.inj hchoice, by decide +kernel, haccept⟩

end Completer

end Scratchpad
