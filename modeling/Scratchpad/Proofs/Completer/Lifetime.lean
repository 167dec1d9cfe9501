/-
How long a listing stays on the screen.

The caret keeps a listing as long as it stays between the start of the word and the end of the
run of word characters there, whatever way it goes in between. Once the popup is closed, only an
edit opens it.

* `Completer.isOpen_of_isOpen_handle`, `Completer.eq_closed_run`: no other event than an edit
  opens the popup, and no run of such events does.
* `Completer.KeepsCaretWithin`: the places of the caret that keep the listing.
  `Completer.isOpen_moveCaret_iff` says so for one move, `Completer.isOpen_moveCarets_iff` for a
  run of moves, and `Completer.shown_moveCarets` that the listing keeps its selection.
* `Completer.listing_stays_while_caret_in_run`: all of it for every reachable completer.
-/
import Mathlib.Tactic
import Scratchpad.Proofs.Completer.Listing

namespace Scratchpad

namespace Completer

variable {c : Completer}

lemma Reachable.run (h : c.Reachable) (events : List Event) : (c.run events).Reachable := by
  obtain ⟨start, before, hstart, rfl⟩ := h
  rw [← run_append]
  exact hstart.reachable_run _

/-! ### Closed popups -/

/-- What is open behind an event that is no edit was open before it. -/
lemma isOpen_of_isOpen_handle {e : Event} (he : e.isEdit = false)
    (hopen : (c.handle e).completer.popup.isOpen) : c.popup.isOpen :=
  (keepsListing_handle he hopen).isOpen hopen

lemma eq_closed_iff {p : Popup} : p = .closed ↔ ¬ p.isOpen := by
  cases p <;> simp [Popup.isOpen]

/-- A closed popup stays closed under events that are no edits. -/
lemma eq_closed_handle (hclosed : c.popup = .closed) {e : Event} (he : e.isEdit = false) :
    (c.handle e).completer.popup = .closed := by
  rw [eq_closed_iff] at hclosed ⊢
  exact fun hopen => hclosed (isOpen_of_isOpen_handle he hopen)

lemma eq_closed_run (hclosed : c.popup = .closed) {events : List Event}
    (hevents : ∀ e ∈ events, e.isEdit = false) : (c.run events).popup = .closed := by
  induction events generalizing c with
  | nil => exact hclosed
  | cons e events ih =>
      rw [List.forall_mem_cons] at hevents
      exact ih (eq_closed_handle hclosed hevents.1) hevents.2

/-! ### Moves of the caret -/

/-- The completer after the caret was moved to each of the given places in turn. -/
def moveCarets (c : Completer) (carets : List ℕ) : Completer := c.run (carets.map .moveCaret)

@[simp] lemma moveCarets_nil (c : Completer) : c.moveCarets [] = c := rfl

@[simp] lemma moveCarets_cons (c : Completer) (n : ℕ) (carets : List ℕ) :
    c.moveCarets (n :: carets) = (c.moveCaret n).completer.moveCarets carets := rfl

lemma moveCarets_append (c : Completer) (before after : List ℕ) :
    c.moveCarets (before ++ after) = (c.moveCarets before).moveCarets after := by
  rw [moveCarets, List.map_append, run_append]
  rfl

lemma eq_closed_moveCarets (hclosed : c.popup = .closed) (carets : List ℕ) :
    (c.moveCarets carets).popup = .closed :=
  eq_closed_run hclosed (by simp [Event.isEdit])

/-- Clamped to the document, the caret lies between the start of the word and the end of the run
of word characters that begins there. -/
def KeepsCaretWithin (c : Completer) (n : ℕ) : Prop :=
  c.word.start ≤ min n c.document.length ∧
    min n c.document.length ≤ WordSpan.runEnd c.document c.word.start

/-- A move keeps a listing on the screen exactly when it stays in the run of the word. -/
lemma isOpen_moveCaret_iff (hc : c.Coherent) (hopen : c.popup.isOpen) (n : ℕ) :
    (c.moveCaret n).completer.popup.isOpen = true ↔ c.KeepsCaretWithin n := by
  rw [isOpen_moveCaret hopen, KeepsCaretWithin, hc.word_eq]
  exact WordSpan.start_atCaret_eq_iff c.document c.caret n

/-- The run of the word does not depend on where in it the caret is. -/
lemma KeepsListing.keepsCaretWithin_iff {c' : Completer} (h : c.KeepsListing c') (n : ℕ) :
    c'.KeepsCaretWithin n ↔ c.KeepsCaretWithin n := by
  rw [KeepsCaretWithin, KeepsCaretWithin, h.document_eq, h.start_eq]

/-- A move that keeps the listing keeps its selection. -/
lemma selected_moveCaret {n : ℕ} (hopen : (c.moveCaret n).completer.popup.isOpen) :
    (c.moveCaret n).completer.popup.selected? = c.popup.selected? := by
  rw [completer_moveCaret] at hopen ⊢
  dsimp only at hopen ⊢
  split at hopen
  · next hstart =>
      rw [if_pos hstart, reanchor]
      cases c.popup <;> rfl
  · cases hopen

/-! ### Runs of moves -/

/-- A listing is still on the screen after a run of moves exactly when none of them has left the
run of the word. -/
lemma isOpen_moveCarets_iff (hc : c.Coherent) (hopen : c.popup.isOpen) (carets : List ℕ) :
    (c.moveCarets carets).popup.isOpen = true ↔ ∀ n ∈ carets, c.KeepsCaretWithin n := by
  induction carets generalizing c with
  | nil => simpa using hopen
  | cons n carets ih =>
      rw [moveCarets_cons, List.forall_mem_cons]
      by_cases hstay : (c.moveCaret n).completer.popup.isOpen
      · have hkeeps := keepsListing_moveCaret hstay
        rw [ih (hc.moveCaret n) hstay, and_iff_right ((isOpen_moveCaret_iff hc hopen n).mp hstay)]
        exact forall₂_congr fun k _ => hkeeps.keepsCaretWithin_iff k
      · have hclosed := eq_closed_moveCarets (eq_closed_iff.mpr hstay) carets
        rw [isOpen_moveCaret_iff hc hopen n] at hstay
        exact iff_of_false (eq_closed_iff.mp hclosed) fun h => hstay h.1

/-- A listing that is still on the screen after a run of moves is the one from before, with the
same candidate selected. -/
lemma shown_moveCarets {carets : List ℕ} (hopen : (c.moveCarets carets).popup.isOpen) :
    (c.moveCarets carets).popup.candidates = c.popup.candidates ∧
      (c.moveCarets carets).popup.selected? = c.popup.selected? := by
  induction carets generalizing c with
  | nil => exact ⟨rfl, rfl⟩
  | cons n carets ih =>
      rw [moveCarets_cons] at hopen ⊢
      have hstay : (c.moveCaret n).completer.popup.isOpen := by
        by_contra hleft
        exact eq_closed_iff.mp (eq_closed_moveCarets (eq_closed_iff.mpr hleft) carets) hopen
      obtain ⟨hcandidates, hselected⟩ := ih hopen
      exact ⟨hcandidates.trans (keepsListing_moveCaret hstay).candidates_eq,
        hselected.trans (selected_moveCaret hstay)⟩

/-- **Lifetime of a listing**: over any run of caret moves it stays on the screen exactly as long
as every move, clamped to the document, lies between the start of the word and the end of the run
of word characters there. While it stays it keeps its candidates and its selection; once it is
gone no further move brings it back, and no event at all does but an edit. -/
theorem listing_stays_while_caret_in_run (h : c.Reachable) :
    (c.popup.isOpen → ∀ carets : List ℕ,
      ((c.moveCarets carets).popup.isOpen = true ↔
        ∀ n ∈ carets, c.word.start ≤ min n c.document.length ∧
          min n c.document.length ≤ WordSpan.runEnd c.document c.word.start) ∧
      ((c.moveCarets carets).popup.isOpen →
        (c.moveCarets carets).popup.candidates = c.popup.candidates ∧
          (c.moveCarets carets).popup.selected? = c.popup.selected?) ∧
      ((c.moveCarets carets).popup = .closed →
        ∀ later, (c.moveCarets (carets ++ later)).popup = .closed)) ∧
    (c.popup = .closed → ∀ events : List Event, (∀ e ∈ events, e.isEdit = false) →
      (c.run events).popup = .closed) := by
  refine ⟨fun hopen carets => ⟨?_, shown_moveCarets, fun hclosed later => ?_⟩,
    fun hclosed events => eq_closed_run hclosed⟩
  · exact isOpen_moveCarets_iff h.coherent hopen carets
  · rw [moveCarets_append]
    exact eq_closed_moveCarets hclosed later

/-- In `foo print(1)` the listing of `pri` survives the moves to the end of `print` and back to
its front. The caret then goes to `foo`, and neither the way back to `print` nor a key, a new place
of the surface or a new document brings it back. -/
theorem listing_stays_in_print_and_closes_in_foo :
    let c := ({} : Completer).run [.edit "foo print(1)".toList 7, .pressKey .up]
    c.Reachable ∧ c.popup.isOpen ∧
      ((c.moveCarets [9, 4]).popup.isOpen = true ∧
        (c.moveCarets [9, 4]).popup.selected? = c.popup.selected?) ∧
      (∀ later, (c.moveCarets ([9, 4, 3] ++ later)).popup = .closed) ∧
      ((c.moveCarets [3]).run [.moveCaret 7, .pressKey .down, .setOrigin ⟨5, 7⟩,
        .load "pri".toList]).popup = .closed := by
  intro c
  have h : c.Reachable := isFresh_default.reachable_run _
  have hopen : c.popup.isOpen := by decide +kernel
  have hbounds : c.word.start = 4 ∧ c.document.length = 12 ∧
      WordSpan.runEnd c.document c.word.start = 9 := by decide +kernel
  obtain ⟨hstart, hlength, hend⟩ := hbounds
  have hlisting := (listing_stays_while_caret_in_run h).1 hopen
  have hstay : (c.moveCarets [9, 4]).popup.isOpen = true := by
    rw [(hlisting [9, 4]).1, hend, hstart, hlength]
    simp
  have hleft : (c.moveCarets [9, 4, 3]).popup = .closed := by
    rw [eq_closed_iff, (hlisting [9, 4, 3]).1, hend, hstart, hlength]
    simp
  have hgone : (c.moveCarets [3]).Reachable := h.run _
  have hclosed : (c.moveCarets [3]).popup = .closed := by
    rw [eq_closed_iff, (hlisting [3]).1, hend, hstart, hlength]
    simp
  exact ⟨h, hopen, ⟨hstay, ((hlisting [9, 4]).2.1 hstay).2⟩, (hlisting [9, 4, 3]).2.2 hleft,
    (listing_stays_while_caret_in_run hgone).2 hclosed _ (by simp [Event.isEdit])⟩

end Completer

end Scratchpad
