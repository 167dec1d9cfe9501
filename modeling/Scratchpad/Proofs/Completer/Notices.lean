/-
An observer of a completer misses nothing.

An observer is told of the popup once or not at all by each event. What it was told last looks like
the popup on the screen, even though it is not told of a listing that only goes to another place.

* `Popup.LooksLike`: two popups differ at most in their place.
* `Outcome.IsReported`: an observer is told of the popup that an event leaves, unless this looks
  like the one from before. `Completer.isReported_handle` says so for every event, and
  `Outcome.Informs` says what follows for the observer.
* `Completer.notices`: what an observer is told over a run of events.
  `Completer.looksLike_lastSeen` says that what it saw last looks like the popup at the end.
* `Completer.observer_misses_nothing`: both for every completer whose popup is closed at first.
-/
import Mathlib.Tactic
import Scratchpad.Completer
import Scratchpad.Proofs.Popup

namespace Scratchpad

namespace Popup

variable {p q r : Popup}

/-- Two popups are both closed, or they list the same candidates and have the same one selected;
the place does not count. -/
structure LooksLike (p q : Popup) : Prop where
  isOpen_eq : p.isOpen = q.isOpen
  candidates_eq : p.candidates = q.candidates
  selected_eq : p.selected? = q.selected?

lemma looksLike_refl (p : Popup) : p.LooksLike p := ⟨rfl, rfl, rfl⟩

lemma LooksLike.symm (h : p.LooksLike q) : q.LooksLike p :=
  ⟨h.isOpen_eq.symm, h.candidates_eq.symm, h.selected_eq.symm⟩

lemma LooksLike.trans (h : p.LooksLike q) (h' : q.LooksLike r) : p.LooksLike r :=
  ⟨h.isOpen_eq.trans h'.isOpen_eq, h.candidates_eq.trans h'.candidates_eq,
    h.selected_eq.trans h'.selected_eq⟩

lemma looksLike_moveTo (p : Popup) (anchor : Point) : (p.moveTo anchor).LooksLike p := by
  cases p with
  | closed => exact looksLike_refl _
  | shown l => exact ⟨rfl, rfl, rfl⟩

end Popup

/-! ### One event -/

/-- An observer is told of the popup that an event leaves behind, and of nothing else; it may not
be told where this popup looks like `before`. -/
def Outcome.IsReported {α : Type} (o : Outcome α) (before : Popup) : Prop :=
  o.notices = [o.completer.popup] ∨ o.notices = [] ∧ o.completer.popup.LooksLike before

/-- An observer is told at most once, of the popup at the end of the event, and always where this
does not look like `before`. -/
structure Outcome.Informs {α : Type} (o : Outcome α) (before : Popup) : Prop where
  length_le : o.notices.length ≤ 1
  eq_popup : ∀ p ∈ o.notices, p = o.completer.popup
  of_changed : ¬ o.completer.popup.LooksLike before → o.notices = [o.completer.popup]

lemma Outcome.IsReported.informs {α : Type} {o : Outcome α} {before : Popup}
    (h : o.IsReported before) : o.Informs before := by
  obtain hnotices | ⟨hnotices, hsame⟩ := h
  · exact ⟨by simp [hnotices], by simp [hnotices], fun _ => hnotices⟩
  · exact ⟨by simp [hnotices], by simp [hnotices], fun hchanged => absurd hsame hchanged⟩

namespace Completer

variable {c : Completer}

/-- Closing is reported unless nothing was open. -/
lemma isReported_close (c : Completer) : c.close.IsReported c.popup := by
  cases h : c.popup with
  | closed => exact Or.inr ⟨by simp [close, h, Popup.isOpen], Popup.looksLike_refl _⟩
  | shown l => exact Or.inl (by simp [close, h, Popup.isOpen])

lemma isReported_moveCaret (c : Completer) (caret : ℕ) : (c.moveCaret caret).IsReported c.popup := by
  simp only [moveCaret]
  split
  · exact Or.inr ⟨rfl, Popup.looksLike_refl _⟩
  · exact Or.inl rfl

lemma isReported_pressKey (c : Completer) (key : Key) : (c.pressKey key).IsReported c.popup := by
  rw [pressKey]
  split
  · next h =>
      rw [Popup.eq_of_pressKey h]
      exact Or.inr ⟨rfl, Popup.looksLike_refl _⟩
  · exact Or.inl rfl
  · exact Or.inl rfl
  · exact Or.inl rfl

lemma isReported_pickRow (c : Completer) (row : ℕ) : (c.pickRow row).IsReported c.popup := by
  rw [pickRow]
  split
  · exact Or.inl rfl
  · next t p hne h =>
      rw [Popup.eq_of_selectRow h hne]
      exact Or.inr ⟨rfl, Popup.looksLike_refl _⟩

/-- A surface that moves takes the listing along, which nobody is told of. -/
lemma isReported_setOrigin (c : Completer) (origin : Point) :
    (c.setOrigin origin).IsReported c.popup := by
  refine Or.inr ⟨rfl, ?_⟩
  simp only [setOrigin]
  split
  · exact Popup.looksLike_refl _
  · exact Popup.looksLike_moveTo _ _

lemma isReported_reconfigure (c : Completer) (options : Options) (metrics : Metrics) :
    (c.reconfigure options metrics).IsReported c.popup := by
  rw [reconfigure]
  split
  · exact isReported_close { c with options, metrics, limit := options.maxCandidates.toNat }
  · exact Or.inr ⟨rfl, Popup.looksLike_refl _⟩

theorem isReported_handle (c : Completer) (e : Event) : (c.handle e).IsReported c.popup := by
  cases e with
  | load text =>
      exact isReported_close
        { c with document := text, caret := 0, names := identifiers text, word := {} }
  | edit text caret => exact Or.inl rfl
  | moveCaret caret => exact c.isReported_moveCaret caret
  | pressKey key => exact c.isReported_pressKey key
  | pressOutside => exact c.isReported_close
  | pickRow row => exact c.isReported_pickRow row
  | setOrigin origin => exact c.isReported_setOrigin origin
  | reconfigure options metrics => exact c.isReported_reconfigure options metrics

/-- An edit is always told of. -/
lemma notices_of_isEdit (c : Completer) {e : Event} (he : e.isEdit) :
    (c.handle e).notices = [(c.handle e).completer.popup] := by
  cases e <;> first | rfl | cases he

/-! ### Runs -/

/-- What an observer is told over a run of events, in order. -/
def notices (c : Completer) : List Event → List Popup
  | [] => []
  | e :: events => (c.handle e).notices ++ (c.handle e).completer.notices events

/-- The popup that an observer saw last, who had seen `seen` before the run. -/
def lastSeen (c : Completer) (seen : Popup) (events : List Event) : Popup :=
  (c.notices events).getLast?.getD seen

lemma lastSeen_cons (c : Completer) (seen : Popup) (e : Event) (events : List Event) :
    c.lastSeen seen (e :: events) =
      (c.handle e).completer.lastSeen ((c.handle e).notices.getLast?.getD seen) events := by
  rw [lastSeen, notices, List.getLast?_append, Option.getD_or]
  rfl

/-- Who saw a popup like the present one sees one like it again after any event. -/
lemma looksLike_handle {seen : Popup} (h : seen.LooksLike c.popup) (e : Event) :
    ((c.handle e).notices.getLast?.getD seen).LooksLike (c.handle e).completer.popup := by
  obtain hnotices | ⟨hnotices, hsame⟩ := c.isReported_handle e
  · rw [hnotices]
    exact Popup.looksLike_refl _
  · rw [hnotices]
    exact h.trans hsame.symm

lemma looksLike_lastSeen {seen : Popup} (h : seen.LooksLike c.popup) (events : List Event) :
    (c.lastSeen seen events).LooksLike (c.run events).popup := by
  induction events generalizing c seen with
  | nil => exact h
  | cons e events ih =>
      rw [lastSeen_cons, run_cons]
      exact ih (looksLike_handle h e)

/-- **Observation**: over any run of events that begins with a closed popup, every event tells an
observer at most once, of the popup at its end; it does so if the popup then looks different from
before, and after every edit. What an observer was told last, or a closed popup where it was told
nothing, looks like the popup at the end of the run. -/
theorem observer_misses_nothing (hclosed : c.popup = .closed) (events : List Event) :
    (∀ e, ((c.run events).handle e).Informs (c.run events).popup ∧
      (e.isEdit →
        ((c.run events).handle e).notices = [((c.run events).handle e).completer.popup])) ∧
    (c.lastSeen .closed events).LooksLike (c.run events).popup := by
  refine ⟨fun e => ⟨((c.run events).isReported_handle e).informs, notices_of_isEdit _⟩, ?_⟩
  refine looksLike_lastSeen ?_ events
  rw [hclosed]
  exact Popup.looksLike_refl _

/-- A listing is opened and opened again, the second row is selected, the surface moves, the caret
leaves the word, and Escape comes too late. Neither the move of the surface, which changes the
popup, nor Escape is told of, and what was told last looks like the popup after every step. -/
theorem observer_of_moved_listing_misses_nothing :
    let events : List Event := [.edit "pri x".toList 3, .edit "p x".toList 1, .pressKey .down,
      .setOrigin ⟨5, 7⟩, .moveCaret 3, .pressKey .escape]
    (({} : Completer).notices events).map Popup.selected? = [some 0, some 0, some 1, none] ∧
    (({} : Completer).run (events.take 4)).popup ≠ (({} : Completer).run (events.take 3)).popup ∧
    ∀ n, (({} : Completer).lastSeen .closed (events.take n)).LooksLike
      (({} : Completer).run (events.take n)).popup := by
  intro events
  exact ⟨by decide +kernel, by decide +kernel,
    fun n => (observer_misses_nothing rfl (events.take n)).2⟩

end Completer

end Scratchpad
