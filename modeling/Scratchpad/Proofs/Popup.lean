/-
What keys and rows leave on the screen: the same list in the same place, or nothing.

* `Popup.Within`: a popup is closed or shows what another one shows, up to the selection.
* `Popup.pressKey_within`, `Popup.selectRow_within`: keys and rows lead to such popups only.
* `Popup.eq_closed_of_pressKey`, `Popup.eq_closed_of_selectRow`: an accepted candidate leaves
  the popup closed.
* `Popup.of_ofCandidates_eq_shown`, `Popup.of_moveTo_eq_shown`: what is known of a listing that
  was just opened or moved.
* `Popup.selectRow_of_lt`, `Popup.selectRow_of_le`: a row hands out its own candidate, and a
  row that does not exist is ignored.
* `Popup.eq_of_pressKey`, `Popup.eq_of_selectRow`: what is ignored leaves the popup as it is.
-/
import Mathlib.Tactic
import Scratchpad.Popup

namespace Scratchpad

namespace Popup

/-- The popup `q` is closed, or it shows the candidates of `p` where `p` does. -/
def Within (q p : Popup) : Prop :=
  ∀ l, q = shown l → ∃ k, p = shown k ∧ l.candidates = k.candidates ∧ l.anchor = k.anchor

lemma within_refl (p : Popup) : p.Within p := fun l h => ⟨l, h, rfl, rfl⟩

lemma closed_within (p : Popup) : closed.Within p := fun l h => absurd h (by simp)

/-- The selection is not part of what a popup shows. -/
lemma select_within (k : Listing) (i : ℕ) (h : i < k.candidates.length) :
    (shown (k.select i h)).Within (shown k) := by
  intro l hl
  cases hl
  exact ⟨k, rfl, rfl, rfl⟩

lemma selectNext_within (p : Popup) : p.selectNext.2.Within p := by
  cases p with
  | closed => exact closed_within _
  | shown k => exact select_within k _ _

lemma selectPrevious_within (p : Popup) : p.selectPrevious.2.Within p := by
  cases p with
  | closed => exact closed_within _
  | shown k => exact select_within k _ _

@[simp] lemma accept_snd (p : Popup) : p.accept.2 = closed := by cases p <;> rfl

@[simp] lemma dismiss_snd (p : Popup) : p.dismiss.2 = closed := by cases p <;> rfl

/-- A key moves the selection or closes the popup. -/
lemma pressKey_within (p : Popup) (key : Key) : (p.pressKey key).2.Within p := by
  cases key with
  | down => exact selectNext_within p
  | up => exact selectPrevious_within p
  | enter => rw [pressKey, accept_snd]; exact closed_within p
  | tab => rw [pressKey, accept_snd]; exact closed_within p
  | escape => rw [pressKey, dismiss_snd]; exact closed_within p
  | other => exact within_refl p

/-! ### Opening and moving -/

lemma isOpen_iff {p : Popup} : p.isOpen = true ↔ ∃ l, p = shown l := by
  cases p <;> simp [isOpen]

/-- What is open lists something. -/
lemma isOpen_iff_candidates_ne_nil {p : Popup} : p.isOpen = true ↔ p.candidates ≠ [] := by
  cases p with
  | closed => simp [isOpen, candidates]
  | shown l =>
      have hne : l.candidates ≠ [] := List.ne_nil_of_length_pos (Nat.zero_lt_of_lt l.selected_lt)
      simpa [isOpen, candidates] using hne

@[simp] lemma candidates_moveTo (p : Popup) (anchor : Point) :
    (p.moveTo anchor).candidates = p.candidates := by
  cases p <;> rfl

@[simp] lemma isOpen_moveTo (p : Popup) (anchor : Point) : (p.moveTo anchor).isOpen = p.isOpen := by
  cases p <;> rfl

lemma Within.candidates_eq {p q : Popup} (h : q.Within p) (hopen : q.isOpen) :
    q.candidates = p.candidates := by
  obtain ⟨l, rfl⟩ := isOpen_iff.mp hopen
  obtain ⟨k, rfl, hcandidates, -⟩ := h l rfl
  exact hcandidates

lemma of_ofCandidates_eq_shown {candidates : List Candidate} {anchor : Point} {l : Listing}
    (h : ofCandidates candidates anchor = shown l) :
    l.candidates = candidates ∧ l.selected = 0 ∧ l.anchor = anchor := by
  rw [ofCandidates] at h
  split at h
  · cases h
    exact ⟨rfl, rfl, rfl⟩
  · cases h

lemma of_moveTo_eq_shown {p : Popup} {anchor : Point} {l : Listing}
    (h : p.moveTo anchor = shown l) :
    ∃ k, p = shown k ∧ l.candidates = k.candidates ∧ l.selected = k.selected ∧
      l.anchor = anchor := by
  cases p with
  | closed => cases h
  | shown k =>
      cases h
      exact ⟨k, rfl, rfl, rfl, rfl⟩

/-! ### Rows -/

/-- A row hands out its own candidate. -/
lemma selectRow_of_lt {l : Listing} {i : ℕ} (h : i < l.candidates.length) :
    (shown l).selectRow i = (.accepted l.candidates[i], closed) := by
  rw [selectRow, dif_pos h]
  rfl

/-- A row that does not exist is ignored. -/
lemma selectRow_of_le {p : Popup} {i : ℕ} (h : p.candidates.length ≤ i) :
    p.selectRow i = (.ignored, p) := by
  cases p with
  | closed => rfl
  | shown l => exact dif_neg (Nat.not_lt.mpr h)

lemma selectRow_within (p : Popup) (i : ℕ) : (p.selectRow i).2.Within p := by
  rcases Nat.lt_or_ge i p.candidates.length with h | h
  · cases p with
    | closed => exact closed_within _
    | shown l => rw [selectRow_of_lt h]; exact closed_within _
  · rw [selectRow_of_le h]
    exact within_refl p

/-! ### Acceptance closes -/

lemma eq_closed_of_pressKey {p q : Popup} {key : Key} {x : Candidate}
    (h : p.pressKey key = (.accepted x, q)) : q = closed := by
  cases p <;> cases key <;> simp_all [pressKey, selectNext, selectPrevious, accept, dismiss]

lemma eq_closed_of_selectRow {p q : Popup} {i : ℕ} {x : Candidate}
    (h : p.selectRow i = (.accepted x, q)) : q = closed := by
  rcases Nat.lt_or_ge i p.candidates.length with hi | hi
  · cases p with
    | closed => simp [selectRow] at h
    | shown l =>
        rw [selectRow_of_lt hi] at h
        exact (Prod.mk.inj h).2.symm
  · rw [selectRow_of_le hi] at h
    simp at h

/-! ### Ignored inputs -/

lemma eq_of_pressKey {p q : Popup} {key : Key} (h : p.pressKey key = (.ignored, q)) : q = p := by
  cases p <;> cases key <;>
    simp_all [pressKey, selectNext, selectPrevious, accept, dismiss]

/-- A row is accepted or ignored. -/
lemma eq_of_selectRow {p q : Popup} {i : ℕ} {t : Transition} (h : p.selectRow i = (t, q))
    (ht : ∀ x, t ≠ .accepted x) : q = p := by
  rcases Nat.lt_or_ge i p.candidates.length with hi | hi
  · cases p with
    | closed => exact (Prod.mk.inj h).2.symm
    | shown l =>
        rw [selectRow_of_lt hi] at h
        exact absurd (Prod.mk.inj h).1.symm (ht _)
  · rw [selectRow_of_le hi] at h
    exact (Prod.mk.inj h).2.symm

end Popup

end Scratchpad
