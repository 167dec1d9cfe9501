/-
The derived state of a completer never lags behind its document.

* `Completer.IsFresh`, `Completer.Reachable`: completers that nothing has happened to, and the
  completers that events make of them.
* `Completer.run_induction`: what every event keeps, every run keeps.
* `Completer.Coherent`: the caret lies in the document, names and word are those of the document
  at the caret, the limit is that of the options, and the settings are valid.
  `Completer.Coherent.handle` keeps it over one event, `Completer.Reachable.coherent` says that
  it holds always.
* `Completer.PopupInput`: the two things that a key or a row can do to a completer, with
  `Completer.popupInput_pressKey` and `Completer.popupInput_pickRow`.
* `Completer.Fits`: a listing has candidates, no more of them than the options allow, and stands
  at the caret; `Completer.Coherent.fitting_handle` keeps it over one event.
* `Completer.derived_state_of_reachable`: both hold of every reachable completer.
-/
import Mathlib.Tactic
import Scratchpad.Completer
import Scratchpad.Proofs.Popup
import Scratchpad.Proofs.Word

namespace Scratchpad

namespace Completer

/-- A completer that nothing has happened to: the default one, or one whose settings were
accepted. -/
def IsFresh (c : Completer) : Prop :=
  c = {} ∨ ∃ options metrics, configured? options metrics = .ok c

/-- The completers that runs of events make of fresh ones. -/
def Reachable (c : Completer) : Prop :=
  ∃ (start : Completer) (events : List Event), start.IsFresh ∧ start.run events = c

variable {c : Completer}

/-- What every event keeps, every run keeps. -/
lemma run_induction {P : Completer → Prop}
    (hstep : ∀ {c : Completer}, P c → ∀ e, P (c.handle e).completer) (h : P c)
    (events : List Event) : P (c.run events) := by
  induction events generalizing c with
  | nil => exact h
  | cons e events ih => exact ih (hstep h e)

lemma IsFresh.reachable_run (h : c.IsFresh) (events : List Event) : (c.run events).Reachable :=
  ⟨c, events, h, rfl⟩

lemma isFresh_default : IsFresh {} := Or.inl rfl

/-- A fresh completer has valid settings and nothing else of its own. -/
lemma IsFresh.eq {c : Completer} (h : c.IsFresh) :
    ∃ options metrics, validateSettings options metrics = .ok () ∧ c = { options, metrics } := by
  obtain rfl | ⟨options, metrics, h⟩ := h
  · exact ⟨{}, {}, validateSettings_eq_ok_iff.mpr
      ⟨Options.validate_eq_ok_iff.mpr (by decide), Metrics.validate_eq_ok_iff.mpr (by decide)⟩, rfl⟩
  · rw [configured?] at h
    split at h
    · next hok =>
        cases h
        exact ⟨options, metrics, hok, rfl⟩
    · cases h

/-! ### Coherence -/

/-- What is derived from the document and the settings agrees with them. -/
structure Coherent (c : Completer) : Prop where
  caret_le : c.caret ≤ c.document.length
  names_eq : c.names = identifiers c.document
  word_eq : c.word = .atCaret c.document c.caret
  limit_eq : c.limit = c.options.maxCandidates.toNat
  options_valid : c.options.validate = .ok ()
  metrics_valid : c.metrics.validate = .ok ()

lemma IsFresh.coherent (h : c.IsFresh) : c.Coherent := by
  obtain ⟨options, metrics, hok, rfl⟩ := h.eq
  obtain ⟨ho, hm⟩ := validateSettings_eq_ok_iff.mp hok
  exact ⟨le_rfl, rfl, (WordSpan.atCaret_zero []).symm, rfl, ho, hm⟩

namespace Coherent

/-- Coherence is not about the popup. -/
lemma withPopup (h : c.Coherent) (p : Popup) : Coherent { c with popup := p } :=
  ⟨h.caret_le, h.names_eq, h.word_eq, h.limit_eq, h.options_valid, h.metrics_valid⟩

/-- The word ends at the caret. -/
lemma start_add_length (h : c.Coherent) : c.word.start + c.word.length = c.caret := by
  rw [h.word_eq, WordSpan.start_add_length_atCaret]
  exact min_eq_left h.caret_le

lemma start_le (h : c.Coherent) : c.word.start ≤ c.document.length := by
  have hend := h.start_add_length
  have hle := h.caret_le
  omega

lemma load (h : c.Coherent) (text : Text) : (c.load text).completer.Coherent := by
  rw [completer_load]
  exact ⟨Nat.zero_le _, rfl, (WordSpan.atCaret_zero text).symm, h.limit_eq, h.options_valid,
    h.metrics_valid⟩

lemma edit (h : c.Coherent) (text : Text) (caret : ℕ) :
    (c.edit text caret).completer.Coherent := by
  rw [completer_edit]
  exact ⟨min_le_right _ _, rfl, rfl, h.limit_eq, h.options_valid, h.metrics_valid⟩

lemma moveCaret (h : c.Coherent) (caret : ℕ) : (c.moveCaret caret).completer.Coherent := by
  have hmoved : Coherent { c with caret := c.clamp caret,
                                  word := .atCaret c.document (c.clamp caret) } :=
    ⟨min_le_right _ _, h.names_eq, rfl, h.limit_eq, h.options_valid, h.metrics_valid⟩
  rw [completer_moveCaret]
  dsimp only
  split
  · exact hmoved.withPopup _
  · exact hmoved.withPopup _

/-- An accepted candidate leaves the caret behind it, inside the new document. -/
lemma complete (h : c.Coherent) (x : Candidate) : (c.complete x).completer.Coherent := by
  have hstart := h.start_le
  rw [completer_complete]
  refine ⟨?_, rfl, rfl, h.limit_eq, h.options_valid, h.metrics_valid⟩
  simp only [Completer.complete, WordSpan.replace_eq, List.length_append, List.length_take]
  omega

lemma setOrigin (h : c.Coherent) (origin : Point) : (c.setOrigin origin).completer.Coherent := by
  simp only [Completer.setOrigin]
  split
  · exact h
  · exact ⟨h.caret_le, h.names_eq, h.word_eq, h.limit_eq, h.options_valid, h.metrics_valid⟩

lemma reconfigure (h : c.Coherent) (options : Options) (metrics : Metrics) :
    (c.reconfigure options metrics).completer.Coherent := by
  cases hv : validateSettings options metrics with
  | ok u =>
      obtain ⟨ho, hm⟩ := validateSettings_eq_ok_iff.mp hv
      rw [reconfigure_of_ok c hv]
      exact ⟨h.caret_le, h.names_eq, h.word_eq, rfl, ho, hm⟩
  | error r =>
      rw [reconfigure_of_error c hv]
      exact h

end Coherent

/-! ### Keys and rows -/

/-- Whatever comes from the popup, a completer keeps everything but the popup, which only closes
or changes its selection, or it closes the popup and completes a candidate. -/
inductive PopupInput (c : Completer) : Completer → Prop
  | kept (p : Popup) (h : p.Within c.popup) : PopupInput c { c with popup := p }
  | completed (x : Candidate) : PopupInput c ({ c with popup := .closed }.complete x).completer

lemma popupInput_pressKey (c : Completer) (key : Key) : c.PopupInput (c.pressKey key).completer := by
  have hwithin := Popup.pressKey_within c.popup key
  rw [pressKey]
  split
  · next h => exact .kept _ (by rwa [h] at hwithin)
  · next h => exact .kept _ (by rwa [h] at hwithin)
  · next h => exact .kept _ (by rwa [h] at hwithin)
  · next x p h =>
      rw [Popup.eq_closed_of_pressKey h]
      exact .completed x

lemma popupInput_pickRow (c : Completer) (row : ℕ) : c.PopupInput (c.pickRow row).completer := by
  have hwithin := Popup.selectRow_within c.popup row
  rw [pickRow]
  split
  · next x p h =>
      rw [Popup.eq_closed_of_selectRow h]
      exact .completed x
  · next h => exact .kept _ (by rwa [h] at hwithin)

lemma PopupInput.coherent {c' : Completer} (h : c.PopupInput c') (hc : c.Coherent) :
    c'.Coherent := by
  cases h with
  | kept p _ => exact hc.withPopup p
  | completed x => exact (hc.withPopup .closed).complete x

/-! ### Coherence over events -/

theorem Coherent.handle (h : c.Coherent) (e : Event) : (c.handle e).completer.Coherent := by
  cases e with
  | load text => exact h.load text
  | edit text caret => exact h.edit text caret
  | moveCaret caret => exact h.moveCaret caret
  | pressKey key => exact (popupInput_pressKey c key).coherent h
  | pressOutside => exact h.withPopup .closed
  | pickRow row => exact (popupInput_pickRow c row).coherent h
  | setOrigin origin => exact h.setOrigin origin
  | reconfigure options metrics => exact h.reconfigure options metrics

theorem Reachable.coherent (h : c.Reachable) : c.Coherent := by
  obtain ⟨start, events, hstart, rfl⟩ := h
  exact run_induction Coherent.handle hstart.coherent events

/-! ### The listing on the screen -/

/-- A listing has candidates, no more of them than the options allow, one of them is selected,
and it stands at the caret. -/
structure Fits (c : Completer) (l : Listing) : Prop where
  candidates_ne_nil : l.candidates ≠ []
  length_le : l.candidates.length ≤ c.options.maxCandidates.toNat
  selected_lt_length : l.selected < l.candidates.length
  anchor_eq : l.anchor = Scratchpad.anchor c.document c.caret c.origin c.metrics

/-- The listing on the screen, if there is one, fits. -/
def Fitting (c : Completer) : Prop := ∀ l, c.popup = .shown l → c.Fits l

lemma fitting_of_closed (h : c.popup = .closed) : c.Fitting := by
  intro l hl
  rw [h] at hl
  cases hl

lemma Fits.of_candidates_eq {c' : Completer} {k l : Listing} (h : c.Fits k)
    (hcandidates : l.candidates = k.candidates) (hoptions : c'.options = c.options)
    (hanchor : l.anchor = c'.anchor) : c'.Fits l :=
  ⟨hcandidates ▸ h.candidates_ne_nil, by rw [hcandidates, hoptions]; exact h.length_le,
    l.selected_lt, hanchor⟩

/-- A popup that came from the one on the screen fits where that did. -/
lemma Fitting.withPopup (h : c.Fitting) {p : Popup} (hp : p.Within c.popup) :
    Fitting { c with popup := p } := by
  intro l hl
  obtain ⟨k, hk, hcandidates, hanchor⟩ := hp l hl
  have hfits := h k hk
  exact hfits.of_candidates_eq hcandidates rfl (hanchor.trans hfits.anchor_eq)

/-- After a listing has followed the caret it fits, wherever the caret and the surface went. -/
lemma Fitting.reanchor {c' : Completer} (h : c.Fitting) (hpopup : c'.popup = c.popup)
    (hoptions : c'.options = c.options) : c'.reanchor.Fitting := by
  intro l hl
  obtain ⟨k, hk, hcandidates, -, hanchor⟩ := Popup.of_moveTo_eq_shown hl
  exact (h k (hpopup ▸ hk)).of_candidates_eq hcandidates hoptions hanchor

/-- A listing opened by an edit fits. -/
lemma fitting_refresh (hlimit : c.limit = c.options.maxCandidates.toNat) : c.refresh.Fitting := by
  intro l hl
  simp only [refresh, freshPopup] at hl
  split at hl
  · cases hl
  · obtain ⟨hcandidates, -, hanchor⟩ := Popup.of_ofCandidates_eq_shown hl
    refine ⟨List.ne_nil_of_length_pos (Nat.zero_lt_of_lt l.selected_lt), ?_, l.selected_lt, hanchor⟩
    rw [hcandidates]
    exact (length_suggestions_le _ _ _).trans hlimit.le

lemma Fitting.moveCaret (h : c.Fitting) (caret : ℕ) : (c.moveCaret caret).completer.Fitting := by
  rw [completer_moveCaret]
  dsimp only
  split
  · exact h.reanchor rfl rfl
  · exact fitting_of_closed rfl

lemma Fitting.setOrigin (h : c.Fitting) (origin : Point) :
    (c.setOrigin origin).completer.Fitting := by
  simp only [Completer.setOrigin]
  split
  · exact h
  · exact h.reanchor rfl rfl

lemma Fitting.reconfigure (h : c.Fitting) (options : Options) (metrics : Metrics) :
    (c.reconfigure options metrics).completer.Fitting := by
  cases hv : validateSettings options metrics with
  | ok u =>
      rw [reconfigure_of_ok c hv]
      exact fitting_of_closed rfl
  | error r =>
      rw [reconfigure_of_error c hv]
      exact h

lemma PopupInput.fitting {c' : Completer} (h : c.PopupInput c') (hc : c.Fitting) :
    c'.Fitting := by
  cases h with
  | kept p hp => exact hc.withPopup hp
  | completed x => exact fitting_of_closed rfl

/-- A listing stays fitting. An edit cuts its suggestions to the stored limit, which is that of
the options in a coherent completer. -/
theorem Coherent.fitting_handle (hc : c.Coherent) (h : c.Fitting) (e : Event) :
    (c.handle e).completer.Fitting := by
  cases e with
  | load text => exact fitting_of_closed rfl
  | edit text caret => exact fitting_refresh hc.limit_eq
  | moveCaret caret => exact h.moveCaret caret
  | pressKey key => exact (popupInput_pressKey c key).fitting h
  | pressOutside => exact fitting_of_closed rfl
  | pickRow row => exact (popupInput_pickRow c row).fitting h
  | setOrigin origin => exact h.setOrigin origin
  | reconfigure options metrics => exact h.reconfigure options metrics

/-- A fresh completer shows nothing. -/
lemma IsFresh.popup_eq (h : c.IsFresh) : c.popup = .closed := by
  obtain ⟨options, metrics, -, rfl⟩ := h.eq
  rfl

/-- **Coherence**: whatever happened to a completer, what it derives is that of its document and
its settings, and a listing on the screen fits. -/
theorem derived_state_of_reachable (h : c.Reachable) :
    c.Coherent ∧ ∀ l, c.popup = .shown l → c.Fits l := by
  obtain ⟨start, events, hstart, rfl⟩ := h
  refine run_induction (P := fun c => c.Coherent ∧ c.Fitting) ?_ ?_ events
  · intro c h e
    exact ⟨h.1.handle e, h.1.fitting_handle h.2 e⟩
  · exact ⟨hstart.coherent, fitting_of_closed hstart.popup_eq⟩

/-- A listing of two, with the second selected, the surface moved and the caret gone back. -/
theorem derived_state_of_moved_listing :
    let c := ({} : Completer).run [.edit "local pr = 1\npr".toList 99, .pressKey .down,
      .setOrigin ⟨5, 7⟩, .moveCaret 14]
    c.Reachable ∧ c.popup.selected? = some 1 ∧
      (c.Coherent ∧ ∀ l, c.popup = .shown l → c.Fits l) := by
  intro c
  have h : c.Reachable := isFresh_default.reachable_run _
  exact ⟨h, by decide +kernel, derived_state_of_reachable h⟩

end Completer

end Scratchpad
