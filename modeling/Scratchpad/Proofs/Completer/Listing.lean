/-
What the listing on the screen was matched against.

Only an edit matches candidates, and only an edit asks whether the word is long enough. The
caret then moves inside the word, to both sides of the place where the edit left it, and the
listing stays.

* `Completer.KeepsListing`: two completers show the same candidates for the same word of the same
  document. `Completer.keepsListing_run`: over events without edits that leave a listing on the
  screen, the listing was kept all along.
* `Completer.LatestEdit`: the last edit of a run, with its text and its caret.
  `Completer.exists_latestEdit`: a run that leaves a listing on the screen has one.
* `Completer.MatchedAt`: a listing that was matched for a text and a caret.
  `Completer.LatestEdit.matchedAt`: what is on the screen was matched for those of the latest edit.
* `Completer.shown_candidates_extend_matched_word`: the candidates begin with the word that the
  edit left before the caret, hence with the present word as long as the caret is not behind that
  place; `Completer.not_forall_extend_present_word` shows one behind it.
* `Completer.shown_listing_matched_long_word`: that word was long enough, hence the present word
  is, as long as the caret is not before that place; `Completer.not_forall_present_word_long`
  shows the caret at the front of the word.
-/
import Mathlib.Tactic
import Scratchpad.Proofs.Completer.Coherence
import Scratchpad.Proofs.IgnoringCase

namespace Scratchpad

namespace Completer

variable {c : Completer}

/-! ### Events that keep a listing -/

/-- The completer `c'` shows the candidates of `c`, for the same word of the same document and
under the same options. -/
structure KeepsListing (c c' : Completer) : Prop where
  document_eq : c'.document = c.document
  options_eq : c'.options = c.options
  start_eq : c'.word.start = c.word.start
  candidates_eq : c'.popup.candidates = c.popup.candidates

lemma keepsListing_refl (c : Completer) : c.KeepsListing c := ⟨rfl, rfl, rfl, rfl⟩

lemma KeepsListing.trans {c₁ c₂ c₃ : Completer} (h : c₁.KeepsListing c₂)
    (h' : c₂.KeepsListing c₃) : c₁.KeepsListing c₃ :=
  ⟨h'.document_eq.trans h.document_eq, h'.options_eq.trans h.options_eq,
    h'.start_eq.trans h.start_eq, h'.candidates_eq.trans h.candidates_eq⟩

/-- Of two completers that show the same candidates, both show something. -/
lemma KeepsListing.isOpen {c' : Completer} (h : c.KeepsListing c') (hopen : c'.popup.isOpen) :
    c.popup.isOpen := by
  rw [Popup.isOpen_iff_candidates_ne_nil, ← h.candidates_eq]
  exact Popup.isOpen_iff_candidates_ne_nil.mp hopen

lemma PopupInput.keepsListing {c' : Completer} (h : c.PopupInput c') (hopen : c'.popup.isOpen) :
    c.KeepsListing c' := by
  cases h with
  | kept p hp => exact ⟨rfl, rfl, rfl, hp.candidates_eq hopen⟩
  | completed x => cases hopen

/-- A listing survives a caret that stays behind the start of its word. -/
lemma keepsListing_moveCaret {caret : ℕ} (hopen : (c.moveCaret caret).completer.popup.isOpen) :
    c.KeepsListing (c.moveCaret caret).completer := by
  rw [completer_moveCaret] at hopen ⊢
  dsimp only at hopen ⊢
  split at hopen
  · next hstart =>
      rw [if_pos hstart]
      exact ⟨rfl, rfl, hstart, Popup.candidates_moveTo _ _⟩
  · cases hopen

lemma keepsListing_setOrigin (c : Completer) (origin : Point) :
    c.KeepsListing (c.setOrigin origin).completer := by
  simp only [Completer.setOrigin]
  split
  · exact keepsListing_refl c
  · exact ⟨rfl, rfl, rfl, Popup.candidates_moveTo _ _⟩

lemma keepsListing_reconfigure {options : Options} {metrics : Metrics}
    (hopen : (c.reconfigure options metrics).completer.popup.isOpen) :
    c.KeepsListing (c.reconfigure options metrics).completer := by
  cases hv : validateSettings options metrics with
  | ok u =>
      rw [reconfigure_of_ok c hv] at hopen
      cases hopen
  | error r =>
      rw [reconfigure_of_error c hv]
      exact keepsListing_refl c

/-- An event that leaves a listing on the screen is an edit, or it keeps the listing. -/
lemma keepsListing_handle {e : Event} (he : e.isEdit = false)
    (hopen : (c.handle e).completer.popup.isOpen) : c.KeepsListing (c.handle e).completer := by
  cases e with
  | load text => cases hopen
  | edit text caret => cases he
  | moveCaret caret => exact keepsListing_moveCaret hopen
  | pressKey key => exact (popupInput_pressKey c key).keepsListing hopen
  | pressOutside => cases hopen
  | pickRow row => exact (popupInput_pickRow c row).keepsListing hopen
  | setOrigin origin => exact keepsListing_setOrigin c origin
  | reconfigure options metrics => exact keepsListing_reconfigure hopen

/-- Events without edits that leave a listing on the screen keep it all along. -/
lemma keepsListing_run {events : List Event} (hevents : ∀ e ∈ events, e.isEdit = false)
    (hopen : (c.run events).popup.isOpen) : c.KeepsListing (c.run events) := by
  induction events generalizing c with
  | nil => exact keepsListing_refl c
  | cons e events ih =>
      rw [List.forall_mem_cons] at hevents
      have hlater := ih hevents.2 hopen
      exact (keepsListing_handle hevents.1 (hlater.isOpen hopen)).trans hlater

/-! ### The edit behind a listing -/

/-- The last edit among the events brings `text`, with the caret at `caret`. -/
def LatestEdit (events : List Event) (text : Text) (caret : ℕ) : Prop :=
  ∃ before later : List Event, events = before ++ .edit text caret :: later ∧
    ∀ e ∈ later, e.isEdit = false

/-- Among events there is a last edit, unless none of them is one. -/
lemma exists_latestEdit_or (events : List Event) :
    (∃ text caret, LatestEdit events text caret) ∨ ∀ e ∈ events, e.isEdit = false := by
  induction events with
  | nil => exact Or.inr (by simp)
  | cons e events ih =>
      rcases ih with ⟨text, caret, before, later, rfl, hlater⟩ | hnone
      · exact Or.inl ⟨text, caret, e :: before, later, rfl, hlater⟩
      · cases e with
        | edit text caret => exact Or.inl ⟨text, caret, [], events, rfl, hnone⟩
        | _ => exact Or.inr (List.forall_mem_cons.mpr ⟨rfl, hnone⟩)

/-- A fresh completer shows nothing, and nothing but an edit brings a listing to the screen. -/
lemma exists_latestEdit {start : Completer} (hstart : start.IsFresh) {events : List Event}
    (hopen : (start.run events).popup.isOpen) : ∃ text caret, LatestEdit events text caret := by
  refine (exists_latestEdit_or events).resolve_right fun hnone => ?_
  have hshown := (keepsListing_run hnone hopen).isOpen hopen
  rw [hstart.popup_eq] at hshown
  cases hshown

/-- The listing on the screen was matched against the word before `caret` in `text`, which is the
present document; this word was long enough, and the present word starts where it did. -/
structure MatchedAt (c : Completer) (text : Text) (caret : ℕ) : Prop where
  document_eq : c.document = text
  start_eq : c.word.start = (WordSpan.atCaret text caret).start
  text_ne_nil : (WordSpan.atCaret text caret).text ≠ []
  length_le : c.options.minPrefixLength.toNat ≤ (WordSpan.atCaret text caret).length
  startsWith : ∀ x ∈ c.popup.candidates,
    x.text.startsWithIgnoringCase (WordSpan.atCaret text caret).text

/-- An edit that opens the popup has found suggestions for a word that is long enough. -/
lemma matchedAt_edit {text : Text} {caret : ℕ}
    (hopen : (c.edit text caret).completer.popup.isOpen) :
    (c.edit text caret).completer.MatchedAt text caret := by
  have hword : (c.edit text caret).completer.word = WordSpan.atCaret text caret :=
    WordSpan.atCaret_min_length text caret
  have hpopup : (c.edit text caret).completer.popup =
      if (WordSpan.atCaret text caret).length < c.options.minPrefixLength.toNat then .closed
      else .ofCandidates (suggestions c.limit (WordSpan.atCaret text caret).text
        (identifiers text)) (c.edit text caret).completer.anchor := by
    rw [← hword]
    rfl
  have hlong : ¬ (WordSpan.atCaret text caret).length < c.options.minPrefixLength.toNat := by
    intro hshort
    rw [hpopup, if_pos hshort] at hopen
    cases hopen
  rw [if_neg hlong] at hpopup
  have hcandidates : (c.edit text caret).completer.popup.candidates =
      suggestions c.limit (WordSpan.atCaret text caret).text (identifiers text) := by
    rw [hpopup, Popup.candidates_ofCandidates]
  refine ⟨rfl, congrArg WordSpan.start hword, ?_, Nat.not_lt.mp hlong, ?_⟩
  · intro hnil
    rw [Popup.isOpen_iff_candidates_ne_nil, hcandidates] at hopen
    exact hopen (by rw [suggestions, show (WordSpan.atCaret text caret).text = [] from hnil]; rfl)
  · intro x hx
    rw [hcandidates] at hx
    exact startsWithIgnoringCase_of_mem_suggestions hx

lemma MatchedAt.of_keepsListing {c' : Completer} {text : Text} {caret : ℕ}
    (h : c.MatchedAt text caret) (hkeeps : c.KeepsListing c') : c'.MatchedAt text caret := by
  refine ⟨hkeeps.document_eq.trans h.document_eq, hkeeps.start_eq.trans h.start_eq,
    h.text_ne_nil, ?_, ?_⟩
  · rw [hkeeps.options_eq]
    exact h.length_le
  · rw [hkeeps.candidates_eq]
    exact h.startsWith

/-- What a run leaves on the screen was matched for its latest edit. -/
lemma LatestEdit.matchedAt {events : List Event} {text : Text} {caret : ℕ}
    (hedit : LatestEdit events text caret) (hopen : (c.run events).popup.isOpen) :
    (c.run events).MatchedAt text caret := by
  obtain ⟨before, later, rfl, hlater⟩ := hedit
  rw [run_append, run_cons] at hopen ⊢
  have hkeeps := keepsListing_run hlater hopen
  exact (matchedAt_edit (hkeeps.isOpen hopen)).of_keepsListing hkeeps

/-! ### Candidates and the present word -/

variable {start : Completer} {events : List Event}

/-- **Candidates of a listing**: behind every listing stands the latest edit of the run. The
document is the text of that edit, and the candidates begin with the word that it left before the
caret. The present word starts where that one did, and as long as the caret is not behind the place
where the edit left it, the candidates begin with the present word. -/
theorem shown_candidates_extend_matched_word (hstart : start.IsFresh)
    (hrun : start.run events = c) (hopen : c.popup.isOpen) :
    (∃ text caret, LatestEdit events text caret) ∧
    ∀ text caret, LatestEdit events text caret →
      c.document = text ∧ c.word.start = (WordSpan.atCaret text caret).start ∧
      ∀ x ∈ c.popup.candidates,
        x.text.startsWithIgnoringCase (WordSpan.atCaret text caret).text ∧
        (c.caret ≤ caret → x.text.startsWithIgnoringCase c.word.text) := by
  subst hrun
  refine ⟨exists_latestEdit hstart hopen, fun text caret hedit => ?_⟩
  have hmatched := hedit.matchedAt hopen
  refine ⟨hmatched.document_eq, hmatched.start_eq, fun x hx => ⟨hmatched.startsWith x hx, ?_⟩⟩
  intro hcaret
  have hword := (hstart.reachable_run events).coherent.word_eq
  have hstarts := hmatched.start_eq
  rw [hword, hmatched.document_eq] at hstarts ⊢
  exact Text.startsWithIgnoringCase_of_prefix (WordSpan.text_prefix_of_start_eq hcaret hstarts)
    (hmatched.startsWith x hx)

/-- After another edit the caret goes back inside the word, and the candidates still begin with
what is left of it. -/
theorem shown_candidates_extend_shortened_word :
    let text := "-- é\npri(1)".toList
    let events : List Event := [.edit "lo".toList 2, .edit text 8, .moveCaret 6]
    let c := ({} : Completer).run events
    c.popup.isOpen ∧ LatestEdit events text 8 ∧ c.document = text ∧
      c.word.start = (WordSpan.atCaret text 8).start ∧
      ∀ x ∈ c.popup.candidates,
        x.text.startsWithIgnoringCase (WordSpan.atCaret text 8).text ∧
        (c.caret ≤ 8 → x.text.startsWithIgnoringCase c.word.text) := by
  intro text events c
  have hopen : c.popup.isOpen := by decide +kernel
  have hedit : LatestEdit events text 8 :=
    ⟨[.edit "lo".toList 2], [.moveCaret 6], rfl, by simp [Event.isEdit]⟩
  have hrun : ({} : Completer).run events = c := rfl
  exact ⟨hopen, hedit,
    (shown_candidates_extend_matched_word isFresh_default hrun hopen).2 text 8 hedit⟩

/-- Behind that place they need not: once `pri` was typed into `printer`, the caret at its end
has `print` on the screen for `printer`. -/
theorem not_forall_extend_present_word :
    ¬ ∀ c : Completer, c.Reachable → c.popup.isOpen →
      ∀ x ∈ c.popup.candidates, x.text.startsWithIgnoringCase c.word.text := by
  intro hall
  let c := ({} : Completer).run [.edit "printer".toList 3, .moveCaret 7]
  have hshown : c.popup.isOpen ∧
      ∃ x ∈ c.popup.candidates, x.text.startsWithIgnoringCase c.word.text = false := by
    decide +kernel
  obtain ⟨hopen, x, hx, hfalse⟩ := hshown
  have htrue := hall c (isFresh_default.reachable_run _) hopen x hx
  rw [hfalse] at htrue
  cases htrue

/-! ### The length of the present word -/

lemma word_moveCaret (c : Completer) (caret : ℕ) :
    (c.moveCaret caret).completer.word = WordSpan.atCaret c.document caret := by
  rw [completer_moveCaret, ← WordSpan.atCaret_min_length c.document caret]
  dsimp only
  split <;> rfl

/-- A listing stays on the screen exactly when the start of the word does. -/
lemma isOpen_moveCaret (hopen : c.popup.isOpen) (caret : ℕ) :
    (c.moveCaret caret).completer.popup.isOpen = true ↔
      (WordSpan.atCaret c.document caret).start = c.word.start := by
  rw [← WordSpan.atCaret_min_length c.document caret, completer_moveCaret]
  dsimp only
  split
  · next hstart => exact iff_of_true (by rw [reanchor, Popup.isOpen_moveTo, hopen]) hstart
  · next hstart => exact iff_of_false (by simp [Popup.isOpen]) hstart

/-- **Length of the word of a listing**: the word that the latest edit of the run left before the
caret has a character, and as many as the options ask for. So has the present word, which starts
where that one did, as long as the caret is not before the place where the edit left it. A caret
that leaves no word before it closes the popup, unless it stands at the front of the word itself. -/
theorem shown_listing_matched_long_word (hstart : start.IsFresh) (hrun : start.run events = c)
    (hopen : c.popup.isOpen) :
    ((∃ text caret, LatestEdit events text caret) ∧
      ∀ text caret, LatestEdit events text caret →
        c.document = text ∧ c.word.start = (WordSpan.atCaret text caret).start ∧
        (WordSpan.atCaret text caret).text ≠ [] ∧
        c.options.minPrefixLength.toNat ≤ (WordSpan.atCaret text caret).length ∧
        (min caret text.length ≤ c.caret →
          c.word.text ≠ [] ∧ c.options.minPrefixLength.toNat ≤ c.word.length)) ∧
    ∀ n, (c.moveCaret n).completer.word.text = [] →
      ((c.moveCaret n).completer.popup.isOpen = true ↔ min n c.document.length = c.word.start) := by
  subst hrun
  refine ⟨⟨exists_latestEdit hstart hopen, fun text caret hedit => ?_⟩, fun n hnil => ?_⟩
  · have hmatched := hedit.matchedAt hopen
    refine ⟨hmatched.document_eq, hmatched.start_eq, hmatched.text_ne_nil, hmatched.length_le, ?_⟩
    intro hcaret
    have hword := (hstart.reachable_run events).coherent.word_eq
    have hpre : (WordSpan.atCaret text caret).text <+: (start.run events).word.text := by
      have hstarts := hmatched.start_eq
      rw [hword, hmatched.document_eq, ← WordSpan.atCaret_min_length text caret] at hstarts
      rw [hword, hmatched.document_eq, ← WordSpan.atCaret_min_length text caret]
      exact WordSpan.text_prefix_of_start_eq hcaret hstarts.symm
    refine ⟨fun hnil => hmatched.text_ne_nil ?_, hmatched.length_le.trans hpre.length_le⟩
    rw [hnil] at hpre
    exact List.prefix_nil.mp hpre
  · rw [word_moveCaret] at hnil
    rw [isOpen_moveCaret hopen, WordSpan.start_eq_of_text_eq_nil hnil]

/-- The caret goes on inside the word, under options that ask for two characters. -/
theorem shown_listing_matched_long_word_ahead :
    let text := "x = prin".toList
    let events : List Event :=
      [.reconfigure { minPrefixLength := 2 } {}, .edit text 6, .moveCaret 7]
    let c := ({} : Completer).run events
    c.popup.isOpen ∧ LatestEdit events text 6 ∧
    (c.document = text ∧ c.word.start = (WordSpan.atCaret text 6).start ∧
      (WordSpan.atCaret text 6).text ≠ [] ∧
      c.options.minPrefixLength.toNat ≤ (WordSpan.atCaret text 6).length ∧
      (min 6 text.length ≤ c.caret →
        c.word.text ≠ [] ∧ c.options.minPrefixLength.toNat ≤ c.word.length)) ∧
    ((c.moveCaret 4).completer.word.text = [] ∧
      ((c.moveCaret 4).completer.popup.isOpen = true ↔
        min 4 c.document.length = c.word.start)) := by
  intro text events c
  obtain ⟨hopen, hnil⟩ : c.popup.isOpen ∧ (c.moveCaret 4).completer.word.text = [] := by
    decide +kernel
  have hedit : LatestEdit events text 6 :=
    ⟨[.reconfigure { minPrefixLength := 2 } {}], [.moveCaret 7], rfl, by simp [Event.isEdit]⟩
  have hrun : ({} : Completer).run events = c := rfl
  obtain ⟨⟨-, hlong⟩, hcloses⟩ := shown_listing_matched_long_word isFresh_default hrun hopen
  exact ⟨hopen, hedit, hlong text 6 hedit, hnil, hcloses 4 hnil⟩

/-- At the front of the word the popup is open on no word at all. -/
theorem not_forall_present_word_long :
    ¬ ∀ c : Completer, c.Reachable → c.popup.isOpen →
      c.word.text ≠ [] ∧ c.options.minPrefixLength.toNat ≤ c.word.length := by
  intro hall
  let c := ({} : Completer).run [.edit "pri".toList 3, .moveCaret 0]
  have hshown : c.popup.isOpen ∧ c.word.text = [] := by decide +kernel
  exact (hall c (isFresh_default.reachable_run _) hshown.1).1 hshown.2

end Completer

end Scratchpad
