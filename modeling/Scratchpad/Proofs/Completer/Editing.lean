/-
An edit forgets what was before it.

* `Completer.edited`: what an edit makes of a completer, written out of the text, the caret, the
  settings and the origin alone. `Completer.Reachable.completer_edit_eq` says that an edit does make
  this of every reachable completer.
* `Completer.edit_depends_on_settings_only`: when the popup is open after an edit, what it lists
  then, and that nothing else of the past is left.
-/
import Mathlib.Tactic
import Scratchpad.Proofs.Completer.Coherence
import Scratchpad.Proofs.Suggestions

namespace Scratchpad

namespace Completer

variable {c : Completer}

/-! ### What an edit leaves behind -/

/-- The popup after an edit, by the text, the caret in it, the settings and the origin. -/
def editedPopup (options : Options) (metrics : Metrics) (origin : Point) (text : Text)
    (caret : ℕ) : Popup :=
  let word := WordSpan.atCaret text caret
  if options.minPrefixLength.toNat ≤ word.length then
    .ofCandidates
      ((Candidate.extending word.text (identifiers text)).take options.maxCandidates.toNat)
      (Scratchpad.anchor text caret origin metrics)
  else .closed

/-- What an edit makes of a completer with the given settings and origin. -/
def edited (options : Options) (metrics : Metrics) (origin : Point) (text : Text) (caret : ℕ) :
    Completer where
  options
  metrics
  origin
  document := text
  caret := min caret text.length
  names := identifiers text
  word := .atCaret text (min caret text.length)
  popup := editedPopup options metrics origin text (min caret text.length)

/-- A word that is long enough is not empty. -/
lemma text_ne_nil_of_le {options : Options} (h : options.validate = .ok ()) {word : WordSpan}
    (hlong : options.minPrefixLength.toNat ≤ word.length) : word.text ≠ [] := by
  intro hnil
  have hmin := (Options.validate_eq_ok_iff.mp h).2
  rw [WordSpan.length, hnil, List.length_nil, Nat.le_zero] at hlong
  exact hmin (UInt64.toNat_inj.mp hlong)

/-- Whatever happened to a completer, an edit makes of it what it makes of a new one. -/
lemma Coherent.completer_edit_eq (h : c.Coherent) (text : Text) (caret : ℕ) :
    (c.edit text caret).completer = edited c.options c.metrics c.origin text caret := by
  have hlimit := h.limit_eq
  rw [completer_edit]
  simp only [refresh, freshPopup, edited, editedPopup, Completer.mk.injEq, true_and]
  refine ⟨hlimit, ?_⟩
  by_cases hlong : c.options.minPrefixLength.toNat ≤
      (WordSpan.atCaret text (min caret text.length)).length
  · rw [if_neg (Nat.not_lt.mpr hlong), if_pos hlong, hlimit,
      suggestions_eq_take (text_ne_nil_of_le h.options_valid hlong)]
    rfl
  · rw [if_pos (Nat.lt_of_not_le hlong), if_neg hlong]

/-- The limit of valid options leaves something of every list. -/
lemma isOpen_editedPopup_iff {options : Options} (h : options.validate = .ok ())
    (metrics : Metrics) (origin : Point) (text : Text) (caret : ℕ) :
    (editedPopup options metrics origin text caret).isOpen = true ↔
      options.minPrefixLength.toNat ≤ (WordSpan.atCaret text caret).length ∧
        Candidate.extending (WordSpan.atCaret text caret).text (identifiers text) ≠ [] := by
  have hlimit : options.maxCandidates.toNat ≠ 0 := fun hzero =>
    (Options.validate_eq_ok_iff.mp h).1 (UInt64.toNat_inj.mp hzero)
  rw [editedPopup]
  by_cases hlong : options.minPrefixLength.toNat ≤ (WordSpan.atCaret text caret).length
  · rw [if_pos hlong, Popup.isOpen_iff_candidates_ne_nil, Popup.candidates_ofCandidates, ne_eq,
      List.take_eq_nil_iff, not_or]
    exact ⟨fun hne => ⟨hlong, hne.2⟩, fun hne => ⟨hlimit, hne.2⟩⟩
  · rw [if_neg hlong]
    exact iff_of_false Bool.false_ne_true fun hopen => hlong hopen.1

/-- A listing opened by an edit. -/
lemma of_editedPopup_eq_shown {options : Options} {metrics : Metrics} {origin : Point}
    {text : Text} {caret : ℕ} {l : Listing}
    (h : editedPopup options metrics origin text caret = .shown l) :
    l.candidates = (Candidate.extending (WordSpan.atCaret text caret).text
        (identifiers text)).take options.maxCandidates.toNat ∧
      l.selected = 0 ∧ l.anchor = Scratchpad.anchor text caret origin metrics := by
  rw [editedPopup] at h
  split at h
  · exact Popup.of_ofCandidates_eq_shown h
  · cases h

/-- **Edits**: whatever happened to a completer before, an edit opens the popup exactly if the word
before the caret is long enough and a built-in symbol or a name that the new text declares begins
with it. The popup then lists the first such candidates, the built-in symbols before the names, with
the first one selected, and stands at the caret. Completers with the same settings and the same
origin are not told apart by what the edit makes of them, answers and notices included. -/
theorem edit_depends_on_settings_only (h : c.Reachable) (text : Text) (caret : ℕ) :
    let position := min caret text.length
    let word := WordSpan.atCaret text position
    let after := (c.edit text caret).completer
    (after.popup.isOpen = true ↔
      c.options.minPrefixLength.toNat ≤ word.length ∧
        ((∃ entry ∈ catalog, entry.text.ExtendsIgnoringCase word.text) ∨
          ∃ name ∈ identifiers text, name.ExtendsIgnoringCase word.text)) ∧
    (∀ l, after.popup = .shown l →
      l.candidates = (Candidate.extending word.text (identifiers text)).take
        c.options.maxCandidates.toNat ∧
      l.selected = 0 ∧ l.anchor = Scratchpad.anchor text position c.origin c.metrics) ∧
    ∀ d : Completer, d.Reachable → d.options = c.options → d.metrics = c.metrics →
      d.origin = c.origin → d.edit text caret = c.edit text caret := by
  intro position word after
  have hcoherent := h.coherent
  have hafter : after = edited c.options c.metrics c.origin text caret :=
    hcoherent.completer_edit_eq text caret
  refine ⟨?_, ?_, fun d hd hoptions hmetrics horigin => ?_⟩
  · rw [hafter, ← Candidate.extending_ne_nil_iff]
    exact isOpen_editedPopup_iff hcoherent.options_valid _ _ _ _
  · intro l hl
    rw [hafter] at hl
    exact of_editedPopup_eq_shown hl
  · have hsame : (d.edit text caret).completer = after := by
      rw [hd.coherent.completer_edit_eq, hoptions, hmetrics, horigin, hafter]
    show Outcome.mk _ _ _ = Outcome.mk _ _ _
    exact congrArg (fun c' : Completer => Outcome.mk c' c'.popup [c'.popup]) hsame

/-- A completer with a listing on the screen and a new one, at the same origin, are the same once
`PR` is typed behind a declaration of `pruned`. -/
theorem edit_depends_on_settings_only_after_listing :
    let c := ({} : Completer).run [.edit "local x = to".toList 12, .pressKey .down,
      .setOrigin ⟨5, 7⟩, .reconfigure { maxCandidates := 0 } {}]
    let d := ({} : Completer).run [.setOrigin ⟨5, 7⟩]
    let text := "local pruned = 1\nPR".toList
    c.Reachable ∧ d.Reachable ∧ d.options = c.options ∧ d.metrics = c.metrics ∧
      d.origin = c.origin ∧ d.popup ≠ c.popup ∧
      (c.edit text 99).completer.popup.candidates.map (String.ofList ·.text) =
        ["print", "pruned"] ∧
      d.edit text 99 = c.edit text 99 := by
  intro c d text
  have hc : c.Reachable := isFresh_default.reachable_run _
  have hd : d.Reachable := isFresh_default.reachable_run _
  have hsame : d.options = c.options ∧ d.metrics = c.metrics ∧ d.origin = c.origin := by
    decide +kernel
  exact ⟨hc, hd, hsame.1, hsame.2.1, hsame.2.2, by decide +kernel, by decide +kernel,
    (edit_depends_on_settings_only hc text 99).2.2 d hd hsame.1 hsame.2.1 hsame.2.2⟩

end Completer

end Scratchpad
