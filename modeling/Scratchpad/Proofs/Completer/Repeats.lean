/-
What is listed twice.

* `Candidate.pairwise_all`: of all candidates, two have the same text only if the first is a
  built-in function or value and the second a declared name. No document declares a reserved word.
* `nodup_suggestions`, `nodup_text_suggestions_iff`: so no suggestion is listed twice, and a text is
  only if a declared name that is listed is the text of a built-in symbol: this symbol comes before
  it, so the limit does not leave it out.
* `Completer.only_declared_names_repeat`: this holds of the popup after every edit.
  `Completer.not_forall_texts_differ` shows a text that is there twice.
-/
import Mathlib.Tactic
import Scratchpad.Proofs.Completer.Coherence
import Scratchpad.Proofs.Suggestions

namespace Scratchpad

/-! ### Two candidates with one text -/

namespace Candidate

variable {names : List Text} {entry : Entry} {a b : Candidate}

/-- A built-in symbol that is no reserved word. -/
def IsLibrarySymbol (c : Candidate) : Prop :=
  ∃ entry ∈ catalog, entry.category ≠ .keyword ∧ c = ofEntry entry

/-- The candidate of one of the names. -/
def IsDeclared (names : List Text) (c : Candidate) : Prop :=
  ∃ name ∈ names, c = userVariable name

/-- No built-in symbol is described as a declared name is. -/
lemma description_ne_of_mem_catalog :
    ∀ entry ∈ catalog, entry.description ≠ userVariableDescription := by
  decide +kernel

lemma ofEntry_ne_userVariable (h : entry ∈ catalog) (name : Text) :
    ofEntry entry ≠ userVariable name := fun heq =>
  description_ne_of_mem_catalog entry h (Option.some.inj (congrArg description heq))

lemma IsLibrarySymbol.not_isDeclared (h : a.IsLibrarySymbol) : ¬ a.IsDeclared names := by
  obtain ⟨entry, hentry, -, rfl⟩ := h
  rintro ⟨name, -, heq⟩
  exact ofEntry_ne_userVariable hentry name heq

lemma isReserved_of_keyword (h : entry ∈ catalog) (hkeyword : entry.category = .keyword) :
    isReserved entry.text = true := by
  rw [isReserved, List.any_eq_true]
  exact ⟨entry, h, by rw [hkeyword, beq_self_eq_true, beq_self_eq_true, Bool.and_self]⟩

/-- The catalog lists each text once and so do the names; a text that is in both is a built-in
symbol first and a name later. -/
lemma pairwise_all (hnodup : names.Nodup) (hfree : ∀ name ∈ names, isReserved name = false) :
    (all names).Pairwise fun a b => a.text = b.text → a.IsLibrarySymbol ∧ b.IsDeclared names := by
  rw [all, List.pairwise_append, List.pairwise_map, List.pairwise_map]
  refine ⟨?_, hnodup.imp fun hne heq => absurd heq hne, ?_⟩
  · have hcatalog : catalog.Pairwise fun e e' => e.text ≠ e'.text :=
      List.pairwise_map.mp catalog_nodup
    exact hcatalog.imp fun hne heq => absurd heq hne
  · intro a ha b hb heq
    obtain ⟨entry, hentry, rfl⟩ := List.mem_map.mp ha
    obtain ⟨name, hname, rfl⟩ := List.mem_map.mp hb
    refine ⟨⟨entry, hentry, fun hkeyword => ?_, rfl⟩, name, hname, rfl⟩
    have hreserved := isReserved_of_keyword hentry hkeyword
    rw [show entry.text = name from heq, hfree name hname] at hreserved
    cases hreserved

end Candidate

/-! ### Suggestions -/

open Candidate

section Suggestions

variable {limit : ℕ} {word : Text} {names : List Text}

lemma suggestions_sublist_all (limit : ℕ) (word : Text) (names : List Text) :
    (suggestions limit word names).Sublist (all names) := by
  rw [suggestions]
  split
  · exact List.nil_sublist _
  · exact (List.take_sublist _ _).trans List.filter_sublist

lemma pairwise_suggestions (hnodup : names.Nodup)
    (hfree : ∀ name ∈ names, isReserved name = false) (limit : ℕ) (word : Text) :
    (suggestions limit word names).Pairwise fun a b =>
      a.text = b.text → a.IsLibrarySymbol ∧ b.IsDeclared names :=
  (pairwise_all hnodup hfree).sublist (suggestions_sublist_all limit word names)

/-- No suggestion is listed twice: a built-in symbol and a name are told apart by their
descriptions. -/
lemma nodup_suggestions (hnodup : names.Nodup)
    (hfree : ∀ name ∈ names, isReserved name = false) (limit : ℕ) (word : Text) :
    (suggestions limit word names).Nodup := by
  refine (pairwise_suggestions hnodup hfree limit word).imp fun {a b} h hab => ?_
  obtain ⟨hlibrary, hdeclared⟩ := h (congrArg text hab)
  exact hlibrary.not_isDeclared (hab ▸ hdeclared)

/-- Where a name is listed, so is the built-in symbol with its text, which comes before all names
and begins with the same words. -/
lemma ofEntry_mem_suggestions {entry : Entry} (hentry : entry ∈ catalog)
    (h : userVariable entry.text ∈ suggestions limit word names) :
    ofEntry entry ∈ suggestions limit word names := by
  have hne : word ≠ [] := by
    rintro rfl
    exact List.not_mem_nil h
  rw [suggestions_eq_take hne, extending, List.take_append, List.mem_append] at h ⊢
  rcases h with hsymbol | hname
  · obtain ⟨other, hother, heq⟩ := List.mem_map.mp (List.mem_of_mem_take hsymbol)
    exact absurd heq (ofEntry_ne_userVariable (List.mem_of_mem_filter hother) _)
  · -- a name is listed only behind all the symbols
    left
    have hroom := List.length_pos_of_mem hname
    rw [List.length_take] at hroom
    rw [List.take_of_length_le (by omega)]
    obtain ⟨name, hname, heq⟩ := List.mem_map.mp (List.mem_of_mem_take hname)
    have hextends := (List.mem_filter.mp hname).2
    rw [show name = entry.text from congrArg text heq] at hextends
    exact List.mem_map_of_mem (List.mem_filter.mpr ⟨hentry, hextends⟩)

/-- A text is listed twice exactly if a name that is listed is the text of a built-in symbol. -/
lemma nodup_text_suggestions_iff (hnodup : names.Nodup)
    (hfree : ∀ name ∈ names, isReserved name = false) (limit : ℕ) (word : Text) :
    ((suggestions limit word names).map text).Nodup ↔
      ∀ name, userVariable name ∈ suggestions limit word names →
        ∀ entry ∈ catalog, entry.text ≠ name := by
  constructor
  · rintro hdistinct name hlisted entry hentry rfl
    have hsymbol := ofEntry_mem_suggestions hentry hlisted
    exact ofEntry_ne_userVariable hentry _
      (List.inj_on_of_nodup_map hdistinct hsymbol hlisted rfl)
  · intro h
    rw [List.Nodup, List.pairwise_map]
    refine (pairwise_suggestions hnodup hfree limit word).imp_of_mem fun {a b} _ hb hab heq => ?_
    obtain ⟨⟨entry, hentry, -, rfl⟩, name, -, rfl⟩ := hab heq
    exact h name hb entry hentry heq

end Suggestions

/-! ### The popup after an edit -/

namespace Completer

/-- What an edit lists are suggestions for the names of the new text; none are suggestions for no
word. -/
lemma exists_candidates_edit_eq (c : Completer) (text : Text) (caret : ℕ) :
    ∃ word, (c.edit text caret).completer.popup.candidates =
      suggestions c.limit word (identifiers text) := by
  rw [completer_edit, refresh]
  dsimp only
  rw [freshPopup]
  split
  · exact ⟨[], rfl⟩
  · exact ⟨_, Popup.candidates_ofCandidates _ _⟩

/-- **Repeated suggestions**: after an edit no suggestion is listed twice. A text is listed twice
only as a built-in function or value and, behind it, as a name that the new text declares; the texts
differ exactly if no name that is listed is the text of a built-in symbol. -/
theorem only_declared_names_repeat (c : Completer) (text : Text) (caret : ℕ) :
    let listed := (c.edit text caret).completer.popup.candidates
    listed.Nodup ∧
    (listed.Pairwise fun a b =>
      a.text = b.text → a.IsLibrarySymbol ∧ b.IsDeclared (identifiers text)) ∧
    ((listed.map Candidate.text).Nodup ↔
      ∀ name, userVariable name ∈ listed → ∀ entry ∈ catalog, entry.text ≠ name) := by
  intro listed
  have hnodup := identifiers_nodup text
  have hfree : ∀ name ∈ identifiers text, isReserved name = false :=
    fun _ => not_isReserved_of_mem_identifiers
  obtain ⟨word, hlisted⟩ := exists_candidates_edit_eq c text caret
  rw [show listed = _ from hlisted]
  exact ⟨nodup_suggestions hnodup hfree _ _, pairwise_suggestions hnodup hfree _ _,
    nodup_text_suggestions_iff hnodup hfree _ _⟩

/-- A document that declares `print` has it in the list twice, and `prize` once. -/
theorem only_declared_names_repeat_behind_print :
    let listed := (({} : Completer).edit "local print, x\nlocal prize\npr".toList
      99).completer.popup.candidates
    listed.map (String.ofList ·.text) = ["print", "print", "prize"] ∧ listed.Nodup ∧
      userVariable "print".toList ∈ listed ∧ (∃ entry ∈ catalog, entry.text = "print".toList) ∧
      ¬ (listed.map Candidate.text).Nodup := by
  intro listed
  have hname : userVariable "print".toList ∈ listed := by decide +kernel
  have hsymbol : ∃ entry ∈ catalog, entry.text = "print".toList := by decide +kernel
  obtain ⟨hnodup, -, hiff⟩ :=
    only_declared_names_repeat {} "local print, x\nlocal prize\npr".toList 99
  refine ⟨by decide +kernel, hnodup, hname, hsymbol, fun hdistinct => ?_⟩
  obtain ⟨entry, hentry, heq⟩ := hsymbol
  exact hiff.mp hdistinct _ hname entry hentry heq

/-- Without the exception for declared names the texts need not differ. -/
theorem not_forall_texts_differ :
    ¬ ∀ c : Completer, c.Reachable → ∀ (text : Text) (caret : ℕ),
      ((c.edit text caret).completer.popup.candidates.map Candidate.text).Nodup := by
  intro hall
  have hrepeated : ¬ ((({} : Completer).edit "local print\npri".toList
      15).completer.popup.candidates.map Candidate.text).Nodup := by
    decide +kernel
  exact hrepeated (hall {} (isFresh_default.reachable_run []) _ _)

end Completer

end Scratchpad
