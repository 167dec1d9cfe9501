/-
Replacing the word before the caret changes nothing else, and can be undone.

* `WordSpan.IsLongestRun`: the longest run of word characters at the end of a text, said without
  the search for it. The word before the caret is that run of the text before the caret.
* `WordSpan.replace_append`: a word that is replaced where it stands gives way to the other text.
* `WordSpan.CutsBetweenChars`, `WordSpan.utf8_replace`: the bytes of the document are cut at the two
  ends of the word, inside no character, and those of the other text come in between.
* `WordSpan.replacement_undone`: putting the word back gives the document and the caret back.
-/
import Mathlib.Tactic
import Scratchpad.Proofs.Text.Bytes
import Scratchpad.Proofs.Word

namespace Scratchpad

namespace WordSpan

variable {t : Text} {n : ℕ}

/-! ### The longest run -/

/-- Among the runs of word characters at the end of `before` the longest one is `run`. -/
structure IsLongestRun (run before : Text) : Prop where
  suffix : run <:+ before
  isWordChar_of_mem : ∀ c ∈ run, isWordChar c
  length_le : ∀ other, other <:+ before → (∀ c ∈ other, isWordChar c) → other.length ≤ run.length

/-- The search for the word finds the longest run. -/
lemma isLongestRun_text_atCaret (t : Text) (n : ℕ) :
    IsLongestRun (atCaret t n).text (t.take n) where
  suffix := List.rtakeWhile_suffix isWordChar _
  isWordChar_of_mem _ hc := isWordChar_of_mem_atCaret hc
  length_le other hsuffix hword := by
    have hprefix : other.reverse <+: (t.take n).reverse := List.reverse_prefix.mpr hsuffix
    calc other.length
        = other.reverse.length := List.length_reverse.symm
      _ ≤ ((t.take n).reverse.takeWhile isWordChar).length :=
          length_le_length_takeWhile hprefix (by simpa using hword)
      _ = (atCaret t n).text.length := List.length_reverse.symm

/-! ### Replacing -/

/-- A word that stands between two texts gives way to the text that replaces it. -/
lemma replace_append (before word after x : Text) :
    (⟨before.length, word⟩ : WordSpan).replace (before ++ word ++ after) x =
      (before ++ x ++ after, before.length + x.length) := by
  have hend : before.length + word.length = (before ++ word).length := List.length_append.symm
  have htake : (before ++ word ++ after).take before.length = before := by
    rw [List.append_assoc, List.take_left]
  have hdrop : (before ++ word ++ after).drop (before.length + word.length) = after := by
    rw [hend, List.drop_left]
  rw [replace_eq]
  simp only [length, htake, hdrop]

/-- The word before the caret stands in the document, in front of what is behind the caret. -/
lemma exists_split_atCaret (t : Text) (n : ℕ) :
    ∃ before, (atCaret t n).start = before.length ∧
      t = before ++ (atCaret t n).text ++ t.drop n := by
  refine ⟨t.take (atCaret t n).start, ?_, ?_⟩
  · have hle := start_atCaret_le t n
    rw [List.length_take]
    omega
  · rw [take_start_append_text, List.take_append_drop]

/-- The two bytes at which a text is cut to replace a word in it: they are in order, and neither
lies inside a character. -/
structure CutsBetweenChars (w : WordSpan) (t : Text) : Prop where
  le : t.byteIndex w.start ≤ t.byteIndex (w.start + w.length)
  isCut_start : Text.IsCut t.utf8 (t.byteIndex w.start)
  isCut_end : Text.IsCut t.utf8 (t.byteIndex (w.start + w.length))

lemma cutsBetweenChars (w : WordSpan) (t : Text) : w.CutsBetweenChars t where
  le := Text.byteIndex_mono t (Nat.le_add_right _ _)
  isCut_start := Text.isCut_byteIndex t _
  isCut_end := Text.isCut_byteIndex t _

/-- The bytes of the result, as they are cut out of the bytes of the document. -/
lemma utf8_replace (w : WordSpan) (t x : Text) :
    Text.utf8 (w.replace t x).1 =
      t.utf8.take (t.byteIndex w.start) ++ x.utf8 ++
        t.utf8.drop (t.byteIndex (w.start + w.length)) := by
  rw [replace_eq, Text.take_utf8_byteIndex, Text.drop_utf8_byteIndex, Text.utf8_append,
    Text.utf8_append]

/-- **Completions can be undone**: the word before the caret is the longest run of word characters
that ends there. A text in its place ends inside the new document, whose bytes are those of the
document before the word, of the text, and of the document behind the word. The word in the place of
the text gives back the document and the caret. No character is cut through on either way. -/
theorem replacement_undone (document : Text) (caret : ℕ) (x : Text) :
    let position := min caret document.length
    let word := atCaret document caret
    let done := word.replace document x
    let inserted : WordSpan := ⟨word.start, x⟩
    IsLongestRun word.text (document.take position) ∧
    word.start + word.length = position ∧
    done.2 ≤ done.1.length ∧
    word.CutsBetweenChars document ∧
    Text.utf8 done.1 = document.utf8.take (document.byteIndex word.start) ++ x.utf8 ++
      document.utf8.drop (document.byteIndex (word.start + word.length)) ∧
    inserted.CutsBetweenChars done.1 ∧
    inserted.replace done.1 word.text = (document, position) := by
  intro position word done inserted
  have hposition : word.start + word.length = position := start_add_length_atCaret document caret
  have hrun : IsLongestRun word.text (document.take position) := by
    rw [show word = atCaret document position from (atCaret_min_length document caret).symm]
    exact isLongestRun_text_atCaret document position
  obtain ⟨before, hstart, hsplit⟩ : ∃ before, word.start = before.length ∧
      document = before ++ word.text ++ document.drop caret := exists_split_atCaret document caret
  have hword : word = ⟨before.length, word.text⟩ := by
    rw [← hstart]
  have hdone : done = (before ++ x ++ document.drop caret, before.length + x.length) := by
    have hreplace := replace_append before word.text (document.drop caret) x
    rwa [← hsplit, ← hword] at hreplace
  refine ⟨hrun, hposition, ?_, cutsBetweenChars word document, utf8_replace word document x,
    cutsBetweenChars inserted done.1, ?_⟩
  · rw [hdone, List.length_append, List.length_append]
    exact Nat.le_add_right _ _
  · have hinserted : inserted = ⟨before.length, x⟩ := by
      rw [← hstart]
    calc inserted.replace done.1 word.text
        = (⟨before.length, x⟩ : WordSpan).replace (before ++ x ++ document.drop caret)
            word.text := by rw [hdone, hinserted]
      _ = (before ++ word.text ++ document.drop caret, before.length + word.text.length) :=
          replace_append before x _ word.text
      _ = (document, position) := by rw [← hsplit, ← hstart, ← hposition, length]

/-- A word with letters of two bytes, behind a sign of three, gives way to a longer one. -/
theorem replacement_undone_behind_root_sign :
    let document : Text := "√größe(1)".toList
    let word := atCaret document 4
    let done := word.replace document "größer".toList
    word = ⟨1, "grö".toList⟩ ∧ done = ("√größerße(1)".toList, 7) ∧
      document.byteIndex word.start = 3 ∧ document.byteIndex (word.start + word.length) = 7 ∧
      ("rö".toList <:+ document.take 4 ∧ (∀ c ∈ "rö".toList, isWordChar c) ∧
        "rö".toList.length ≤ word.text.length) ∧
      (⟨word.start, "größer".toList⟩ : WordSpan).replace done.1 word.text = (document, 4) := by
  intro document word done
  have hsuffix : "rö".toList <:+ document.take 4 := by decide
  have hword : ∀ c ∈ "rö".toList, isWordChar c := by simp; decide +kernel
  obtain ⟨hrun, -, -, -, -, -, hundone⟩ := replacement_undone document 4 "größer".toList
  exact ⟨by decide +kernel, by decide +kernel, by decide +kernel, by decide +kernel,
    ⟨hsuffix, hword, hrun.length_le _ hsuffix hword⟩, hundone⟩

end WordSpan

end Scratchpad
