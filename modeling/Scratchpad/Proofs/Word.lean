/-
The word before the caret as a run of word characters: where it starts, why it cannot start
earlier, and what the words before two carets have in common.

* `WordSpan.text_atCaret`, `WordSpan.start_atCaret`: the word and its position, read off the
  text before the caret.
* `WordSpan.atCaret_eq_of_take`: the word is the only split of the text before the caret into
  a part that ends in no word character and a part of nothing else.
* `WordSpan.atCaret_splice`: a text of word characters in the place of the word is the word
  before the caret behind it.
* `WordSpan.text_prefix_of_start_eq`: of two words with one start, that of the earlier caret
  begins the other.
* `WordSpan.runEnd`: where the run of word characters behind a position ends.
  `WordSpan.start_atCaret_eq_iff`: the carets in front of which the same word starts are those
  from its start to the end of its run.
-/
import Mathlib.Data.List.DropRight
import Mathlib.Tactic
import Scratchpad.Word

namespace Scratchpad

namespace WordSpan

variable {t x : Text} {i j n : ℕ}

/-! ### The run before the caret -/

lemma text_atCaret (t : Text) (n : ℕ) : (atCaret t n).text = (t.take n).rtakeWhile isWordChar :=
  rfl

lemma start_atCaret (t : Text) (n : ℕ) :
    (atCaret t n).start = ((t.take n).rdropWhile isWordChar).length := by
  have h : ((t.take n).rdropWhile isWordChar).length + ((t.take n).rtakeWhile isWordChar).length
      = (t.take n).length := by
    rw [← List.length_append, List.rdropWhile_append_rtakeWhile]
  change (t.take n).length - ((t.take n).rtakeWhile isWordChar).length = _
  omega

lemma start_atCaret_le (t : Text) (n : ℕ) : (atCaret t n).start ≤ min n t.length := by
  have h := start_add_length_atCaret t n
  omega

/-- A word without characters starts at the caret. -/
lemma start_eq_of_text_eq_nil (h : (atCaret t n).text = []) :
    (atCaret t n).start = min n t.length := by
  have hend := start_add_length_atCaret t n
  rwa [length, h, List.length_nil, Nat.add_zero] at hend

/-- A caret behind the text is a caret at its end. -/
@[simp] lemma atCaret_min_length (t : Text) (n : ℕ) :
    atCaret t (min n t.length) = atCaret t n := by
  have h : t.take (min n t.length) = t.take n := by
    rw [List.take_eq_take_iff]
    omega
  rw [atCaret, atCaret, h]

/-- The text is cut in front of the word. -/
lemma take_start_atCaret (t : Text) (n : ℕ) :
    t.take (atCaret t n).start = (t.take n).rdropWhile isWordChar := by
  have hpre : (t.take n).rdropWhile isWordChar <+: t :=
    (List.rdropWhile_prefix isWordChar _).trans (List.take_prefix n t)
  rw [start_atCaret]
  exact (List.prefix_iff_eq_take.mp hpre).symm

lemma take_start_append_text (t : Text) (n : ℕ) :
    t.take (atCaret t n).start ++ (atCaret t n).text = t.take n := by
  rw [take_start_atCaret, text_atCaret, List.rdropWhile_append_rtakeWhile]

/-- The word is what stands between its start and the caret. -/
lemma text_atCaret_eq_drop (t : Text) (n : ℕ) :
    (atCaret t n).text = (t.take n).drop (atCaret t n).start := by
  have hle := start_atCaret_le t n
  rw [← take_start_append_text t n, List.drop_left']
  rw [List.length_take]
  omega

lemma isWordChar_of_mem_atCaret {c : Char} (h : c ∈ (atCaret t n).text) : isWordChar c :=
  List.mem_rtakeWhile_imp h

/-- No word character stands in front of the word. -/
lemma not_isWordChar_getLast (t : Text) (n : ℕ) (h : t.take (atCaret t n).start ≠ []) :
    ¬ isWordChar ((t.take (atCaret t n).start).getLast h) := by
  simp only [take_start_atCaret] at h ⊢
  exact List.rdropWhile_last_not isWordChar _ h

/-! ### The only split -/

/-- The text before a caret splits in one way only into a part that ends in no word character
and a part of nothing else: there the word starts. -/
lemma atCaret_eq_of_take {u : Text} (h : t.take n = u ++ x) (hx : ∀ c ∈ x, isWordChar c)
    (hu : ∀ hne : u ≠ [], ¬ isWordChar (u.getLast hne)) : atCaret t n = ⟨u.length, x⟩ := by
  have hnil : u.rtakeWhile isWordChar = [] := List.rtakeWhile_eq_nil_iff.mpr hu
  have htext : (atCaret t n).text = x := by
    have hrev : ∀ c ∈ x.reverse, isWordChar c := by simpa using hx
    rw [text_atCaret, h, List.rtakeWhile, List.reverse_append,
      List.takeWhile_append_of_pos hrev, List.reverse_append, List.reverse_reverse]
    rw [← List.rtakeWhile, hnil, List.nil_append]
  have hstart : (atCaret t n).start = u.length := by
    have hlen := congrArg List.length (take_start_append_text t n)
    have hle := start_atCaret_le t n
    rw [htext, h, List.length_append, List.length_append, List.length_take] at hlen
    omega
  rw [← htext, ← hstart]

/-- A text of word characters in the place of a word is the word before the caret behind
it, whatever follows. -/
lemma atCaret_splice (t rest : Text) (n : ℕ) (hx : ∀ c ∈ x, isWordChar c) :
    atCaret (t.take (atCaret t n).start ++ x ++ rest) ((atCaret t n).start + x.length)
      = ⟨(atCaret t n).start, x⟩ := by
  have hle := start_atCaret_le t n
  have hlen : (t.take (atCaret t n).start).length = (atCaret t n).start := by
    rw [List.length_take]
    omega
  have htake : (t.take (atCaret t n).start ++ x ++ rest).take ((atCaret t n).start + x.length)
      = t.take (atCaret t n).start ++ x := by
    rw [List.take_left']
    rw [List.length_append, hlen]
  have h := atCaret_eq_of_take htake hx (not_isWordChar_getLast t n)
  rwa [hlen] at h

/-! ### Two carets in one word -/

/-- Of two words with one start, that of the earlier caret begins the other. -/
lemma text_prefix_of_start_eq (hij : i ≤ j) (h : (atCaret t i).start = (atCaret t j).start) :
    (atCaret t i).text <+: (atCaret t j).text := by
  rw [text_atCaret_eq_drop t i, text_atCaret_eq_drop t j, h]
  have hpre : t.take i <+: t.take j := List.take_prefix_take_left hij
  obtain ⟨r, hr⟩ := hpre
  have hle := start_atCaret_le t i
  rw [← hr, List.drop_append_of_le_length]
  · exact List.prefix_append _ _
  · rw [← h, List.length_take]
    exact hle

/-! ### All carets in one word -/

/-- The end of the longest run of word characters that begins at `s`. -/
def runEnd (t : Text) (s : ℕ) : ℕ := s + ((t.drop s).takeWhile isWordChar).length

/-- A beginning of a text with nothing but word characters lies in the run at its front. -/
lemma length_le_length_takeWhile {v : Text} (hv : v <+: t) (h : ∀ c ∈ v, isWordChar c) :
    v.length ≤ (t.takeWhile isWordChar).length := by
  obtain ⟨rest, rfl⟩ := hv
  rw [List.takeWhile_append_of_pos h, List.length_append]
  exact Nat.le_add_right _ _

/-- The word before a caret lies in the run that begins where the word starts. -/
lemma min_length_le_runEnd (t : Text) (n : ℕ) :
    min n t.length ≤ runEnd t (atCaret t n).start := by
  have hpre : (atCaret t n).text <+: t.drop (atCaret t n).start := by
    rw [text_atCaret_eq_drop]
    exact (List.take_prefix n t).drop _
  have hlen := length_le_length_takeWhile hpre fun c hc => isWordChar_of_mem_atCaret hc
  have hend := start_add_length_atCaret t n
  rw [length] at hend
  rw [runEnd]
  omega

/-- A caret between the start of a word and the end of its run has a word with that start before
it: only word characters stand in between, and none stands in front. -/
lemma start_atCaret_of_le_runEnd (hstart : (atCaret t i).start ≤ n) (hlen : n ≤ t.length)
    (hend : n ≤ runEnd t (atCaret t i).start) : (atCaret t n).start = (atCaret t i).start := by
  have hsplit : t.take n = t.take (atCaret t i).start ++
      (t.drop (atCaret t i).start).take (n - (atCaret t i).start) := by
    rw [← List.take_add, Nat.add_sub_cancel' hstart]
  have hword : ∀ c ∈ (t.drop (atCaret t i).start).take (n - (atCaret t i).start),
      isWordChar c := by
    intro c hc
    have hpre : (t.drop (atCaret t i).start).take (n - (atCaret t i).start) <+:
        (t.drop (atCaret t i).start).takeWhile isWordChar := by
      refine List.prefix_of_prefix_length_le (List.take_prefix _ _)
        (List.takeWhile_prefix isWordChar) ?_
      rw [runEnd] at hend
      exact (List.length_take_le _ _).trans (Nat.sub_le_iff_le_add'.mpr hend)
    exact List.mem_takeWhile_imp (hpre.subset hc)
  rw [atCaret_eq_of_take hsplit hword (not_isWordChar_getLast t i), List.length_take]
  exact min_eq_left (hstart.trans hlen)

/-- The same word starts before two carets exactly when the second lies between that start and
the end of the run there. -/
lemma start_atCaret_eq_iff (t : Text) (i n : ℕ) :
    (atCaret t n).start = (atCaret t i).start ↔
      (atCaret t i).start ≤ min n t.length ∧ min n t.length ≤ runEnd t (atCaret t i).start := by
  constructor
  · intro h
    rw [← h]
    exact ⟨start_atCaret_le t n, min_length_le_runEnd t n⟩
  · rintro ⟨hstart, hend⟩
    rw [← atCaret_min_length t n]
    exact start_atCaret_of_le_runEnd hstart (min_le_right _ _) hend

end WordSpan

end Scratchpad
