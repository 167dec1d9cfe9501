/-
The lines of a text, and where they start.

* `Text.intercalate_segments`, `Text.newline_notMem_of_mem_segments`: the lines are the parts
  without newlines of which newlines make up the text.
* `Text.lineStart`: the number of characters in front of a line, a newline behind each of the lines
  before it; `Text.length_add_one_eq_lineStart` says what it would be for one more line.
* `Text.getElem?_lineStart_add`, `Text.getElem?_lineStart_add_length`: the characters of a line, and
  the newline behind it, are found from where it starts.
-/
import Mathlib.Tactic
import Scratchpad.Text

namespace Scratchpad

namespace Text

variable {lines : List Text} {t : Text} {k column : ℕ}

/-! ### The parts -/

lemma splitAtChar_eq_splitOn (separator : Char) (t : Text) :
    splitAtChar separator t = t.splitOn separator := by
  induction t with
  | nil => rw [splitAtChar, List.splitOn_nil]
  | cons c rest ih =>
      rw [splitAtChar, List.splitOn_cons_eq_if_modifyHead, ih]
      simp only [beq_iff_eq]
      split
      · rfl
      · cases h : rest.splitOn separator with
        | nil => exact absurd h (List.splitOn_ne_nil separator rest)
        | cons first others => rfl

/-- Newlines between the lines give the text back. -/
lemma intercalate_segments (t : Text) : ['\n'].intercalate t.segments = t := by
  rw [segments, splitAtChar_eq_splitOn, List.intercalate_splitOn]

lemma separator_notMem_of_mem_splitAtChar {separator : Char} {part : Text}
    (h : part ∈ splitAtChar separator t) : separator ∉ part := by
  induction t generalizing part with
  | nil =>
      rw [splitAtChar, List.mem_singleton] at h
      rw [h]
      exact List.not_mem_nil
  | cons c rest ih =>
      rw [splitAtChar] at h
      split at h
      · rcases List.mem_cons.mp h with rfl | hrest
        · exact List.not_mem_nil
        · exact ih hrest
      · rename_i hc
        split at h
        · rw [List.mem_singleton.mp h, List.mem_singleton]
          exact Ne.symm hc
        · rename_i first others heq
          rcases List.mem_cons.mp h with rfl | hothers
          · rw [List.mem_cons, not_or]
            exact ⟨Ne.symm hc, ih (heq ▸ List.mem_cons_self)⟩
          · exact ih (heq ▸ List.mem_cons_of_mem _ hothers)

/-- No line has a newline in it. -/
lemma newline_notMem_of_mem_segments {line : Text} (h : line ∈ t.segments) : '\n' ∉ line :=
  separator_notMem_of_mem_splitAtChar h

lemma segments_ne_nil (t : Text) : t.segments ≠ [] := splitAtChar_ne_nil _ t

/-! ### Where a line starts -/

/-- The number of characters in front of line `k`: the lines before it, each with its newline. -/
def lineStart (lines : List Text) (k : ℕ) : ℕ :=
  ((lines.take k).map fun line => line.length + 1).sum

lemma lineStart_cons_succ (line : Text) (lines : List Text) (k : ℕ) :
    lineStart (line :: lines) (k + 1) = line.length + 1 + lineStart lines k := by
  rw [lineStart, List.take_succ_cons, List.map_cons, List.sum_cons, lineStart]

/-- The next line starts behind the newline. -/
lemma lineStart_succ (h : k < lines.length) :
    lineStart lines (k + 1) = lineStart lines k + lines[k].length + 1 := by
  rw [lineStart, List.take_succ_eq_append_getElem h, List.map_append, List.sum_append, lineStart,
    List.map_singleton, List.sum_singleton, Nat.add_assoc]

/-- Later lines start later. -/
lemma lineStart_mono (lines : List Text) : Monotone (lineStart lines) := by
  refine monotone_nat_of_le_succ fun k => ?_
  rw [lineStart, lineStart, List.take_add_one, List.map_append, List.sum_append]
  exact Nat.le_add_right _ _

/-- Behind a line that is not the last one the text goes on with a newline. -/
lemma intercalate_cons_append (line : Text) (h : lines ≠ []) :
    ['\n'].intercalate (line :: lines) = line ++ '\n' :: ['\n'].intercalate lines := by
  rw [List.intercalate_cons_of_ne_nil h, List.append_assoc, List.singleton_append]

/-- What stands in the text from a line on are the lines from it on. -/
lemma drop_lineStart (h : k < lines.length) :
    (['\n'].intercalate lines).drop (lineStart lines k) = ['\n'].intercalate (lines.drop k) := by
  induction k generalizing lines with
  | zero => rfl
  | succ k ih =>
      cases lines with
      | nil => exact absurd h (Nat.not_lt_zero _)
      | cons line lines =>
          have hk : k < lines.length := Nat.lt_of_succ_lt_succ h
          have hne : lines ≠ [] := List.ne_nil_of_length_pos (Nat.zero_lt_of_lt hk)
          have hlength : line.length + 1 = (line ++ ['\n']).length := by
            rw [List.length_append, List.length_singleton]
          rw [intercalate_cons_append line hne, lineStart_cons_succ, List.drop_succ_cons,
            List.append_cons line, hlength, List.drop_length_add_append, ih hk]

/-- One more line would start one newline behind the end of the text. -/
lemma length_add_one_eq_lineStart (h : lines ≠ []) :
    (['\n'].intercalate lines).length + 1 = lineStart lines lines.length := by
  induction lines with
  | nil => exact absurd rfl h
  | cons line lines ih =>
      rw [List.length_cons, lineStart_cons_succ]
      by_cases hne : lines = []
      · subst hne
        rw [List.intercalate_singleton]
        rfl
      · rw [intercalate_cons_append line hne, List.length_append, List.length_cons, ← ih hne]
        omega

/-- The characters of a line follow its start. -/
lemma getElem?_lineStart_add (hk : k < lines.length) (hcolumn : column < lines[k].length) :
    (['\n'].intercalate lines)[lineStart lines k + column]? = lines[k][column]? := by
  rw [← List.getElem?_drop, drop_lineStart hk, List.drop_eq_getElem_cons hk]
  by_cases hne : lines.drop (k + 1) = []
  · rw [hne, List.intercalate_singleton]
  · rw [intercalate_cons_append _ hne, List.getElem?_append_left hcolumn]

/-- Behind each line but the last one stands a newline. -/
lemma getElem?_lineStart_add_length (hk : k + 1 < lines.length) :
    (['\n'].intercalate lines)[lineStart lines k + lines[k].length]? = some '\n' := by
  have hk' : k < lines.length := Nat.lt_of_succ_lt hk
  have hne : lines.drop (k + 1) ≠ [] := fun h => absurd (List.drop_eq_nil_iff.mp h) (by omega)
  rw [← List.getElem?_drop, drop_lineStart hk', List.drop_eq_getElem_cons hk',
    intercalate_cons_append _ hne, List.getElem?_append_right (Nat.le_refl _), Nat.sub_self]
  rfl

end Text

end Scratchpad
