/-
Line and column of a caret against the lines of the document.

* `LineColumn.LiesAt`: a line and a column that are there, and the number of characters in front of
  them. `LineColumn.LiesAt.advance`: one more character keeps to the lines, since a newline comes
  exactly behind the last column of a line; so `liesAt_lineColumn` holds of every caret.
* `LineColumn.Precedes`: earlier in the lines. `LineColumn.LiesAt.offset_lt`: earlier in the text
  as well, so a place in the text lies at one line and column only.
* `lineColumn_inverts_lines`: the main statement, with the number of lines of a session.
-/
import Mathlib.Tactic
import Scratchpad.Proofs.Text.Lines
import Scratchpad.Session

namespace Scratchpad

open Text (lineStart)

/-! ### Places in the lines -/

namespace LineColumn

/-- The place is one of the lines, and `offset` characters and newlines come before it. -/
structure LiesAt (p : LineColumn) (lines : List Text) (offset : ℕ) : Prop where
  line_lt : p.line < lines.length
  column_le : p.column ≤ lines[p.line].length
  offset_eq : lineStart lines p.line + p.column = offset

/-- Earlier lines come first, and in one line the earlier columns. -/
def Precedes (p q : LineColumn) : Prop :=
  p.line < q.line ∨ p.line = q.line ∧ p.column < q.column

variable {lines : List Text} {document : Text} {p q : LineColumn} {i j n : ℕ}

lemma precedes_trichotomy (p q : LineColumn) : p.Precedes q ∨ p = q ∨ q.Precedes p := by
  rcases p with ⟨l, c⟩
  rcases q with ⟨l', c'⟩
  simp only [Precedes, LineColumn.mk.injEq]
  omega

namespace LiesAt

/-- What is earlier in the lines is earlier in the text. -/
lemma offset_lt (hp : p.LiesAt lines i) (hq : q.LiesAt lines j) (h : p.Precedes q) : i < j := by
  rw [← hp.offset_eq, ← hq.offset_eq]
  rcases h with hline | ⟨hline, hcolumn⟩
  · calc lineStart lines p.line + p.column
        < lineStart lines (p.line + 1) := by
          rw [Text.lineStart_succ hp.line_lt]
          exact Nat.lt_succ_of_le (Nat.add_le_add_left hp.column_le _)
      _ ≤ lineStart lines q.line := Text.lineStart_mono lines hline
      _ ≤ lineStart lines q.line + q.column := Nat.le_add_right _ _
  · rw [hline]
    exact Nat.add_lt_add_left hcolumn _

/-- A place in the text lies at one line and column. -/
lemma unique (hp : p.LiesAt lines n) (hq : q.LiesAt lines n) : p = q := by
  rcases precedes_trichotomy p q with h | h | h
  · exact absurd (hp.offset_lt hq h) (Nat.lt_irrefl n)
  · exact h
  · exact absurd (hq.offset_lt hp h) (Nat.lt_irrefl n)

/-- What is earlier in the text is earlier in the lines. -/
lemma precedes (hp : p.LiesAt lines i) (hq : q.LiesAt lines j) (hij : i < j) : p.Precedes q := by
  rcases precedes_trichotomy p q with h | rfl | h
  · exact h
  · exact absurd (hp.offset_eq.symm.trans hq.offset_eq) hij.ne
  · exact absurd (hq.offset_lt hp h) hij.not_gt

/-- One more character: within a line it is no newline, and behind a line it is one. -/
lemma advance {c : Char} (h : p.LiesAt document.segments n) (hc : document[n]? = some c) :
    (p.advance c).LiesAt document.segments (n + 1) := by
  rw [← Text.intercalate_segments document] at hc
  obtain ⟨hline, hcolumn, rfl⟩ := h
  rcases Nat.lt_or_eq_of_le hcolumn with hlt | heq
  · rw [Text.getElem?_lineStart_add hline hlt] at hc
    have hne : c ≠ '\n' := fun hnewline =>
      Text.newline_notMem_of_mem_segments (List.getElem_mem hline)
        (hnewline ▸ List.mem_of_getElem? hc)
    rw [LineColumn.advance, if_neg hne]
    exact ⟨hline, hlt, (Nat.add_assoc _ _ _).symm⟩
  · by_cases hnext : p.line + 1 < document.segments.length
    · rw [heq, Text.getElem?_lineStart_add_length hnext, Option.some.injEq] at hc
      rw [LineColumn.advance, if_pos hc.symm]
      refine ⟨hnext, Nat.zero_le _, ?_⟩
      rw [Text.lineStart_succ hline, heq, Nat.add_zero]
    · -- behind the last line the text has ended
      have hlast : document.segments.length = p.line + 1 := by omega
      have hend := Text.length_add_one_eq_lineStart document.segments_ne_nil
      rw [hlast, Text.lineStart_succ hline, ← heq] at hend
      have hlt := (List.getElem?_eq_some_iff.mp hc).1
      omega

end LiesAt

end LineColumn

/-! ### The place of the caret -/

variable {document : Text} {n : ℕ}

lemma lineColumn_succ {c : Char} (hc : document[n]? = some c) :
    lineColumn document (n + 1) = (lineColumn document n).advance c := by
  rw [lineColumn, List.take_add_one, hc, Option.toList_some, List.foldl_append, lineColumn]
  rfl

/-- A caret behind the document is a caret at its end. -/
lemma lineColumn_min (document : Text) (caret : ℕ) :
    lineColumn document (min caret document.length) = lineColumn document caret := by
  rw [lineColumn, lineColumn, ← List.take_eq_take_min]

lemma liesAt_lineColumn_of_le (hn : n ≤ document.length) :
    (lineColumn document n).LiesAt document.segments n := by
  induction n with
  | zero => exact ⟨List.length_pos_iff.mpr document.segments_ne_nil, Nat.zero_le _, rfl⟩
  | succ n ih =>
      have hc : document[n]? = some document[n] := List.getElem?_eq_getElem hn
      rw [lineColumn_succ hc]
      exact (ih (Nat.le_of_succ_le hn)).advance hc

/-- Every caret, clamped to the document, is where its line and column say. -/
lemma liesAt_lineColumn (document : Text) (caret : ℕ) :
    (lineColumn document caret).LiesAt document.segments (min caret document.length) := by
  rw [← lineColumn_min]
  exact liesAt_lineColumn_of_le (Nat.min_le_right _ _)

namespace LineColumn.LiesAt

variable {p : LineColumn}

/-- No place in the lines lies behind the document. -/
lemma le_length (h : p.LiesAt document.segments n) : n ≤ document.length := by
  have hend := Text.length_add_one_eq_lineStart document.segments_ne_nil
  have hmono := Text.lineStart_mono document.segments (Nat.succ_le_of_lt h.line_lt)
  rw [Text.intercalate_segments] at hend
  rw [← hend, Text.lineStart_succ h.line_lt] at hmono
  have hcolumn := h.column_le
  have hoffset := h.offset_eq
  omega

/-- The end of the document lies in the last line: one further line would start behind it. -/
lemma line_add_one_eq (h : p.LiesAt document.segments document.length) :
    p.line + 1 = document.segments.length := by
  by_contra hne
  have hnext : p.line + 1 < document.segments.length := Nat.lt_of_le_of_ne h.line_lt hne
  have hbelow : (⟨p.line + 1, 0⟩ : LineColumn).LiesAt document.segments
      (lineStart document.segments (p.line + 1)) := ⟨hnext, Nat.zero_le _, rfl⟩
  have hlt := h.offset_lt hbelow (.inl (Nat.lt_succ_self _))
  exact absurd hbelow.le_length (Nat.not_le_of_lt hlt)

end LineColumn.LiesAt

/-- **Line and column**: the lines of a document are the parts without newlines that newlines join
into it. Line and column of a caret lie in one of them, and with what is in front of that line they
count the characters in front of the caret; each line and column that is there belongs to the caret
that it is counted to. Of two carets in the document the earlier one is earlier in the lines. The
number of lines that a session tells is the line of the end of the active tab, counted from one. -/
theorem lineColumn_inverts_lines (document : Text) (s : Session) :
    let lines := document.segments
    let content := s.activeTab.content
    (['\n'].intercalate lines = document ∧ ∀ line ∈ lines, '\n' ∉ line) ∧
    (∀ caret, (lineColumn document caret).LiesAt lines (min caret document.length)) ∧
    (∀ (p : LineColumn) (offset : ℕ), p.LiesAt lines offset → lineColumn document offset = p) ∧
    (∀ i j, i < j → j ≤ document.length →
      (lineColumn document i).Precedes (lineColumn document j)) ∧
    s.lineCount = (lineColumn content content.length).line + 1 := by
  intro lines content
  refine ⟨⟨Text.intercalate_segments document, fun _ => Text.newline_notMem_of_mem_segments⟩,
    liesAt_lineColumn document, fun p offset hp => ?_, fun i j hij hj => ?_, ?_⟩
  · exact (liesAt_lineColumn_of_le hp.le_length).unique hp
  · have hi : i ≤ document.length := (hij.trans_le hj).le
    exact (liesAt_lineColumn_of_le hi).precedes (liesAt_lineColumn_of_le hj) hij
  · exact (liesAt_lineColumn_of_le (Nat.le_refl content.length)).line_add_one_eq.symm

/-- A document with newlines at both ends and two in a row. -/
theorem lineColumn_inverts_lines_between_newlines :
    let document : Text := "\nab\n\n".toList
    let p : LineColumn := ⟨1, 2⟩
    document.segments = [[], "ab".toList, [], []] ∧ p.LiesAt document.segments 3 ∧
      lineColumn document 3 = p ∧ 3 < 5 ∧ 5 ≤ document.length ∧
      p.Precedes (lineColumn document 5) ∧
      (⟨3, 0⟩ : LineColumn) = lineColumn document 99 ∧
      (lineColumn document 99).LiesAt document.segments 5 ∧
      (Session.start {} {}).lineCount = (lineColumn Session.welcomeContent 25).line + 1 := by
  intro document p
  have hp : p.LiesAt document.segments 3 := ⟨by decide, by decide, by decide⟩
  obtain ⟨-, hlies, hplace, horder, hcount⟩ :=
    lineColumn_inverts_lines document (Session.start {} {})
  have hthree := hplace p 3 hp
  refine ⟨by decide, hp, hthree, by decide, by decide, ?_, by decide, hlies 99, hcount⟩
  rw [← hthree]
  exact horder 3 5 (by decide) (by decide)

end Scratchpad
