/-
What a document declares is still declared when lines follow it.

A newline ends every name. So what the document declares stays declared when a newline and any text
follow, and all that is new has its name behind the newline. A search might still take something new
in the place of what it took before; but what is new begins behind everything that the document
declares, since between a keyword and its name there are only blanks. The search thus finds the same
declarations as before, and then others.

* `declares_append_line_iff`: what a document with more lines declares in front of them.
* `Declares.place_le_of_start_lt`: of two declarations the one that begins first has its name first.
* `Found.append_line`, `declaredBy_prefix_append_line`: the search and the scan with more lines.
* `mem_identifiers_append_line`: no name is lost.
-/
import Mathlib
import Scratchpad.Proofs.Declarations.Search

namespace Scratchpad

variable {kw d n q r : Text} {i : ℕ} {x y : Declaration} {xs : List Declaration}

/-! ### Two declarations -/

lemma getElem?_append_append (a b c : Text) {j : ℕ} (hj : j < b.length) :
    (a ++ b ++ c)[a.length + j]? = some b[j] := by
  rw [List.append_assoc, List.getElem?_append_right (Nat.le_add_right _ _),
    Nat.add_sub_cancel_left, List.getElem?_append_left hj, List.getElem?_eq_getElem hj]

/-- Between the keyword and the name there are blanks. -/
lemma Declares.isBlank_of_lt_place (h : Declares kw d x) (hi : x.start + kw.length ≤ i)
    (hplace : i < x.place) : ∃ c, d[i]? = some c ∧ isBlank c := by
  obtain ⟨p, w, q, rfl, -, hw, -, -, hstart, hlength⟩ := h
  rw [hstart, ← List.length_append] at hi
  obtain ⟨j, rfl⟩ := Nat.exists_eq_add_of_le hi
  have hj : j < w.length := by
    simp only [hlength, List.length_append] at hplace
    omega
  refine ⟨w[j], ?_, hw.2 _ (List.getElem_mem hj)⟩
  rw [List.append_assoc _ x.name]
  exact getElem?_append_append (p ++ kw) w (x.name ++ q) hj

/-- The name begins with a character of names. -/
lemma Declares.continuesName_at_place (h : Declares kw d x) :
    ∃ c, d[x.place]? = some c ∧ continuesName c := by
  obtain ⟨p, w, q, rfl, -, -, hn, -, -, hplace⟩ := h
  have hpos := List.length_pos_iff.mpr hn.ne_nil
  refine ⟨x.name[0], ?_, hn.continuesName _ (List.getElem_mem hpos)⟩
  rw [hplace]
  exact getElem?_append_append (p ++ kw ++ w) x.name q hpos

/-- Of two declarations the one that begins first has its name first: no name stands among the
blanks of the other. -/
lemma Declares.place_le_of_start_lt (hx : Declares kw d x) (hy : Declares kw d y)
    (h : x.start < y.start) : x.place ≤ y.place := by
  by_contra hlt
  rw [Nat.not_le] at hlt
  have hstart := hy.start_add_length_lt
  obtain ⟨c, hc, hblank⟩ := hx.isBlank_of_lt_place (by omega) hlt
  obtain ⟨c', hc', hname⟩ := hy.continuesName_at_place
  obtain rfl : c = c' := Option.some_inj.mp (hc.symm.trans hc')
  rw [isBlank_of_continuesName hname] at hblank
  cases hblank

/-! ### More lines -/

lemma IsName.newline_not_mem (hn : IsName n) : '\n' ∉ n := by
  intro hmem
  have hnewline : Scratchpad.continuesName '\n' = false := by decide
  rw [hn.continuesName _ hmem] at hnewline
  cases hnewline

lemma endsName_newline (e : Text) : EndsName ('\n' :: e) := by
  rintro c rest ⟨⟩
  decide

lemma EndsName.append (hq : EndsName q) (hr : EndsName r) : EndsName (q ++ r) := by
  cases q with
  | nil => exact hr
  | cons c q =>
      rintro c' rest ⟨⟩
      exact hq c q rfl

lemma EndsName.of_append (h : EndsName (q ++ r)) : EndsName q := by
  rintro c rest rfl
  exact h c (rest ++ r) rfl

/-- In front of the lines that follow it, a document declares what it declares without them. -/
lemma declares_append_line_iff (d e : Text) (x : Declaration) :
    Declares kw d x ↔ Declares kw (d ++ '\n' :: e) x ∧ x.place < d.length := by
  constructor
  · intro h
    have hstop := h.stop_le
    have hplace := h.place_lt_stop
    obtain ⟨p, w, q, rfl, hp, hw, hn, hq, hstart, hlength⟩ := h
    exact ⟨⟨p, w, q ++ '\n' :: e, by simp, hp, hw, hn, hq.append (endsName_newline e), hstart,
      hlength⟩, by omega⟩
  · rintro ⟨⟨p, w, q, hd, hp, hw, hn, hq, hstart, hlength⟩, hplace⟩
    rw [List.append_assoc _ x.name] at hd
    -- the name begins in the document, and so it ends there
    obtain ⟨u, hu, -⟩ | ⟨u, rfl, hu⟩ := List.append_eq_append_iff.mp hd
    · rw [hlength, hu, List.length_append] at hplace
      omega
    obtain ⟨v, rfl, rfl⟩ | ⟨v, hname, hv⟩ := List.append_eq_append_iff.mp hu
    · exact ⟨p, w, v, by simp, hp, hw, hn, hq.of_append, hstart, hlength⟩
    · rcases v with _ | ⟨c, v⟩
      · exact ⟨p, w, [], by simp [hname], hp, hw, hn, by simp [EndsName], hstart, hlength⟩
      · cases hv
        exact absurd (by simp [hname]) hn.newline_not_mem

/-- The search finds the same declarations when lines follow, and then others. -/
lemma Found.append_line (h : Found kw d i xs) (e : Text) :
    ∃ more, Found kw (d ++ '\n' :: e) i (xs ++ more) := by
  induction h with
  | none => exact exists_found kw (d ++ '\n' :: e) _
  | @first i x rest hx hi hfirst _ ih =>
      obtain ⟨more, hmore⟩ := ih
      obtain ⟨hx', hplace⟩ := (declares_append_line_iff d e x).mp hx
      refine ⟨more, .first hx' hi (fun y hy hiy => ?_) hmore⟩
      by_contra hlt
      rw [Nat.not_le] at hlt
      -- what begins in front of `x` lies in the document, where `x` is the first
      have hle := hy.place_le_of_start_lt hx' hlt
      have hy' := (declares_append_line_iff d e y).mpr ⟨hy, hle.trans_lt hplace⟩
      exact absurd (hfirst y hy' hiy) (Nat.not_le.mpr hlt)

/-- The scan names the same declarations when lines follow, and then others. -/
theorem declaredBy_prefix_append_line (kw d e : Text) :
    declaredBy kw d <+: declaredBy kw (d ++ '\n' :: e) := by
  obtain ⟨xs, hxs, hnames⟩ := exists_found_declaredBy kw d
  obtain ⟨ys, hys, hnames'⟩ := exists_found_declaredBy kw (d ++ '\n' :: e)
  obtain ⟨more, hmore⟩ := ((hxs xs).mpr rfl).append_line e
  rw [hnames, hnames', ← (hys _).mp hmore, List.map_append]
  exact List.prefix_append _ _

/-- **More lines**: the names of a document are still its names when a newline and any text
follow. -/
theorem mem_identifiers_append_line (d e : Text) :
    ∀ n ∈ identifiers d, n ∈ identifiers (d ++ '\n' :: e) := by
  intro n hn
  obtain ⟨hdeclared, hreserved⟩ := mem_identifiers.mp hn
  have hkept : ∀ kw, n ∈ declaredBy kw d → n ∈ declaredBy kw (d ++ '\n' :: e) := fun kw hmem =>
    (declaredBy_prefix_append_line kw d e).subset hmem
  exact mem_identifiers.mpr ⟨hdeclared.imp (hkept _) (hkept _), hreserved⟩

/-- The keyword that stands at the end takes its name from the next line, and `x` is still found. -/
theorem mem_identifiers_append_line_behind_keyword :
    let d := "local x local".toList
    "x".toList ∈ identifiers d ∧ "x".toList ∈ identifiers (d ++ '\n' :: "function y".toList) := by
  intro d
  have hx : "x".toList ∈ identifiers d := by decide +kernel
  exact ⟨hx, mem_identifiers_append_line d "function y".toList "x".toList hx⟩

end Scratchpad
