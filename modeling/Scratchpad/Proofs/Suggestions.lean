/-
The suggestions for a word as a selection from all candidates.

* `Text.ExtendsIgnoringCase`: a text begins with a word, up to the case of the letters A to Z.
* `Candidate.extending`: the candidates that begin with a word, those of the catalog first.
  `suggestions_eq_take`: the suggestions for a word are the first ones of them.
* `Candidate.filter_extending`: a longer word selects from the candidates of a shorter one.
* `suggestions_narrow`: so typing on narrows the list, and nothing else.
-/
import Mathlib.Tactic
import Scratchpad.Proofs.IgnoringCase
import Scratchpad.Suggestions

namespace Scratchpad

/-- The text begins with the word, up to the case of the letters A to Z. -/
def Text.ExtendsIgnoringCase (t word : Text) : Prop :=
  word.map Char.toLower <+: t.map Char.toLower

instance (t word : Text) : Decidable (t.ExtendsIgnoringCase word) :=
  inferInstanceAs (Decidable (_ <+: _))

namespace Text.ExtendsIgnoringCase

variable {t u v : Text}

lemma trans (htu : t.ExtendsIgnoringCase u) (huv : u.ExtendsIgnoringCase v) :
    t.ExtendsIgnoringCase v :=
  List.IsPrefix.trans huv htu

/-- What extends a text that is not empty is not empty. -/
lemma ne_nil (h : t.ExtendsIgnoringCase u) (hu : u ≠ []) : t ≠ [] := by
  rintro rfl
  exact hu (List.map_eq_nil_iff.mp (List.prefix_nil.mp h))

end Text.ExtendsIgnoringCase

/-! ### Candidates for a word -/

/-- The candidates that begin with a word: built-in symbols in the order of the catalog, then
declared names in theirs. -/
def Candidate.extending (word : Text) (names : List Text) : List Candidate :=
  (catalog.filter fun entry => decide (entry.text.ExtendsIgnoringCase word)).map .ofEntry ++
    (names.filter fun name => decide (name.ExtendsIgnoringCase word)).map .userVariable

namespace Candidate

variable {word p q : Text} {names : List Text}

/-- A candidate is listed by its text. -/
lemma extending_eq_filter_all (word : Text) (names : List Text) :
    extending word names =
      (all names).filter fun c => decide (c.text.ExtendsIgnoringCase word) := by
  rw [all, List.filter_append, List.filter_map, List.filter_map]
  rfl

lemma filter_all_eq (word : Text) (names : List Text) :
    ((all names).filter fun c => c.text.startsWithIgnoringCase word) = extending word names := by
  rw [extending_eq_filter_all]
  refine List.filter_congr fun c _ => ?_
  rw [Bool.eq_iff_iff, decide_eq_true_eq]
  exact Text.startsWithIgnoringCase_iff_toLower

lemma extending_ne_nil_iff :
    extending word names ≠ [] ↔
      (∃ entry ∈ catalog, entry.text.ExtendsIgnoringCase word) ∨
        ∃ name ∈ names, name.ExtendsIgnoringCase word := by
  rw [extending, ne_eq, List.append_eq_nil_iff, List.map_eq_nil_iff, List.map_eq_nil_iff,
    List.filter_eq_nil_iff, List.filter_eq_nil_iff, not_and_or]
  simp

lemma length_extending_le (word : Text) (names : List Text) :
    (extending word names).length ≤ catalog.length + names.length := by
  rw [extending_eq_filter_all]
  refine (List.length_filter_le _ _).trans_eq ?_
  rw [all, List.length_append, List.length_map, List.length_map]

/-- What begins with the longer word begins with the shorter one, so nothing is missing from the
candidates of the shorter one. -/
lemma filter_extending (h : q.ExtendsIgnoringCase p) (names : List Text) :
    (extending p names).filter (fun c => decide (c.text.ExtendsIgnoringCase q)) =
      extending q names := by
  rw [extending_eq_filter_all, extending_eq_filter_all, List.filter_filter]
  refine List.filter_congr fun c _ => ?_
  rw [Bool.eq_iff_iff, Bool.and_eq_true, decide_eq_true_eq, decide_eq_true_eq]
  exact ⟨fun hc => hc.1, fun hc => ⟨hc, hc.trans h⟩⟩

/-- The case of the letters A to Z in the word does not matter. -/
lemma extending_congr (h : p.map Char.toLower = q.map Char.toLower) (names : List Text) :
    extending p names = extending q names := by
  rw [extending_eq_filter_all, extending_eq_filter_all]
  refine List.filter_congr fun c _ => ?_
  rw [decide_eq_decide, Text.ExtendsIgnoringCase, Text.ExtendsIgnoringCase, h]

end Candidate

/-! ### The first of them -/

/-- The suggestions for a word are the first candidates that begin with it. -/
lemma suggestions_eq_take {word : Text} (hne : word ≠ []) (limit : ℕ) (names : List Text) :
    suggestions limit word names = (Candidate.extending word names).take limit := by
  rw [suggestions, if_neg (by simpa using hne)]
  dsimp only
  rw [Candidate.filter_all_eq]

/-- A limit that no list reaches leaves every candidate that begins with the word. -/
lemma suggestions_eq_extending {word : Text} (hne : word ≠ []) {limit : ℕ} {names : List Text}
    (hlimit : catalog.length + names.length ≤ limit) :
    suggestions limit word names = Candidate.extending word names := by
  rw [suggestions_eq_take hne]
  exact List.take_of_length_le ((Candidate.length_extending_le word names).trans hlimit)

/-- A list below its limit is complete. -/
lemma suggestions_eq_extending_of_length_lt {word : Text} (hne : word ≠ []) {limit : ℕ}
    {names : List Text} (hlt : (suggestions limit word names).length < limit) :
    suggestions limit word names = Candidate.extending word names := by
  rw [suggestions_eq_take hne] at hlt ⊢
  refine List.take_of_length_le ?_
  rw [List.length_take] at hlt
  omega

lemma suggestions_congr {p q : Text} (h : p.map Char.toLower = q.map Char.toLower) (limit : ℕ)
    (names : List Text) : suggestions limit p names = suggestions limit q names := by
  by_cases hp : p = []
  · subst hp
    rw [List.map_nil, eq_comm, List.map_eq_nil_iff] at h
    rw [h]
  · have hq : q ≠ [] := fun hq => hp (by simpa [hq] using h)
    rw [suggestions_eq_take hp, suggestions_eq_take hq, Candidate.extending_congr h]

/-- **Narrowing**: with a limit that no list reaches, the suggestions for a word are all candidates
that begin with it. Those for a longer word are the first ones among them that begin with the longer
word, in the same order; a list below its limit is narrowed in the same way. The case of the letters
A to Z makes no difference. -/
theorem suggestions_narrow {p q : Text} (hp : p ≠ []) (hq : q.ExtendsIgnoringCase p)
    (names : List Text) (limit : ℕ) {enough : ℕ}
    (henough : catalog.length + names.length ≤ enough) :
    suggestions enough p names = Candidate.extending p names ∧
    suggestions limit q names = ((suggestions enough p names).filter
      fun c => decide (c.text.ExtendsIgnoringCase q)).take limit ∧
    ((suggestions limit p names).length < limit →
      suggestions limit q names = (suggestions limit p names).filter
        fun c => decide (c.text.ExtendsIgnoringCase q)) ∧
    ∀ r : Text, r.map Char.toLower = q.map Char.toLower →
      suggestions limit r names = suggestions limit q names := by
  have hne : q ≠ [] := hq.ne_nil hp
  have hall := suggestions_eq_extending hp henough
  refine ⟨hall, ?_, fun hlt => ?_, fun r hr => suggestions_congr hr limit names⟩
  · rw [hall, Candidate.filter_extending hq, suggestions_eq_take hne]
  · -- what is missing from the list of `p` begins with no longer word either
    have hcomplete := suggestions_eq_extending_of_length_lt hp hlt
    have hshorter : (Candidate.extending q names).length ≤ limit := by
      rw [← Candidate.filter_extending hq, ← hcomplete]
      exact (List.length_filter_le _ _).trans hlt.le
    rw [hcomplete, Candidate.filter_extending hq, suggestions_eq_take hne,
      List.take_of_length_le hshorter]

/-- Five candidates begin with `rAw`, all of them among the six that begin with `RA`. -/
theorem suggestions_narrow_to_raw :
    let names := ["Rawé".toList, "räum".toList, "rasant".toList]
    let p : Text := "RA".toList
    let q : Text := "rAw".toList
    p ≠ [] ∧ q.ExtendsIgnoringCase p ∧ catalog.length + names.length ≤ 81 ∧
      (suggestions 7 p names).length < 7 ∧
      (suggestions 7 q names).map (String.ofList ·.text) =
        ["rawget", "rawset", "rawequal", "rawlen", "Rawé"] ∧
      suggestions 7 q names = ((suggestions 81 p names).filter
        fun c => decide (c.text.ExtendsIgnoringCase q)).take 7 ∧
      suggestions 7 q names = (suggestions 7 p names).filter
        (fun c => decide (c.text.ExtendsIgnoringCase q)) ∧
      suggestions 7 "RAW".toList names = suggestions 7 q names := by
  intro names p q
  have hp : p ≠ [] := by decide
  have hq : q.ExtendsIgnoringCase p := by decide
  have henough : catalog.length + names.length ≤ 81 := by decide
  have hlt : (suggestions 7 p names).length < 7 := by decide +kernel
  obtain ⟨-, hnarrow, hfilter, hcase⟩ := suggestions_narrow hp hq names 7 henough
  exact ⟨hp, hq, henough, hlt, by decide +kernel, hnarrow, hfilter hlt, hcase _ (by decide)⟩

end Scratchpad
