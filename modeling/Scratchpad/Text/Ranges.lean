/-
Sets of characters given by ranges of code points.

* `CodeRanges`: closed ranges in increasing order, as character tables list them.
* `CodeRanges.contains`: the test, which stops at the first range that lies
  above the code point.
-/

namespace Scratchpad

/-- Closed ranges of code points, in increasing order. -/
abbrev CodeRanges := List (Nat × Nat)

namespace CodeRanges

/-- Whether a code point lies in one of the ranges. -/
def contains : CodeRanges → Nat → Bool
  | [], _ => false
  | (first, last) :: rest, code =>
    if code < first then false else decide (code ≤ last) || contains rest code

theorem contains_of_mem_head {first last code : Nat} {rest : CodeRanges} (h₁ : first ≤ code)
    (h₂ : code ≤ last) : contains ((first, last) :: rest) code = true := by
  simp [contains, Nat.not_lt.2 h₁, h₂]

end CodeRanges

end Scratchpad
