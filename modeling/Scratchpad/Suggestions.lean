/-
The suggestions for a partial word.

* `Candidate`: a text to be suggested, its category and its description.
* `Candidate.all`: every candidate there is: the catalog in its order, then the
  declared names in theirs.
* `suggestions`: the first candidates that begin with the partial word, up to
  the case of the letters A to Z. An empty word has no suggestions.
-/
import Scratchpad.Catalog

namespace Scratchpad

/-- A text to be suggested. -/
structure Candidate where
  text : Text
  category : Category
  description : Option String
  deriving DecidableEq, Repr

namespace Candidate

/-- The description of declared names. -/
def userVariableDescription : String := "user defined variable"

/-- The candidate of a declared name. -/
def userVariable (name : Text) : Candidate := ⟨name, .value, some userVariableDescription⟩

/-- The candidate of a built-in symbol. -/
def ofEntry (entry : Entry) : Candidate := ⟨entry.text, entry.category, some entry.description⟩

/-- Every candidate there is, with the declared names behind the catalog. -/
def all (names : List Text) : List Candidate := catalog.map ofEntry ++ names.map userVariable

end Candidate

/-- The suggestions for a partial word, at most `limit` of them. -/
def suggestions (limit : Nat) (partialWord : Text) (names : List Text) : List Candidate :=
  if partialWord.isEmpty then []
  else
    let matching := (Candidate.all names).filter (·.text.startsWithIgnoringCase partialWord)
    matching.take limit

theorem length_suggestions_le (limit : Nat) (partialWord : Text) (names : List Text) :
    (suggestions limit partialWord names).length ≤ limit := by
  unfold suggestions
  split
  · simp
  · exact List.length_take_le _ _

/-- Every suggestion begins with the partial word. -/
theorem startsWithIgnoringCase_of_mem_suggestions {limit : Nat} {partialWord : Text}
    {names : List Text} {c : Candidate} (h : c ∈ suggestions limit partialWord names) :
    c.text.startsWithIgnoringCase partialWord := by
  unfold suggestions at h
  split at h
  · simp at h
  · exact (List.mem_filter.1 (List.mem_of_mem_take h)).2

end Scratchpad
