/-
The names that a document declares.

A declaration is a keyword, blanks and a name. Every declaration counts wherever
it stands: scopes and comments are not looked at.

* `declarationAt?`: the declaration at the front of a text.
* `scan`: the declarations by one keyword from left to right. The text of a
  declaration is consumed, so a keyword that was taken for a name declares
  nothing itself.
* `identifiers`: the names declared by `local`, then those declared by
  `function`, without reserved words, each at its first place.
  `identifiers_nodup` and `not_isReserved_of_mem_identifiers` say so.
-/
import Scratchpad.Catalog
import Scratchpad.Text.CharClass

namespace Scratchpad

/-- The name declared at the front of a text, and the number of characters that the
declaration takes. -/
def declarationAt? (keyword t : Text) : Option (Text × Nat) :=
  if keyword.isPrefixOf t then
    let behind := t.drop keyword.length
    let blanks := behind.takeWhile isBlank
    match blanks, behind.dropWhile isBlank with
    | _ :: _, c :: rest =>
      if startsName c then
        let name := c :: rest.takeWhile continuesName
        some (name, keyword.length + blanks.length + name.length)
      else none
    | _, _ => none
  else none

/-- The names declared by `keyword` from left to right. The first `taken` characters
belong to a declaration found before; `joined` says whether a keyword here would
be a part of a longer word. -/
def scan (keyword : Text) : (taken : Nat) → (joined : Bool) → Text → List Text
  | _, _, [] => []
  | taken + 1, _, c :: rest => scan keyword taken (joinsKeyword c) rest
  | 0, true, c :: rest => scan keyword 0 (joinsKeyword c) rest
  | 0, false, c :: rest =>
    match declarationAt? keyword (c :: rest) with
    | some (name, length) => name :: scan keyword (length - 1) (joinsKeyword c) rest
    | none => scan keyword 0 (joinsKeyword c) rest

/-- The names that a document declares by `keyword`. -/
def declaredBy (keyword document : Text) : List Text := scan keyword 0 false document

/-- The keyword of declarations of variables. -/
def localKeyword : Text := "local".toList

/-- The keyword of declarations of functions. -/
def functionKeyword : Text := "function".toList

/-- The names that a document declares, in the order in which they are suggested. -/
def identifiers (document : Text) : List Text :=
  let names := declaredBy localKeyword document ++ declaredBy functionKeyword document
  (names.filter fun name => !isReserved name).eraseDups

theorem mem_identifiers {document name : Text} :
    name ∈ identifiers document ↔
      (name ∈ declaredBy localKeyword document ∨ name ∈ declaredBy functionKeyword document) ∧
        isReserved name = false := by
  simp [identifiers, ← or_and_right]

/-- Keeping first places leaves every element once. -/
theorem nodup_eraseDups {α : Type} [BEq α] [LawfulBEq α] : ∀ l : List α, l.eraseDups.Nodup
  | [] => by simp
  | a :: rest => by
    rw [List.eraseDups_cons, List.nodup_cons]
    exact ⟨by simp, nodup_eraseDups _⟩
termination_by l => l.length
decreasing_by
  have := List.length_filter_le (fun b => !b == a) rest
  simp only [List.length_cons]
  omega

/-- No name is listed twice. -/
theorem identifiers_nodup (document : Text) : (identifiers document).Nodup := nodup_eraseDups _

/-- No declared name is reserved. -/
theorem not_isReserved_of_mem_identifiers {document name : Text}
    (h : name ∈ identifiers document) : isReserved name = false := (mem_identifiers.1 h).2

end Scratchpad
