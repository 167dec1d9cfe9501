/-
Reading undoes writing for JSON values.

* `StringPart.IsCanonical`, `Json.IsCanonical`: the parts of strings and the values that are read as
  they are written. Control characters are written by number and not read as characters.
* `Json.closing`, `Json.bracket_cons`: the lines behind the first one between brackets.
* `Json.IsCanonical.spells_prettyAt`: the form that is written is one way to write a value, at any
  depth of indentation. The induction is on the value; what a bracket holds is followed line by
  line.
* `Json.read?_pretty`: so the text of a value is read as that value.
-/
import Mathlib.Tactic
import Scratchpad.Proofs.Json.Grammar

namespace Scratchpad

/-- A part of a string that is read as it is written. -/
def StringPart.IsCanonical : StringPart → Prop
  | .char c => 0x20 ≤ c.toNat
  | .unit code => code < 0x10000

namespace Json

/-! ### Strings -/

lemma hexDigit?_digitChar : ∀ d < 16, hexDigit? (Nat.digitChar d) = some d := by decide

lemma codeUnit?_digits {code : ℕ} (h : code < 0x10000) :
    codeUnit? (Nat.digitChar (code / 4096 % 16)) (Nat.digitChar (code / 256 % 16))
      (Nat.digitChar (code / 16 % 16)) (Nat.digitChar (code / 1 % 16)) = some code := by
  have hdigit (shift : ℕ) := hexDigit?_digitChar (code / shift % 16) (Nat.mod_lt _ (by decide))
  simp only [codeUnit?, hdigit, Option.bind_eq_bind, Option.bind_some, Option.pure_def,
    Option.some.injEq]
  omega

lemma spellsPart_renderPart {p : StringPart} (h : p.IsCanonical) : SpellsPart p (renderPart p) := by
  cases p with
  | unit code => exact .numbered (codeUnit?_digits h)
  | char c =>
      by_cases hescaped : c = '"' ∨ c = '\\'
      · rw [renderPart, if_pos hescaped]
        obtain rfl | rfl := hescaped
        · exact .lettered rfl
        · exact .lettered rfl
      · have hcontrol : ¬ c.toNat < 0x20 := not_lt.mpr h
        obtain ⟨hquote, hbackslash⟩ := not_or.mp hescaped
        rw [renderPart, if_neg hescaped, if_neg hcontrol]
        exact .plain h hquote hbackslash

lemma spellsString_render {parts : List StringPart} (h : ∀ p ∈ parts, p.IsCanonical) :
    SpellsString parts (parts.flatMap renderPart ++ ['"']) := by
  induction parts with
  | nil => exact .close
  | cons p parts ih =>
      rw [List.flatMap_cons, List.append_assoc]
      exact .part (spellsPart_renderPart (h p List.mem_cons_self))
        (ih fun q hq => h q (List.mem_cons_of_mem p hq))

/-! ### Lines between brackets -/

/-- The text behind the first line between brackets. -/
def closing (depth : ℕ) (last : Char) : List Text → Text
  | [] => newLine depth ++ [last]
  | line :: lines => ',' :: (newLine (depth + 1) ++ (line ++ closing depth last lines))

lemma bracket_cons (depth : ℕ) (first last : Char) (line : Text) (lines : List Text) :
    bracket depth first last (line :: lines) =
      first :: (newLine (depth + 1) ++ (line ++ closing depth last lines)) := by
  have hlines : (((line :: lines).map (newLine (depth + 1) ++ ·)).intersperse [',']).flatten ++
      newLine depth ++ [last] = newLine (depth + 1) ++ (line ++ closing depth last lines) := by
    induction lines generalizing line with
    | nil => simp [closing]
    | cons next lines ih =>
        rw [closing, ← ih next]
        simp
  exact congrArg (first :: ·) hlines

lemma isBlank_newLine (depth : ℕ) : IsBlank (newLine depth) := by
  intro c hc
  obtain rfl | hc := List.mem_cons.mp hc
  · rfl
  · rw [List.eq_of_mem_replicate hc]
    rfl

/-! ### Values -/

/-- A value that is read as it is written. -/
inductive IsCanonical : Json → Prop where
  | null : IsCanonical .null
  | bool (b : Bool) : IsCanonical (.bool b)
  | number {n : Numeral} (h : n.IsCanonical) : IsCanonical (.number n)
  | string {parts : List StringPart} (h : ∀ p ∈ parts, p.IsCanonical) :
      IsCanonical (.string parts)
  | array {items : List Json} (h : ∀ j ∈ items, IsCanonical j) : IsCanonical (.array items)
  | object {members : List (List StringPart × Json)}
      (hkeys : ∀ m ∈ members, ∀ p ∈ m.1, p.IsCanonical)
      (hvalues : ∀ m ∈ members, IsCanonical m.2) : IsCanonical (.object members)

/-- The items of an array are written line by line. -/
lemma spellsItems_prettyItems {item : Json} {items : List Json} {depth : ℕ}
    (h : ∀ j ∈ item :: items, Spells j (prettyAt (depth + 1) j)) :
    SpellsItems (item :: items) (newLine (depth + 1) ++ (prettyAt (depth + 1) item ++
      closing depth ']' (prettyItems (depth + 1) items))) := by
  have hline := isBlank_newLine (depth + 1)
  have hitem := h item List.mem_cons_self
  induction items generalizing item with
  | nil => exact .last hline hitem (isBlank_newLine depth)
  | cons second items ih =>
      have hrest := fun j hj => h j (List.mem_cons_of_mem item hj)
      exact .more hline hitem isBlank_nil (ih hrest (hrest second List.mem_cons_self))

/-- So are the members of an object, each with a blank behind its colon. -/
lemma spellsMembers_prettyMembers {key : List StringPart} {value : Json}
    {members : List (List StringPart × Json)} {depth : ℕ}
    (hkeys : ∀ m ∈ (key, value) :: members, ∀ p ∈ m.1, p.IsCanonical)
    (h : ∀ m ∈ (key, value) :: members, Spells m.2 (prettyAt (depth + 1) m.2)) :
    SpellsMembers ((key, value) :: members) (newLine (depth + 1) ++
      (renderString key ++ ':' :: ' ' :: prettyAt (depth + 1) value ++
        closing depth '\x7d' (prettyMembers (depth + 1) members))) := by
  have hline := isBlank_newLine (depth + 1)
  have hgap : IsBlank [' '] := by simp [IsBlank, isGap]
  have hname := spellsString_render (hkeys _ List.mem_cons_self)
  have hvalue := h _ List.mem_cons_self
  induction members generalizing key value with
  | nil =>
      have hlast := SpellsMembers.last hline hname isBlank_nil hgap hvalue (isBlank_newLine depth)
      simpa [renderString, closing, prettyMembers] using hlast
  | cons second members ih =>
      obtain ⟨name, next⟩ := second
      have hkeys' := fun m hm => hkeys m (List.mem_cons_of_mem _ hm)
      have hrest := fun m hm => h m (List.mem_cons_of_mem _ hm)
      have hmore := SpellsMembers.more hline hname isBlank_nil hgap hvalue isBlank_nil
        (ih hkeys' hrest (spellsString_render (hkeys' _ List.mem_cons_self))
          (hrest _ List.mem_cons_self))
      simpa [renderString, closing, prettyMembers] using hmore

/-- The form that is written is one way to write a canonical value. -/
theorem IsCanonical.spells_prettyAt {j : Json} (h : j.IsCanonical) (depth : ℕ) :
    Spells j (prettyAt depth j) := by
  induction h generalizing depth with
  | null => exact .null
  | bool b =>
      cases b with
      | true => exact .boolTrue
      | false => exact .boolFalse
  | number hn => exact .number (Numeral.spells_render hn true)
  | string hparts => exact .string (spellsString_render hparts)
  | @array items _ ih =>
      cases items with
      | nil => exact .emptyArray isBlank_nil
      | cons item items =>
          rw [prettyAt, prettyItems, bracket_cons]
          exact .array (spellsItems_prettyItems fun j hj => ih j hj (depth + 1))
  | @object members hkeys _ ih =>
      cases members with
      | nil => exact .emptyObject isBlank_nil
      | cons m members =>
          rw [prettyAt, prettyMembers, bracket_cons]
          exact .object (spellsMembers_prettyMembers hkeys fun m hm => ih m hm (depth + 1))

/-- The text of a canonical value is read as that value. -/
theorem read?_pretty {j : Json} (h : j.IsCanonical) : read? j.pretty = some j := by
  refine read?_of_isText ⟨[], j.pretty, [], isBlank_nil, h.spells_prettyAt 0, isBlank_nil, ?_⟩
  rw [List.append_nil, List.nil_append]

end Json

end Scratchpad
