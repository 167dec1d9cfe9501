/-
The grammar of JSON, and that all of it is read.

* `Json.SpellsString`, `Json.Spells`: the ways to write a string and a value. There may be blanks
  between any two tokens, characters of strings may be written by letter or by number, and the
  numerals are written in any of their ways.
* `Json.IsText`: the texts of a value, with blanks around it.
* `Json.SpellsString.readString?_append`: a string is read up to its closing quote.
* `Json.Spells.readsAs`: a value is read, whichever way it is written, in front of any text that
  does not continue a numeral. The induction is on the way it is written; the depth of the reading
  is bounded by twice the length of the text, since each bracket and each comma takes two steps.
* `Json.read?_of_isText`: every text of a value is read as that value.
-/
import Mathlib.Tactic
import Scratchpad.Json.Reader
import Scratchpad.Proofs.Numeric.Numeral

namespace Scratchpad

namespace Json

/-! ### Blanks -/

/-- A text of blanks only. -/
def IsBlank (t : Text) : Prop := ∀ c ∈ t, isGap c = true

lemma isBlank_nil : IsBlank [] := fun _ h => absurd h List.not_mem_nil

lemma IsBlank.skipBlanks_append {gap : Text} (h : IsBlank gap) (t : Text) :
    skipBlanks (gap ++ t) = skipBlanks t := by
  rw [skipBlanks, List.dropWhile_append_of_pos h, skipBlanks]

lemma skipBlanks_cons {c : Char} (h : isGap c = false) (t : Text) :
    skipBlanks (c :: t) = c :: t := by
  rw [skipBlanks, List.dropWhile_cons, h, if_neg Bool.false_ne_true]

lemma IsBlank.stopsNumeral_append {gap t : Text} (h : IsBlank gap)
    (ht : Numeral.StopsNumeral t) : Numeral.StopsNumeral (gap ++ t) := by
  cases gap with
  | nil => exact ht
  | cons c gap =>
      intro d hd
      obtain rfl : c = d := Option.some.inj hd
      have hblank := h c List.mem_cons_self
      simp only [isGap, Bool.or_eq_true, beq_iff_eq, or_assoc] at hblank
      obtain rfl | rfl | rfl | rfl := hblank <;> decide

lemma stopsNumeral_cons {c : Char} (hdigit : c.isDigit = false)
    (hmark : c ≠ '.' ∧ c ≠ 'e' ∧ c ≠ 'E') (t : Text) : Numeral.StopsNumeral (c :: t) := by
  intro d hd
  obtain rfl : c = d := Option.some.inj hd
  exact ⟨hdigit, hmark⟩

/-! ### The ways to write a value -/

/-- A way to write a part of a string. A code unit is written by its digits, in small or capital
letters; a character stands for itself or is written by a letter. -/
inductive SpellsPart : StringPart → Text → Prop
  | plain {c : Char} (hcontrol : 0x20 ≤ c.toNat) (hquote : c ≠ '"') (hbackslash : c ≠ '\\') :
      SpellsPart (.char c) [c]
  | lettered {c d : Char} (h : escape? c = some d) : SpellsPart (.char d) ['\\', c]
  | numbered {a b c d : Char} {code : ℕ} (h : codeUnit? a b c d = some code) :
      SpellsPart (.unit code) ['\\', 'u', a, b, c, d]

/-- A way to write a string behind its opening quote. -/
inductive SpellsString : List StringPart → Text → Prop
  | close : SpellsString [] ['"']
  | part {p : StringPart} {parts : List StringPart} {t rest : Text} (h : SpellsPart p t)
      (hrest : SpellsString parts rest) : SpellsString (p :: parts) (t ++ rest)

mutual

/-- A way to write a value. -/
inductive Spells : Json → Text → Prop
  | null : Spells null "null".toList
  | boolTrue : Spells (bool true) "true".toList
  | boolFalse : Spells (bool false) "false".toList
  | number {n : Numeral} {t : Text} (h : n.Spells t) : Spells (number n) t
  | string {parts : List StringPart} {t : Text} (h : SpellsString parts t) :
      Spells (string parts) ('"' :: t)
  | emptyArray {gap : Text} (hgap : IsBlank gap) : Spells (array []) ('[' :: (gap ++ [']']))
  | array {items : List Json} {t : Text} (h : SpellsItems items t) :
      Spells (array items) ('[' :: t)
  | emptyObject {gap : Text} (hgap : IsBlank gap) :
      Spells (object []) ('\x7b' :: (gap ++ ['\x7d']))
  | object {members : List (List StringPart × Json)} {t : Text} (h : SpellsMembers members t) :
      Spells (object members) ('\x7b' :: t)

/-- A way to write the items of an array up to its closing bracket; there is at least one. -/
inductive SpellsItems : List Json → Text → Prop
  | last {j : Json} {before t after : Text} (hbefore : IsBlank before) (h : Spells j t)
      (hafter : IsBlank after) : SpellsItems [j] (before ++ (t ++ (after ++ [']'])))
  | more {j : Json} {items : List Json} {before t after rest : Text} (hbefore : IsBlank before)
      (h : Spells j t) (hafter : IsBlank after) (hrest : SpellsItems items rest) :
      SpellsItems (j :: items) (before ++ (t ++ (after ++ ',' :: rest)))

/-- A way to write the members of an object up to its closing brace; there is at least one. -/
inductive SpellsMembers : List (List StringPart × Json) → Text → Prop
  | last {key : List StringPart} {j : Json} {before name gap between t after : Text}
      (hbefore : IsBlank before) (hname : SpellsString key name) (hgap : IsBlank gap)
      (hbetween : IsBlank between) (h : Spells j t) (hafter : IsBlank after) :
      SpellsMembers [(key, j)]
        (before ++ '"' :: (name ++ (gap ++ ':' :: (between ++ (t ++ (after ++ ['\x7d']))))))
  | more {key : List StringPart} {j : Json} {members : List (List StringPart × Json)}
      {before name gap between t after rest : Text} (hbefore : IsBlank before)
      (hname : SpellsString key name) (hgap : IsBlank gap) (hbetween : IsBlank between)
      (h : Spells j t) (hafter : IsBlank after) (hrest : SpellsMembers members rest) :
      SpellsMembers ((key, j) :: members)
        (before ++ '"' :: (name ++ (gap ++ ':' :: (between ++ (t ++ (after ++ ',' :: rest))))))

end

/-- The whole text is a way to write the value, with blanks before and behind it. -/
def IsText (j : Json) (t : Text) : Prop :=
  ∃ before body after, IsBlank before ∧ Spells j body ∧ IsBlank after ∧
    t = before ++ (body ++ after)

/-! ### Strings -/

lemma readString?_lettered {c d : Char} (h : escape? c = some d) (t : Text) :
    readString? ('\\' :: c :: t) =
      (readString? t).map fun (parts, rest) => (.char d :: parts, rest) := by
  rw [readString?]
  · rw [h]
    cases readString? t <;> rfl
  · rintro _ _ _ _ _ rfl -
    cases h

/-- A part in front of a string is read, whichever way it is written. -/
lemma SpellsPart.readString?_append {p : StringPart} {t : Text} (h : SpellsPart p t)
    (rest : Text) :
    readString? (t ++ rest) = (readString? rest).map fun (parts, rest) => (p :: parts, rest) := by
  cases h with
  | lettered h => exact readString?_lettered h rest
  | numbered h =>
      simp only [List.cons_append, List.nil_append, readString?, h]
      cases readString? rest <;> rfl
  | plain hcontrol hquote hbackslash =>
      rw [List.singleton_append, readString?]
      · rw [if_neg (not_lt.mpr hcontrol)]
        cases readString? rest <;> rfl
      · exact hquote
      · rintro _ _ _ _ _ hc -
        exact hbackslash hc
      · rintro _ _ hc -
        exact hbackslash hc

/-- A string is read up to its closing quote. -/
theorem SpellsString.readString?_append {parts : List StringPart} {t : Text}
    (h : SpellsString parts t) (rest : Text) : readString? (t ++ rest) = some (parts, rest) := by
  induction h with
  | close => rfl
  | part hpart _ ih =>
      rw [List.append_assoc, hpart.readString?_append, ih]
      rfl

/-! ### The first character of a value -/

lemma ne_of_isDigit {c d : Char} (hc : c.isDigit = true) (hd : d.isDigit = false) : c ≠ d := by
  rintro rfl
  rw [hc] at hd
  cases hd

/-- A value starts neither with a blank nor with a closing bracket. -/
lemma Spells.exists_eq_cons {j : Json} {t : Text} (h : Spells j t) :
    ∃ c rest, t = c :: rest ∧ isGap c = false ∧ c ≠ ']' := by
  cases h with
  | number h =>
      obtain ⟨c, rest, htext, hfirst, -⟩ := h.exists_eq_cons
      refine ⟨c, rest, htext, ?_⟩
      obtain rfl | hdigit := hfirst
      · decide
      · have hne (d : Char) (hd : d.isDigit = false) : c ≠ d := ne_of_isDigit hdigit hd
        refine ⟨?_, hne _ rfl⟩
        simp [isGap, hne ' ' rfl, hne '\t' rfl, hne '\n' rfl, hne '\r' rfl]
  | _ => exact ⟨_, _, rfl, by decide⟩

lemma Spells.length_pos {j : Json} {t : Text} (h : Spells j t) : 0 < t.length := by
  obtain ⟨c, rest, rfl, -⟩ := h.exists_eq_cons
  exact Nat.succ_pos _

lemma Spells.skipBlanks_append {j : Json} {t : Text} (h : Spells j t) (rest : Text) :
    skipBlanks (t ++ rest) = t ++ rest := by
  obtain ⟨c, tail, rfl, hgap, -⟩ := h.exists_eq_cons
  exact skipBlanks_cons hgap _

lemma SpellsItems.exists_skipBlanks_eq {items : List Json} {t : Text} (h : SpellsItems items t)
    (rest : Text) :
    ∃ c tail, skipBlanks (t ++ rest) = c :: tail ∧ isGap c = false ∧ c ≠ ']' := by
  cases h with
  | last hbefore h =>
      rw [List.append_assoc, hbefore.skipBlanks_append, List.append_assoc, h.skipBlanks_append]
      obtain ⟨c, tail, rfl, hfirst⟩ := h.exists_eq_cons
      exact ⟨c, _, rfl, hfirst⟩
  | more hbefore h =>
      rw [List.append_assoc, hbefore.skipBlanks_append, List.append_assoc, h.skipBlanks_append]
      obtain ⟨c, tail, rfl, hfirst⟩ := h.exists_eq_cons
      exact ⟨c, _, rfl, hfirst⟩

lemma SpellsMembers.exists_skipBlanks_eq {members : List (List StringPart × Json)} {t : Text}
    (h : SpellsMembers members t) (rest : Text) : ∃ tail, skipBlanks (t ++ rest) = '"' :: tail := by
  cases h with
  | last hbefore =>
      rw [List.append_assoc, hbefore.skipBlanks_append]
      exact ⟨_, skipBlanks_cons rfl _⟩
  | more hbefore =>
      rw [List.append_assoc, hbefore.skipBlanks_append]
      exact ⟨_, skipBlanks_cons rfl _⟩

/-! ### Reading a value by its first character -/

section FirstCharacter

variable {fuel : ℕ} {t rest tail : Text} {c : Char}

lemma readValue?_string (h : skipBlanks t = '"' :: rest) :
    readValue? (fuel + 1) t =
      (readString? rest).map fun (parts, rest) => (string parts, rest) := by
  simp only [readValue?, h]

lemma readValue?_number (h : skipBlanks t = c :: rest) (hc : c = '-' ∨ c.isDigit = true) :
    readValue? (fuel + 1) t =
      (Numeral.read? (c :: rest)).map fun (n, rest) => (number n, rest) := by
  have hne (d : Char) (hd : d.isDigit = false) (hminus : d ≠ '-') : c ≠ d := by
    rintro rfl
    exact hc.elim hminus fun hdigit => Bool.false_ne_true (hd.symm.trans hdigit)
  rw [readValue?, h]
  split <;> rename_i heq <;>
    first
    | exact absurd (List.cons.inj heq).1 (hne _ rfl (by decide))
    | rfl

lemma readValue?_array (h : skipBlanks t = '[' :: rest) (hrest : skipBlanks rest = c :: tail)
    (hc : c ≠ ']') :
    readValue? (fuel + 1) t =
      (readItems? fuel (c :: tail)).map fun (items, rest) => (array items, rest) := by
  simp only [readValue?, h, hrest]
  split
  · rename_i heq
    exact absurd (List.cons.inj heq).1 hc
  · rfl

lemma readValue?_object (h : skipBlanks t = '\x7b' :: rest)
    (hrest : skipBlanks rest = '"' :: tail) :
    readValue? (fuel + 1) t =
      (readMembers? fuel ('"' :: tail)).map fun (members, rest) => (object members, rest) := by
  simp only [readValue?, h, hrest]
  rfl

end FirstCharacter

/-! ### Reading -/

/-- The text is read as the value, behind blanks and in front of any text that does not continue a
numeral. -/
def ReadsAs (j : Json) (t : Text) : Prop :=
  ∀ (fuel : ℕ) (s rest : Text), Numeral.StopsNumeral rest → skipBlanks s = t ++ rest →
    2 * t.length ≤ fuel → readValue? fuel s = some (j, rest)

/-- The text is read as the items of an array up to its closing bracket. -/
def ReadsAsItems (items : List Json) (t : Text) : Prop :=
  ∀ (fuel : ℕ) (s rest : Text), skipBlanks s = skipBlanks (t ++ rest) → 2 * t.length ≤ fuel →
    readItems? fuel s = some (items, rest)

/-- The text is read as the members of an object up to its closing brace. -/
def ReadsAsMembers (members : List (List StringPart × Json)) (t : Text) : Prop :=
  ∀ (fuel : ℕ) (s rest : Text), skipBlanks s = skipBlanks (t ++ rest) → 2 * t.length ≤ fuel →
    readMembers? fuel s = some (members, rest)

section Steps

variable {j : Json} {items : List Json} {key : List StringPart}
  {members : List (List StringPart × Json)} {before name gap between t after tail s rest : Text}
  {fuel : ℕ}

/-- A value is read between blanks, up to a comma or a closing bracket. -/
lemma ReadsAs.readValue?_between (hread : ReadsAs j t) (hbefore : IsBlank before)
    (h : Spells j t) (hafter : IsBlank after) {c : Char} (hc : c = ',' ∨ c = ']' ∨ c = '\x7d')
    (hs : skipBlanks s = skipBlanks (before ++ (t ++ (after ++ c :: rest))))
    (hfuel : 2 * t.length ≤ fuel) : readValue? fuel s = some (j, after ++ c :: rest) := by
  have hstops : Numeral.StopsNumeral (c :: rest) := by
    obtain rfl | rfl | rfl := hc <;> exact stopsNumeral_cons rfl (by decide) rest
  refine hread fuel s _ (hafter.stopsNumeral_append hstops) ?_ hfuel
  rw [hs, hbefore.skipBlanks_append, h.skipBlanks_append]

lemma ReadsAs.items_last (hread : ReadsAs j t) (hbefore : IsBlank before) (h : Spells j t)
    (hafter : IsBlank after) : ReadsAsItems [j] (before ++ (t ++ (after ++ [']']))) := by
  intro fuel s rest hs hfuel
  simp only [List.length_append, List.length_singleton] at hfuel
  simp only [List.append_assoc, List.singleton_append] at hs
  obtain ⟨fuel, rfl⟩ : ∃ k, fuel = k + 1 := ⟨fuel - 1, by omega⟩
  rw [readItems?, hread.readValue?_between hbefore h hafter (by tauto) hs (by omega)]
  simp only [Option.bind_eq_bind, Option.bind_some, hafter.skipBlanks_append]
  rw [skipBlanks_cons rfl]
  rfl

lemma ReadsAs.items_more (hread : ReadsAs j t) (htail : ReadsAsItems items tail)
    (hbefore : IsBlank before) (h : Spells j t) (hafter : IsBlank after) :
    ReadsAsItems (j :: items) (before ++ (t ++ (after ++ ',' :: tail))) := by
  intro fuel s rest hs hfuel
  simp only [List.length_append, List.length_cons] at hfuel
  simp only [List.append_assoc, List.cons_append] at hs
  obtain ⟨fuel, rfl⟩ : ∃ k, fuel = k + 1 := ⟨fuel - 1, by omega⟩
  rw [readItems?, hread.readValue?_between hbefore h hafter (by tauto) hs (by omega)]
  simp only [Option.bind_eq_bind, Option.bind_some, hafter.skipBlanks_append]
  rw [skipBlanks_cons rfl]
  simp only [htail fuel (tail ++ rest) rest rfl (by omega), Option.bind_some]
  rfl

lemma ReadsAs.members_last (hread : ReadsAs j t) (hbefore : IsBlank before)
    (hname : SpellsString key name) (hgap : IsBlank gap) (hbetween : IsBlank between)
    (h : Spells j t) (hafter : IsBlank after) :
    ReadsAsMembers [(key, j)]
      (before ++ '"' :: (name ++ (gap ++ ':' :: (between ++ (t ++ (after ++ ['\x7d'])))))) := by
  intro fuel s rest hs hfuel
  simp only [List.length_append, List.length_cons] at hfuel
  simp only [List.append_assoc, List.cons_append, List.nil_append] at hs
  obtain ⟨fuel, rfl⟩ : ∃ k, fuel = k + 1 := ⟨fuel - 1, by omega⟩
  rw [hbefore.skipBlanks_append, skipBlanks_cons rfl] at hs
  simp only [readMembers?, hs, Option.bind_eq_bind, hname.readString?_append, Option.bind_some,
    hgap.skipBlanks_append]
  have hvalue : readValue? fuel (between ++ (t ++ (after ++ '\x7d' :: rest))) = _ :=
    hread.readValue?_between hbetween h hafter (by tauto) rfl (by omega)
  rw [skipBlanks_cons rfl]
  simp only [hvalue, Option.bind_some, hafter.skipBlanks_append]
  rw [skipBlanks_cons rfl]
  rfl

lemma ReadsAs.members_more (hread : ReadsAs j t) (htail : ReadsAsMembers members tail)
    (hbefore : IsBlank before) (hname : SpellsString key name) (hgap : IsBlank gap)
    (hbetween : IsBlank between) (h : Spells j t) (hafter : IsBlank after) :
    ReadsAsMembers ((key, j) :: members)
      (before ++ '"' :: (name ++ (gap ++ ':' :: (between ++ (t ++ (after ++ ',' :: tail)))))) := by
  intro fuel s rest hs hfuel
  simp only [List.length_append, List.length_cons] at hfuel
  simp only [List.append_assoc, List.cons_append] at hs
  obtain ⟨fuel, rfl⟩ : ∃ k, fuel = k + 1 := ⟨fuel - 1, by omega⟩
  rw [hbefore.skipBlanks_append, skipBlanks_cons rfl] at hs
  simp only [readMembers?, hs, Option.bind_eq_bind, hname.readString?_append, Option.bind_some,
    hgap.skipBlanks_append]
  have hvalue : readValue? fuel (between ++ (t ++ (after ++ ',' :: (tail ++ rest)))) = _ :=
    hread.readValue?_between hbetween h hafter (by tauto) rfl (by omega)
  rw [skipBlanks_cons rfl]
  simp only [hvalue, Option.bind_some, hafter.skipBlanks_append]
  rw [skipBlanks_cons rfl]
  simp only [htail fuel (tail ++ rest) rest rfl (by omega), Option.bind_some]
  rfl

lemma ReadsAsItems.readsAs (hread : ReadsAsItems items t) (h : SpellsItems items t) :
    ReadsAs (array items) ('[' :: t) := by
  intro fuel s rest _ hs hfuel
  rw [List.length_cons] at hfuel
  obtain ⟨fuel, rfl⟩ : ∃ k, fuel = k + 1 := ⟨fuel - 1, by omega⟩
  obtain ⟨c, tail, htail, hgap, hc⟩ := h.exists_skipBlanks_eq rest
  rw [readValue?_array hs htail hc, hread fuel (c :: tail) rest _ (by omega)]
  · rfl
  · rw [skipBlanks_cons hgap, htail]

lemma ReadsAsMembers.readsAs (hread : ReadsAsMembers members t) (h : SpellsMembers members t) :
    ReadsAs (object members) ('\x7b' :: t) := by
  intro fuel s rest _ hs hfuel
  rw [List.length_cons] at hfuel
  obtain ⟨fuel, rfl⟩ : ∃ k, fuel = k + 1 := ⟨fuel - 1, by omega⟩
  obtain ⟨tail, htail⟩ := h.exists_skipBlanks_eq rest
  rw [readValue?_object hs htail, hread fuel ('"' :: tail) rest _ (by omega)]
  · rfl
  · rw [skipBlanks_cons rfl, htail]

end Steps

/-- A value that is neither written between brackets nor a number is read in one step. -/
lemma readsAs_of_succ {j : Json} {t : Text} (hpos : 0 < t.length)
    (h : ∀ (fuel : ℕ) (s rest : Text), Numeral.StopsNumeral rest → skipBlanks s = t ++ rest →
      readValue? (fuel + 1) s = some (j, rest)) : ReadsAs j t := by
  intro fuel s rest hrest hs hfuel
  obtain ⟨fuel, rfl⟩ : ∃ k, fuel = k + 1 := ⟨fuel - 1, by omega⟩
  exact h fuel s rest hrest hs

mutual

/-- A value is read, whichever way it is written. -/
theorem Spells.readsAs {j : Json} {t : Text} (h : Spells j t) : ReadsAs j t := by
  have hpos := h.length_pos
  cases h with
  | null | boolTrue | boolFalse =>
      refine readsAs_of_succ hpos fun fuel s rest _ hs => ?_
      simp only [readValue?, hs]
      rfl
  | number h =>
      refine readsAs_of_succ hpos fun fuel s rest hrest hs => ?_
      obtain ⟨c, tail, htext, hfirst, -⟩ := h.exists_eq_cons
      rw [htext, List.cons_append] at hs
      rw [readValue?_number hs hfirst, ← List.cons_append, ← htext, h.read?_append hrest]
      rfl
  | string h =>
      refine readsAs_of_succ hpos fun fuel s rest _ hs => ?_
      rw [List.cons_append] at hs
      rw [readValue?_string hs, h.readString?_append]
      rfl
  | emptyArray hgap =>
      refine readsAs_of_succ hpos fun fuel s rest _ hs => ?_
      rw [List.cons_append, List.append_assoc] at hs
      simp only [readValue?, hs, hgap.skipBlanks_append]
      rfl
  | emptyObject hgap =>
      refine readsAs_of_succ hpos fun fuel s rest _ hs => ?_
      rw [List.cons_append, List.append_assoc] at hs
      simp only [readValue?, hs, hgap.skipBlanks_append]
      rfl
  | array h => exact h.readsAsItems.readsAs h
  | object h => exact h.readsAsMembers.readsAs h

/-- So are the items of an array. -/
theorem SpellsItems.readsAsItems {items : List Json} {t : Text} (h : SpellsItems items t) :
    ReadsAsItems items t := by
  cases h with
  | last hbefore h hafter => exact h.readsAs.items_last hbefore h hafter
  | more hbefore h hafter hrest =>
      exact h.readsAs.items_more hrest.readsAsItems hbefore h hafter

/-- So are the members of an object. -/
theorem SpellsMembers.readsAsMembers {members : List (List StringPart × Json)} {t : Text}
    (h : SpellsMembers members t) : ReadsAsMembers members t := by
  cases h with
  | last hbefore hname hgap hbetween h hafter =>
      exact h.readsAs.members_last hbefore hname hgap hbetween h hafter
  | more hbefore hname hgap hbetween h hafter hrest =>
      exact h.readsAs.members_more hrest.readsAsMembers hbefore hname hgap hbetween h hafter

end

/-- Every text of a value is read as that value. -/
theorem read?_of_isText {j : Json} {t : Text} (h : IsText j t) : read? t = some j := by
  obtain ⟨before, body, after, hbefore, hbody, hafter, rfl⟩ := h
  have hend : Numeral.StopsNumeral after := by
    have hnil : Numeral.StopsNumeral [] := fun c hc => by cases hc
    have hblank := hafter.stopsNumeral_append hnil
    rwa [List.append_nil] at hblank
  have hskip : skipBlanks after = [] := by
    have hblank := hafter.skipBlanks_append []
    rwa [List.append_nil] at hblank
  have hvalue := hbody.readsAs (2 * (before ++ (body ++ after)).length + 2)
    (before ++ (body ++ after)) after hend
    (by rw [hbefore.skipBlanks_append, hbody.skipBlanks_append])
    (by simp only [List.length_append]; omega)
  rw [read?, hvalue]
  simp only [Option.bind_eq_bind, Option.bind_some, hskip]
  rfl

end Json

end Scratchpad
