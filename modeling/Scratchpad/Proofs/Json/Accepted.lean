/-
Nothing but JSON is read.

* `Numeral.exists_spells_of_read?`, `Json.exists_spellsString_of_readString?`: what is read as a
  numeral or as a string is a way to write it.
* `Json.ReadsOnlyGrammar`: what is read at a depth is a way to write a value, the items of an array
  or the members of an object. The induction is on the depth.
* `Json.read?_eq_some_iff`: a text is read as a value exactly if it is a text of that value.
-/
import Mathlib.Tactic
import Scratchpad.Proofs.Json.Grammar

namespace Scratchpad

/-! ### Numerals -/

namespace Numeral

variable {t rest : Text} {ds : List ℕ}

lemma digitChar_of_isDigit {c : Char} (h : c.isDigit = true) :
    c.toNat - '0'.toNat < 10 ∧ Nat.digitChar (c.toNat - '0'.toNat) = c := by
  have hcode : 48 ≤ c.toNat ∧ c.toNat ≤ 57 := Char.isDigit_iff_toNat.mp h
  have hzero : '0'.toNat = 48 := rfl
  have hlt : c.toNat - '0'.toNat < 10 := by omega
  refine ⟨hlt, Char.toNat_inj.mp ?_⟩
  rw [Nat.toNat_digitChar_of_lt_ten hlt]
  omega

lemma splitDigits_spec (t : Text) :
    t = renderDigits (splitDigits t).1 ++ (splitDigits t).2 ∧ ∀ d ∈ (splitDigits t).1, d < 10 := by
  have hdigit : ∀ c ∈ t.takeWhile Char.isDigit, c.isDigit = true := fun c hc =>
    List.all_eq_true.mp (List.all_takeWhile) c hc
  constructor
  · have hsame : renderDigits (splitDigits t).1 = t.takeWhile Char.isDigit := by
      rw [renderDigits, splitDigits, List.map_map]
      exact (List.map_congr_left fun c hc => (digitChar_of_isDigit (hdigit c hc)).2).trans
        (List.map_id _)
    rw [hsame]
    exact List.takeWhile_append_dropWhile.symm
  · intro d hd
    obtain ⟨c, hc, rfl⟩ := List.mem_map.mp hd
    exact (digitChar_of_isDigit (hdigit c hc)).1

lemma of_readDigits? (h : readDigits? t = some (ds, rest)) :
    t = renderDigits ds ++ rest ∧ ds ≠ [] ∧ ∀ d ∈ ds, d < 10 := by
  obtain ⟨htext, hlt⟩ := splitDigits_spec t
  rw [readDigits?] at h
  split at h
  · cases h
  · rename_i digits behind hne hsplit
    obtain ⟨rfl, rfl⟩ := Prod.mk.inj (Option.some.inj h)
    rw [hsplit] at htext hlt
    exact ⟨htext, hne, hlt⟩

lemma of_readWhole? (h : readWhole? t = some (ds, rest)) :
    t = renderDigits ds ++ rest ∧ (ds = [0] ∨ ds ≠ [] ∧ ds.head? ≠ some 0) ∧
      ∀ d ∈ ds, d < 10 := by
  rw [readWhole?.eq_def] at h
  split at h
  · obtain ⟨rfl, rfl⟩ := Prod.mk.inj (Option.some.inj h)
    exact ⟨rfl, Or.inl rfl, by simp⟩
  · rename_i hzero
    obtain ⟨htext, hne, hlt⟩ := of_readDigits? h
    refine ⟨htext, Or.inr ⟨hne, fun hhead => ?_⟩, hlt⟩
    cases ds with
    | nil => cases hhead
    | cons d ds =>
        obtain rfl : d = 0 := Option.some.inj hhead
        exact hzero _ htext

lemma of_readFraction? (h : readFraction? t = some (ds, rest)) :
    t = (if ds.isEmpty then [] else '.' :: renderDigits ds) ++ rest ∧ ∀ d ∈ ds, d < 10 := by
  rw [readFraction?.eq_def] at h
  split at h
  · obtain ⟨rfl, hne, hlt⟩ := of_readDigits? h
    rw [if_neg (by simpa using hne)]
    exact ⟨rfl, hlt⟩
  · obtain ⟨rfl, rfl⟩ := Prod.mk.inj (Option.some.inj h)
    exact ⟨rfl, by simp⟩

lemma exists_spellsSign (t : Text) :
    ∃ sign, t = sign ++ (readSign t).2 ∧ SpellsSign (readSign t).1 sign := by
  rw [readSign.eq_def]
  split
  · exact ⟨['-'], rfl, .minus⟩
  · exact ⟨['+'], rfl, .plus⟩
  · exact ⟨[], rfl, .missing⟩

lemma exists_spellsExponent_of_readExponent? {e : Option ℤ}
    (h : readExponent? t = some (e, rest)) : ∃ s, t = s ++ rest ∧ SpellsExponent e s := by
  cases t with
  | nil =>
      obtain ⟨rfl, rfl⟩ := Prod.mk.inj (Option.some.inj h)
      exact ⟨[], rfl, .missing⟩
  | cons c t =>
      rw [readExponent?] at h
      split at h
      · rename_i hmark
        obtain ⟨sign, hsign, hspells⟩ := exists_spellsSign t
        simp only [Option.bind_eq_bind, Option.bind_eq_some_iff, Option.pure_def,
          Option.some.injEq, Prod.mk.injEq, Prod.exists] at h
        obtain ⟨digits, behind, hdigits, rfl, rfl⟩ := h
        obtain ⟨htext, hne, hlt⟩ := of_readDigits? hdigits
        refine ⟨c :: (sign ++ renderDigits digits), ?_, .marked hmark hspells hne hlt⟩
        rw [List.cons_append, List.append_assoc, ← htext, ← hsign]
      · obtain ⟨rfl, rfl⟩ := Prod.mk.inj (Option.some.inj h)
        exact ⟨[], rfl, .missing⟩

/-- What is read as a numeral is a way to write it. -/
theorem exists_spells_of_read? {n : Numeral} (h : read? t = some (n, rest)) :
    ∃ s, t = s ++ rest ∧ n.Spells s := by
  have hunsigned {negative : Bool} {t : Text} (h : readUnsigned? negative t = some (n, rest)) :
      ∃ s, (if negative then ['-'] else []) ++ t = s ++ rest ∧ n.Spells s := by
    simp only [readUnsigned?, Option.bind_eq_bind, Option.bind_eq_some_iff, Option.pure_def,
      Option.some.injEq, Prod.mk.injEq, Prod.exists] at h
    obtain ⟨whole, _, hwhole, fraction, _, hfraction, e, _, hexponent, rfl, rfl⟩ := h
    obtain ⟨rfl, hform, hwholeLt⟩ := of_readWhole? hwhole
    obtain ⟨rfl, hfractionLt⟩ := of_readFraction? hfraction
    obtain ⟨exponent, rfl, hspells⟩ := exists_spellsExponent_of_readExponent? hexponent
    refine ⟨_, ?_, ⟨hform, hwholeLt, hfractionLt⟩, exponent, hspells, rfl⟩
    simp only [List.append_assoc]
  rw [read?.eq_def] at h
  split at h
  · exact hunsigned h
  · exact hunsigned h

end Numeral

namespace Json

variable {t rest : Text}

/-! ### Strings -/

/-- What is read as a string is a way to write it. -/
theorem exists_spellsString_of_readString? {parts : List StringPart}
    (h : readString? t = some (parts, rest)) : ∃ s, t = s ++ rest ∧ SpellsString parts s := by
  fun_induction readString? t generalizing parts rest with
  | case1 => cases h
  | case2 behind =>
      obtain ⟨rfl, rfl⟩ := Prod.mk.inj (Option.some.inj h)
      exact ⟨['"'], rfl, .close⟩
  | case3 a b c d behind ih =>
      simp only [Option.bind_eq_bind, Option.bind_eq_some_iff, Option.pure_def,
        Option.some.injEq, Prod.mk.injEq, Prod.exists] at h
      obtain ⟨code, hcode, parts, _, hrest, rfl, rfl⟩ := h
      obtain ⟨s, rfl, hs⟩ := ih hrest
      exact ⟨_, rfl, .part (.numbered hcode) hs⟩
  | case4 c behind _ ih =>
      simp only [Option.bind_eq_bind, Option.bind_eq_some_iff, Option.pure_def,
        Option.some.injEq, Prod.mk.injEq, Prod.exists] at h
      obtain ⟨d, hd, parts, _, hrest, rfl, rfl⟩ := h
      obtain ⟨s, rfl, hs⟩ := ih hrest
      exact ⟨_, rfl, .part (.lettered hd) hs⟩
  | case5 => cases h
  | case6 c behind hquote _ hbackslash hcontrol ih =>
      simp only [Option.bind_eq_bind, Option.bind_eq_some_iff, Option.pure_def,
        Option.some.injEq, Prod.mk.injEq, Prod.exists] at h
      obtain ⟨parts, _, hrest, rfl, rfl⟩ := h
      have hplain : c ≠ '\\' := by
        rintro rfl
        cases behind with
        | nil => cases hrest
        | cons d behind => exact hbackslash d behind rfl rfl
      obtain ⟨s, rfl, hs⟩ := ih hrest
      exact ⟨_, rfl, .part (.plain (not_lt.mp hcontrol) hquote hplain) hs⟩

/-! ### Values -/

lemma exists_blank_append (t : Text) : ∃ gap, IsBlank gap ∧ t = gap ++ skipBlanks t :=
  ⟨t.takeWhile isGap, List.all_eq_true.mp List.all_takeWhile, List.takeWhile_append_dropWhile.symm⟩

lemma IsBlank.append {s t : Text} (hs : IsBlank s) (ht : IsBlank t) : IsBlank (s ++ t) :=
  List.forall_mem_append.mpr ⟨hs, ht⟩

section Blanks

variable {gap s : Text} {items : List Json} {members : List (List StringPart × Json)}

lemma SpellsItems.blanks_append (h : SpellsItems items s) (hgap : IsBlank gap) :
    SpellsItems items (gap ++ s) := by
  cases h with
  | last hbefore h hafter =>
      rw [← List.append_assoc]
      exact .last (hgap.append hbefore) h hafter
  | more hbefore h hafter hrest =>
      rw [← List.append_assoc]
      exact .more (hgap.append hbefore) h hafter hrest

lemma SpellsMembers.blanks_append (h : SpellsMembers members s) (hgap : IsBlank gap) :
    SpellsMembers members (gap ++ s) := by
  cases h with
  | last hbefore hname hgap' hbetween h hafter =>
      rw [← List.append_assoc]
      exact .last (hgap.append hbefore) hname hgap' hbetween h hafter
  | more hbefore hname hgap' hbetween h hafter hrest =>
      rw [← List.append_assoc]
      exact .more (hgap.append hbefore) hname hgap' hbetween h hafter hrest

end Blanks

/-- What is read at a depth is a way to write it. -/
structure ReadsOnlyGrammar (fuel : ℕ) : Prop where
  value {t rest : Text} {j : Json} (h : readValue? fuel t = some (j, rest)) :
    ∃ gap s, IsBlank gap ∧ Spells j s ∧ t = gap ++ (s ++ rest)
  items {t rest : Text} {items : List Json} (h : readItems? fuel t = some (items, rest)) :
    ∃ s, SpellsItems items s ∧ t = s ++ rest
  members {t rest : Text} {members : List (List StringPart × Json)}
    (h : readMembers? fuel t = some (members, rest)) :
    ∃ s, SpellsMembers members s ∧ t = s ++ rest

namespace ReadsOnlyGrammar

variable {fuel : ℕ}

/-- A value behind the blanks in front of it. -/
lemma value_succ (ih : ReadsOnlyGrammar fuel) {j : Json}
    (h : readValue? (fuel + 1) t = some (j, rest)) :
    ∃ s, Spells j s ∧ skipBlanks t = s ++ rest := by
  rw [readValue?] at h
  generalize skipBlanks t = u at h
  split at h
  · obtain ⟨rfl, rfl⟩ := Prod.mk.inj (Option.some.inj h)
    exact ⟨_, .null, rfl⟩
  · obtain ⟨rfl, rfl⟩ := Prod.mk.inj (Option.some.inj h)
    exact ⟨_, .boolTrue, rfl⟩
  · obtain ⟨rfl, rfl⟩ := Prod.mk.inj (Option.some.inj h)
    exact ⟨_, .boolFalse, rfl⟩
  · obtain ⟨⟨parts, _⟩, hread, heq⟩ := Option.map_eq_some_iff.mp h
    obtain ⟨rfl, rfl⟩ := Prod.mk.inj heq
    obtain ⟨s, rfl, hs⟩ := exists_spellsString_of_readString? hread
    exact ⟨_, .string hs, rfl⟩
  · rename_i behind
    obtain ⟨gap, hgap, hbehind⟩ := exists_blank_append behind
    rw [hbehind]
    split at h
    · rename_i hclose
      obtain ⟨rfl, rfl⟩ := Prod.mk.inj (Option.some.inj h)
      rw [hclose]
      exact ⟨_, .emptyArray hgap, by simp⟩
    · obtain ⟨⟨items, _⟩, hread, heq⟩ := Option.map_eq_some_iff.mp h
      obtain ⟨rfl, rfl⟩ := Prod.mk.inj heq
      obtain ⟨s, hs, htext⟩ := ih.items hread
      rw [htext]
      exact ⟨_, .array (hs.blanks_append hgap), by simp⟩
  · rename_i behind
    obtain ⟨gap, hgap, hbehind⟩ := exists_blank_append behind
    rw [hbehind]
    split at h
    · rename_i hclose
      obtain ⟨rfl, rfl⟩ := Prod.mk.inj (Option.some.inj h)
      rw [hclose]
      exact ⟨_, .emptyObject hgap, by simp⟩
    · obtain ⟨⟨members, _⟩, hread, heq⟩ := Option.map_eq_some_iff.mp h
      obtain ⟨rfl, rfl⟩ := Prod.mk.inj heq
      obtain ⟨s, hs, htext⟩ := ih.members hread
      rw [htext]
      exact ⟨_, .object (hs.blanks_append hgap), by simp⟩
  · obtain ⟨⟨n, _⟩, hread, heq⟩ := Option.map_eq_some_iff.mp h
    obtain ⟨rfl, rfl⟩ := Prod.mk.inj heq
    obtain ⟨s, rfl, hs⟩ := Numeral.exists_spells_of_read? hread
    exact ⟨s, .number hs, rfl⟩

lemma items_succ (ih : ReadsOnlyGrammar fuel) {items : List Json}
    (h : readItems? (fuel + 1) t = some (items, rest)) : ∃ s, SpellsItems items s ∧ t = s ++ rest := by
  rw [readItems?] at h
  obtain ⟨⟨j, behind⟩, hvalue, hnext⟩ := Option.bind_eq_some_iff.mp h
  obtain ⟨before, s, hbefore, hs, rfl⟩ := ih.value hvalue
  obtain ⟨after, hafter, hbehind⟩ := exists_blank_append behind
  rw [hbehind]
  dsimp only at hnext
  split at hnext
  · rename_i hcomma
    obtain ⟨⟨items, _⟩, hitems, heq⟩ := Option.bind_eq_some_iff.mp hnext
    obtain ⟨rfl, rfl⟩ := Prod.mk.inj (Option.some.inj heq)
    obtain ⟨s', hs', rfl⟩ := ih.items hitems
    rw [hcomma]
    exact ⟨_, .more hbefore hs hafter hs', by simp⟩
  · rename_i hclose
    obtain ⟨rfl, rfl⟩ := Prod.mk.inj (Option.some.inj hnext)
    rw [hclose]
    exact ⟨_, .last hbefore hs hafter, by simp⟩
  · cases hnext

lemma members_succ (ih : ReadsOnlyGrammar fuel) {members : List (List StringPart × Json)}
    (h : readMembers? (fuel + 1) t = some (members, rest)) :
    ∃ s, SpellsMembers members s ∧ t = s ++ rest := by
  rw [readMembers?] at h
  obtain ⟨before, hbefore, ht⟩ := exists_blank_append t
  split at h
  · rename_i quoted hquote
    obtain ⟨⟨key, unnamed⟩, hkey, hnamed⟩ := Option.bind_eq_some_iff.mp h
    obtain ⟨name, rfl, hname⟩ := exists_spellsString_of_readString? hkey
    obtain ⟨gap, hgap, hunnamed⟩ := exists_blank_append unnamed
    dsimp only at hnamed
    split at hnamed
    · rename_i valued hcolon
      obtain ⟨⟨j, behind⟩, hvalue, hnext⟩ := Option.bind_eq_some_iff.mp hnamed
      obtain ⟨between, s, hbetween, hs, rfl⟩ := ih.value hvalue
      obtain ⟨after, hafter, hbehind⟩ := exists_blank_append behind
      rw [ht, hquote, hunnamed, hcolon, hbehind]
      dsimp only at hnext
      split at hnext
      · rename_i hcomma
        obtain ⟨⟨members, _⟩, hmembers, heq⟩ := Option.bind_eq_some_iff.mp hnext
        obtain ⟨rfl, rfl⟩ := Prod.mk.inj (Option.some.inj heq)
        obtain ⟨s', hs', rfl⟩ := ih.members hmembers
        rw [hcomma]
        exact ⟨_, .more hbefore hname hgap hbetween hs hafter hs', by simp⟩
      · rename_i hclose
        obtain ⟨rfl, rfl⟩ := Prod.mk.inj (Option.some.inj hnext)
        rw [hclose]
        exact ⟨_, .last hbefore hname hgap hbetween hs hafter, by simp⟩
      · cases hnext
    · cases hnamed
  · cases h

end ReadsOnlyGrammar

/-- What is read at any depth is a way to write it. -/
theorem readsOnlyGrammar (fuel : ℕ) : ReadsOnlyGrammar fuel := by
  induction fuel with
  | zero =>
      constructor
      · intro t rest j h
        cases h
      · intro t rest items h
        cases h
      · intro t rest members h
        cases h
  | succ fuel ih =>
      refine ⟨fun {t rest j} h => ?_, ih.items_succ, ih.members_succ⟩
      obtain ⟨gap, hgap, ht⟩ := exists_blank_append t
      obtain ⟨s, hs, hskip⟩ := ih.value_succ h
      exact ⟨gap, s, hgap, hs, hskip ▸ ht⟩

/-- A text is read as a value exactly if it is a text of that value. -/
theorem read?_eq_some_iff {t : Text} {j : Json} : read? t = some j ↔ IsText j t := by
  refine ⟨fun h => ?_, read?_of_isText⟩
  rw [read?] at h
  obtain ⟨⟨value, rest⟩, hvalue, hnext⟩ := Option.bind_eq_some_iff.mp h
  obtain ⟨before, s, hbefore, hs, rfl⟩ := (readsOnlyGrammar _).value hvalue
  dsimp only at hnext
  split at hnext
  · rename_i hend
    obtain rfl := Option.some.inj hnext
    obtain ⟨after, hafter, hrest⟩ := exists_blank_append rest
    rw [List.isEmpty_iff.mp hend, List.append_nil] at hrest
    exact ⟨before, s, rest, hbefore, hs, hrest ▸ hafter, rfl⟩
  · cases hnext

end Json

end Scratchpad
