/-
Numerals as text and as rational numbers.

* `ofDigits_digitsOf`: the decimal digits of a number stand for it.
* `Numeral.toRat`: the number that a numeral is written for, apart from its sign: its digits,
  `Numeral.significand`, times a power of ten, `Numeral.power`.
* `Numeral.leading_eq`: no digit is lost if all of them together fit in 64 bits.
* `Numeral.IsCanonical`, `Numeral.Spells`: the numerals that can be written, and the ways to write
  one. `Numeral.Spells.read?_append` says that it is read whichever way it is written, in front of
  any text that does not continue a numeral; `Numeral.spells_render`, that rendering is one way.
-/
import Mathlib.Tactic
import Scratchpad.Numeric.Numeral

namespace Scratchpad

namespace Numeral

/-! ### Digits -/

lemma digitsOf_of_lt {n : ℕ} (h : n < 10) : digitsOf n = [n] := by
  rw [digitsOf, Nat.toDigits_of_lt_base h, List.map_singleton,
    Nat.toNat_digitChar_of_lt_ten h]
  simp

lemma digitsOf_of_le {n : ℕ} (h : 10 ≤ n) : digitsOf n = digitsOf (n / 10) ++ [n % 10] := by
  have hlast := Nat.mod_lt n (show 0 < 10 by decide)
  rw [digitsOf, Nat.toDigits_of_base_le (by decide) h, List.map_append, List.map_singleton,
    Nat.toNat_digitChar_of_lt_ten hlast]
  simp [digitsOf]

/-- Numbers by their decimal digits: one digit, or more than the digits of another number. -/
@[elab_as_elim]
lemma digits_induction {P : ℕ → Prop} (last : ∀ n < 10, P n)
    (more : ∀ n, 10 ≤ n → P (n / 10) → P n) (n : ℕ) : P n := by
  induction n using Nat.strong_induction_on with
  | _ n ih =>
      by_cases h : n < 10
      · exact last n h
      · exact more n (by omega) (ih (n / 10) (by omega))

lemma digitsOf_ne_nil (n : ℕ) : digitsOf n ≠ [] := by
  simp [digitsOf]

lemma lt_ten_of_mem_digitsOf (n : ℕ) : ∀ d ∈ digitsOf n, d < 10 := by
  induction n using digits_induction with
  | last n hn => simp [digitsOf_of_lt hn, hn]
  | more n hn ih =>
      intro d hd
      rw [digitsOf_of_le hn, List.mem_append, List.mem_singleton] at hd
      obtain hd | rfl := hd
      · exact ih d hd
      · omega

/-- No digits are lost at the front. -/
lemma head?_digitsOf {n : ℕ} (hn : 0 < n) : (digitsOf n).head? ≠ some 0 := by
  induction n using digits_induction with
  | last n hlt =>
      rw [digitsOf_of_lt hlt, List.head?_cons, ne_eq, Option.some.injEq]
      omega
  | more n hle ih =>
      rw [digitsOf_of_le hle, List.head?_append_of_ne_nil _ (digitsOf_ne_nil _)]
      exact ih (by omega)

lemma foldl_eq_ofDigits (start : ℕ) (ds : List ℕ) :
    ds.foldl (fun n d => 10 * n + d) start = start * 10 ^ ds.length + ofDigits ds := by
  induction ds generalizing start with
  | nil => simp [ofDigits]
  | cons d ds ih =>
      have hfirst : ofDigits (d :: ds) = (10 * 0 + d) * 10 ^ ds.length + ofDigits ds := ih _
      rw [List.foldl_cons, ih, hfirst, List.length_cons, pow_succ]
      ring

@[simp] lemma ofDigits_nil : ofDigits [] = 0 := rfl

@[simp] lemma ofDigits_singleton (d : ℕ) : ofDigits [d] = d := by
  simp [ofDigits]

lemma ofDigits_append (ds es : List ℕ) :
    ofDigits (ds ++ es) = ofDigits ds * 10 ^ es.length + ofDigits es := by
  rw [ofDigits, List.foldl_append, foldl_eq_ofDigits]
  rfl

@[simp] lemma ofDigits_replicate_zero (n : ℕ) : ofDigits (List.replicate n 0) = 0 := by
  induction n with
  | zero => rfl
  | succ n ih => rw [List.replicate_succ', ofDigits_append, ih, ofDigits_singleton, Nat.zero_mul]

@[simp] lemma ofDigits_digitsOf (n : ℕ) : ofDigits (digitsOf n) = n := by
  induction n using digits_induction with
  | last n hn => rw [digitsOf_of_lt hn, ofDigits_singleton]
  | more n hn ih =>
      rw [digitsOf_of_le hn, ofDigits_append, ih, ofDigits_singleton, List.length_singleton]
      omega

lemma ofDigits_lt {ds : List ℕ} (h : ∀ d ∈ ds, d < 10) : ofDigits ds < 10 ^ ds.length := by
  induction ds using List.reverseRecOn with
  | nil => simp
  | append_singleton ds d ih =>
      have hlast := h d (by simp)
      have hrest := ih fun e he => h e (by simp [he])
      rw [ofDigits_append, ofDigits_singleton, List.length_append, List.length_singleton, pow_one,
        pow_succ]
      omega

/-! ### The number of a numeral -/

/-- All digits of a numeral as one number. -/
def significand (n : Numeral) : ℕ := ofDigits (n.whole ++ n.fraction)

/-- The power of ten of the last digit. -/
def power (n : Numeral) : ℤ := n.exponent.getD 0 - n.fraction.length

/-- The number that a numeral is written for, apart from its sign. -/
def toRat (n : Numeral) : ℚ := n.significand * 10 ^ n.power

lemma absorb_eq {start : ℕ} {ds : List ℕ}
    (h : start * 10 ^ ds.length + ofDigits ds < UInt64.size) :
    absorb start ds = (start * 10 ^ ds.length + ofDigits ds, ds.length) := by
  induction ds generalizing start with
  | nil => simp [absorb]
  | cons d ds ih =>
      have hsplit : start * 10 ^ (d :: ds).length + ofDigits (d :: ds) =
          (10 * start + d) * 10 ^ ds.length + ofDigits ds := by
        rw [← foldl_eq_ofDigits, List.foldl_cons, foldl_eq_ofDigits]
      rw [hsplit] at h ⊢
      have hfirst : 10 * start + d < UInt64.size := by
        refine lt_of_le_of_lt ?_ h
        exact (Nat.le_mul_of_pos_right _ (by positivity)).trans (Nat.le_add_right _ _)
      rw [absorb, if_pos hfirst, ih h]
      rfl

/-- A numeral whose digits fit in 64 bits is scaled by the power of its last digit. -/
lemma leading_eq {n : Numeral} (h : n.significand < UInt64.size) :
    n.leading = (n.significand, n.power) := by
  rw [significand, ofDigits_append] at h
  have hwhole : 0 * 10 ^ n.whole.length + ofDigits n.whole < UInt64.size := by
    rw [Nat.zero_mul, Nat.zero_add]
    refine lt_of_le_of_lt ?_ h
    exact (Nat.le_mul_of_pos_right _ (by positivity)).trans (Nat.le_add_right _ _)
  rw [leading, absorb_eq hwhole]
  dsimp only
  rw [Nat.zero_mul, Nat.zero_add, absorb_eq h, significand, ofDigits_append, power]
  simp only [Nat.sub_self, Nat.cast_zero, zero_sub, Prod.mk.injEq, true_and]
  ring

/-! ### Reading what was written -/

/-- A numeral that is read as it is written: digits before the point, without a zero that is not
needed. -/
structure IsCanonical (n : Numeral) : Prop where
  whole : n.whole = [0] ∨ n.whole ≠ [] ∧ n.whole.head? ≠ some 0
  whole_lt : ∀ d ∈ n.whole, d < 10
  fraction_lt : ∀ d ∈ n.fraction, d < 10

/-- A text that does not start with a digit. -/
def StopsDigits (t : Text) : Prop := ∀ c ∈ t.head?, c.isDigit = false

/-- A text that does not continue a numeral. -/
def StopsNumeral (t : Text) : Prop :=
  ∀ c ∈ t.head?, c.isDigit = false ∧ c ≠ '.' ∧ c ≠ 'e' ∧ c ≠ 'E'

lemma StopsNumeral.stopsDigits {t : Text} (h : StopsNumeral t) : StopsDigits t :=
  fun c hc => (h c hc).1

lemma stopsDigits_cons {c : Char} {t : Text} (hc : c.isDigit = false) : StopsDigits (c :: t) := by
  intro d hd
  rw [List.head?_cons, Option.mem_some_iff] at hd
  exact hd ▸ hc

lemma splitDigits_append {ds : List ℕ} (h : ∀ d ∈ ds, d < 10) {t : Text} (ht : StopsDigits t) :
    splitDigits (renderDigits ds ++ t) = (ds, t) := by
  induction ds with
  | nil =>
      cases t with
      | nil => rfl
      | cons c t => simp [splitDigits, renderDigits, ht c rfl]
  | cons d ds ih =>
      have hd := h d List.mem_cons_self
      have hrest := ih fun e he => h e (List.mem_cons_of_mem d he)
      simp only [splitDigits, Prod.mk.injEq] at hrest
      simp only [splitDigits, renderDigits, List.map_cons, List.cons_append, Prod.mk.injEq,
        List.takeWhile_cons, List.dropWhile_cons, Nat.isDigit_digitChar, hd, decide_true, if_true]
      exact ⟨congrArg₂ _ (Nat.toNat_digitChar_sub_48_of_lt_ten hd) hrest.1, hrest.2⟩

lemma readDigits?_append {ds : List ℕ} (hne : ds ≠ []) (h : ∀ d ∈ ds, d < 10) {t : Text}
    (ht : StopsDigits t) : readDigits? (renderDigits ds ++ t) = some (ds, t) := by
  rw [readDigits?, splitDigits_append h ht]
  cases ds with
  | nil => exact absurd rfl hne
  | cons d ds => rfl

lemma readWhole?_append {ds : List ℕ} (h : ds = [0] ∨ ds ≠ [] ∧ ds.head? ≠ some 0)
    (hlt : ∀ d ∈ ds, d < 10) {t : Text} (ht : StopsDigits t) :
    readWhole? (renderDigits ds ++ t) = some (ds, t) := by
  obtain rfl | ⟨hne, hhead⟩ := h
  · rfl
  · rw [← readDigits?_append hne hlt ht]
    cases ds with
    | nil => exact absurd rfl hne
    | cons d ds =>
        have hd : d ≠ 0 := fun hzero => hhead (by rw [List.head?_cons, hzero])
        rw [renderDigits, List.map_cons, List.cons_append, readWhole?]
        intro rest heq
        exact hd (Nat.digitChar_eq_zero.mp (List.cons.inj heq).1)

lemma readFraction?_append {ds : List ℕ} (hlt : ∀ d ∈ ds, d < 10) {t : Text}
    (ht : StopsDigits t) (hpoint : t.head? ≠ some '.') :
    readFraction? ((if ds.isEmpty then [] else '.' :: renderDigits ds) ++ t) = some (ds, t) := by
  cases ds with
  | nil =>
      rw [List.isEmpty_nil, if_pos rfl, List.nil_append, readFraction?]
      rintro rest rfl
      exact hpoint rfl
  | cons d ds =>
      rw [List.isEmpty_cons, if_neg Bool.false_ne_true, List.cons_append, readFraction?]
      exact readDigits?_append (List.cons_ne_nil d ds) hlt ht

lemma stopsDigits_fraction (ds : List ℕ) {t : Text} (ht : StopsDigits t) :
    StopsDigits ((if ds.isEmpty then [] else '.' :: renderDigits ds) ++ t) := by
  cases ds with
  | nil => exact ht
  | cons d ds => exact stopsDigits_cons rfl

/-! ### Spellings

One numeral can be written in several ways: the mark of its exponent may be a capital letter, the
exponent may have a plus, and its digits may start with zeros. -/

/-- A way to write the sign of an exponent, which may be missing if it is not negative. -/
inductive SpellsSign : Bool → Text → Prop
  | missing : SpellsSign false []
  | plus : SpellsSign false ['+']
  | minus : SpellsSign true ['-']

/-- A way to write an exponent with its mark, which may be missing altogether. -/
inductive SpellsExponent : Option ℤ → Text → Prop
  | missing : SpellsExponent none []
  | marked {mark : Char} {negative : Bool} {sign : Text} {digits : List ℕ}
      (hmark : mark = 'e' ∨ mark = 'E') (hsign : SpellsSign negative sign) (hne : digits ≠ [])
      (hlt : ∀ d ∈ digits, d < 10) :
      SpellsExponent (some (if negative then -(ofDigits digits : ℤ) else ofDigits digits))
        (mark :: (sign ++ renderDigits digits))

/-- The text is a way to write the numeral. -/
def Spells (n : Numeral) (t : Text) : Prop :=
  n.IsCanonical ∧ ∃ exponent, SpellsExponent n.exponent exponent ∧
    t = (if n.negative then ['-'] else []) ++ (renderDigits n.whole ++
      ((if n.fraction.isEmpty then [] else '.' :: renderDigits n.fraction) ++ exponent))

lemma head?_renderDigits_append {ds : List ℕ} (hne : ds ≠ []) (hlt : ∀ d ∈ ds, d < 10) (t : Text) :
    ∃ c rest, renderDigits ds ++ t = c :: rest ∧ c.isDigit = true := by
  cases ds with
  | nil => exact absurd rfl hne
  | cons d ds =>
      refine ⟨d.digitChar, renderDigits ds ++ t, rfl, ?_⟩
      rw [Nat.isDigit_digitChar]
      exact decide_eq_true (hlt d List.mem_cons_self)

/-- The sign of an exponent is read up to its digits. -/
lemma SpellsSign.readSign_append {negative : Bool} {sign : Text} (h : SpellsSign negative sign)
    {ds : List ℕ} (hne : ds ≠ []) (hlt : ∀ d ∈ ds, d < 10) (t : Text) :
    readSign (sign ++ (renderDigits ds ++ t)) = (negative, renderDigits ds ++ t) := by
  cases h with
  | plus => rfl
  | minus => rfl
  | missing =>
      obtain ⟨c, rest, htext, hdigit⟩ := head?_renderDigits_append hne hlt t
      rw [List.nil_append, htext, readSign]
      · rintro tail heq
        rw [(List.cons.inj heq).1] at hdigit
        cases hdigit
      · rintro tail heq
        rw [(List.cons.inj heq).1] at hdigit
        cases hdigit

lemma SpellsExponent.readExponent?_append {e : Option ℤ} {exponent : Text}
    (h : SpellsExponent e exponent) {t : Text} (ht : StopsNumeral t) :
    readExponent? (exponent ++ t) = some (e, t) := by
  cases h with
  | missing =>
      rw [List.nil_append]
      cases t with
      | nil => rfl
      | cons c t =>
          obtain ⟨-, -, hlower, hupper⟩ := ht c rfl
          rw [readExponent?, if_neg (by tauto)]
  | marked hmark hsign hne hlt =>
      rw [List.cons_append, readExponent?, if_pos hmark, List.append_assoc,
        hsign.readSign_append hne hlt]
      dsimp only
      rw [readDigits?_append hne hlt ht.stopsDigits]
      rfl

lemma SpellsExponent.stopsDigits {e : Option ℤ} {exponent : Text} (h : SpellsExponent e exponent)
    {t : Text} (ht : StopsNumeral t) :
    StopsDigits (exponent ++ t) ∧ (exponent ++ t).head? ≠ some '.' := by
  cases h with
  | missing => exact ⟨ht.stopsDigits, fun hpoint => (ht '.' hpoint).2.1 rfl⟩
  | marked hmark =>
      obtain rfl | rfl := hmark
      · exact ⟨stopsDigits_cons rfl, by simp⟩
      · exact ⟨stopsDigits_cons rfl, by simp⟩

/-- A numeral that is written starts with a minus or a digit. -/
lemma Spells.exists_eq_cons {n : Numeral} {t : Text} (h : n.Spells t) :
    ∃ c rest, t = c :: rest ∧ (c = '-' ∨ c.isDigit = true) ∧ (c = '-' ↔ n.negative = true) := by
  obtain ⟨hcanonical, exponent, -, rfl⟩ := h
  have hne : n.whole ≠ [] := by
    obtain hzero | ⟨hne, -⟩ := hcanonical.whole
    · rw [hzero]
      exact List.cons_ne_nil 0 []
    · exact hne
  cases n.negative with
  | true => exact ⟨'-', _, rfl, Or.inl rfl, by simp⟩
  | false =>
      obtain ⟨c, rest, htext, hdigit⟩ := head?_renderDigits_append hne hcanonical.whole_lt _
      refine ⟨c, rest, htext, Or.inr hdigit, iff_of_false ?_ Bool.false_ne_true⟩
      rintro rfl
      cases hdigit

/-- However a numeral is written, its sign, its digits and its exponent are read. -/
theorem Spells.read?_append {n : Numeral} {t : Text} (h : n.Spells t) {rest : Text}
    (hrest : StopsNumeral rest) : read? (t ++ rest) = some (n, rest) := by
  obtain ⟨c, tail, hfront, -, hminus⟩ := h.exists_eq_cons
  obtain ⟨hcanonical, exponent, hexponent, htext⟩ := h
  have hunsigned (negative : Bool) :
      readUnsigned? negative (renderDigits n.whole ++
        ((if n.fraction.isEmpty then [] else '.' :: renderDigits n.fraction) ++
          (exponent ++ rest))) =
        some (⟨negative, n.whole, n.fraction, n.exponent⟩, rest) := by
    obtain ⟨hstops, hpoint⟩ := hexponent.stopsDigits hrest
    rw [readUnsigned?,
      readWhole?_append hcanonical.whole hcanonical.whole_lt (stopsDigits_fraction _ hstops)]
    simp only [Option.bind_eq_bind, Option.bind_some]
    rw [readFraction?_append hcanonical.fraction_lt hstops hpoint]
    simp only [Option.bind_some]
    rw [hexponent.readExponent?_append hrest]
    rfl
  obtain ⟨negative, whole, fraction, e⟩ := n
  cases negative with
  | true =>
      rw [htext, if_pos rfl]
      simp only [List.append_assoc, List.cons_append, List.nil_append]
      exact hunsigned true
  | false =>
      have hread : read? (c :: (tail ++ rest)) = readUnsigned? false (c :: (tail ++ rest)) := by
        rw [read?]
        rintro tail heq
        exact Bool.false_ne_true (hminus.mp (List.cons.inj heq).1)
      rw [hfront, List.cons_append, hread, ← List.cons_append, ← hfront, htext,
        if_neg Bool.false_ne_true]
      simp only [List.append_assoc, List.nil_append]
      exact hunsigned false

/-! ### Rendering -/

lemma spellsSign_render (plus : Bool) (e : ℤ) :
    SpellsSign (decide (e < 0)) (if e < 0 then ['-'] else if plus then ['+'] else []) := by
  by_cases hneg : e < 0
  · rw [decide_eq_true hneg, if_pos hneg]
    exact .minus
  · rw [decide_eq_false hneg, if_neg hneg]
    split
    · exact .plus
    · exact .missing

lemma spellsExponent_render (plus : Bool) (e : ℤ) :
    SpellsExponent (some e) (renderExponent plus e) := by
  have hvalue : (if decide (e < 0) then -(ofDigits (digitsOf e.natAbs) : ℤ)
      else ofDigits (digitsOf e.natAbs)) = e := by
    rw [ofDigits_digitsOf]
    by_cases hneg : e < 0
    · rw [if_pos (decide_eq_true hneg)]
      omega
    · rw [decide_eq_false hneg, if_neg Bool.false_ne_true]
      omega
  have hspells := SpellsExponent.marked (Or.inl rfl) (spellsSign_render plus e)
    (digitsOf_ne_nil e.natAbs) (lt_ten_of_mem_digitsOf e.natAbs)
  rw [hvalue] at hspells
  exact hspells

/-- The text of a canonical numeral is a way to write it. -/
theorem spells_render {n : Numeral} (h : n.IsCanonical) (plus : Bool) :
    n.Spells (n.render plus) := by
  obtain ⟨negative, whole, fraction, e⟩ := n
  cases e with
  | none =>
      refine ⟨h, [], .missing, ?_⟩
      simp only [render, List.append_assoc]
  | some e =>
      refine ⟨h, _, spellsExponent_render plus e, ?_⟩
      simp only [render, List.append_assoc]

end Numeral

end Scratchpad
