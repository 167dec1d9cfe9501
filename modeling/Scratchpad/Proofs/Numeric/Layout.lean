/-
The numerals of decimals.

* `Layout.significand_plainNumeral_of_nonneg`, `Layout.significand_plainNumeral_of_neg`,
  `Layout.significand_numeral_of_not_isPlain`: the digits that are written, and the power of ten of
  the last one.
* `Layout.toRat_numeral`: however a decimal is laid out, its numeral is written for the same number.
* `Layout.isCanonical_numeral`: the numeral is read as it is written.
-/
import Mathlib.Tactic
import Scratchpad.Numeric.Layout
import Scratchpad.Proofs.Numeric.Numeral
import Scratchpad.Proofs.Numeric.Shortest

namespace Scratchpad

namespace Layout

variable {layout : Layout} {negative : Bool} {d : Decimal}

/-! ### The number of a numeral -/

/-- A decimal without digits behind the point. -/
lemma significand_plainNumeral_of_nonneg (layout : Layout) (negative : Bool)
    (h : 0 ≤ d.exponent) :
    (layout.plainNumeral negative d).significand =
        d.digits * 10 ^ (d.exponent.toNat + (layout.plainNumeral negative d).fraction.length) ∧
      (layout.plainNumeral negative d).power =
        -((layout.plainNumeral negative d).fraction.length : ℤ) := by
  have hfraction : Numeral.ofDigits (if layout.pointZero then [0] else []) = 0 := by
    cases layout.pointZero <;> rfl
  rw [plainNumeral]
  rw [if_pos h]
  constructor
  · rw [Numeral.significand, Numeral.ofDigits_append, Numeral.ofDigits_append, hfraction]
    simp only [Numeral.ofDigits_digitsOf, Numeral.ofDigits_replicate_zero, List.length_replicate]
    ring
  · simp [Numeral.power]

/-- A decimal with digits behind the point, all of which are written. -/
lemma significand_plainNumeral_of_neg (layout : Layout) (negative : Bool)
    (h : d.exponent < 0) :
    (layout.plainNumeral negative d).significand = d.digits ∧
      (layout.plainNumeral negative d).power = d.exponent := by
  rw [plainNumeral]
  rw [if_neg (not_le.mpr h)]
  split_ifs with hpoint
  · constructor
    · simp [Numeral.significand]
    · simp only [Numeral.power, Option.getD_none, List.length_drop]
      omega
  · constructor
    · rw [Numeral.significand, ← List.append_assoc, Numeral.ofDigits_append,
        Numeral.ofDigits_append, Numeral.ofDigits_singleton, Numeral.ofDigits_replicate_zero,
        Numeral.ofDigits_digitsOf, Nat.zero_mul, Nat.zero_mul, Nat.zero_add]
    · simp only [Numeral.power, Option.getD_none, List.length_append, List.length_replicate]
      omega

/-- The numeral with an exponent has the digits of the decimal. -/
lemma significand_numeral_of_not_isPlain (negative : Bool)
    (h : layout.isPlain (d.exponent + (Numeral.digitsOf d.digits).length - 1) = false) :
    (layout.numeral negative d).significand = d.digits ∧
      (layout.numeral negative d).power = d.exponent := by
  have hlength := List.length_pos_iff.mpr (Numeral.digitsOf_ne_nil d.digits)
  rw [numeral, h, if_neg Bool.false_ne_true]
  constructor
  · rw [Numeral.significand, List.take_append_drop, Numeral.ofDigits_digitsOf]
  · simp only [Numeral.power, Option.getD_some, List.length_drop]
    omega

lemma toRat_plainNumeral : (layout.plainNumeral negative d).toRat = d.toRat := by
  rw [Numeral.toRat, Decimal.toRat]
  by_cases h : 0 ≤ d.exponent
  · obtain ⟨hdigits, hpower⟩ :=
      significand_plainNumeral_of_nonneg layout negative h
    obtain ⟨k, hk⟩ := Int.eq_ofNat_of_zero_le h
    rw [hdigits, hpower, hk, Int.toNat_natCast, zpow_neg, zpow_natCast, zpow_natCast, pow_add]
    push_cast
    field_simp
  · obtain ⟨hdigits, hpower⟩ :=
      significand_plainNumeral_of_neg layout negative (not_le.mp h)
    rw [hdigits, hpower]

/-- However a decimal is laid out, its numeral is written for the same number. -/
theorem toRat_numeral : (layout.numeral negative d).toRat = d.toRat := by
  cases hplain : layout.isPlain (d.exponent + (Numeral.digitsOf d.digits).length - 1) with
  | true =>
      rw [numeral, if_pos hplain, toRat_plainNumeral]
  | false =>
      obtain ⟨hdigits, hpower⟩ := significand_numeral_of_not_isPlain negative hplain
      rw [Numeral.toRat, hdigits, hpower, Decimal.toRat]

lemma negative_plainNumeral : (layout.plainNumeral negative d).negative = negative := by
  rw [plainNumeral]
  split_ifs <;> rfl

lemma negative_numeral : (layout.numeral negative d).negative = negative := by
  rw [numeral]
  split_ifs
  · exact negative_plainNumeral
  · rfl

/-! ### Canonical numerals -/

lemma lt_ten_of_mem_replicate {k : ℕ} : ∀ e ∈ List.replicate k 0, e < 10 := by
  intro e he
  rw [List.eq_of_mem_replicate he]
  decide

/-- The digits of a positive number, cut off behind some of them, start with no zero. -/
lemma head?_take_digitsOf {n k : ℕ} (hn : 0 < n) (hk : 0 < k) :
    (Numeral.digitsOf n).take k ≠ [] ∧ ((Numeral.digitsOf n).take k).head? ≠ some 0 := by
  have hne := Numeral.digitsOf_ne_nil n
  rw [List.head?_take, if_neg hk.ne']
  exact ⟨by simp [hne, hk.ne'], Numeral.head?_digitsOf hn⟩

lemma isCanonical_plainNumeral (h : 0 < d.digits ∨ d.exponent = 0) :
    (layout.plainNumeral negative d).IsCanonical := by
  have hlt := Numeral.lt_ten_of_mem_digitsOf d.digits
  rw [plainNumeral]
  by_cases hwhole : 0 ≤ d.exponent
  · rw [if_pos hwhole]
    refine ⟨?_, List.forall_mem_append.mpr ⟨hlt, lt_ten_of_mem_replicate⟩, ?_⟩
    · obtain hdigits | hdigits := Nat.eq_zero_or_pos d.digits
      · have hexponent := h.resolve_left hdigits.not_gt
        exact Or.inl (by rw [hdigits, hexponent]; rfl)
      · refine Or.inr ⟨by simp [Numeral.digitsOf_ne_nil], ?_⟩
        rw [List.head?_append_of_ne_nil _ (Numeral.digitsOf_ne_nil _)]
        exact Numeral.head?_digitsOf hdigits
    · cases layout.pointZero <;> simp
  · have hdigits := h.resolve_right fun hzero => hwhole hzero.ge
    rw [if_neg hwhole]
    split_ifs with hpoint
    · refine ⟨Or.inr (head?_take_digitsOf hdigits (by omega)), ?_, ?_⟩
      · exact fun e he => hlt e (List.mem_of_mem_take he)
      · exact fun e he => hlt e (List.mem_of_mem_drop he)
    · refine ⟨Or.inl rfl, by simp, ?_⟩
      exact List.forall_mem_append.mpr ⟨lt_ten_of_mem_replicate, hlt⟩

/-- The numeral of a decimal is read as it is written. -/
theorem isCanonical_numeral (h : 0 < d.digits) : (layout.numeral negative d).IsCanonical := by
  have hlt := Numeral.lt_ten_of_mem_digitsOf d.digits
  rw [numeral]
  split_ifs
  · exact isCanonical_plainNumeral (Or.inl h)
  · refine ⟨Or.inr (head?_take_digitsOf h one_pos), ?_, ?_⟩
    · exact fun e he => hlt e (List.mem_of_mem_take he)
    · exact fun e he => hlt e (List.mem_of_mem_drop he)

end Layout

end Scratchpad
