/-
How far the number that is read for a numeral is from the number it is written for.

* `Numeral.exists_powerOfTen?`: a power of ten in double precision; the first 22 are exact.
* `Numeral.exists_double?_eq`: the number that is rounded in the end, a product or a quotient of the
  digits and a power of ten.
* `Numeral.exists_double?`: the error of the number read, relative to the number of the numeral, is
  at most `5 / 2 ^ 54`, and what can be represented is read without error if the power of ten is
  exact.
-/
import Mathlib.Tactic
import Scratchpad.Proofs.Numeric.Numeral
import Scratchpad.Proofs.Numeric.Shortest

namespace Scratchpad

namespace Numeral

lemma num_pos_of_toRat_pos {x : Magnitude} (h : 0 < x.toRat) : 0 < x.num := by
  rw [← x.num_div_den] at h
  by_contra hzero
  rw [Nat.eq_zero_of_not_pos hzero, Nat.cast_zero, zero_div] at h
  exact lt_irrefl _ h

/-- A power of ten in double precision. The first 22 have a mantissa of 53 binary digits. -/
lemma exists_powerOfTen? {k : ℕ} (hk : k ≤ 60) :
    ∃ t, powerOfTen? k = some t ∧ 0 < t.num ∧ |t.toRat - 10 ^ k| ≤ 2 ^ (-53 : ℤ) * 10 ^ k ∧
      (k ≤ 22 → t.toRat = 10 ^ k) := by
  have hquot : ((Nat.pow 10 k : ℕ) : ℚ) / (1 : ℕ) = 10 ^ k := by
    rw [Nat.pow_eq]
    push_cast
    exact div_one _
  have hle : (10 : ℚ) ^ k ≤ 10 ^ 60 := pow_le_pow_right₀ (by norm_num) hk
  obtain ⟨t, ht, herror, hexact⟩ := BinaryFormat.exists_round_double
    (a := Nat.pow 10 k) (b := 1) (Nat.pow_pos (by decide)) one_pos
    (by rw [hquot]; exact le_trans (by norm_num) (one_le_pow₀ (by norm_num)))
    (by rw [hquot]; exact lt_of_le_of_lt hle (by norm_num))
  rw [hquot] at herror hexact
  refine ⟨t, ht, ?_, herror, fun hsmall => hexact (5 ^ k) k ?_ ?_⟩
  · have hten : (0 : ℚ) < 10 ^ k := by positivity
    have hnear := (abs_le.mp herror).1
    norm_num at hnear
    exact num_pos_of_toRat_pos (by linarith)
  · exact lt_of_le_of_lt (Nat.pow_le_pow_right (by decide) hsmall) (by decide)
  · rw [zpow_natCast]
    push_cast
    rw [← mul_pow]
    norm_num

/-- The digits of a numeral in double precision, without error. -/
lemma exists_round_significand {digits : ℕ} (hpos : 0 < digits) (hlt : digits < 2 ^ 53) :
    ∃ x, BinaryFormat.double.round digits 1 = some x ∧ 0 < x.num ∧ x.toRat = digits := by
  have hquot : (digits : ℚ) / (1 : ℕ) = digits := by rw [Nat.cast_one, div_one]
  have hpos' : (1 : ℚ) ≤ digits := by exact_mod_cast hpos
  have hlt' : (digits : ℚ) < 2 ^ 53 := by exact_mod_cast hlt
  obtain ⟨x, hx, -, hexact⟩ := BinaryFormat.exists_round_double (a := digits) (b := 1) hpos one_pos
    (by rw [hquot]; exact le_trans (by norm_num) hpos')
    (by rw [hquot]; exact hlt'.trans (by norm_num))
  rw [hquot] at hexact
  have hvalue : x.toRat = digits := hexact digits 0 hlt (by rw [zpow_zero, mul_one])
  exact ⟨x, hx, num_pos_of_toRat_pos (by linarith), hvalue⟩

lemma scaleUp?_eq {x t : Magnitude} {k : ℕ} (hx : 0 < x.num) (hk : k ≤ maxPower)
    (ht : powerOfTen? k = some t) :
    scaleUp? x k = BinaryFormat.double.round (x.num * t.num) (x.den * t.den) := by
  have hmantissa : x.mantissa ≠ 0 := by
    intro hzero
    rw [Magnitude.num, hzero, Nat.zero_shiftLeft] at hx
    exact lt_irrefl _ hx
  rw [scaleUp?, if_neg hmantissa, if_pos hk, ht]
  rfl

/-- One division suffices for a power of ten of double precision. -/
lemma scaleDown?_eq {x t : Magnitude} {k : ℕ} (steps : ℕ) (hk : k ≤ maxPower)
    (ht : powerOfTen? k = some t) :
    scaleDown? (steps + 1) x k = BinaryFormat.double.round (x.num * t.den) (x.den * t.num) := by
  rw [scaleDown?, min_eq_left hk, ht]
  simp only [Option.bind_eq_bind, Option.bind_some, if_pos hk]
  exact Option.bind_fun_some _

/-- The inverse of a number with a small relative error has hardly a greater one. -/
lemma abs_inv_sub_inv_le {t u : ℚ} (hu : 0 < u) (h : |t - u| ≤ 2 ^ (-53 : ℤ) * u) :
    |t⁻¹ - u⁻¹| ≤ 5 / 2 ^ 55 * u⁻¹ := by
  have hle : 4 * u ≤ 5 * t := by
    have hlow := (abs_le.mp h).1
    norm_num at hlow
    linarith
  have ht : 0 < t := by linarith
  have hsplit : t⁻¹ - u⁻¹ = (u - t) * (t⁻¹ * u⁻¹) := by
    field_simp
  have hinv : 0 < t⁻¹ * u⁻¹ := mul_pos (inv_pos.mpr ht) (inv_pos.mpr hu)
  rw [hsplit, abs_mul, abs_of_pos hinv, abs_sub_comm]
  calc |t - u| * (t⁻¹ * u⁻¹) ≤ 2 ^ (-53 : ℤ) * u * (t⁻¹ * u⁻¹) := by gcongr
    _ ≤ 2 ^ (-53 : ℤ) * (5 / 4 * t) * (t⁻¹ * u⁻¹) := by
        gcongr
        linarith
    _ = 5 / 2 ^ 55 * u⁻¹ := by
        field_simp
        norm_num

/-- In the end the product of the digits and a scale is rounded; the scale is the power of ten or
the inverse of one, with the error of a power of ten. -/
lemma exists_double?_eq {n : Numeral} (hpos : 0 < n.significand) (hlt : n.significand < 2 ^ 53)
    (hlow : -60 ≤ n.power) (hhigh : n.power ≤ 60) :
    ∃ (a b : ℕ) (scale : ℚ), 0 < a ∧ 0 < b ∧ n.double? = BinaryFormat.double.round a b ∧
      (a : ℚ) / b = n.significand * scale ∧
      |scale - 10 ^ n.power| ≤ 5 / 2 ^ 55 * 10 ^ n.power ∧
      (n.power.natAbs ≤ 22 → scale = 10 ^ n.power) := by
  obtain ⟨x, hx, hxnum, hvalue⟩ := exists_round_significand hpos hlt
  obtain ⟨t, ht, htnum, herror, hexact⟩ := exists_powerOfTen? (k := n.power.natAbs) (by omega)
  have hleading := leading_eq (hlt.trans (by decide : 2 ^ 53 < UInt64.size))
  have hmax : n.power.natAbs ≤ maxPower := by
    rw [maxPower]
    omega
  by_cases hsign : 0 ≤ n.power
  · have habs : n.power.toNat = n.power.natAbs := by omega
    have hpower : (10 : ℚ) ^ n.power = 10 ^ n.power.natAbs := by
      rw [← zpow_natCast, Int.natCast_natAbs, abs_of_nonneg hsign]
    rw [hpower]
    refine ⟨x.num * t.num, x.den * t.den, t.toRat, Nat.mul_pos hxnum htnum,
      Nat.mul_pos x.den_pos t.den_pos, ?_, ?_, herror.trans ?_, hexact⟩
    · rw [double?, hleading, ← scaleUp?_eq hxnum hmax ht, ← habs]
      simp only [hx, Option.bind_eq_bind, Option.bind_some, if_pos hsign]
    · push_cast
      rw [mul_div_mul_comm, x.num_div_den, t.num_div_den, hvalue]
    · gcongr
      norm_num
  · have habs : (-n.power).toNat = n.power.natAbs := by omega
    have hpower : (10 : ℚ) ^ n.power = (10 ^ n.power.natAbs)⁻¹ := by
      rw [← zpow_natCast, Int.natCast_natAbs, abs_of_neg (not_le.mp hsign), zpow_neg, inv_inv]
    rw [hpower]
    refine ⟨x.num * t.den, x.den * t.num, t.toRat⁻¹, Nat.mul_pos hxnum t.den_pos,
      Nat.mul_pos x.den_pos htnum, ?_, ?_, abs_inv_sub_inv_le (by positivity) herror, ?_⟩
    · rw [double?, hleading, ← scaleDown?_eq 2 hmax ht, ← habs]
      simp only [hx, Option.bind_eq_bind, Option.bind_some, if_neg hsign]
    · push_cast
      rw [mul_div_mul_comm, x.num_div_den, ← inv_div, t.num_div_den, hvalue]
    · intro hsmall
      rw [hexact hsmall]

/-- The number that is read is off by at most `5 / 2 ^ 54` of the number of the numeral, and not at
all if that can be represented and the power of ten is exact. -/
theorem exists_double? {n : Numeral} (hpos : 0 < n.significand) (hlt : n.significand < 2 ^ 53)
    (hlow : -60 ≤ n.power) (hhigh : n.power ≤ 60) :
    ∃ v, n.double? = some v ∧ |v.toRat - n.toRat| ≤ 5 / 2 ^ 54 * n.toRat ∧
      (n.power.natAbs ≤ 22 →
        ∀ (k : ℕ) (j : ℤ), k < 2 ^ 53 → n.toRat = k * 2 ^ j → v.toRat = n.toRat) := by
  obtain ⟨a, b, scale, ha, hb, hround, hquot, hscale, hexact⟩ :=
    exists_double?_eq hpos hlt hlow hhigh
  have hten := ten_zpow_pos n.power
  have hdigits : (1 : ℚ) ≤ n.significand := by exact_mod_cast hpos
  have hdigits' : (n.significand : ℚ) < 2 ^ 53 := by exact_mod_cast hlt
  obtain ⟨hscaleLow, hscaleHigh⟩ : 10 ^ n.power ≤ 2 * scale ∧ scale ≤ 2 * 10 ^ n.power := by
    obtain ⟨hscaleLow, hscaleHigh⟩ := abs_le.mp hscale
    norm_num at hscaleLow hscaleHigh
    constructor <;> linarith
  have hnonneg : 0 ≤ scale := by linarith
  have hleast : (2 : ℚ) ^ (-255 : ℤ) ≤ a / b := by
    rw [hquot]
    calc (2 : ℚ) ^ (-255 : ℤ) ≤ 1 * (10 ^ (-60 : ℤ) / 2) := by norm_num
      _ ≤ 1 * (10 ^ n.power / 2) := by
          gcongr
          norm_num
      _ ≤ n.significand * scale := by
          gcongr
          linarith
  have hgreatest : (a : ℚ) / b < 2 ^ (255 : ℤ) := by
    rw [hquot]
    calc (n.significand : ℚ) * scale ≤ 2 ^ 53 * (2 * 10 ^ n.power) := by gcongr
      _ ≤ 2 ^ 53 * (2 * 10 ^ (60 : ℤ)) := by
          gcongr
          norm_num
      _ < 2 ^ (255 : ℤ) := by norm_num
  obtain ⟨v, hv, herror, hrepresented⟩ :=
    BinaryFormat.exists_round_double ha hb hleast hgreatest
  rw [hquot] at herror hrepresented
  refine ⟨v, hround.trans hv, ?_, fun hsmall k j hk h => ?_⟩
  · -- two roundings: one of the scale, one of the product
    have hproduct : |n.significand * scale - n.toRat| ≤ 5 / 2 ^ 55 * n.toRat := by
      rw [toRat, ← mul_sub, abs_mul, abs_of_pos (by linarith)]
      calc (n.significand : ℚ) * |scale - 10 ^ n.power|
          ≤ n.significand * (5 / 2 ^ 55 * 10 ^ n.power) := by gcongr
        _ = 5 / 2 ^ 55 * (n.significand * 10 ^ n.power) := by ring
    have hnonneg : 0 ≤ n.toRat := by
      rw [toRat]
      positivity
    obtain ⟨hproductLow, hproductHigh⟩ := abs_le.mp hproduct
    obtain ⟨herrorLow, herrorHigh⟩ := abs_le.mp herror
    rw [abs_le]
    norm_num at hproductLow hproductHigh herrorLow herrorHigh ⊢
    constructor <;> linarith
  · have heq : n.significand * scale = n.toRat := by rw [hexact hsmall, toRat]
    rw [heq] at hrepresented
    exact hrepresented k j hk h

end Numeral

end Scratchpad
