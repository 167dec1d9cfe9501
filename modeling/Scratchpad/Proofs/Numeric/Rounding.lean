/-
Rounding to a binary format, as a statement about rational numbers.

* `Magnitude.toRat`: the number that a magnitude stands for.
* `divNearest_eq`, `abs_divNearest_sub_le`: the nearest integer, and how far it is away.
* `zpow_floorLog_bounds`: the power of two below a quotient.
* `BinaryFormat.exponentOf`, `BinaryFormat.exists_round_eq`: the exponent that a quotient is
  rounded with, and the result.
* `BinaryFormat.exists_round_double`: in the middle of the range of double precision the error is
  at most `2 ^ (-53)` of the quotient, and what can be represented is not changed.
* `BinaryFormat.round_single_eq`, `BinaryFormat.round_single_eq_of_carry`: in single precision,
  everything between the two neighbouring midpoints is rounded to the number between them.
-/
import Mathlib.Tactic
import Scratchpad.Numeric.Rounding

namespace Scratchpad

/-! ### Powers -/

/-- A power with an integer exponent as a quotient of powers, one of which is one. -/
lemma zpow_eq_div (b : ℚ) (e : ℤ) : b ^ e = b ^ e.toNat / b ^ (-e).toNat := by
  rcases le_total 0 e with he | he
  · obtain ⟨n, rfl⟩ := Int.eq_ofNat_of_zero_le he
    simp
  · obtain ⟨n, rfl⟩ := Int.exists_eq_neg_ofNat he
    simp

lemma two_zpow_pos (e : ℤ) : (0 : ℚ) < 2 ^ e := zpow_pos (by norm_num) e

/-- The number that a magnitude stands for. -/
def Magnitude.toRat (x : Magnitude) : ℚ := x.mantissa * 2 ^ x.exponent

lemma Magnitude.num_div_den (x : Magnitude) : (x.num : ℚ) / x.den = x.toRat := by
  rw [num, den, toRat, zpow_eq_div, Nat.shiftLeft_eq, Nat.shiftLeft_eq]
  push_cast
  ring

lemma Magnitude.den_pos (x : Magnitude) : 0 < x.den := by
  rw [den, Nat.shiftLeft_eq]
  positivity

/-- Bringing an exponent into a quotient of natural numbers. -/
lemma shift_div_shift (a b : ℕ) (e : ℤ) :
    ((a <<< (-e).toNat : ℕ) : ℚ) / (b <<< e.toNat : ℕ) = a / b / 2 ^ e := by
  rw [zpow_eq_div, Nat.shiftLeft_eq, Nat.shiftLeft_eq]
  push_cast
  field_simp

/-! ### The nearest integer -/

/-- The integer that a quotient is at most a half away from, in natural numbers. -/
lemma divNearest_eq_of_le {a b k : ℕ} (hlow : 2 * (b * k) ≤ 2 * a + b)
    (hhigh : 2 * a ≤ 2 * (b * k) + b)
    (htie : k % 2 = 0 ∨ 2 * (b * k) < 2 * a + b ∧ 2 * a < 2 * (b * k) + b) (hb : 0 < b) :
    divNearest a b = k := by
  have hdiv := Nat.div_add_mod a b
  have hmod := Nat.mod_lt a hb
  rw [divNearest]
  generalize a / b = quotient at hdiv ⊢
  generalize a % b = rest at hdiv hmod ⊢
  have hcases : k = quotient ∨ k = quotient + 1 := by
    have hle : quotient < k + 1 := by
      by_contra hgt
      have hmul := Nat.mul_le_mul_left b (Nat.le_of_not_lt hgt)
      rw [Nat.mul_succ] at hmul
      omega
    have hge : k < quotient + 2 := by
      by_contra hgt
      have hmul := Nat.mul_le_mul_left b (Nat.le_of_not_lt hgt)
      rw [Nat.mul_add] at hmul
      omega
    omega
  obtain rfl | rfl := hcases
  · split_ifs <;> omega
  · rw [Nat.mul_succ] at hlow hhigh htie
    split_ifs <;> omega

/-- The integer from which a quotient is less than a half away, or a half if it is even. -/
lemma divNearest_eq {a b k : ℕ} (hb : 0 < b) (hlow : (k : ℚ) - 1 / 2 ≤ a / b)
    (hhigh : (a : ℚ) / b ≤ k + 1 / 2)
    (htie : k % 2 = 0 ∨ (k : ℚ) - 1 / 2 < a / b ∧ (a : ℚ) / b < k + 1 / 2) :
    divNearest a b = k := by
  have hb' : (0 : ℚ) < b := by exact_mod_cast hb
  rw [le_div_iff₀ hb'] at hlow
  rw [div_le_iff₀ hb'] at hhigh
  rw [lt_div_iff₀ hb', div_lt_iff₀ hb'] at htie
  refine divNearest_eq_of_le ?_ ?_ ?_ hb
  · qify
    linarith
  · qify
    linarith
  · refine htie.imp_right fun ⟨h₁, h₂⟩ => ⟨?_, ?_⟩
    · qify
      linarith
    · qify
      linarith

lemma abs_divNearest_sub_le {a b : ℕ} (hb : 0 < b) : |(divNearest a b : ℚ) - a / b| ≤ 1 / 2 := by
  have hb' : (0 : ℚ) < b := by exact_mod_cast hb
  have hdiv := Nat.div_add_mod a b
  have hmod := Nat.mod_lt a hb
  have hnear : 2 * (b * divNearest a b) ≤ 2 * a + b ∧ 2 * a ≤ 2 * (b * divNearest a b) + b := by
    rw [divNearest]
    generalize a / b = quotient at hdiv ⊢
    generalize a % b = rest at hdiv hmod ⊢
    have hparity : quotient % 2 = 0 ∨ quotient % 2 = 1 := Nat.mod_two_eq_zero_or_one _
    split_ifs
    · omega
    · rw [Nat.mul_succ]
      omega
    · obtain h | h := hparity
      · rw [h, Nat.add_zero]
        omega
      · rw [h, Nat.mul_succ]
        omega
  obtain ⟨hlow, hhigh⟩ := hnear
  qify at hlow hhigh
  have hquot : (a : ℚ) / b * b = a := div_mul_cancel₀ _ hb'.ne'
  rw [abs_le]
  constructor
  · nlinarith
  · nlinarith

/-- A quotient that is an integer is not changed by rounding. -/
lemma divNearest_eq_of_eq {a b k : ℕ} (hb : 0 < b) (h : (a : ℚ) / b = k) : divNearest a b = k := by
  refine divNearest_eq hb ?_ ?_ (Or.inr ⟨?_, ?_⟩) <;> rw [h] <;> linarith

/-! ### The power of two below a quotient -/

lemma zpow_log2_le {n : ℕ} (hn : 0 < n) : (2 : ℚ) ^ (n.log2 : ℤ) ≤ n := by
  rw [zpow_natCast]
  exact_mod_cast Nat.log2_self_le hn.ne'

lemma lt_zpow_log2 (n : ℕ) : (n : ℚ) < 2 ^ ((n.log2 : ℤ) + 1) := by
  have h : (n : ℚ) < 2 ^ (n.log2 + 1) := by exact_mod_cast Nat.lt_log2_self
  exact_mod_cast h

lemma zpow_floorLog_bounds {a b : ℕ} (ha : 0 < a) (hb : 0 < b) :
    (2 : ℚ) ^ BinaryFormat.floorLog a b ≤ a / b ∧
      (a : ℚ) / b < 2 ^ (BinaryFormat.floorLog a b + 1) := by
  have ha' : (0 : ℚ) < a := by exact_mod_cast ha
  have hb' : (0 : ℚ) < b := by exact_mod_cast hb
  have hlow : (2 : ℚ) ^ ((a.log2 : ℤ) - (b.log2 : ℤ) - 1) ≤ a / b := by
    rw [le_div_iff₀ hb']
    calc (2 : ℚ) ^ ((a.log2 : ℤ) - (b.log2 : ℤ) - 1) * b
        ≤ 2 ^ ((a.log2 : ℤ) - (b.log2 : ℤ) - 1) * 2 ^ ((b.log2 : ℤ) + 1) := by
          gcongr
          exact (lt_zpow_log2 b).le
      _ = 2 ^ (a.log2 : ℤ) := by
          rw [← zpow_add₀ two_ne_zero]
          congr 1
          ring
      _ ≤ a := zpow_log2_le ha
  have hhigh : (a : ℚ) / b < 2 ^ ((a.log2 : ℤ) - (b.log2 : ℤ) + 1) := by
    rw [div_lt_iff₀ hb']
    calc (a : ℚ) < 2 ^ ((a.log2 : ℤ) + 1) := lt_zpow_log2 a
      _ = 2 ^ ((a.log2 : ℤ) - (b.log2 : ℤ) + 1) * 2 ^ (b.log2 : ℤ) := by
          rw [← zpow_add₀ two_ne_zero]
          congr 1
          ring
      _ ≤ 2 ^ ((a.log2 : ℤ) - (b.log2 : ℤ) + 1) * b := by
          gcongr
          exact zpow_log2_le hb
  have hguess : b <<< ((a.log2 : ℤ) - (b.log2 : ℤ)).toNat ≤
      a <<< (-((a.log2 : ℤ) - (b.log2 : ℤ))).toNat ↔
        (2 : ℚ) ^ ((a.log2 : ℤ) - (b.log2 : ℤ)) ≤ a / b := by
    have hscale := shift_div_shift a b ((a.log2 : ℤ) - (b.log2 : ℤ))
    have hpos : (0 : ℚ) < (b <<< ((a.log2 : ℤ) - (b.log2 : ℤ)).toNat : ℕ) := by
      rw [Nat.shiftLeft_eq]
      exact_mod_cast Nat.mul_pos hb (by positivity)
    rw [← Nat.cast_le (α := ℚ), ← one_le_div hpos, hscale, one_le_div (two_zpow_pos _)]
  rw [BinaryFormat.floorLog]
  split_ifs with h
  · exact ⟨hguess.mp h, hhigh⟩
  · rw [hguess, not_le] at h
    exact ⟨hlow, by rwa [sub_add_cancel]⟩

namespace BinaryFormat

variable {f : BinaryFormat} {a b : ℕ}

lemma floorLog_lt {e : ℤ} (ha : 0 < a) (hb : 0 < b) (h : (a : ℚ) / b < 2 ^ e) : floorLog a b < e :=
  (zpow_lt_zpow_iff_right₀ one_lt_two).mp ((zpow_floorLog_bounds ha hb).1.trans_lt h)

lemma le_floorLog {e : ℤ} (ha : 0 < a) (hb : 0 < b) (h : (2 : ℚ) ^ e ≤ a / b) :
    e ≤ floorLog a b :=
  Int.lt_add_one_iff.mp
    ((zpow_lt_zpow_iff_right₀ one_lt_two).mp (h.trans_lt (zpow_floorLog_bounds ha hb).2))

/-! ### Rounding -/

/-- The exponent that a quotient is rounded with. -/
def exponentOf (f : BinaryFormat) (a b : ℕ) : ℤ :=
  max f.minExponent (floorLog a b - (f.precision - 1))

/-- The mantissa that a quotient is rounded to, before a carry. -/
def mantissaOf (f : BinaryFormat) (a b : ℕ) : ℕ :=
  divNearest (a <<< (-f.exponentOf a b).toNat) (b <<< (f.exponentOf a b).toNat)

lemma shiftLeft_pos (hb : 0 < b) (n : ℕ) : 0 < b <<< n := by
  rw [Nat.shiftLeft_eq]
  positivity

lemma round_eq (ha : 0 < a) :
    f.round a b =
      let rounded : Magnitude :=
        if f.mantissaOf a b = 1 <<< f.precision then
          ⟨1 <<< (f.precision - 1), f.exponentOf a b + 1⟩
        else ⟨f.mantissaOf a b, f.exponentOf a b⟩
      if rounded.exponent ≤ f.maxExponent then some rounded else none := by
  rw [round, if_neg ha.ne']
  rfl

/-- Below the greatest exponent the result is the mantissa times the power of two, carry or not. -/
lemma exists_round_eq (ha : 0 < a) (hf : 0 < f.precision)
    (hmax : f.exponentOf a b + 1 ≤ f.maxExponent) :
    ∃ y, f.round a b = some y ∧ y.toRat = f.mantissaOf a b * 2 ^ f.exponentOf a b := by
  rw [round_eq ha]
  dsimp only
  by_cases hcarry : f.mantissaOf a b = 1 <<< f.precision
  · rw [if_pos hcarry, if_pos hmax]
    refine ⟨_, rfl, ?_⟩
    obtain ⟨p, hp⟩ := Nat.exists_eq_add_one_of_ne_zero hf.ne'
    rw [Magnitude.toRat, hcarry, hp, Nat.add_sub_cancel, Nat.shiftLeft_eq, Nat.shiftLeft_eq,
      zpow_add_one₀ two_ne_zero]
    push_cast
    ring
  · rw [if_neg hcarry, if_pos (Int.le_of_lt (Int.lt_of_add_one_le hmax))]
    exact ⟨_, rfl, rfl⟩

/-- The result is at most half a unit of its last digit away. -/
lemma abs_mantissaOf_mul_sub_le (hb : 0 < b) :
    |(f.mantissaOf a b : ℚ) * 2 ^ f.exponentOf a b - a / b| ≤ 2 ^ (f.exponentOf a b - 1) := by
  have hpos := two_zpow_pos (f.exponentOf a b)
  have hnear := abs_divNearest_sub_le (a := a <<< (-f.exponentOf a b).toNat)
    (shiftLeft_pos hb (f.exponentOf a b).toNat)
  rw [shift_div_shift] at hnear
  change |(f.mantissaOf a b : ℚ) - a / b / 2 ^ f.exponentOf a b| ≤ 1 / 2 at hnear
  have hsplit : (f.mantissaOf a b : ℚ) * 2 ^ f.exponentOf a b - a / b =
      (f.mantissaOf a b - a / b / 2 ^ f.exponentOf a b) * 2 ^ f.exponentOf a b := by
    rw [sub_mul, div_mul_cancel₀ _ hpos.ne']
  rw [hsplit, abs_mul, abs_of_pos hpos, zpow_sub_one₀ two_ne_zero]
  calc |(f.mantissaOf a b : ℚ) - a / b / 2 ^ f.exponentOf a b| * 2 ^ f.exponentOf a b
      ≤ 1 / 2 * 2 ^ f.exponentOf a b := by gcongr
    _ = 2 ^ f.exponentOf a b * 2⁻¹ := by ring

/-- A quotient that has few enough digits for the exponent is not changed. -/
lemma mantissaOf_mul_eq (hb : 0 < b) {k : ℕ} {j : ℤ} (h : (a : ℚ) / b = k * 2 ^ j)
    (hj : f.exponentOf a b ≤ j) :
    (f.mantissaOf a b : ℚ) * 2 ^ f.exponentOf a b = a / b := by
  obtain ⟨n, hn⟩ := Int.le.dest hj
  have hquot : (a : ℚ) / b / 2 ^ f.exponentOf a b = (k * 2 ^ n : ℕ) := by
    rw [h, ← hn, zpow_add₀ two_ne_zero, zpow_natCast]
    have hne := (two_zpow_pos (f.exponentOf a b)).ne'
    push_cast
    field_simp
  have hmantissa : f.mantissaOf a b = k * 2 ^ n := by
    refine divNearest_eq_of_eq (shiftLeft_pos hb _) ?_
    rw [shift_div_shift, hquot]
  rw [hmantissa, ← hquot, div_mul_cancel₀ _ (two_zpow_pos _).ne']

/-- In the middle of the range of double precision the relative error of rounding is at most
`2 ^ (-53)`, and a number with at most 53 binary digits is not changed. -/
theorem exists_round_double (ha : 0 < a) (hb : 0 < b) (hlow : (2 : ℚ) ^ (-255 : ℤ) ≤ a / b)
    (hhigh : (a : ℚ) / b < 2 ^ (255 : ℤ)) :
    ∃ y, double.round a b = some y ∧ |y.toRat - a / b| ≤ 2 ^ (-53 : ℤ) * (a / b) ∧
      ∀ (k : ℕ) (j : ℤ), k < 2 ^ 53 → (a : ℚ) / b = k * 2 ^ j → y.toRat = a / b := by
  have hleast := le_floorLog ha hb hlow
  have hgreatest := floorLog_lt ha hb hhigh
  have hexponent : double.exponentOf a b = floorLog a b - 52 := by
    simp only [exponentOf, double]
    omega
  have hmax : double.exponentOf a b + 1 ≤ double.maxExponent := by
    rw [hexponent]
    simp only [double]
    omega
  obtain ⟨y, hy, hvalue⟩ := exists_round_eq ha (by decide) hmax
  refine ⟨y, hy, ?_, fun k j hk h => ?_⟩
  · rw [hvalue]
    refine (abs_mantissaOf_mul_sub_le hb).trans ?_
    calc (2 : ℚ) ^ (double.exponentOf a b - 1) = 2 ^ (-53 : ℤ) * 2 ^ floorLog a b := by
          rw [hexponent, ← zpow_add₀ two_ne_zero]
          congr 1
          ring
      _ ≤ 2 ^ (-53 : ℤ) * (a / b) := by
          gcongr
          exact (zpow_floorLog_bounds ha hb).1
  · rw [hvalue]
    refine mantissaOf_mul_eq hb h ?_
    have hsmall : (a : ℚ) / b < 2 ^ (53 + j) := by
      rw [h, zpow_add₀ two_ne_zero]
      have hk' : (k : ℚ) < 2 ^ (53 : ℤ) := by exact_mod_cast hk
      exact mul_lt_mul_of_pos_right hk' (two_zpow_pos j)
    have hlt := floorLog_lt ha hb hsmall
    omega

/-- A quotient between the midpoints on both sides of a number of single precision is rounded to
that number; the midpoints themselves are if its mantissa is even. The quotient is not below the
numbers with this exponent, where the numbers lie closer. -/
theorem round_single_eq {m : ℕ} {e : ℤ} (hpos : 0 < m) (hlt : m < 2 ^ 24) (hleast : -149 ≤ e)
    (hgreatest : e ≤ 104) (ha : 0 < a) (hb : 0 < b)
    (hnormal : (2 : ℚ) ^ (23 + e) ≤ a / b ∨ e = -149)
    (hlow : ((m : ℚ) - 1 / 2) * 2 ^ e ≤ a / b) (hhigh : (a : ℚ) / b ≤ (m + 1 / 2) * 2 ^ e)
    (htie : m % 2 = 0 ∨
      ((m : ℚ) - 1 / 2) * 2 ^ e < a / b ∧ (a : ℚ) / b < (m + 1 / 2) * 2 ^ e) :
    single.round a b = some ⟨m, e⟩ := by
  have he := two_zpow_pos e
  have hsmall : (a : ℚ) / b < 2 ^ (24 + e) := by
    rw [zpow_add₀ two_ne_zero]
    have hm' : (m : ℚ) + 1 ≤ 2 ^ (24 : ℤ) := by exact_mod_cast hlt
    nlinarith
  have hfloor := floorLog_lt ha hb hsmall
  have hexponent : single.exponentOf a b = e := by
    simp only [exponentOf, single]
    obtain hlarge | rfl := hnormal
    · have hfloor' := le_floorLog ha hb hlarge
      omega
    · omega
  have hmantissa : single.mantissaOf a b = m := by
    refine divNearest_eq (shiftLeft_pos hb _) ?_ ?_ ?_ <;> rw [shift_div_shift, hexponent]
    · rwa [le_div_iff₀ he]
    · rwa [div_le_iff₀ he]
    · rwa [lt_div_iff₀ he, div_lt_iff₀ he]
  rw [round_eq ha, hmantissa, hexponent]
  have hcarry : m ≠ 1 <<< single.precision := by
    simp only [single, Nat.shiftLeft_eq]
    omega
  rw [if_neg hcarry]
  exact if_pos hgreatest

/-- Right below the least number of an exponent the mantissa is rounded up to one digit more, which
carries into the exponent. -/
theorem round_single_eq_of_carry {e : ℤ} (hleast : -149 < e) (hgreatest : e ≤ 104) (ha : 0 < a)
    (hb : 0 < b) (hlow : ((2 : ℚ) ^ 24 - 1 / 2) * 2 ^ (e - 1) ≤ a / b)
    (hhigh : (a : ℚ) / b < 2 ^ 24 * 2 ^ (e - 1)) : single.round a b = some ⟨2 ^ 23, e⟩ := by
  have he := two_zpow_pos (e - 1)
  have hexponent : single.exponentOf a b = e - 1 := by
    have hlarge : (2 : ℚ) ^ (23 + (e - 1)) ≤ a / b := by
      rw [zpow_add₀ two_ne_zero]
      refine le_trans ?_ hlow
      gcongr
      norm_num
    have hsmall : (a : ℚ) / b < 2 ^ (24 + (e - 1)) := by
      rw [zpow_add₀ two_ne_zero]
      exact_mod_cast hhigh
    have hfloor := le_floorLog ha hb hlarge
    have hfloor' := floorLog_lt ha hb hsmall
    simp only [exponentOf, single]
    omega
  have hmantissa : single.mantissaOf a b = 2 ^ 24 := by
    refine divNearest_eq (shiftLeft_pos hb _) ?_ ?_ (Or.inl (by decide)) <;>
      rw [shift_div_shift, hexponent]
    · rw [le_div_iff₀ he]
      exact_mod_cast hlow
    · rw [div_le_iff₀ he]
      refine hhigh.le.trans ?_
      push_cast
      gcongr
      norm_num
  have hcarry : 2 ^ 24 = 1 <<< single.precision := by decide
  rw [round_eq ha, hmantissa, hexponent, if_pos hcarry, sub_add_cancel]
  exact if_pos hgreatest

end BinaryFormat

end Scratchpad
