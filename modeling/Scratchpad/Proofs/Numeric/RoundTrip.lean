/-
The shortest decimal of a number of single precision is read back as that number, although it is
read in double precision first.

* `Magnitude.grain`: the exponent of the smaller of the two distances from a magnitude to its
  neighbours; both ends of the interval around it are multiples of half this distance.
* `Magnitude.IsSingle.covers_of_small_power`, `Magnitude.IsSingle.covers_of_great_power`: what is
  read for the shortest decimal lies in the interval. Where the decimals are denser than the
  numbers, the shortest one stays away from the ends by itself; where they are not, `separation`
  keeps it away from them.
* `StateFile.significand_numeral`: the digits of a numeral in the state file can be represented in
  double precision.
* `Magnitude.IsSingle.exists_double?`, `Single.exists_numeral?`: every finite number is written as a
  numeral that is read as that number.
-/
import Mathlib.Tactic
import Scratchpad.Proofs.Numeric.Layout
import Scratchpad.Proofs.Numeric.Reading
import Scratchpad.Proofs.Numeric.Separation
import Scratchpad.StateFile

namespace Scratchpad

namespace Magnitude

variable {x : Magnitude}

/-! ### The ends of the interval -/

/-- The exponent of the distance to the nearer neighbour. -/
def grain (x : Magnitude) : ℤ :=
  if x.mantissa = 2 ^ 23 ∧ -149 < x.exponent then x.exponent - 1 else x.exponent

lemma IsSingle.grain_mem (hx : x.IsSingle) : -149 ≤ x.grain ∧ x.grain ≤ 104 := by
  have hleast := hx.least
  have hgreatest := hx.greatest
  rw [grain]
  split_ifs <;> omega

/-- The lower end is a multiple of half the distance to the nearer neighbour. -/
lemma IsSingle.exists_lower_eq (hx : x.IsSingle) :
    ∃ n : ℕ, 0 < n ∧ n < 2 ^ 25 + 3 ∧ x.lower = n * 2 ^ (x.grain - 1) ∧
      x.lower + 2 ^ (x.grain - 1) ≤ x.toRat := by
  have hpos := hx.mantissa_pos
  have hlt := hx.mantissa_lt
  by_cases hleast : x.mantissa = 2 ^ 23 ∧ -149 < x.exponent
  · have hgrain : x.grain - 1 = x.exponent - 2 := by
      rw [grain, if_pos hleast]
      ring
    refine ⟨2 ^ 25 - 1, by decide, by decide, ?_, ?_⟩
    · rw [lower, lowerEnd, if_pos ⟨hleast.1, hleast.2⟩, hleast.1, hgrain]
      norm_num
    · have hle := lower_le hpos
      rw [hgrain]
      linarith
  · have hgrain : x.grain = x.exponent := if_neg hleast
    have heq : x.lower = x.toRat - 2 ^ (x.exponent - 1) :=
      lower_eq hpos (by rw [not_and_or, not_lt] at hleast; exact hleast)
    have hcast : ((2 * x.mantissa - 1 : ℕ) : ℚ) = 2 * x.mantissa - 1 := by
      rw [Nat.cast_sub (by omega)]
      push_cast
      ring
    refine ⟨2 * x.mantissa - 1, by omega, by omega, ?_, ?_⟩
    · rw [heq, hgrain, hcast, toRat, zpow_sub_one₀ two_ne_zero]
      ring
    · rw [heq, hgrain, sub_add_cancel]

/-- The upper end is a multiple of half the distance to the nearer neighbour. -/
lemma IsSingle.exists_upper_eq (hx : x.IsSingle) :
    ∃ n : ℕ, 0 < n ∧ n < 2 ^ 25 + 3 ∧ x.upper = n * 2 ^ (x.grain - 1) ∧
      x.toRat + 2 ^ (x.grain - 1) ≤ x.upper ∧
      (x.grain = -107 → n = 22841339 → x = ⟨11420669, -107⟩) := by
  have hlt := hx.mantissa_lt
  have heq := x.upper_eq
  by_cases hleast : x.mantissa = 2 ^ 23 ∧ -149 < x.exponent
  · have hgrain : x.grain - 1 = x.exponent - 2 := by
      rw [grain, if_pos hleast]
      ring
    refine ⟨2 ^ 25 + 2, by decide, by decide, ?_, ?_, fun _ hn => absurd hn (by decide)⟩
    · rw [upper, upperEnd, hleast.1, hgrain]
      norm_num
    · rw [heq, hgrain]
      gcongr
      · norm_num
      · norm_num
  · have hgrain : x.grain = x.exponent := if_neg hleast
    refine ⟨2 * x.mantissa + 1, by omega, by omega, ?_, ?_, fun hexponent hn => ?_⟩
    · rw [heq, hgrain, toRat, zpow_sub_one₀ two_ne_zero]
      push_cast
      ring
    · rw [heq, hgrain]
    · rw [hgrain] at hexponent
      obtain ⟨mantissa, exponent⟩ := x
      simp only at hexponent hn
      rw [hexponent, show mantissa = 11420669 by omega]

/-! ### Numbers near the shortest decimal -/

variable {tie : Tie} {power : ℤ} {d : Decimal} {v : ℚ}

/-- Zero is not in the interval. -/
lemma Covers.pos {q : ℚ} (h : x.Covers q) (hx : x.IsSingle) : 0 < q := by
  obtain ⟨n, hn, -, hlower, -⟩ := hx.exists_lower_eq
  refine lt_of_lt_of_le ?_ h.le.1
  rw [hlower]
  exact mul_pos (by exact_mod_cast hn) (two_zpow_pos _)

lemma IsSingle.digits_pos (hx : x.IsSingle) (hd : x.Covers d.toRat) : 0 < d.digits := by
  have hpos := hd.pos hx
  by_contra hzero
  rw [Decimal.toRat, Nat.eq_zero_of_not_pos hzero, Nat.cast_zero, zero_mul] at hpos
  exact lt_irrefl _ hpos

/-- The error of reading is a small part of half the distance to the nearer neighbour. -/
lemma IsSingle.error_lt (hx : x.IsSingle) (hd : x.Covers d.toRat)
    (hv : |v - d.toRat| ≤ 5 / 2 ^ 54 * d.toRat) :
    |v - d.toRat| < 2 ^ (-20 : ℤ) * 2 ^ (x.grain - 1) := by
  obtain ⟨n, -, hn, hupper, -⟩ := hx.exists_upper_eq
  have hhalf := two_zpow_pos (x.grain - 1)
  have hn' : (n : ℚ) ≤ 2 ^ 26 := by exact_mod_cast hn.le.trans (by decide)
  calc |v - d.toRat| ≤ 5 / 2 ^ 54 * d.toRat := hv
    _ ≤ 5 / 2 ^ 54 * (n * 2 ^ (x.grain - 1)) := by
        gcongr
        exact hupper ▸ hd.le.2
    _ ≤ 5 / 2 ^ 54 * (2 ^ 26 * 2 ^ (x.grain - 1)) := by gcongr
    _ < 2 ^ (-20 : ℤ) * 2 ^ (x.grain - 1) := by
        rw [← mul_assoc]
        gcongr
        norm_num

/-- A multiple of a small power of ten lies away from the ends of the interval. -/
lemma IsSingle.covers_of_small_power (hx : x.IsSingle) (hd : x.nearestOn? tie power = some d)
    (hpower : power < decimalStep x.grain) (hv : |v - d.toRat| ≤ 5 / 2 ^ 54 * d.toRat) :
    x.Covers v := by
  obtain ⟨-, hcovers, hnear⟩ := nearestOn?_spec hd
  obtain ⟨hleast, hgreatest⟩ := hx.grain_mem
  obtain ⟨-, -, -, -, hbelow⟩ := hx.exists_lower_eq
  obtain ⟨-, -, -, -, habove, -⟩ := hx.exists_upper_eq
  have herror := hx.error_lt hcovers hv
  have hgrain : (2 : ℚ) ^ x.grain = 2 * 2 ^ (x.grain - 1) := by
    rw [zpow_sub_one₀ two_ne_zero]
    ring
  have hstep : (10 : ℚ) ^ power ≤ (1 - 2 ^ (-20 : ℤ)) * 2 ^ x.grain :=
    (zpow_le_zpow_right₀ (by norm_num) (by omega)).trans
      (ten_zpow_decimalStep_sub_one_le hleast hgreatest)
  have hdistance : |d.toRat - x.toRat| ≤ (1 - 2 ^ (-20 : ℤ)) * 2 ^ (x.grain - 1) := by
    obtain hhalf | ⟨q, hq, hsum⟩ := hnear
    · rw [hgrain] at hstep
      linarith
    · -- the multiple on the other side lies beyond an end
      have hfar : 2 ^ (x.grain - 1) ≤ |q - x.toRat| := by
        by_contra hinside
        obtain ⟨hlow, hhigh⟩ := abs_lt.mp (not_le.mp hinside)
        exact hq (covers_of_lt (by linarith) (by linarith))
      have hpos := two_zpow_pos (x.grain - 1)
      rw [hgrain] at hstep
      norm_num at hstep ⊢
      linarith
  have htotal : |v - x.toRat| < 2 ^ (x.grain - 1) := by
    have htriangle := abs_sub_le v d.toRat x.toRat
    linarith
  obtain ⟨hlow, hhigh⟩ := abs_lt.mp htotal
  exact covers_of_lt (by linarith) (by linarith)

/-- A multiple of a great power of ten lies away from the ends of the interval, or is one that is
read without error. -/
lemma IsSingle.covers_of_great_power (hx : x.IsSingle) (hclose : x ≠ ⟨11420669, -107⟩)
    (hd : x.nearestOn? tie power = some d) (hpower : decimalStep x.grain ≤ power)
    (hv : |v - d.toRat| ≤ 5 / 2 ^ 54 * d.toRat)
    (hexact : x.grain.natAbs ≤ 45 →
      ∀ (k : ℕ) (j : ℤ), k < 2 ^ 53 → d.toRat = k * 2 ^ j → v = d.toRat) : x.Covers v := by
  obtain ⟨hexponent, hcovers, -⟩ := nearestOn?_spec hd
  obtain ⟨hleast, hgreatest⟩ := hx.grain_mem
  obtain ⟨low, hlow, hlow', hlower, -⟩ := hx.exists_lower_eq
  obtain ⟨high, hhigh, hhigh', hupper, -, hpair⟩ := hx.exists_upper_eq
  obtain ⟨hbelow, habove⟩ := hcovers.le
  obtain ⟨k, hk, hmultiple⟩ : ∃ k : ℕ, 0 < k ∧ d.toRat = k * 10 ^ decimalStep x.grain := by
    have hdigits := hx.digits_pos hcovers
    obtain ⟨i, hi⟩ := Int.le.dest hpower
    refine ⟨d.digits * 10 ^ i, by positivity, ?_⟩
    rw [Decimal.toRat, hexponent, ← hi, zpow_add₀ (by norm_num), zpow_natCast]
    push_cast
    ring
  have hseparation (n : ℕ) := @separation _ hleast hgreatest n k
  rw [← hmultiple] at hseparation
  obtain ⟨herrorLow, herrorHigh⟩ := abs_le.mp hv
  by_cases hread : v = d.toRat
  · rw [hread]
    exact hcovers
  · refine covers_of_lt ?_ ?_
    · obtain hapart | ⟨heq, hsmall⟩ | ⟨hgrain, hn, hk⟩ := hseparation low hlow' hlow hk
      · rw [← hlower, abs_of_nonneg (by linarith)] at hapart
        linarith
      · exact absurd (hexact hsmall low _ (hlow'.trans (by decide)) heq) hread
      · rw [hmultiple, hlower, hgrain, hn, hk] at hbelow
        norm_num [decimalStep] at hbelow
    · obtain hapart | ⟨heq, hsmall⟩ | ⟨hgrain, hn, -⟩ := hseparation high hhigh' hhigh hk
      · rw [← hupper, abs_of_nonpos (by linarith)] at hapart
        linarith
      · exact absurd (hexact hsmall high _ (hhigh'.trans (by decide)) heq) hread
      · exact absurd (hpair hgrain hn) hclose

/-- The shortest decimal has few digits, since the next greater power of ten has no multiple in the
interval. -/
lemma IsSingle.digits_lt (hx : x.IsSingle) (hd : x.nearestOn? tie power = some d)
    (hpower : (2 : ℚ) ^ (x.exponent - 2) < 10 ^ (power + 1)) :
    0 < d.digits ∧ d.digits < 2 ^ 30 := by
  obtain ⟨hexponent, hcovers, -⟩ := nearestOn?_spec hd
  have habove := hcovers.le.2
  have hten := ten_zpow_pos power
  rw [Decimal.toRat, hexponent] at habove
  refine ⟨hx.digits_pos hcovers, ?_⟩
  have hend : (x.upperEnd : ℚ) ≤ 2 ^ 26 := by
    have hlt := hx.mantissa_lt
    have hnat : x.upperEnd ≤ 2 ^ 26 := by
      rw [upperEnd]
      omega
    exact_mod_cast hnat
  have hlt : (d.digits : ℚ) * 10 ^ power < 2 ^ 30 * 10 ^ power := by
    calc (d.digits : ℚ) * 10 ^ power ≤ x.upperEnd * 2 ^ (x.exponent - 2) := habove
      _ ≤ 2 ^ 26 * 2 ^ (x.exponent - 2) := by gcongr
      _ < 2 ^ 26 * 10 ^ (power + 1) := by gcongr
      _ = 2 ^ 26 * 10 * 10 ^ power := by
          rw [zpow_add_one₀ (by norm_num)]
          ring
      _ < 2 ^ 30 * 10 ^ power := by
          gcongr
          norm_num
  exact_mod_cast lt_of_mul_lt_mul_right hlt hten.le

/-- The power of ten of a decimal near a magnitude that is not great. -/
lemma IsSingle.power_lt (hx : x.IsSingle) (hd : x.nearestOn? tie power = some d)
    (hgrain : x.grain ≤ 45) : power < 22 := by
  obtain ⟨hexponent, hcovers, -⟩ := nearestOn?_spec hd
  obtain ⟨n, -, hn, hupper, -⟩ := hx.exists_upper_eq
  have hn' : (n : ℚ) ≤ 2 ^ 26 := by exact_mod_cast hn.le.trans (by decide)
  have hdigits : (1 : ℚ) ≤ d.digits := by exact_mod_cast hx.digits_pos hcovers
  have hlt : (10 : ℚ) ^ power < 10 ^ (22 : ℤ) := by
    calc (10 : ℚ) ^ power ≤ d.digits * 10 ^ power :=
          le_mul_of_one_le_left (ten_zpow_pos power).le hdigits
      _ = d.toRat := by rw [Decimal.toRat, hexponent]
      _ ≤ n * 2 ^ (x.grain - 1) := hupper ▸ hcovers.le.2
      _ ≤ 2 ^ 26 * 2 ^ (44 : ℤ) := by
          gcongr
          · norm_num
          · omega
      _ < 10 ^ (22 : ℤ) := by norm_num
  exact (zpow_lt_zpow_iff_right₀ (by norm_num)).mp hlt

end Magnitude

/-! ### Numerals in the state file -/

namespace StateFile

variable {negative : Bool} {d : Decimal}

/-- No number of single precision is written as an integer. -/
lemma isInteger_numeral (negative : Bool) (d : Decimal) :
    (numbers.numeral negative d).isInteger = false := by
  rw [Layout.numeral]
  split_ifs
  · rw [Layout.plainNumeral]
    by_cases hwhole : 0 ≤ d.exponent
    · rw [if_pos hwhole]
      rfl
    · rw [if_neg hwhole]
      split_ifs with hpoint
      · have hne : (Numeral.digitsOf d.digits).drop
            (d.exponent + (Numeral.digitsOf d.digits).length).toNat ≠ [] := by
          rw [ne_eq, List.drop_eq_nil_iff]
          omega
        simp [Numeral.isInteger, hne]
      · simp [Numeral.isInteger, Numeral.digitsOf_ne_nil]
  · simp [Numeral.isInteger]

/-- A whole number without an exponent has at most 13 digits in front of the point. -/
lemma digits_mul_lt_of_isPlain (hwhole : 0 ≤ d.exponent)
    (hplain : numbers.isPlain (d.exponent + (Numeral.digitsOf d.digits).length - 1) = true) :
    d.digits * 10 ^ (d.exponent.toNat + 1) < 2 ^ 53 := by
  have hlength : (Numeral.digitsOf d.digits).length + (d.exponent.toNat + 1) ≤ 14 := by
    simp only [Layout.isPlain, numbers, decide_eq_true_eq] at hplain
    omega
  have hdigits := Numeral.ofDigits_lt (Numeral.lt_ten_of_mem_digitsOf d.digits)
  rw [Numeral.ofDigits_digitsOf] at hdigits
  calc d.digits * 10 ^ (d.exponent.toNat + 1)
      < 10 ^ (Numeral.digitsOf d.digits).length * 10 ^ (d.exponent.toNat + 1) := by gcongr
    _ = 10 ^ ((Numeral.digitsOf d.digits).length + (d.exponent.toNat + 1)) := by
        rw [← pow_add]
    _ ≤ 10 ^ 14 := Nat.pow_le_pow_right (by decide) hlength
    _ < 2 ^ 53 := by decide

/-- The digits that are written are those of the decimal, with a zero more behind the point of a
whole number. -/
lemma significand_numeral (negative : Bool) (hpos : 0 < d.digits) (hlt : d.digits < 2 ^ 30) :
    0 < (numbers.numeral negative d).significand ∧
      (numbers.numeral negative d).significand < 2 ^ 53 ∧
      ((numbers.numeral negative d).power = d.exponent ∨
        (numbers.numeral negative d).power = -1) := by
  cases hplain : numbers.isPlain (d.exponent + (Numeral.digitsOf d.digits).length - 1) with
  | false =>
      obtain ⟨hdigits, hpower⟩ :=
        Layout.significand_numeral_of_not_isPlain negative hplain
      rw [hdigits, hpower]
      exact ⟨hpos, hlt.trans (by decide), Or.inl rfl⟩
  | true =>
      rw [Layout.numeral, if_pos hplain]
      by_cases hwhole : 0 ≤ d.exponent
      · obtain ⟨hdigits, hpower⟩ :=
          Layout.significand_plainNumeral_of_nonneg numbers negative hwhole
        have hfraction : (numbers.plainNumeral negative d).fraction = [0] := by
          rw [Layout.plainNumeral, if_pos hwhole]
          rfl
        rw [hfraction, List.length_singleton] at hdigits hpower
        rw [hdigits, hpower]
        exact ⟨by positivity, digits_mul_lt_of_isPlain hwhole hplain, Or.inr rfl⟩
      · obtain ⟨hdigits, hpower⟩ :=
          Layout.significand_plainNumeral_of_neg numbers negative (not_le.mp hwhole)
        rw [hdigits, hpower]
        exact ⟨hpos, hlt.trans (by decide), Or.inl rfl⟩

end StateFile

namespace Magnitude

variable {x : Magnitude}

/-- The one numeral to which `separation` does not apply is read by computation. -/
lemma round_double?_closePair (negative : Bool) :
    ((StateFile.numbers.numeral negative
      (Magnitude.shortest ⟨11420669, -107⟩ .toEven)).double?.bind fun v =>
        BinaryFormat.single.round v.num v.den) = some ⟨11420669, -107⟩ := by
  revert negative
  decide +kernel

/-- The numeral that is written for a magnitude is read as that magnitude. -/
theorem IsSingle.exists_double? (hx : x.IsSingle) (negative : Bool) :
    ∃ v, (StateFile.numbers.numeral negative (x.shortest .toEven)).double? = some v ∧
      BinaryFormat.single.round v.num v.den = some x := by
  by_cases hclose : x = ⟨11420669, -107⟩
  · rw [hclose, ← Option.bind_eq_some_iff]
    exact round_double?_closePair negative
  · obtain ⟨power, hlow, hhigh, hd, hpower⟩ := exists_shortest_eq hx .toEven
    obtain ⟨hexponent, hcovers, -⟩ := nearestOn?_spec hd
    obtain ⟨hpos, hlt⟩ := hx.digits_lt hd hpower
    obtain ⟨hsignificand, hsignificand', hchoice⟩ :=
      StateFile.significand_numeral negative hpos hlt
    rw [hexponent] at hchoice
    obtain ⟨v, hv, herror, hexact⟩ :=
      Numeral.exists_double? hsignificand hsignificand' (by omega) (by omega)
    rw [Layout.toRat_numeral] at herror hexact
    have hcoversv : x.Covers v.toRat := by
      by_cases hstep : power < decimalStep x.grain
      · exact hx.covers_of_small_power hd hstep herror
      · refine hx.covers_of_great_power hclose hd (not_lt.mp hstep) herror fun hsmall => ?_
        have hupper := hx.power_lt hd (by omega)
        refine hexact ?_
        simp only [decimalStep] at hstep
        omega
    refine ⟨v, hv, round_eq_of_covers hx (Numeral.num_pos_of_toRat_pos (hcoversv.pos hx))
      v.den_pos ?_⟩
    rw [v.num_div_den]
    exact hcoversv

end Magnitude

namespace Single

variable {x : Single}

/-- The three parts of the bits. -/
lemma value_cases (x : Single) :
    x.isFinite = false ∨
      ∃ negative fraction exponent, fraction < 0x800000 ∧ exponent < 255 ∧
        x.bits.toNat = signCode negative + exponent * 0x800000 + fraction ∧
        x.value = .finite negative
          (if exponent = 0 then ⟨fraction, -149⟩
          else ⟨0x800000 + fraction, (exponent : ℤ) - 150⟩) := by
  have hbits := x.bits.toNat_lt
  by_cases hexponent : x.bits.toNat / 0x800000 % 256 = 255
  · left
    rw [isFinite, value]
    simp only [hexponent, if_true]
    split_ifs <;> rfl
  · right
    refine ⟨decide (0x80000000 ≤ x.bits.toNat), x.bits.toNat % 0x800000,
      x.bits.toNat / 0x800000 % 256, by omega, by omega, ?_, ?_⟩
    · simp only [signCode, decide_eq_true_eq]
      split_ifs <;> omega
    · rw [value]
      simp only [if_neg hexponent]
      split_ifs <;> rfl

/-- The bits of a finite number are those of its value. -/
lemma ofValue_value (h : x.isFinite = true) : ofValue x.value = x := by
  obtain hinfinite | ⟨negative, fraction, exponent, hfraction, hexponent, hbits, hvalue⟩ :=
    x.value_cases
  · rw [hinfinite] at h
    cases h
  · have hnumber (n : ℕ) (hn : n = x.bits.toNat) : (⟨UInt32.ofNat n⟩ : Single) = x := by
      rw [hn, UInt32.ofNat_toNat]
    rw [hvalue]
    split_ifs with hzero
    · rw [ofValue, if_pos hfraction]
      refine hnumber _ ?_
      omega
    · rw [ofValue, if_neg (by omega)]
      refine hnumber _ ?_
      omega

/-- The value of a finite number is zero or one of single precision. -/
lemma isSingle_of_value {negative : Bool} {m : Magnitude} (h : x.value = .finite negative m) :
    m = ⟨0, -149⟩ ∨ m.IsSingle := by
  obtain hinfinite | ⟨sign, fraction, exponent, hfraction, hexponent, -, hvalue⟩ := x.value_cases
  · rw [isFinite, h] at hinfinite
    cases hinfinite
  · rw [h, Value.finite.injEq] at hvalue
    obtain ⟨-, rfl⟩ := hvalue
    split_ifs with hzero
    · obtain rfl | hpos := Nat.eq_zero_or_pos fraction
      · exact Or.inl rfl
      · exact Or.inr ⟨hpos, by dsimp only; omega, Or.inr rfl, le_rfl, by dsimp only; omega⟩
    · refine Or.inr ⟨?_, ?_, Or.inl ?_, ?_, ?_⟩ <;> dsimp only <;> omega

/-- Both zeros are read with their sign. -/
lemma single?_zero (negative : Bool) :
    (StateFile.numbers.plainNumeral negative ⟨0, 0⟩).single? =
      some (ofValue (.finite negative ⟨0, -149⟩)) := by
  revert negative
  decide +kernel

/-- A finite number is written as a numeral that is read as that number. -/
theorem exists_numeral? (h : x.isFinite = true) :
    ∃ n, StateFile.numbers.numeral? x = some n ∧ n.IsCanonical ∧ n.single? = some x := by
  have hx := ofValue_value h
  cases hvalue : x.value with
  | nan => simp [isFinite, hvalue] at h
  | infinite negative => simp [isFinite, hvalue] at h
  | finite negative m =>
      rw [hvalue] at hx
      rw [Layout.numeral?, hvalue]
      dsimp only
      refine ⟨_, rfl, ?_⟩
      obtain rfl | hm := isSingle_of_value hvalue
      · rw [if_pos rfl]
        refine ⟨Layout.isCanonical_plainNumeral (Or.inr rfl), ?_⟩
        rw [← hx]
        exact single?_zero negative
      · obtain ⟨v, hv, hround⟩ := hm.exists_double? negative
        obtain ⟨power, -, -, hd, hpower⟩ := Magnitude.exists_shortest_eq hm .toEven
        rw [if_neg hm.mantissa_pos.ne']
        refine ⟨Layout.isCanonical_numeral (hm.digits_lt hd hpower).1, ?_⟩
        rw [Numeral.single?, StateFile.isInteger_numeral, Bool.false_and, Bool.false_and,
          if_neg Bool.false_ne_true, Layout.negative_numeral]
        change Option.map _ (StateFile.numbers.numeral negative (m.shortest .toEven)).double? = _
        rw [hv, Option.map_some, ofMagnitude, ofRatio, hround]
        exact congrArg some hx

end Single

end Scratchpad
