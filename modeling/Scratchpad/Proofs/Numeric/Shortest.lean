/-
The shortest decimal of a number of single precision, as a statement about rational numbers.

* `Decimal.toRat`: the number that a decimal stands for.
* `Magnitude.IsSingle`: the magnitudes of single precision.
* `Magnitude.lower`, `Magnitude.upper`, `Magnitude.Covers`: the interval of numbers that are
  rounded to a magnitude. `Magnitude.round_eq_of_covers` says that they are, and
  `Magnitude.readsBack_iff` that the decimals that read back are those in it.
* `Magnitude.nearestOn?_spec`: a multiple of a power of ten that is found lies in the interval, and
  no other multiple in it is nearer.
* `Magnitude.exists_shortest_eq`: the shortest decimal is a multiple of the greatest power of ten
  that has one in the interval, and this power is not much smaller than the interval is wide.
-/
import Mathlib.Tactic
import Scratchpad.Numeric.Shortest
import Scratchpad.Proofs.Numeric.Rounding

namespace Scratchpad

lemma ten_zpow_pos (e : ℤ) : (0 : ℚ) < 10 ^ e := zpow_pos (by norm_num) e

/-- The number that a decimal stands for. -/
def Decimal.toRat (d : Decimal) : ℚ := d.digits * 10 ^ d.exponent

namespace Magnitude

variable {x : Magnitude} {tie : Tie} {power : ℤ} {digits : ℕ} {d : Decimal}

/-- A positive magnitude of single precision. -/
structure IsSingle (x : Magnitude) : Prop where
  mantissa_pos : 0 < x.mantissa
  mantissa_lt : x.mantissa < 2 ^ 24
  normal : 2 ^ 23 ≤ x.mantissa ∨ x.exponent = -149
  least : -149 ≤ x.exponent
  greatest : x.exponent ≤ 104

/-! ### The interval around a magnitude -/

/-- The lower end of the interval of numbers that are rounded to the magnitude. -/
def lower (x : Magnitude) : ℚ := x.lowerEnd * 2 ^ (x.exponent - 2)

/-- The upper end of the interval of numbers that are rounded to the magnitude. -/
def upper (x : Magnitude) : ℚ := x.upperEnd * 2 ^ (x.exponent - 2)

/-- A number lies in the interval; the ends belong to it when the mantissa is even. -/
def Covers (x : Magnitude) (q : ℚ) : Prop :=
  if x.mantissa % 2 = 0 then x.lower ≤ q ∧ q ≤ x.upper else x.lower < q ∧ q < x.upper

lemma Covers.le {q : ℚ} (h : x.Covers q) : x.lower ≤ q ∧ q ≤ x.upper := by
  rw [Covers] at h
  split_ifs at h
  · exact h
  · exact ⟨h.1.le, h.2.le⟩

lemma covers_of_lt {q : ℚ} (hlow : x.lower < q) (hhigh : q < x.upper) : x.Covers q := by
  rw [Covers]
  split_ifs
  · exact ⟨hlow.le, hhigh.le⟩
  · exact ⟨hlow, hhigh⟩

lemma toRat_eq_quarters (x : Magnitude) : x.toRat = 4 * x.mantissa * 2 ^ (x.exponent - 2) := by
  rw [toRat, zpow_sub₀ two_ne_zero]
  norm_num
  ring

lemma upper_eq (x : Magnitude) : x.upper = x.toRat + 2 ^ (x.exponent - 1) := by
  have hstep : (2 : ℚ) ^ (x.exponent - 1) = 2 * 2 ^ (x.exponent - 2) := by
    rw [← zpow_one_add₀ two_ne_zero]
    congr 1
    ring
  rw [upper, upperEnd, toRat_eq_quarters, hstep]
  push_cast
  ring

/-- The lower end is at least a quarter of a unit away. -/
lemma lower_le (hx : 0 < x.mantissa) : x.lower ≤ x.toRat - 2 ^ (x.exponent - 2) := by
  have hpos := two_zpow_pos (x.exponent - 2)
  have hle : (x.lowerEnd : ℚ) ≤ 4 * x.mantissa - 1 := by
    have hnat : x.lowerEnd + 1 ≤ 4 * x.mantissa := by
      rw [lowerEnd]
      split_ifs <;> omega
    have hcast : ((x.lowerEnd + 1 : ℕ) : ℚ) ≤ (4 * x.mantissa : ℕ) := by exact_mod_cast hnat
    push_cast at hcast
    linarith
  rw [lower, toRat_eq_quarters]
  nlinarith

/-- The interval is symmetric unless the mantissa is the least one of its exponent. -/
lemma lower_eq (hx : 0 < x.mantissa) (hleast : x.mantissa ≠ 2 ^ 23 ∨ x.exponent ≤ -149) :
    x.lower = x.toRat - 2 ^ (x.exponent - 1) := by
  have hstep : (2 : ℚ) ^ (x.exponent - 1) = 2 * 2 ^ (x.exponent - 2) := by
    rw [← zpow_one_add₀ two_ne_zero]
    congr 1
    ring
  have hend : x.lowerEnd = 4 * x.mantissa - 2 := by
    rw [lowerEnd, if_neg]
    rintro ⟨hm, he⟩
    norm_num at hleast
    omega
  have hcast : ((4 * x.mantissa - 2 : ℕ) : ℚ) = 4 * x.mantissa - 2 := by
    rw [Nat.cast_sub (by omega)]
    push_cast
    ring
  rw [lower, hend, hcast, toRat_eq_quarters, hstep]
  ring

/-- The interval reaches down at most half a unit. -/
lemma le_lower (x : Magnitude) : ((x.mantissa : ℚ) - 1 / 2) * 2 ^ x.exponent ≤ x.lower := by
  have hend : (4 * x.mantissa : ℚ) ≤ x.lowerEnd + 2 := by
    have hnat : 4 * x.mantissa ≤ x.lowerEnd + 2 := by
      rw [lowerEnd]
      split_ifs <;> omega
    exact_mod_cast hnat
  have hquarter : (2 : ℚ) ^ x.exponent = 4 * 2 ^ (x.exponent - 2) := by
    rw [zpow_sub₀ two_ne_zero]
    norm_num
    ring
  have hpos := two_zpow_pos (x.exponent - 2)
  rw [lower, hquarter]
  nlinarith

/-- The numbers below the least mantissa lie closer, and it is reached by a carry. -/
lemma round_eq_of_lt_toRat {a b : ℕ} (hx : x.IsSingle) (hm : x.mantissa = 2 ^ 23)
    (hexponent : -149 < x.exponent) (ha : 0 < a) (hb : 0 < b) (hlow : x.lower ≤ a / b)
    (hlt : (a : ℚ) / b < x.toRat) : BinaryFormat.single.round a b = some x := by
  have hhalf : (2 : ℚ) ^ x.exponent = 2 * 2 ^ (x.exponent - 1) := by
    rw [zpow_sub_one₀ two_ne_zero]
    ring
  have hend : x.lower = (2 ^ 24 - 1 / 2) * 2 ^ (x.exponent - 1) := by
    rw [lower, lowerEnd, if_pos ⟨hm, hexponent⟩, hm, zpow_sub₀ two_ne_zero,
      zpow_sub_one₀ two_ne_zero]
    norm_num
    ring
  have hvalue : x.toRat = 2 ^ 24 * 2 ^ (x.exponent - 1) := by
    rw [toRat, hm, hhalf]
    norm_num
    ring
  rw [BinaryFormat.round_single_eq_of_carry hexponent hx.greatest ha hb (hend ▸ hlow)
    (hvalue ▸ hlt), ← hm]

/-- What lies in the interval is rounded to the magnitude. -/
theorem round_eq_of_covers {a b : ℕ} (hx : x.IsSingle) (ha : 0 < a) (hb : 0 < b)
    (h : x.Covers (a / b)) : BinaryFormat.single.round a b = some x := by
  obtain ⟨hlow, hhigh⟩ := h.le
  have he := two_zpow_pos x.exponent
  have hlower := x.le_lower
  have hupper : x.upper = (x.mantissa + 1 / 2) * 2 ^ x.exponent := by
    rw [upper_eq, toRat, zpow_sub_one₀ two_ne_zero]
    ring
  by_cases hbelow : x.mantissa = 2 ^ 23 ∧ -149 < x.exponent ∧ (a : ℚ) / b < x.toRat
  · obtain ⟨hm, hexponent, hlt⟩ := hbelow
    exact round_eq_of_lt_toRat hx hm hexponent ha hb hlow hlt
  · refine BinaryFormat.round_single_eq hx.mantissa_pos hx.mantissa_lt hx.least hx.greatest ha hb
      ?_ (hlower.trans hlow) (hupper ▸ hhigh) ?_
    · refine or_iff_not_imp_right.mpr fun hexponent => ?_
      have hnormal := hx.normal.resolve_right hexponent
      have hleast := hx.least
      rw [zpow_add₀ two_ne_zero]
      obtain hm | hm := Nat.lt_or_eq_of_le hnormal
      · have hm' : (2 : ℚ) ^ (23 : ℤ) ≤ x.mantissa - 1 / 2 := by
          have hnat : ((2 ^ 23 + 1 : ℕ) : ℚ) ≤ x.mantissa := by exact_mod_cast hm
          norm_num1 at hnat ⊢
          linarith
        calc (2 : ℚ) ^ (23 : ℤ) * 2 ^ x.exponent ≤ (x.mantissa - 1 / 2) * 2 ^ x.exponent := by
              gcongr
          _ ≤ a / b := hlower.trans hlow
      · have hge : x.toRat ≤ a / b := by
          by_contra hlt
          exact hbelow ⟨hm.symm, by omega, not_le.mp hlt⟩
        rw [toRat, ← hm] at hge
        exact_mod_cast hge
    · rw [Covers] at h
      split_ifs at h with heven
      · exact Or.inl heven
      · exact Or.inr ⟨hlower.trans_lt h.1, hupper ▸ h.2⟩

/-! ### Multiples of a power of ten -/

lemma scales_eq (x : Magnitude) (power : ℤ) :
    ∃ unit : ℚ, 0 < unit ∧ ((x.scales power).1 : ℚ) = unit * 2 ^ (x.exponent - 2) ∧
      ((x.scales power).2 : ℚ) = unit * 10 ^ power := by
  refine ⟨10 ^ (-power).toNat * 2 ^ (-(x.exponent - 2)).toNat, by positivity, ?_, ?_⟩
  · simp only [scales, Nat.pow_eq, Nat.shiftLeft_eq]
    rw [zpow_eq_div 2]
    push_cast
    field_simp
  · simp only [scales, Nat.pow_eq, Nat.shiftLeft_eq]
    rw [zpow_eq_div 10]
    push_cast
    field_simp

/-- Comparing in the common unit is comparing numbers. -/
lemma mul_scales_le_iff (x : Magnitude) (power : ℤ) (k n : ℕ) :
    (k * (x.scales power).1 ≤ n * (x.scales power).2 ↔
      (k : ℚ) * 2 ^ (x.exponent - 2) ≤ n * 10 ^ power) ∧
    (n * (x.scales power).2 ≤ k * (x.scales power).1 ↔
      (n : ℚ) * 10 ^ power ≤ k * 2 ^ (x.exponent - 2)) := by
  obtain ⟨unit, hunit, hbinary, hdecimal⟩ := x.scales_eq power
  have hk : ((k * (x.scales power).1 : ℕ) : ℚ) = unit * (k * 2 ^ (x.exponent - 2)) := by
    rw [Nat.cast_mul, hbinary]
    ring
  have hn : ((n * (x.scales power).2 : ℕ) : ℚ) = unit * (n * 10 ^ power) := by
    rw [Nat.cast_mul, hdecimal]
    ring
  constructor
  · rw [← Nat.cast_le (α := ℚ), hk, hn, mul_le_mul_iff_right₀ hunit]
  · rw [← Nat.cast_le (α := ℚ), hk, hn, mul_le_mul_iff_right₀ hunit]

/-- The decimals that read back are those in the interval. -/
lemma readsBack_iff : x.readsBack power digits = true ↔ x.Covers (digits * 10 ^ power) := by
  obtain ⟨hlow, hlow'⟩ := x.mul_scales_le_iff power x.lowerEnd digits
  obtain ⟨hhigh', hhigh⟩ := x.mul_scales_le_iff power x.upperEnd digits
  simp only [readsBack, Covers, lower, upper]
  split_ifs
  · rw [decide_eq_true_eq, hlow, hhigh]
  · rw [decide_eq_true_eq, ← not_le, ← not_le, hlow', hhigh', not_le, not_le]

/-- The number of whole multiples of the power below the magnitude. -/
def floorOn (x : Magnitude) (power : ℤ) : ℕ :=
  4 * x.mantissa * (x.scales power).1 / (x.scales power).2

lemma nearestOn?_eq (x : Magnitude) (tie : Tie) (power : ℤ) :
    x.nearestOn? tie power =
      match x.readsBack power (x.floorOn power), x.readsBack power (x.floorOn power + 1) with
      | true, true => some ⟨if x.prefersNext tie power (x.floorOn power) then x.floorOn power + 1
          else x.floorOn power, power⟩
      | true, false => some ⟨x.floorOn power, power⟩
      | false, true => some ⟨x.floorOn power + 1, power⟩
      | false, false => none :=
  rfl

lemma scales_snd_pos (x : Magnitude) (power : ℤ) : 0 < (x.scales power).2 := by
  obtain ⟨unit, hunit, -, hdecimal⟩ := x.scales_eq power
  have hpos : (0 : ℚ) < (x.scales power).2 := by
    rw [hdecimal]
    exact mul_pos hunit (ten_zpow_pos power)
  exact_mod_cast hpos

lemma floorOn_mul_le (x : Magnitude) (power : ℤ) :
    (x.floorOn power : ℚ) * 10 ^ power ≤ x.toRat := by
  have hle := Nat.div_mul_le_self (4 * x.mantissa * (x.scales power).1) (x.scales power).2
  rw [(x.mul_scales_le_iff power (4 * x.mantissa) _).2] at hle
  rw [toRat_eq_quarters]
  exact_mod_cast hle

lemma lt_floorOn_add_one_mul (x : Magnitude) (power : ℤ) :
    x.toRat < ((x.floorOn power + 1 : ℕ) : ℚ) * 10 ^ power := by
  have hlt := Nat.lt_div_mul_add (a := 4 * x.mantissa * (x.scales power).1)
    (x.scales_snd_pos power)
  rw [← Nat.succ_mul, ← not_le, (x.mul_scales_le_iff power (4 * x.mantissa) _).2, not_le] at hlt
  rw [toRat_eq_quarters]
  exact_mod_cast hlt

/-- Of two multiples that read back the nearer one is taken: the upper one at or above the middle
between them, the lower one at or below it. -/
lemma prefersNext_spec (x : Magnitude) (tie : Tie) (power : ℤ) :
    (x.prefersNext tie power (x.floorOn power) = true →
      (2 * x.floorOn power + 1 : ℚ) * 10 ^ power ≤ 2 * x.toRat) ∧
    (x.prefersNext tie power (x.floorOn power) = false →
      2 * x.toRat ≤ (2 * x.floorOn power + 1 : ℚ) * 10 ^ power) := by
  have hfloor := Nat.div_mul_le_self (4 * x.mantissa * (x.scales power).1) (x.scales power).2
  have hnext := Nat.lt_div_mul_add (a := 4 * x.mantissa * (x.scales power).1)
    (x.scales_snd_pos power)
  change x.floorOn power * _ ≤ _ at hfloor
  change _ < x.floorOn power * _ + _ at hnext
  obtain ⟨hle, hge⟩ := x.mul_scales_le_iff power (8 * x.mantissa) (2 * x.floorOn power + 1)
  have hdouble : 2 * x.toRat = (8 * x.mantissa : ℕ) * 2 ^ (x.exponent - 2) := by
    rw [toRat_eq_quarters]
    push_cast
    ring
  have hmiddle : (2 * x.floorOn power + 1 : ℚ) = (2 * x.floorOn power + 1 : ℕ) := by push_cast; rfl
  rw [hdouble, hmiddle, ← hle, ← hge]
  simp only [prefersNext, Nat.mul_assoc 4, Nat.mul_assoc 8, Nat.add_mul, Nat.mul_assoc 2,
    Nat.one_mul] at hfloor hnext ⊢
  generalize x.mantissa * (x.scales power).1 = scaled at hfloor hnext ⊢
  generalize x.floorOn power * (x.scales power).2 = below at hfloor hnext ⊢
  generalize (x.scales power).2 = unit at hnext ⊢
  split_ifs with heven
  · omega
  · simp only [decide_eq_true_eq, decide_eq_false_iff_not]
    omega

/-- The magnitude lies between two multiples, one step of the power apart. -/
lemma abs_floorOn_add_abs (x : Magnitude) (power : ℤ) :
    |(x.floorOn power : ℚ) * 10 ^ power - x.toRat| +
      |((x.floorOn power + 1 : ℕ) : ℚ) * 10 ^ power - x.toRat| = 10 ^ power := by
  have hbelow := x.floorOn_mul_le power
  have habove := x.lt_floorOn_add_one_mul power
  rw [abs_of_nonpos (by linarith), abs_of_pos (by linarith)]
  push_cast
  ring

/-- The multiple that is taken of the two is at most half a step of the power away. -/
lemma abs_nearer_le (x : Magnitude) (tie : Tie) (power : ℤ) :
    2 * |((if x.prefersNext tie power (x.floorOn power) then x.floorOn power + 1
      else x.floorOn power : ℕ) : ℚ) * 10 ^ power - x.toRat| ≤ 10 ^ power := by
  have hbelow := x.floorOn_mul_le power
  have habove := x.lt_floorOn_add_one_mul power
  obtain ⟨hprefers, hprefers'⟩ := x.prefersNext_spec tie power
  cases hpick : x.prefersNext tie power (x.floorOn power) with
  | true =>
      have hdist := hprefers hpick
      rw [if_pos rfl, abs_of_pos (by linarith)]
      push_cast
      linarith
  | false =>
      have hdist := hprefers' hpick
      rw [if_neg Bool.false_ne_true, abs_of_nonpos (by linarith)]
      linarith

/-- A multiple of a power of ten that is found reads back. It is at most half a step of the power
away, or the multiple on the other side does not read back. -/
lemma nearestOn?_spec (h : x.nearestOn? tie power = some d) :
    d.exponent = power ∧ x.Covers d.toRat ∧
      (2 * |d.toRat - x.toRat| ≤ 10 ^ power ∨
        ∃ q, ¬ x.Covers q ∧ |d.toRat - x.toRat| + |q - x.toRat| = 10 ^ power) := by
  have hsum := x.abs_floorOn_add_abs power
  have hno {n : ℕ} (hn : x.readsBack power n = false) : ¬ x.Covers (n * 10 ^ power) := by
    rw [← readsBack_iff, hn]
    exact Bool.false_ne_true
  rw [nearestOn?_eq] at h
  cases hlow : x.readsBack power (x.floorOn power) <;>
    cases hhigh : x.readsBack power (x.floorOn power + 1) <;>
    simp only [hlow, hhigh, Option.some.injEq, reduceCtorEq] at h <;> subst h
  case false.true =>
    exact ⟨rfl, readsBack_iff.mp hhigh, Or.inr ⟨_, hno hlow, (add_comm _ _).trans hsum⟩⟩
  case true.false =>
    exact ⟨rfl, readsBack_iff.mp hlow, Or.inr ⟨_, hno hhigh, hsum⟩⟩
  case true.true =>
    refine ⟨rfl, ?_, Or.inl (x.abs_nearer_le tie power)⟩
    rw [Decimal.toRat, ← readsBack_iff]
    split_ifs
    · exact hhigh
    · exact hlow

/-- A power of ten that is not greater than a quarter of a unit has a multiple that reads back. -/
lemma exists_nearestOn?_eq (hx : 0 < x.mantissa) (h : (10 : ℚ) ^ power ≤ 2 ^ (x.exponent - 2))
    (tie : Tie) : ∃ d, x.nearestOn? tie power = some d := by
  have hreads : x.readsBack power (x.floorOn power) = true := by
    have hlower := x.lower_le hx
    have habove := x.lt_floorOn_add_one_mul power
    have hunit := two_zpow_pos (x.exponent - 1)
    rw [Nat.cast_add_one, add_one_mul] at habove
    rw [readsBack_iff]
    refine covers_of_lt (by linarith) ?_
    rw [upper_eq]
    exact (x.floorOn_mul_le power).trans_lt (lt_add_of_pos_right _ hunit)
  rw [nearestOn?_eq, hreads]
  cases x.readsBack power (x.floorOn power + 1) <;> exact ⟨_, rfl⟩

/-! ### The greatest power with a multiple in the interval -/

/-- What is found first in a range is found at an index before which there is nothing. -/
lemma exists_of_findSome?_range {α : Type} {f : ℕ → Option α} {n : ℕ} {b : α}
    (h : (List.range n).findSome? f = some b) : ∃ i < n, f i = some b ∧ ∀ j < i, f j = none := by
  induction n with
  | zero => cases h
  | succ n ih =>
      rw [List.range_succ, List.findSome?_append] at h
      cases hbefore : (List.range n).findSome? f with
      | some found =>
          rw [hbefore, Option.some_or] at h
          obtain ⟨i, hi, hfound, hnone⟩ := ih (hbefore.trans h)
          exact ⟨i, Nat.lt_succ_of_lt hi, hfound, hnone⟩
      | none =>
          rw [hbefore, Option.none_or] at h
          rw [List.findSome?_eq_none_iff] at hbefore
          refine ⟨n, Nat.lt_succ_self n, by simpa using h, fun j hj => ?_⟩
          exact hbefore j (List.mem_range.mpr hj)

/-- The shortest decimal is a multiple of a power of ten the next of which is greater than a
quarter of a unit. -/
lemma exists_shortest_eq (hx : x.IsSingle) (tie : Tie) :
    ∃ power, -54 ≤ power ∧ power ≤ 38 ∧ x.nearestOn? tie power = some (x.shortest tie) ∧
      (2 : ℚ) ^ (x.exponent - 2) < 10 ^ (power + 1) := by
  have hleast := hx.least
  have hgreatest := hx.greatest
  cases hfound : (List.range powerCount).findSome?
      fun i : ℕ => x.nearestOn? tie (maxPower - (i : ℤ)) with
  | none =>
      have hpower : (10 : ℚ) ^ (maxPower - (92 : ℕ)) ≤ 2 ^ (x.exponent - 2) := by
        calc (10 : ℚ) ^ (maxPower - (92 : ℕ)) ≤ 2 ^ (-151 : ℤ) := by norm_num [maxPower]
          _ ≤ 2 ^ (x.exponent - 2) := zpow_le_zpow_right₀ one_le_two (by omega)
      obtain ⟨d, hd⟩ := exists_nearestOn?_eq hx.mantissa_pos hpower tie
      rw [List.findSome?_eq_none_iff] at hfound
      have hnone := hfound 92 (List.mem_range.mpr (by decide))
      rw [hd] at hnone
      cases hnone
  | some found =>
      have hshortest : x.shortest tie = found := by
        rw [shortest, hfound]
        rfl
      obtain ⟨i, hi, hnearest, hnone⟩ := exists_of_findSome?_range hfound
      simp only [powerCount] at hi
      refine ⟨maxPower - (i : ℤ), ?_, ?_, by rw [hnearest, hshortest], ?_⟩
      · simp only [maxPower]
        omega
      · simp only [maxPower]
        omega
      · by_contra hle
        rw [not_lt] at hle
        cases i with
        | zero =>
            have hlarge : (10 : ℚ) ^ (39 : ℤ) ≤ 2 ^ (102 : ℤ) :=
              hle.trans (zpow_le_zpow_right₀ one_le_two (by omega))
            norm_num at hlarge
        | succ i =>
            have hpower : maxPower - ((i + 1 : ℕ) : ℤ) + 1 = maxPower - (i : ℤ) := by
              push_cast
              ring
            rw [hpower] at hle
            obtain ⟨d, hd⟩ := exists_nearestOn?_eq hx.mantissa_pos hle tie
            rw [hnone i (Nat.lt_succ_self i)] at hd
            cases hd

end Magnitude

end Scratchpad
