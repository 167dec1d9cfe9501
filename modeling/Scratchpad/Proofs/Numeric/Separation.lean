/-
No short decimal lies close to the middle between two numbers of single precision.

The middles between numbers with the exponent `e` are multiples of `2 ^ (e - 1)`, hardly more than
`2 ^ 25` of them, and the short decimals are multiples of a power of ten that is not much smaller
than `2 ^ e`. One is close to the other only where the quotient of the two powers is close to a
fraction with a small numerator, and the best such fractions are found by taking mediants.

* `Bracket`, `Bracket.Around`: two neighbouring fractions on both sides of a quotient, between
  which there is no fraction with a smaller numerator. `Bracket.narrow` finds them by mediants.
* `Apart`: two natural numbers are farther apart than the errors of reading a decimal.
* `apart_of_le_low`, `apart_of_high_le`, `apart_of_high_lt`: multiples that are apart because the
  neighbouring fractions are; `apart_of_gcd`: multiples with a great common unit.
* `decimalStep`: the power of ten that belongs to an exponent, with its bounds.
* `apart_or_eq`: for every exponent, a multiple of the power of ten and a middle are the same or
  apart, but for one pair of numbers, `ClosePair`. `separation` says so about rational numbers.
-/
import Mathlib.Tactic
import Scratchpad.Proofs.Numeric.Shortest

namespace Scratchpad

/-! ### Neighbouring fractions -/

/-- A lower and an upper fraction; the upper one may be `1 / 0`. -/
structure Bracket where
  lowNum : ℕ := 0
  lowDen : ℕ := 1
  highNum : ℕ := 1
  highDen : ℕ := 0

namespace Bracket

/-- The fractions are neighbours, and `a / b` lies between them, possibly at the upper one. -/
structure Around (a b : ℕ) (s : Bracket) : Prop where
  low_lt : s.lowNum * b < a * s.lowDen
  le_high : a * s.highDen ≤ s.highNum * b
  adjacent : s.highNum * s.lowDen = s.lowNum * s.highDen + 1

/-- Replaces one of the fractions by the mediant until the numerators add up to `bound`. -/
def narrow (a b bound : ℕ) : ℕ → Bracket → Bracket
  | 0, s => s
  | steps + 1, s =>
    if bound ≤ s.lowNum + s.highNum then s
    else if (s.lowNum + s.highNum) * b < a * (s.lowDen + s.highDen) then
      narrow a b bound steps
        ⟨s.lowNum + s.highNum, s.lowDen + s.highDen, s.highNum, s.highDen⟩
    else
      narrow a b bound steps
        ⟨s.lowNum, s.lowDen, s.lowNum + s.highNum, s.lowDen + s.highDen⟩

variable {a b n k bound : ℕ} {s : Bracket}

lemma Around.narrow (h : s.Around a b) (bound steps : ℕ) :
    (s.narrow a b bound steps).Around a b := by
  induction steps generalizing s with
  | zero => exact h
  | succ steps ih =>
      rw [Bracket.narrow]
      split_ifs with hbound hmediant
      · exact h
      · refine ih ⟨hmediant, h.le_high, ?_⟩
        have hadjacent := h.adjacent
        dsimp only
        ring_nf at hadjacent ⊢
        omega
      · refine ih ⟨h.low_lt, ?_, ?_⟩
        · exact Nat.le_of_not_lt hmediant
        · have hadjacent := h.adjacent
          dsimp only
          ring_nf at hadjacent ⊢
          omega

/-- A fraction between neighbours has at least the numerator of their mediant. -/
lemma Around.add_le (h : s.Around a b) (hlow : s.lowNum * k < n * s.lowDen)
    (hhigh : n * s.highDen < s.highNum * k) : s.lowNum + s.highNum ≤ n := by
  have hadjacent := h.adjacent
  zify at hadjacent hlow hhigh ⊢
  have hn : (n : ℤ) = s.highNum * (n * s.lowDen - s.lowNum * k) +
      s.lowNum * (s.highNum * k - n * s.highDen) := by
    linear_combination (-(n : ℤ)) * hadjacent
  nlinarith

/-- A fraction that equals the upper neighbour is it, unless its numerator is twice as great. -/
lemma Around.eq_high (h : s.Around a b) (heq : s.highNum * k = n * s.highDen) (hpos : 0 < n)
    (hlt : n < 2 * s.highNum) : n = s.highNum ∧ k = s.highDen := by
  have hadjacent := h.adjacent
  have hdvd : s.highNum ∣ n := by
    zify at hadjacent heq ⊢
    exact ⟨n * s.lowDen - s.lowNum * k, by linear_combination s.lowNum * heq - n * hadjacent⟩
  obtain ⟨t, rfl⟩ := hdvd
  have ht : t = 1 := by
    have hlow := Nat.pos_of_mul_pos_left hpos
    have hhigh : t < 2 := by
      rw [Nat.mul_comm 2] at hlt
      exact Nat.lt_of_mul_lt_mul_left hlt
    omega
  have hnum : 0 < s.highNum := Nat.pos_of_mul_pos_right hpos
  rw [ht, Nat.mul_one] at heq ⊢
  exact ⟨rfl, Nat.eq_of_mul_eq_mul_left hnum heq⟩

end Bracket

/-! ### Numbers that are apart -/

/-- The two numbers are farther apart than `5 / 2 ^ 54` of the first one. -/
def Apart (u v : ℕ) : Prop := 2 ^ 54 * v + 5 * u < 2 ^ 54 * u ∨ 2 ^ 54 * u + 5 * u < 2 ^ 54 * v

instance (u v : ℕ) : Decidable (Apart u v) := inferInstanceAs (Decidable (_ ∨ _))

section Multiples

variable {a b n k bound : ℕ} {s : Bracket}

lemma apart_of_le_low (h : s.Around a b) (hgap : Apart (a * s.lowDen) (s.lowNum * b)) (hk : 0 < k)
    (hle : n * s.lowDen ≤ s.lowNum * k) : Apart (k * a) (n * b) := by
  have hlow := h.low_lt
  have hden : 0 < s.lowDen := by
    by_contra hzero
    rw [Nat.eq_zero_of_not_pos hzero] at hlow
    omega
  have hgap' : 2 ^ 54 * (s.lowNum * b) + 5 * (a * s.lowDen) < 2 ^ 54 * (a * s.lowDen) := by
    rw [Apart] at hgap
    omega
  refine Or.inl (Nat.lt_of_mul_lt_mul_right (a := s.lowDen) ?_)
  calc (2 ^ 54 * (n * b) + 5 * (k * a)) * s.lowDen
      = 2 ^ 54 * (n * s.lowDen * b) + 5 * (k * a) * s.lowDen := by ring
    _ ≤ 2 ^ 54 * (s.lowNum * k * b) + 5 * (k * a) * s.lowDen := by gcongr
    _ = k * (2 ^ 54 * (s.lowNum * b) + 5 * (a * s.lowDen)) := by ring
    _ < k * (2 ^ 54 * (a * s.lowDen)) := Nat.mul_lt_mul_of_pos_left hgap' hk
    _ = 2 ^ 54 * (k * a) * s.lowDen := by ring

lemma apart_of_high_le (h : s.Around a b) (hgap : Apart (a * s.highDen) (s.highNum * b))
    (hk : 0 < k) (hle : s.highNum * k ≤ n * s.highDen) : Apart (k * a) (n * b) := by
  have hhigh := h.le_high
  have hgap' : 2 ^ 54 * (a * s.highDen) + 5 * (a * s.highDen) < 2 ^ 54 * (s.highNum * b) := by
    rw [Apart] at hgap
    omega
  refine Or.inr (Nat.lt_of_mul_lt_mul_right (a := s.highDen) ?_)
  calc (2 ^ 54 * (k * a) + 5 * (k * a)) * s.highDen
      = k * (2 ^ 54 * (a * s.highDen) + 5 * (a * s.highDen)) := by ring
    _ < k * (2 ^ 54 * (s.highNum * b)) := Nat.mul_lt_mul_of_pos_left hgap' hk
    _ = 2 ^ 54 * (s.highNum * k * b) := by ring
    _ ≤ 2 ^ 54 * (n * s.highDen * b) := by gcongr
    _ = 2 ^ 54 * (n * b) * s.highDen := by ring

/-- A fraction strictly above the upper neighbour is at least the inverse of its denominator
above it. -/
lemma apart_of_high_lt (h : s.Around a b) (hden : 5 * s.highDen ≤ 2 ^ 28) (hn : n < 2 ^ 26)
    (hb : 0 < b) (hlt : s.highNum * k < n * s.highDen) : Apart (k * a) (n * b) := by
  have hhigh := h.le_high
  have hstep : k * a * s.highDen + b ≤ n * b * s.highDen := by
    calc k * a * s.highDen + b = k * (a * s.highDen) + b := by ring
      _ ≤ k * (s.highNum * b) + b := by gcongr
      _ = (s.highNum * k + 1) * b := by ring
      _ ≤ n * s.highDen * b := by gcongr; exact hlt
      _ = n * b * s.highDen := by ring
  have hsmall : 5 * (k * a * s.highDen) < 2 ^ 54 * b := by
    have hlt' : k * a < n * b := by
      refine Nat.lt_of_mul_lt_mul_right (a := s.highDen) ?_
      omega
    calc 5 * (k * a * s.highDen) = k * a * (5 * s.highDen) := by ring
      _ ≤ k * a * 2 ^ 28 := by gcongr
      _ < n * b * 2 ^ 28 := by gcongr
      _ ≤ 2 ^ 26 * b * 2 ^ 28 := by gcongr
      _ = 2 ^ 54 * b := by ring
  refine Or.inr (Nat.lt_of_mul_lt_mul_right (a := s.highDen) ?_)
  calc (2 ^ 54 * (k * a) + 5 * (k * a)) * s.highDen
      = 2 ^ 54 * (k * a * s.highDen) + 5 * (k * a * s.highDen) := by ring
    _ < 2 ^ 54 * (k * a * s.highDen) + 2 ^ 54 * b := by gcongr
    _ = 2 ^ 54 * (k * a * s.highDen + b) := by ring
    _ ≤ 2 ^ 54 * (n * b * s.highDen) := by gcongr
    _ = 2 ^ 54 * (n * b) * s.highDen := by ring

/-- Different multiples of a common unit are apart if the unit is great enough. -/
lemma apart_of_gcd (hgcd : 5 * b ≤ 2 ^ 27 * Nat.gcd a b) (hn : n < 2 ^ 26)
    (hne : k * a ≠ n * b) : Apart (k * a) (n * b) := by
  obtain ⟨u, hu⟩ : Nat.gcd a b ∣ k * a := (Nat.gcd_dvd_left a b).mul_left k
  obtain ⟨v, hv⟩ : Nat.gcd a b ∣ n * b := (Nat.gcd_dvd_right a b).mul_left n
  have hsmall : 5 * (n * b) ≤ 2 ^ 53 * Nat.gcd a b := by
    calc 5 * (n * b) = n * (5 * b) := by ring
      _ ≤ 2 ^ 26 * (2 ^ 27 * Nat.gcd a b) := by gcongr
      _ = 2 ^ 53 * Nat.gcd a b := by ring
  rw [hu, hv] at hne ⊢
  rw [hv] at hsmall
  generalize Nat.gcd a b = unit at hne hsmall ⊢
  obtain hlt | hlt := Nat.lt_or_gt_of_ne hne
  · have hstep : unit * u + unit ≤ unit * v := by
      rw [← Nat.mul_succ]
      exact Nat.mul_le_mul_left unit (Nat.lt_of_mul_lt_mul_left hlt)
    exact Or.inr (by omega)
  · have hstep : unit * v + unit ≤ unit * u := by
      rw [← Nat.mul_succ]
      exact Nat.mul_le_mul_left unit (Nat.lt_of_mul_lt_mul_left hlt)
    exact Or.inl (by omega)

end Multiples

/-! ### The power of ten of an exponent -/

/-- The exponent of the least power of ten that is not less than the power of two with the given
exponent. -/
def decimalStep (e : ℤ) : ℤ := -((-e * 30103) / 100000)

/-- Half the power of two with the given exponent, in a common unit with the power of ten. -/
def binaryUnit (e : ℤ) : ℕ := (Magnitude.scales ⟨1, e + 1⟩ (decimalStep e)).1

/-- The power of ten in that unit. -/
def decimalUnit (e : ℤ) : ℕ := (Magnitude.scales ⟨1, e + 1⟩ (decimalStep e)).2

lemma units_eq (e : ℤ) : ∃ unit : ℚ, 0 < unit ∧ (binaryUnit e : ℚ) = unit * 2 ^ (e - 1) ∧
    (decimalUnit e : ℚ) = unit * 10 ^ decimalStep e := by
  obtain ⟨unit, hunit, hbinary, hdecimal⟩ := Magnitude.scales_eq ⟨1, e + 1⟩ (decimalStep e)
  refine ⟨unit, hunit, ?_, hdecimal⟩
  rw [binaryUnit, hbinary]
  congr 2
  ring

/-- The neighbours of the quotient of the two powers. -/
def neighbours (e : ℤ) : Bracket :=
  Bracket.narrow (decimalUnit e) (binaryUnit e) (2 ^ 25 + 3) 1400 {}

/-- The one pair of a middle and a multiple of the power of ten that are different but not apart. -/
def ClosePair (e : ℤ) (n k : ℕ) : Prop := e = -107 ∧ n = 22841339 ∧ k = 7038531

instance (e : ℤ) (n k : ℕ) : Decidable (ClosePair e n k) := inferInstanceAs (Decidable (_ ∧ _))

/-- Why multiples of the two powers are the same or apart: the powers are small and have a great
common unit, or the neighbours of their quotient are apart from it. -/
def Separated (e : ℤ) : Prop :=
  e.natAbs ≤ 45 ∧ 5 * binaryUnit e ≤ 2 ^ 27 * Nat.gcd (decimalUnit e) (binaryUnit e) ∨
  2 ^ 25 + 3 ≤ (neighbours e).lowNum + (neighbours e).highNum ∧
    Apart (decimalUnit e * (neighbours e).lowDen) ((neighbours e).lowNum * binaryUnit e) ∧
    (Apart (decimalUnit e * (neighbours e).highDen) ((neighbours e).highNum * binaryUnit e) ∨
      ClosePair e (neighbours e).highNum (neighbours e).highDen)

instance (e : ℤ) : Decidable (Separated e) := inferInstanceAs (Decidable (_ ∨ _))

lemma separated_of_lt : ∀ i : ℕ, i < 254 → Separated ((i : ℤ) - 149) := by decide +kernel

/-- The next smaller power of ten is less than the power of two, in natural numbers. -/
def StepBelow (e : ℤ) : Prop :=
  2 ^ 20 * (Nat.pow 10 (decimalStep e - 1).toNat * Nat.pow 2 (-e).toNat) ≤
    (2 ^ 20 - 1) * (Nat.pow 2 e.toNat * Nat.pow 10 (-(decimalStep e - 1)).toNat)

instance (e : ℤ) : Decidable (StepBelow e) := inferInstanceAs (Decidable (_ ≤ _))

lemma stepBelow_of_lt : ∀ i : ℕ, i < 254 → StepBelow ((i : ℤ) - 149) := by decide +kernel

section Exponents

variable {e : ℤ} (hleast : -149 ≤ e) (hgreatest : e ≤ 104)
include hleast hgreatest

lemma separated : Separated e := by
  have h := separated_of_lt (e + 149).toNat (by omega)
  rwa [Int.toNat_of_nonneg (by omega), add_sub_cancel_right] at h

/-- A multiple of the power of ten and a multiple of half the power of two are apart, or the same
while both powers are small, or they are the one close pair. -/
theorem apart_or_eq {n k : ℕ} (hn : n < 2 ^ 25 + 3) (hpos : 0 < n) (hk : 0 < k) :
    Apart (k * decimalUnit e) (n * binaryUnit e) ∨
      k * decimalUnit e = n * binaryUnit e ∧ e.natAbs ≤ 45 ∨ ClosePair e n k := by
  obtain ⟨unit, hunit, hbinary, hdecimal⟩ := units_eq e
  have hbinary' : 0 < binaryUnit e := by
    have h : (0 : ℚ) < binaryUnit e := hbinary ▸ mul_pos hunit (two_zpow_pos _)
    exact_mod_cast h
  have hdecimal' : 0 < decimalUnit e := by
    have h : (0 : ℚ) < decimalUnit e := hdecimal ▸ mul_pos hunit (ten_zpow_pos _)
    exact_mod_cast h
  have haround : (neighbours e).Around (decimalUnit e) (binaryUnit e) := by
    refine Bracket.Around.narrow ⟨?_, ?_, ?_⟩ _ _ <;> simp [hdecimal']
  obtain ⟨hsmall, hgcd⟩ | ⟨hbound, hlow, hhigh⟩ := separated hleast hgreatest
  · by_cases heq : k * decimalUnit e = n * binaryUnit e
    · exact Or.inr (Or.inl ⟨heq, hsmall⟩)
    · exact Or.inl (apart_of_gcd hgcd (hn.trans (by decide)) heq)
  · by_cases hbelow : n * (neighbours e).lowDen ≤ (neighbours e).lowNum * k
    · exact Or.inl (apart_of_le_low haround hlow hk hbelow)
    · have habove : (neighbours e).highNum * k ≤ n * (neighbours e).highDen := by
        by_contra hbetween
        have hle := haround.add_le (Nat.lt_of_not_le hbelow) (Nat.lt_of_not_le hbetween)
        omega
      obtain hhigh | ⟨he, hnum, hden⟩ := hhigh
      · exact Or.inl (apart_of_high_le haround hhigh hk habove)
      · obtain hlt | heq := Nat.lt_or_eq_of_le habove
        · exact Or.inl
            (apart_of_high_lt haround (hden ▸ by decide) (hn.trans (by decide)) hbinary' hlt)
        · obtain ⟨rfl, rfl⟩ := haround.eq_high heq hpos (hnum ▸ hn.trans (by decide))
          exact Or.inr (Or.inr ⟨he, hnum, hden⟩)

/-- What `apart_or_eq` says, about rational numbers. -/
theorem separation {n k : ℕ} (hn : n < 2 ^ 25 + 3) (hpos : 0 < n) (hk : 0 < k) :
    5 / 2 ^ 54 * ((k : ℚ) * 10 ^ decimalStep e) <
        |(k : ℚ) * 10 ^ decimalStep e - n * 2 ^ (e - 1)| ∨
      (k : ℚ) * 10 ^ decimalStep e = n * 2 ^ (e - 1) ∧ e.natAbs ≤ 45 ∨ ClosePair e n k := by
  obtain ⟨unit, hunit, hbinary, hdecimal⟩ := units_eq e
  have hk' : ((k * decimalUnit e : ℕ) : ℚ) = unit * (k * 10 ^ decimalStep e) := by
    rw [Nat.cast_mul, hdecimal]
    ring
  have hn' : ((n * binaryUnit e : ℕ) : ℚ) = unit * (n * 2 ^ (e - 1)) := by
    rw [Nat.cast_mul, hbinary]
    ring
  obtain hapart | ⟨heq, hsmall⟩ | hclose := apart_or_eq hleast hgreatest hn hpos hk
  · refine Or.inl ?_
    rw [lt_abs]
    refine hapart.imp (fun h => ?_) (fun h => ?_) <;>
    · have h' := (Nat.cast_lt (α := ℚ)).mpr h
      simp only [Nat.cast_add, Nat.cast_mul (2 ^ 54), Nat.cast_mul 5, hk', hn'] at h'
      push_cast at h'
      refine lt_of_mul_lt_mul_left ?_ hunit.le
      linarith
  · refine Or.inr (Or.inl ⟨?_, hsmall⟩)
    rw [← Nat.cast_inj (R := ℚ), hk', hn'] at heq
    exact mul_left_cancel₀ hunit.ne' heq
  · exact Or.inr (Or.inr hclose)

/-- The next smaller power of ten is less than the power of two by a part of it that is much greater
than the error of reading. -/
lemma ten_zpow_decimalStep_sub_one_le :
    (10 : ℚ) ^ (decimalStep e - 1) ≤ (1 - 2 ^ (-20 : ℤ)) * 2 ^ e := by
  have h := stepBelow_of_lt (e + 149).toNat (by omega)
  rw [Int.toNat_of_nonneg (by omega), add_sub_cancel_right] at h
  have h' := (Nat.cast_le (α := ℚ)).mpr h
  rw [zpow_eq_div 10, zpow_eq_div 2 e, mul_div_assoc', div_le_div_iff₀ (by positivity)
    (by positivity)]
  simp only [Nat.pow_eq] at h'
  push_cast at h'
  norm_num at h' ⊢
  linarith

end Exponents

end Scratchpad
