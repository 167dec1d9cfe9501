/-
The comparison of beginnings up to the case of the letters A to Z, as a prefix relation.

* `Text.folded`: the bytes of a text with those of capital letters made small.
* `Text.startsWithIgnoringCase_iff`: the comparison is the prefix relation on folded bytes.
* `Text.utf8_prefix_iff`: bytes begin with those of a text exactly when the characters do, since
  no character is stored as the beginning of another one.
* `Text.startsWithIgnoringCase_iff_toLower`: so the comparison is the prefix relation on characters,
  those of the letters A to Z made small.
* `Text.startsWithIgnoringCase_of_prefix`: what begins with a text begins with every
  beginning of that text.
* `EqIgnoringCase`: two characters are the same up to the case of the letters A to Z, said without
  bytes. `Text.startsWithIgnoringCase_by_characters`: the comparison of bytes compares the
  characters place by place, and the bytes it looks at are those of whole characters.
-/
import Mathlib.Tactic
import Scratchpad.Proofs.Text.Bytes

namespace Scratchpad

namespace Text

/-- The stored bytes, those of the letters A to Z made small. -/
def folded (t : Text) : List UInt8 := t.utf8.map lowerByte

lemma length_folded (t : Text) : t.folded.length = t.utf8.length := List.length_map _

lemma folded_append (s t : Text) : folded (s ++ t) = folded s ++ folded t := by
  rw [folded, utf8_append, List.map_append, folded, folded]

/-- The comparison asks for a prefix of the folded bytes. -/
lemma startsWithIgnoringCase_iff {text start : Text} :
    text.startsWithIgnoringCase start = true ↔ start.folded <+: text.folded := by
  rw [startsWithIgnoringCase, Bool.and_eq_true, decide_eq_true_eq, beq_iff_eq,
    List.prefix_iff_eq_take, length_folded, folded, folded, ← List.map_take]
  constructor
  · rintro ⟨-, h⟩
    exact h.symm
  · intro h
    have hle := congrArg List.length h
    rw [List.length_map, List.length_map, List.length_take] at hle
    exact ⟨by omega, h.symm⟩

/-! ### Characters -/

/-- UTF-8 is a prefix code. -/
lemma utf8EncodeChar_append_inj {c d : Char} {bs cs : List UInt8}
    (h : String.utf8EncodeChar c ++ bs = String.utf8EncodeChar d ++ cs) : c = d ∧ bs = cs := by
  have hdecode :
      ((String.utf8EncodeChar c).toByteArray ++ bs.toByteArray).utf8DecodeChar? 0 = some c :=
    ByteArray.utf8DecodeChar?_utf8EncodeChar_append
  rw [← List.toByteArray_append, h, List.toByteArray_append,
    ByteArray.utf8DecodeChar?_utf8EncodeChar_append] at hdecode
  obtain rfl := Option.some.inj hdecode
  exact ⟨rfl, List.append_cancel_left h⟩

/-- The bytes of a text begin with those of another one where the characters do. -/
lemma utf8_prefix_iff {s t : Text} : s.utf8 <+: t.utf8 ↔ s <+: t := by
  constructor
  · intro h
    induction s generalizing t with
    | nil => exact List.nil_prefix
    | cons c s ih =>
        obtain ⟨r, hr⟩ := h
        cases t with
        | nil => simp [utf8, String.utf8EncodeChar_ne_nil] at hr
        | cons d t =>
            rw [utf8_cons, utf8_cons, List.append_assoc] at hr
            obtain ⟨rfl, hrest⟩ := utf8EncodeChar_append_inj hr
            exact List.cons_prefix_cons.mpr ⟨rfl, ih ⟨r, hrest⟩⟩
  · rintro ⟨r, rfl⟩
    exact ⟨utf8 r, (utf8_append s r).symm⟩

lemma lowerByte_ofNat {n : ℕ} (hlt : n < 256) (h : ¬ (65 ≤ n ∧ n ≤ 90)) :
    lowerByte (UInt8.ofNat n) = UInt8.ofNat n := by
  rw [lowerByte, if_neg]
  rw [UInt8.le_iff_toNat_le, UInt8.le_iff_toNat_le, UInt8.toNat_ofNat', Nat.mod_eq_of_lt hlt]
  exact h

lemma toLower_of_not_capital {c : Char} (h : ¬ (65 ≤ c.toNat ∧ c.toNat ≤ 90)) :
    c.toLower = c := by
  refine dif_neg ?_
  rwa [ge_iff_le, UInt32.le_iff_toNat_le, UInt32.le_iff_toNat_le]

lemma map_lowerByte_of_capital : ∀ n < 91, 65 ≤ n →
    (String.utf8EncodeChar (Char.ofNat n)).map lowerByte =
      String.utf8EncodeChar (Char.ofNat n).toLower := by
  decide

/-- The bytes that are made small are those of the letters A to Z: all bytes of a character beyond
ASCII lie above them. -/
lemma map_lowerByte_utf8EncodeChar (c : Char) :
    (String.utf8EncodeChar c).map lowerByte = String.utf8EncodeChar c.toLower := by
  by_cases hcapital : 65 ≤ c.toNat ∧ c.toNat ≤ 90
  · rw [← Char.ofNat_toNat c]
    exact map_lowerByte_of_capital c.toNat (by omega) hcapital.1
  · have hcode : c.val.toNat = c.toNat := rfl
    rw [toLower_of_not_capital hcapital, String.utf8EncodeChar, hcode]
    split_ifs <;>
      simp (disch := omega) only [List.map_cons, List.map_nil, lowerByte_ofNat]

/-- The folded bytes are those of the characters in small letters. -/
lemma folded_eq (t : Text) : t.folded = utf8 (t.map Char.toLower) := by
  simp only [folded, utf8, List.map_flatMap, List.flatMap_map, map_lowerByte_utf8EncodeChar]

/-- The comparison asks for a prefix of the characters in small letters. -/
lemma startsWithIgnoringCase_iff_toLower {text start : Text} :
    text.startsWithIgnoringCase start = true ↔
      start.map Char.toLower <+: text.map Char.toLower := by
  rw [startsWithIgnoringCase_iff, folded_eq, folded_eq, utf8_prefix_iff]

/-! ### Beginnings -/

/-- A text that begins with `t` begins with every beginning of `t`. -/
lemma startsWithIgnoringCase_of_prefix {text s t : Text} (hst : s <+: t)
    (h : text.startsWithIgnoringCase t) : text.startsWithIgnoringCase s := by
  obtain ⟨r, rfl⟩ := hst
  rw [startsWithIgnoringCase_iff, folded_append] at h
  rw [startsWithIgnoringCase_iff]
  exact (List.prefix_append _ _).trans h

end Text

/-! ### Character by character -/

/-- A letter of A to Z and the small letter that belongs to it. -/
def IsCapitalOf (capital small : Char) : Prop :=
  65 ≤ capital.toNat ∧ capital.toNat ≤ 90 ∧ small.toNat = capital.toNat + 32

/-- The same character, up to the case of the letters A to Z. -/
def EqIgnoringCase (c d : Char) : Prop := c = d ∨ IsCapitalOf c d ∨ IsCapitalOf d c

section Characters

variable {c d : Char} {text start : Text}

lemma toNat_toLower_of_capital :
    ∀ n < 91, 65 ≤ n → (Char.ofNat n).toLower.toNat = n + 32 := by
  decide

lemma toNat_toLower (c : Char) :
    c.toLower.toNat = if 65 ≤ c.toNat ∧ c.toNat ≤ 90 then c.toNat + 32 else c.toNat := by
  split
  · next h =>
      have hlower := toNat_toLower_of_capital c.toNat (by omega) h.1
      rwa [Char.ofNat_toNat] at hlower
  · next h => rw [Text.toLower_of_not_capital h]

/-- The same characters are those with the same small letter. -/
lemma eqIgnoringCase_iff : EqIgnoringCase c d ↔ c.toLower = d.toLower := by
  rw [EqIgnoringCase, IsCapitalOf, IsCapitalOf, ← Char.toNat_inj, ← Char.toNat_inj, toNat_toLower,
    toNat_toLower]
  split_ifs <;> omega

/-- Beyond ASCII a character is the same as itself only. -/
lemma EqIgnoringCase.eq_of_wide (h : EqIgnoringCase c d) (hwide : 128 ≤ c.toNat ∨ 128 ≤ d.toNat) :
    c = d := by
  obtain heq | hcapital | hcapital := h
  · exact heq
  · rw [IsCapitalOf] at hcapital
    omega
  · rw [IsCapitalOf] at hcapital
    omega

namespace Text

/-- A prefix of small letters is one place by place. -/
lemma map_toLower_prefix_iff :
    start.map Char.toLower <+: text.map Char.toLower ↔
      start.length ≤ text.length ∧
        ∀ (i : ℕ) (c d : Char), start[i]? = some c → text[i]? = some d → EqIgnoringCase c d := by
  rw [List.prefix_iff_getElem]
  simp only [List.length_map, List.getElem_map, ← eqIgnoringCase_iff]
  constructor
  · rintro ⟨hle, hsame⟩
    refine ⟨hle, fun i c d hc hd => ?_⟩
    obtain ⟨hi, rfl⟩ := List.getElem?_eq_some_iff.mp hc
    obtain ⟨-, rfl⟩ := List.getElem?_eq_some_iff.mp hd
    exact hsame i hi
  · rintro ⟨hle, hsame⟩
    exact ⟨hle, fun i hi => hsame i _ _ (List.getElem?_eq_getElem hi)
      (List.getElem?_eq_getElem (hi.trans_le hle))⟩

/-- The bytes of a beginning, up to case, are as many as those of the characters that it has. -/
lemma length_utf8_eq_byteIndex (h : start.map Char.toLower <+: text.map Char.toLower) :
    start.utf8.length = text.byteIndex start.length := by
  have htake : start.map Char.toLower = (text.take start.length).map Char.toLower := by
    rw [List.map_take, ← List.length_map Char.toLower]
    exact List.prefix_iff_eq_take.mp h
  calc start.utf8.length
      = (utf8 (start.map Char.toLower)).length := by rw [← folded_eq, length_folded]
    _ = (utf8 (text.take start.length)).length := by rw [htake, ← folded_eq, length_folded]
    _ = text.byteIndex start.length := length_utf8 _

/-- **Character by character**: the bytes of a text begin with those of another one, up to the case
of the letters A to Z, exactly if this is so of the characters, place by place. The bytes that are
compared are then those of whole characters, as many as the other text has, and characters beyond
ASCII are the same. -/
theorem startsWithIgnoringCase_by_characters (text start : Text) :
    (text.startsWithIgnoringCase start = true ↔
      start.length ≤ text.length ∧
        ∀ (i : ℕ) (c d : Char), start[i]? = some c → text[i]? = some d → EqIgnoringCase c d) ∧
    (text.startsWithIgnoringCase start = true →
      start.utf8.length = text.byteIndex start.length ∧ IsCut text.utf8 start.utf8.length ∧
        ∀ (i : ℕ) (c d : Char), start[i]? = some c → text[i]? = some d →
          128 ≤ c.toNat ∨ 128 ≤ d.toNat → c = d) := by
  have hiff : text.startsWithIgnoringCase start = true ↔
      start.map Char.toLower <+: text.map Char.toLower :=
    startsWithIgnoringCase_iff_toLower
  refine ⟨hiff.trans map_toLower_prefix_iff, fun h => ?_⟩
  have hprefix := hiff.mp h
  have hlength := length_utf8_eq_byteIndex hprefix
  refine ⟨hlength, hlength ▸ isCut_byteIndex text start.length, fun i c d hc hd hwide => ?_⟩
  exact ((map_toLower_prefix_iff.mp hprefix).2 i c d hc hd).eq_of_wide hwide

/-- `GRÖ` is compared with the first four bytes of `grÖße`; with a small `ö` the answer is no. -/
theorem startsWithIgnoringCase_by_characters_of_wide_letters :
    let text : Text := "grÖße".toList
    let start : Text := "GRÖ".toList
    text.startsWithIgnoringCase start = true ∧
      (start.length ≤ text.length ∧
        ∀ (i : ℕ) (c d : Char), start[i]? = some c → text[i]? = some d → EqIgnoringCase c d) ∧
      start.utf8.length = 4 ∧ text.byteIndex 3 = 4 ∧ IsCut text.utf8 4 ∧
      startsWithIgnoringCase "größe".toList start = false := by
  intro text start
  have htrue : text.startsWithIgnoringCase start = true := by decide +kernel
  have hbytes : start.utf8.length = 4 := by decide +kernel
  obtain ⟨hiff, hwhole⟩ := startsWithIgnoringCase_by_characters text start
  obtain ⟨hlength, hcut, -⟩ := hwhole htrue
  exact ⟨htrue, hiff.mp htrue, hbytes, hlength ▸ hbytes, hbytes ▸ hcut, by decide +kernel⟩

/-- The comparison with `e` cuts through the bytes of `é`, and fails. -/
example : ¬ IsCut (utf8 ['é']) (utf8 ['e']).length ∧
    startsWithIgnoringCase ['é'] ['e'] = false := by
  refine ⟨fun hcut => ?_, by decide +kernel⟩
  obtain hzero | ⟨hle, -⟩ := isCut_utf8_cons.mp hcut
  · exact absurd hzero (by decide)
  · exact absurd hle (by decide)

end Text

end Characters

end Scratchpad
