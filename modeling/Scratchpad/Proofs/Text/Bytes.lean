/-
Cutting a text at a byte, seen from the stored bytes.

* `Text.take_utf8_byteIndex`, `Text.drop_utf8_byteIndex`: the bytes before the byte at which a
  character starts are those of the characters before it, and the rest are those of the rest.
* `Text.IsCut`: a place where bytes may be cut without cutting through a character, said of the
  bytes alone. `Text.isBoundary_iff_isCut`: for the bytes of a text these places are its boundaries.
-/
import Mathlib.Tactic
import Scratchpad.Text

namespace Scratchpad

namespace Text

variable {t : Text} {i n : ℕ}

/-! ### Parts of the bytes -/

@[simp] lemma utf8_nil : utf8 [] = [] := rfl

lemma utf8_cons (c : Char) (t : Text) : utf8 (c :: t) = String.utf8EncodeChar c ++ t.utf8 := rfl

lemma utf8_append (s t : Text) : utf8 (s ++ t) = s.utf8 ++ t.utf8 := List.flatMap_append

/-- The bytes that are counted are those that are stored. -/
@[simp] lemma length_utf8 (t : Text) : t.utf8.length = t.byteLength := by
  induction t with
  | nil => rfl
  | cons c rest ih =>
      rw [utf8_cons, List.length_append, String.length_utf8EncodeChar, ih, byteLength_cons]

lemma utf8_take_append_utf8_drop (t : Text) (n : ℕ) :
    utf8 (t.take n) ++ utf8 (t.drop n) = t.utf8 := by
  rw [← utf8_append, List.take_append_drop]

/-- The bytes in front of a character are those of the characters in front of it. -/
lemma take_utf8_byteIndex (t : Text) (n : ℕ) : t.utf8.take (t.byteIndex n) = utf8 (t.take n) := by
  rw [← utf8_take_append_utf8_drop t n, List.take_left']
  exact length_utf8 _

/-- The bytes from a character on are those of the characters from it on. -/
lemma drop_utf8_byteIndex (t : Text) (n : ℕ) : t.utf8.drop (t.byteIndex n) = utf8 (t.drop n) := by
  rw [← utf8_take_append_utf8_drop t n, List.drop_left']
  exact length_utf8 _

/-! ### Boundaries -/

/-- A place where bytes may be cut: their end, or a byte that is the first one of a character. -/
def IsCut (bytes : List UInt8) (i : ℕ) : Prop :=
  i = bytes.length ∨ ∃ b, bytes[i]? = some b ∧ b.IsUTF8FirstByte

/-- Of the bytes of a character only the first one looks like a first one. -/
lemma isCut_utf8_cons {c : Char} :
    IsCut (utf8 (c :: t)) i ↔ i = 0 ∨ c.utf8Size ≤ i ∧ IsCut t.utf8 (i - c.utf8Size) := by
  have hpos := c.utf8Size_pos
  have hsize := String.length_utf8EncodeChar c
  rcases Nat.lt_or_ge i c.utf8Size with hlt | hge
  · have hlt' : i < (String.utf8EncodeChar c).length := hsize ▸ hlt
    have hend : i ≠ (utf8 (c :: t)).length := by
      rw [length_utf8, byteLength_cons]
      omega
    rw [IsCut, or_iff_right hend, utf8_cons, List.getElem?_append_left hlt',
      List.getElem?_eq_getElem hlt']
    simp [UInt8.isUTF8FirstByte_getElem_utf8EncodeChar, hlt]
  · have hend : i = (utf8 (c :: t)).length ↔ i - c.utf8Size = t.utf8.length := by
      rw [length_utf8, length_utf8, byteLength_cons]
      omega
    rw [IsCut, hend, utf8_cons, List.getElem?_append_right (hsize ▸ hge), hsize,
      or_iff_right (by omega : i ≠ 0), and_iff_right hge, IsCut]

lemma isBoundary_cons {c : Char} :
    IsBoundary (c :: t) i ↔ i = 0 ∨ c.utf8Size ≤ i ∧ IsBoundary t (i - c.utf8Size) := by
  constructor
  · rintro ⟨n, rfl⟩
    cases n with
    | zero => exact .inl rfl
    | succ n => exact .inr ⟨by simp, n, by simp⟩
  · rintro (rfl | ⟨hle, n, hn⟩)
    · exact ⟨0, rfl⟩
    · exact ⟨n + 1, by rw [byteIndex_cons_succ, hn, Nat.add_sub_cancel' hle]⟩

/-- The places where a character starts, and the end, can be told from the bytes alone. -/
lemma isBoundary_iff_isCut : t.IsBoundary i ↔ IsCut t.utf8 i := by
  induction t generalizing i with
  | nil => simp [IsBoundary, IsCut, eq_comm]
  | cons c rest ih => rw [isBoundary_cons, isCut_utf8_cons, ih]

/-- The byte at which a character starts is a place to cut. -/
lemma isCut_byteIndex (t : Text) (n : ℕ) : IsCut t.utf8 (t.byteIndex n) :=
  isBoundary_iff_isCut.mp ⟨n, rfl⟩

end Text

end Scratchpad
