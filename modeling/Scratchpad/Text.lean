/-
Texts as lists of characters, with positions counted in characters.

* `Text.utf8`, `Text.byteIndex`: the bytes a text is stored as, and the byte at
  which the character of a given position starts.
* `Text.beforeByte`, `Text.fromByte`, `Text.IsBoundary`: cutting a text at a
  byte; a byte index is a boundary when a character starts or the text ends
  there. `beforeByte_byteIndex` and `fromByte_byteIndex` say that a cut at a
  `byteIndex` is the cut at the character it belongs to.
* `Text.ofUtf8?`: the text that bytes stand for.
* `Text.splitAtChar`, `Text.segments`: the parts of a text between the places of
  a character, and its lines.
* `Text.startsWithIgnoringCase`: a comparison of the stored bytes that does not
  tell the cases of the letters A to Z apart.
-/

namespace Scratchpad

/-- A text is the list of its characters; positions in it count characters. -/
abbrev Text := List Char

namespace Text

/-! ### Bytes -/

/-- The bytes a text is stored as. -/
def utf8 (t : Text) : List UInt8 := t.flatMap String.utf8EncodeChar

/-- The number of bytes a text is stored in. -/
def byteLength : Text → Nat
  | [] => 0
  | c :: rest => c.utf8Size + byteLength rest

/-- The byte at which the character at `offset` starts, or the byte length of
the text when there is no such character. -/
def byteIndex (t : Text) (offset : Nat) : Nat := byteLength (t.take offset)

/-- A byte index that does not lie inside a character. -/
def IsBoundary (t : Text) (i : Nat) : Prop := ∃ offset, t.byteIndex offset = i

/-- The characters that lie wholly before byte `i`. -/
def beforeByte : Text → Nat → Text
  | [], _ => []
  | c :: rest, i => if c.utf8Size ≤ i then c :: beforeByte rest (i - c.utf8Size) else []

/-- The characters that do not lie wholly before byte `i`. -/
def fromByte : Text → Nat → Text
  | [], _ => []
  | c :: rest, i => if c.utf8Size ≤ i then fromByte rest (i - c.utf8Size) else c :: rest

@[simp] theorem byteLength_nil : byteLength [] = 0 := rfl

@[simp] theorem byteLength_cons (c : Char) (t : Text) :
    byteLength (c :: t) = c.utf8Size + byteLength t := rfl

@[simp] theorem byteIndex_zero (t : Text) : t.byteIndex 0 = 0 := rfl

@[simp] theorem byteIndex_nil (n : Nat) : byteIndex [] n = 0 := by simp [byteIndex]

@[simp] theorem byteIndex_cons_succ (c : Char) (t : Text) (n : Nat) :
    byteIndex (c :: t) (n + 1) = c.utf8Size + t.byteIndex n := rfl

/-- Cutting at the byte of a character keeps the characters before it. -/
@[simp] theorem beforeByte_byteIndex (t : Text) (n : Nat) :
    t.beforeByte (t.byteIndex n) = t.take n := by
  induction t generalizing n with
  | nil => simp [beforeByte]
  | cons c rest ih =>
    cases n with
    | zero =>
      have := c.utf8Size_pos
      simp [beforeByte, show ¬ c.utf8Size ≤ 0 by omega]
    | succ n => simp [beforeByte, ih]

/-- Cutting at the byte of a character leaves that character and the rest. -/
@[simp] theorem fromByte_byteIndex (t : Text) (n : Nat) :
    t.fromByte (t.byteIndex n) = t.drop n := by
  induction t generalizing n with
  | nil => simp [fromByte]
  | cons c rest ih =>
    cases n with
    | zero =>
      have := c.utf8Size_pos
      simp [fromByte, show ¬ c.utf8Size ≤ 0 by omega]
    | succ n => simp [fromByte, ih]

/-- Later characters start at later bytes. -/
theorem byteIndex_mono (t : Text) {m n : Nat} (h : m ≤ n) : t.byteIndex m ≤ t.byteIndex n := by
  induction t generalizing m n with
  | nil => simp
  | cons c rest ih =>
    cases m with
    | zero => simp
    | succ m =>
      cases n with
      | zero => omega
      | succ n => simpa using ih (by omega)

/-! ### Parts -/

/-- The parts of a text between the places of a character; there is always at least
one. -/
def splitAtChar (separator : Char) : Text → List Text
  | [] => [[]]
  | c :: rest =>
    if c = separator then [] :: splitAtChar separator rest
    else match splitAtChar separator rest with
      | [] => [[c]]
      | first :: others => (c :: first) :: others

/-- The lines of a text, the parts between its newlines. -/
def segments (t : Text) : List Text := splitAtChar '\n' t

theorem splitAtChar_ne_nil (separator : Char) (t : Text) : splitAtChar separator t ≠ [] := by
  cases t with
  | nil => simp [splitAtChar]
  | cons c rest =>
    rw [splitAtChar]
    split
    · simp
    · split <;> simp

/-- The characters of the bytes in `bytes`, if these are the bytes of a text. -/
def ofUtf8? (bytes : ByteArray) : Option Text := (String.fromUTF8? bytes).map String.toList

/-! ### Comparison without regard to case -/

/-- The byte of a letter A to Z becomes that of the small letter. -/
def lowerByte (b : UInt8) : UInt8 := if 65 ≤ b ∧ b ≤ 90 then b + 32 else b

/-- Whether the bytes of `text` begin with those of `start`, up to the case of
the letters A to Z. -/
def startsWithIgnoringCase (text start : Text) : Bool :=
  decide (start.utf8.length ≤ text.utf8.length) &&
    (text.utf8.take start.utf8.length).map lowerByte == start.utf8.map lowerByte

end Text

end Scratchpad
