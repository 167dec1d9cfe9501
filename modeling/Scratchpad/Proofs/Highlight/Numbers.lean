/-
The colours of numbers.

A run of digits has the colour of numbers, and so would a word of digits and points. But there is no
point in a word: it ends the word in front of it and is a token for itself. So a decimal number is
coloured in three parts, of which the middle one, the point, is plain.

* `highlight_word_append`: a word is a token for itself where nothing continues it.
* `ofWord_of_isDigits`: digits make a number.
* `IsLines`, `IsLines.highlight_append`: what is coloured behind whole lines is coloured as if it
  stood alone.
* `Token.Covers`, `tokenAt?`: the token that a character belongs to.
* `highlight_decimal`: the three parts of a decimal number; `not_forall_decimal_coloured` shows that
  they do not all have the colour of numbers.
-/
import Mathlib.Tactic
import Scratchpad.Proofs.Highlight.Lines

namespace Scratchpad

variable {rest : Text}

/-! ### A word and a single character -/

/-- Word characters go on with a word that is pending. -/
lemma Pending.tokens_word_append {u : Text} (hu : ∀ c ∈ u, isWordChar c = true) (t : Text) :
    (word t).tokens (u ++ rest) = (word (t ++ u)).tokens rest := by
  induction u generalizing t with
  | nil => rw [List.nil_append, List.append_nil]
  | cons c u ih =>
      rw [List.forall_mem_cons] at hu
      rw [List.cons_append, tokens, step, if_pos hu.1, List.nil_append, ih hu.2,
        List.append_assoc, List.singleton_append]

/-- A pending word ends where no word character follows. -/
lemma Pending.tokens_word {t : Text} (hrest : ∀ c ∈ rest.head?, isWordChar c = false) :
    (word t).tokens rest = ⟨t, .ofWord t⟩ :: highlight rest := by
  cases rest with
  | nil => rfl
  | cons c rest =>
      have hc : isWordChar c = false := hrest c rfl
      rw [tokens, step, if_neg (by simp [hc])]
      rfl

/-- A word that nothing continues is a token. -/
lemma highlight_word_append {w : Text} (hne : w ≠ []) (hw : ∀ c ∈ w, isWordChar c = true)
    (hrest : ∀ c ∈ rest.head?, isWordChar c = false) :
    highlight (w ++ rest) = ⟨w, .ofWord w⟩ :: highlight rest := by
  obtain ⟨c, u, rfl⟩ := List.exists_cons_of_ne_nil hne
  rw [List.forall_mem_cons] at hw
  rw [List.cons_append, highlight, Pending.tokens, Pending.step, Pending.start, if_pos hw.1,
    List.nil_append, Pending.tokens_word_append hw.2, Pending.tokens_word hrest]
  rfl

/-- A character that is no part of a longer token is a token. -/
lemma highlight_single_cons {c : Char} (hword : isWordChar c = false) (hquote : isQuote c = false)
    (hminus : c ≠ '-') : highlight (c :: rest) = ⟨[c], .plain⟩ :: highlight rest := by
  rw [highlight, Pending.tokens, Pending.step, Pending.start, hword, hquote,
    if_neg Bool.false_ne_true, if_neg hminus, if_neg Bool.false_ne_true]
  rfl

/-! ### Digits -/

/-- A run of digits. -/
structure IsDigits (t : Text) : Prop where
  ne_nil : t ≠ []
  isDigit : ∀ c ∈ t, c.isDigit = true

lemma isWordChar_of_isDigit {c : Char} (h : c.isDigit = true) : isWordChar c = true := by
  obtain ⟨hfirst, hlast⟩ := Char.isDigit_iff_toNat.mp h
  have hdecimal : isDecimalDigit c = true := CodeRanges.contains_of_mem_head hfirst hlast
  rw [isWordChar, isAlphanumeric, hdecimal, Bool.or_true, Bool.true_or, Bool.true_or]

/-- No built-in symbol is written in digits. -/
lemma not_all_isDigit_of_mem_catalog :
    ∀ entry ∈ catalog, (entry.text.all Char.isDigit) = false := by
  decide +kernel

lemma any_catalog_of_isDigits {t : Text} (h : t.all Char.isDigit = true) (p : Entry → Bool) :
    (catalog.any fun entry => p entry && entry.text == t) = false := by
  rw [List.any_eq_false]
  intro entry hentry hmatch
  obtain ⟨-, htext⟩ := Bool.and_eq_true_iff.mp hmatch
  have hdigits := not_all_isDigit_of_mem_catalog entry hentry
  rw [eq_of_beq htext, h] at hdigits
  cases hdigits

/-- Digits make a number. -/
lemma ofWord_of_isDigits {t : Text} (h : IsDigits t) : Style.ofWord t = .number := by
  have hdigits : t.all Char.isDigit = true := List.all_eq_true.mpr h.isDigit
  have hreserved : isReserved t = false := any_catalog_of_isDigits hdigits _
  have hfunction : isBuiltinFunction t = false := any_catalog_of_isDigits hdigits _
  rw [Pending.ofWord_eq fun c hc => isWordChar_of_isDigit (h.isDigit c hc), hreserved, hfunction,
    hdigits, if_neg Bool.false_ne_true, if_neg Bool.false_ne_true, if_pos rfl]

/-- Digits are coloured as a number where nothing continues them. -/
lemma IsDigits.highlight_append {t : Text} (h : IsDigits t)
    (hrest : ∀ c ∈ rest.head?, isWordChar c = false) :
    highlight (t ++ rest) = ⟨t, .number⟩ :: highlight rest := by
  rw [highlight_word_append h.ne_nil (fun c hc => isWordChar_of_isDigit (h.isDigit c hc)) hrest,
    ofWord_of_isDigits h]

/-! ### Behind whole lines -/

/-- The text consists of whole lines, and in front of its last newline there is no backslash. -/
def IsLines (t : Text) : Prop := t = [] ∨ ∃ line, t = line ++ ['\n'] ∧ line.getLast? ≠ some '\\'

/-- Nothing is pending behind whole lines. -/
lemma IsLines.after_eq {t : Text} (h : IsLines t) : Pending.nothing.after t = .nothing := by
  obtain rfl | ⟨line, rfl, hline⟩ := h
  · rfl
  · exact Pending.after_newline hline

/-- The tokens behind whole lines do not depend on them. -/
lemma IsLines.highlight_append {t : Text} (h : IsLines t) (rest : Text) :
    highlight (t ++ rest) = highlight t ++ highlight rest := by
  rw [highlight, Pending.tokens_append, Pending.completed_eq_of_after h.after_eq, h.after_eq,
    highlight, highlight]

/-! ### The token of a character -/

/-- Behind the tokens `s`, the token `t` takes the character at position `i`. -/
def Token.Covers (s : List Token) (t : Token) (i : ℕ) : Prop :=
  (flatten s).length ≤ i ∧ i < (flatten s).length + t.text.length

/-- The token that the character at a position belongs to. -/
def tokenAt? : List Token → ℕ → Option Token
  | [], _ => none
  | t :: rest, i => if i < t.text.length then some t else tokenAt? rest (i - t.text.length)

lemma tokenAt?_cons_of_lt {t : Token} {i : ℕ} (h : i < t.text.length) (u : List Token) :
    tokenAt? (t :: u) i = some t :=
  if_pos h

lemma tokenAt?_cons_add (t : Token) (u : List Token) (i : ℕ) :
    tokenAt? (t :: u) (t.text.length + i) = tokenAt? u i := by
  rw [tokenAt?, if_neg (by omega), Nat.add_sub_cancel_left]

lemma tokenAt?_append_add (s u : List Token) (i : ℕ) :
    tokenAt? (s ++ u) ((flatten s).length + i) = tokenAt? u i := by
  induction s with
  | nil => rw [List.nil_append, flatten_nil, List.length_nil, Nat.zero_add]
  | cons t s ih =>
      rw [List.cons_append, flatten_cons, List.length_append, Nat.add_assoc, tokenAt?_cons_add, ih]

lemma Token.Covers.tokenAt?_eq {s u : List Token} {t : Token} {i : ℕ} (h : t.Covers s i) :
    tokenAt? (s ++ t :: u) i = some t := by
  obtain ⟨k, rfl⟩ := Nat.exists_eq_add_of_le h.1
  rw [tokenAt?_append_add, tokenAt?_cons_of_lt (Nat.lt_of_add_lt_add_left h.2)]

/-! ### Decimal numbers -/

section Decimal

variable {before whole fraction after : Text}

/-- The tokens of a decimal number. -/
def decimalTokens (whole fraction : Text) : List Token :=
  [⟨whole, .number⟩, ⟨['.'], .plain⟩, ⟨fraction, .number⟩]

/-- Every part of a decimal number is a token. -/
lemma highlight_decimal_append (hwhole : IsDigits whole) (hfraction : IsDigits fraction)
    (hrest : ∀ c ∈ rest.head?, isWordChar c = false) :
    highlight (whole ++ '.' :: (fraction ++ rest)) =
      decimalTokens whole fraction ++ highlight rest := by
  have hpoint : ∀ c ∈ ('.' :: (fraction ++ rest)).head?, isWordChar c = false := by
    rintro c ⟨⟩
    exact isWordChar_point
  rw [hwhole.highlight_append hpoint,
    highlight_single_cons isWordChar_point (by decide) (by decide),
    hfraction.highlight_append hrest]
  rfl

/-- Of the characters of a decimal number only the point is plain. -/
lemma exists_tokenAt?_decimal {k : ℕ} (hk : k < whole.length + 1 + fraction.length)
    (tokens : List Token) :
    ∃ t, tokenAt? (decimalTokens whole fraction ++ tokens) k = some t ∧
      t.style = if k = whole.length then .plain else .number := by
  rcases Nat.lt_trichotomy k whole.length with hwhole | rfl | hfraction
  · exact ⟨⟨whole, .number⟩, tokenAt?_cons_of_lt hwhole _, by rw [if_neg hwhole.ne]⟩
  · refine ⟨⟨['.'], .plain⟩, ?_, by rw [if_pos rfl]⟩
    exact (tokenAt?_cons_add ⟨whole, .number⟩ _ 0).trans (tokenAt?_cons_of_lt Nat.zero_lt_one _)
  · obtain ⟨j, rfl⟩ := Nat.exists_eq_add_of_le hfraction
    refine ⟨⟨fraction, .number⟩, ?_, by rw [if_neg hfraction.ne']⟩
    calc tokenAt? (decimalTokens whole fraction ++ tokens) (whole.length + 1 + j)
        = tokenAt? ([⟨whole, .number⟩, ⟨['.'], .plain⟩] ++ (⟨fraction, .number⟩ :: tokens))
            ((flatten [⟨whole, .number⟩, ⟨['.'], .plain⟩]).length + j) := by
          simp [decimalTokens]
      _ = tokenAt? (⟨fraction, .number⟩ :: tokens) j := tokenAt?_append_add _ _ j
      _ = some ⟨fraction, .number⟩ := tokenAt?_cons_of_lt (Nat.lt_of_add_lt_add_left hk) _

/-- **Decimal numbers**: behind whole lines, and in front of a blank or the end of the script, a
decimal number is coloured in three parts. The tokens that its digits belong to have the colour of
numbers; the one its point belongs to does not. -/
theorem highlight_decimal (hbefore : IsLines before) (hwhole : IsDigits whole)
    (hfraction : IsDigits fraction) (hafter : ∀ c ∈ after.head?, c = '\n' ∨ c = ' ') :
    let number := whole ++ '.' :: fraction
    let script := before ++ number ++ after
    highlight script =
      highlight before ++ decimalTokens whole fraction ++ highlight after ∧
    ∀ s t u, highlight script = s ++ t :: u →
      ∀ k < number.length, t.Covers s (before.length + k) →
        (t.style.colour = Style.number.colour ↔ k ≠ whole.length) := by
  intro number script
  have hblank : ∀ c ∈ after.head?, isWordChar c = false := by
    intro c hc
    obtain rfl | rfl := hafter c hc
    · exact isWordChar_newline
    · decide +kernel
  have hscript : script = before ++ (whole ++ '.' :: (fraction ++ after)) := by
    simp only [script, number, List.append_assoc, List.cons_append]
  have htokens : highlight script =
      highlight before ++ (decimalTokens whole fraction ++ highlight after) := by
    rw [hscript, hbefore.highlight_append, highlight_decimal_append hwhole hfraction hblank]
  refine ⟨by rw [htokens, List.append_assoc], fun s t u hsplit k hk hcovers => ?_⟩
  have htoken : tokenAt? (highlight script) (before.length + k) = some t := by
    rw [hsplit, hcovers.tokenAt?_eq]
  have hlength : number.length = whole.length + 1 + fraction.length := by
    rw [List.length_append, List.length_cons, Nat.add_assoc, Nat.add_comm 1]
  have hbeforeLength : before.length = (flatten (highlight before)).length := by
    rw [flatten_highlight]
  obtain ⟨t', ht', hstyle⟩ := exists_tokenAt?_decimal (hlength ▸ hk) (highlight after)
  rw [htokens, hbeforeLength, tokenAt?_append_add, ht'] at htoken
  obtain rfl := Option.some.inj htoken
  rw [hstyle]
  split
  · next hpoint => simp [hpoint, Style.colour]
  · next hdigit => simp [hdigit]

end Decimal

/-- A decimal number stands between a line with a string that is left open and a comment; the token
of its point is not coloured as a number. -/
theorem highlight_decimal_behind_open_string :
    let before := "x = \x22\\n1.5\n".toList
    let after := " -- 2.5".toList
    let script := before ++ ("10".toList ++ '.' :: "25".toList) ++ after
    let point : Token := ⟨['.'], .plain⟩
    let s := highlight before ++ [⟨"10".toList, .number⟩]
    let u := ⟨"25".toList, .number⟩ :: highlight after
    (IsLines before ∧ IsDigits "10".toList ∧ IsDigits "25".toList ∧
      ∀ c ∈ after.head?, c = '\n' ∨ c = ' ') ∧
    highlight after = [⟨[' '], .plain⟩, ⟨"-- 2.5".toList, .comment⟩] ∧
    highlight script =
      highlight before ++ decimalTokens "10".toList "25".toList ++ highlight after ∧
    highlight script = s ++ point :: u ∧ point.Covers s (before.length + 2) ∧
    (point.style.colour = Style.number.colour ↔ 2 ≠ "10".toList.length) := by
  intro before after script point s u
  have hbefore : IsLines before :=
    .inr ⟨"x = \x22\\n1.5".toList, by decide +kernel, by decide +kernel⟩
  have hwhole : IsDigits "10".toList := ⟨by decide, List.all_eq_true.mp (by decide)⟩
  have hfraction : IsDigits "25".toList := ⟨by decide, List.all_eq_true.mp (by decide)⟩
  have hafter : ∀ c ∈ after.head?, c = '\n' ∨ c = ' ' := by
    rintro c ⟨⟩
    exact .inr rfl
  obtain ⟨htokens, hcolours⟩ := highlight_decimal hbefore hwhole hfraction hafter
  have hsplit : highlight script = s ++ point :: u := by decide +kernel
  have hcovers : point.Covers s (before.length + 2) := by
    rw [Token.Covers]
    decide +kernel
  exact ⟨⟨hbefore, hwhole, hfraction, hafter⟩, by decide +kernel, htokens, hsplit, hcovers,
    hcolours s point u hsplit 2 (by decide) hcovers⟩

/-- A decimal number does not have the colour of numbers throughout. -/
theorem not_forall_decimal_coloured :
    ¬ ∀ before whole fraction after : Text, IsLines before → IsDigits whole → IsDigits fraction →
      (∀ c ∈ after.head?, c = '\n' ∨ c = ' ') →
      ∀ s t u, highlight (before ++ (whole ++ '.' :: fraction) ++ after) = s ++ t :: u →
        ∀ k < (whole ++ '.' :: fraction).length, t.Covers s (before.length + k) →
          t.style.colour = Style.number.colour := by
  intro hall
  have hone : IsDigits ['1'] := ⟨by decide, List.all_eq_true.mp (by decide)⟩
  have hfive : IsDigits ['5'] := ⟨by decide, List.all_eq_true.mp (by decide)⟩
  have hsplit : highlight ([] ++ (['1'] ++ '.' :: ['5']) ++ []) =
      [⟨['1'], .number⟩] ++ ⟨['.'], .plain⟩ :: [⟨['5'], .number⟩] := by
    decide +kernel
  have hcolour := hall [] ['1'] ['5'] [] (.inl rfl) hone hfive (by simp) _ _ _ hsplit 1
    (by decide) ⟨by decide, by decide⟩
  revert hcolour
  decide

end Scratchpad
