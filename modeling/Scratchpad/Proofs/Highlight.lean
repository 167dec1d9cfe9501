/-
The tokens of a script are told apart by their shape.

A script is the text of its tokens, one behind the other. Each of them is a word, a comment, a
string, or a character of none of these, and goes as far as it can: a word is not continued by what
stands around it, a comment ends with its line, and a string with its quote, its line or the script.

* `Shape`, `Token.HasShape`: the four kinds of tokens, each described by the text of the token and
  the text around it. `InString` is what stands between the quotes of a string.
* `Token.HasShape.eq_of_text`: no token has two shapes.
* `Shaped`: every token of a list has a shape.
* `Pending.Begins`: what is pending is the beginning of a token. `Pending.advances_step` keeps it
  over one character, and says that the tokens which the character completes have a shape.
* `highlight_shapes`: all of it for every script.
-/
import Mathlib.Tactic
import Scratchpad.Highlight

namespace Scratchpad

/-! ### Shapes -/

/-- The kinds of tokens. -/
inductive Shape where
  | word
  | comment
  | string
  /-- A character that is no part of the others. -/
  | single
  deriving DecidableEq, Repr

/-- The text does not end within a word. -/
def EndsOutsideWord (t : Text) : Prop := ∀ c ∈ t.getLast?, isWordChar c = false

/-- What stands behind an opening quote: a backslash takes the character after it, whatever this is,
and apart from that there is neither the quote nor a newline. -/
inductive InString (quote : Char) : Text → Prop
  | nil : InString quote []
  | plain {c : Char} {t : Text} (hquote : c ≠ quote) (hline : c ≠ '\n') (hslash : c ≠ '\\')
      (h : InString quote t) : InString quote (c :: t)
  | escaped (c : Char) {t : Text} (h : InString quote t) : InString quote ('\\' :: c :: t)

lemma InString.append {quote : Char} {s t : Text} (hs : InString quote s)
    (ht : InString quote t) : InString quote (s ++ t) := by
  induction hs with
  | nil => exact ht
  | plain hquote hline hslash _ ih => exact .plain hquote hline hslash ih
  | escaped c _ ih => exact .escaped c ih

namespace Token

/-- A run of word characters that nothing around it continues: a keyword, or else a function, or
else a number if it has digits only. -/
structure IsWord (before after : Text) (t : Token) : Prop where
  ne_nil : t.text ≠ []
  isWordChar : ∀ c ∈ t.text, isWordChar c = true
  not_continuing : EndsOutsideWord before
  not_continued : ∀ c ∈ after.head?, Scratchpad.isWordChar c = false
  style_eq : t.style =
    if isReserved t.text then .keyword
    else if isBuiltinFunction t.text then .function
    else if t.text.all Char.isDigit then .number
    else .plain

/-- Two minuses with the rest of their line. -/
structure IsComment (after : Text) (t : Token) : Prop where
  begins : ['-', '-'] <+: t.text
  newline_not_mem : '\n' ∉ t.text
  ends : ∀ c ∈ after.head?, c = '\n'
  style_eq : t.style = .comment

/-- A quote with all that belongs to it. -/
inductive IsString (after : Text) : Token → Prop
  /-- The same quote or a newline ends the string. -/
  | closed {quote last : Char} {t : Text} (hquote : isQuote quote) (h : InString quote t)
      (hlast : last = quote ∨ last = '\n') : IsString after ⟨quote :: (t ++ [last]), .string⟩
  /-- The script ends with the string. -/
  | cut {quote : Char} {t : Text} (hquote : isQuote quote) (h : InString quote t)
      (hafter : after = []) : IsString after ⟨quote :: t, .string⟩
  /-- The script ends with the string, behind a backslash. -/
  | cutEscape {quote : Char} {t : Text} (hquote : isQuote quote) (h : InString quote t)
      (hafter : after = []) : IsString after ⟨quote :: (t ++ ['\\']), .string⟩

/-- A character that is no part of a word and begins neither a string nor a comment. -/
inductive IsSingle (after : Text) : Token → Prop
  | intro {c : Char} (hword : isWordChar c = false) (hquote : isQuote c = false)
      (hminus : c = '-' → after.head? ≠ some '-') : IsSingle after ⟨[c], .plain⟩

/-- The token between `before` and `after` has the given shape. -/
def HasShape (before after : Text) (t : Token) : Shape → Prop
  | .word => t.IsWord before after
  | .comment => t.IsComment after
  | .string => t.IsString after
  | .single => t.IsSingle after

end Token

/-! ### The shape is in the text -/

lemma isWordChar_minus : isWordChar '-' = false := by decide +kernel

lemma isWordChar_point : isWordChar '.' = false := by decide +kernel

lemma isWordChar_newline : isWordChar '\n' = false := by decide +kernel

lemma isWordChar_of_isQuote {c : Char} (h : isQuote c) : isWordChar c = false := by
  obtain rfl | rfl : c = '\x22' ∨ c = '\x27' := by simpa [isQuote] using h
  · decide +kernel
  · decide +kernel

/-- The shape of a token with the given text. -/
def Shape.ofText : Text → Shape
  | [] => .single
  | c :: rest =>
    if isWordChar c then .word
    else if isQuote c then .string
    else if rest.isEmpty then .single
    else .comment

lemma Shape.ofText_word {c : Char} (h : isWordChar c) (rest : Text) :
    ofText (c :: rest) = .word := by
  rw [ofText, if_pos h]

lemma Shape.ofText_string {quote : Char} (h : isQuote quote) (rest : Text) :
    ofText (quote :: rest) = .string := by
  rw [ofText, isWordChar_of_isQuote h, if_neg Bool.false_ne_true, if_pos h]

namespace Token

variable {before after : Text} {t : Token} {shape : Shape}

lemma HasShape.eq_of_text (h : t.HasShape before after shape) : shape = Shape.ofText t.text := by
  cases shape with
  | word =>
      obtain ⟨c, rest, htext⟩ := List.exists_cons_of_ne_nil h.ne_nil
      rw [htext, Shape.ofText_word]
      exact h.isWordChar c (by simp [htext])
  | comment =>
      obtain ⟨rest, htext⟩ := h.begins
      rw [← htext]
      simp [Shape.ofText, isWordChar_minus, isQuote]
  | string =>
      cases h with
      | closed hquote => exact (Shape.ofText_string hquote _).symm
      | cut hquote => exact (Shape.ofText_string hquote _).symm
      | cutEscape hquote => exact (Shape.ofText_string hquote _).symm
  | single =>
      obtain ⟨hword, hquote, -⟩ := h
      simp [Shape.ofText, hword, hquote]

lemma HasShape.text_ne_nil (h : t.HasShape before after shape) : t.text ≠ [] := by
  cases shape with
  | word => exact h.ne_nil
  | comment =>
      obtain ⟨rest, htext⟩ := h.begins
      simp [← htext]
  | string => cases h <;> simp
  | single => cases h; simp

lemma HasShape.existsUnique (h : t.HasShape before after shape) :
    ∃! shape, t.HasShape before after shape :=
  ⟨shape, h, fun _ h' => h'.eq_of_text.trans h.eq_of_text.symm⟩

end Token

/-! ### Tokens behind each other -/

/-- Every token has a shape, where `before` and `after` stand around all of them. -/
def Shaped (before : Text) : List Token → Text → Prop
  | [], _ => True
  | t :: rest, after =>
    (∃ shape, t.HasShape before (flatten rest ++ after) shape) ∧
      Shaped (before ++ t.text) rest after

lemma shaped_append {before after : Text} {s t : List Token} :
    Shaped before (s ++ t) after ↔
      Shaped before s (flatten t ++ after) ∧ Shaped (before ++ flatten s) t after := by
  induction s generalizing before with
  | nil => simp [Shaped]
  | cons token s ih => simp [Shaped, ih, and_assoc]

/-- A list of tokens that have a shape can be cut anywhere. -/
lemma Shaped.exists_shape {s rest : List Token} {t : Token}
    (h : Shaped [] (s ++ t :: rest) []) :
    ∃ shape, t.HasShape (flatten s) (flatten rest) shape := by
  simpa using (shaped_append.mp h).2.1

namespace Pending

variable {before after rest : Text} {p : Pending} {c : Char}

/-! ### The beginning and the end of a token -/

/-- What is pending behind `before` is the beginning of a token. -/
def Begins (before : Text) : Pending → Prop
  | nothing => EndsOutsideWord before
  | word t => t ≠ [] ∧ (∀ c ∈ t, isWordChar c = true) ∧ EndsOutsideWord before
  | minus => True
  | comment t => ['-', '-'] <+: t ∧ '\n' ∉ t
  | string quote t => isQuote quote ∧ ∃ s, t = quote :: s ∧ InString quote s
  | escape quote t => isQuote quote ∧ ∃ s, t = quote :: (s ++ ['\\']) ∧ InString quote s

/-- What is pending can end where `after` follows. -/
def EndsBefore (after : Text) : Pending → Prop
  | nothing => True
  | word _ => ∀ c ∈ after.head?, isWordChar c = false
  | minus => after.head? ≠ some '-'
  | comment _ => ∀ c ∈ after.head?, c = '\n'
  | string _ _ | escape _ _ => after = []

/-- Everything pending can end with the script. -/
lemma endsBefore_nil (p : Pending) : p.EndsBefore [] := by
  cases p <;> simp [EndsBefore]

/-- There is no point in a word, so that only digits make a number of it. -/
lemma ofWord_eq {t : Text} (h : ∀ c ∈ t, isWordChar c = true) :
    Style.ofWord t =
      if isReserved t then .keyword
      else if isBuiltinFunction t then .function
      else if t.all Char.isDigit then .number
      else .plain := by
  have hpoint : ∀ c ∈ t, c ≠ '.' := by
    rintro c hc rfl
    exact Bool.false_ne_true (isWordChar_point.symm.trans (h _ hc))
  have hdigits : (t.all fun c => c.isDigit || c == '.') = t.all Char.isDigit := by
    rw [Bool.eq_iff_iff, List.all_eq_true, List.all_eq_true]
    exact forall₂_congr fun c hc => by simp [hpoint c hc]
  rw [Style.ofWord, hdigits]

/-- The token that ends where it can has a shape. -/
lemma shaped_finish (h : p.Begins before) (hend : p.EndsBefore after) :
    Shaped before p.finish after := by
  cases p with
  | nothing => trivial
  | word t =>
      obtain ⟨hne, hword, hbefore⟩ := h
      exact ⟨⟨.word, hne, hword, hbefore, hend, ofWord_eq hword⟩, trivial⟩
  | minus =>
      exact ⟨⟨.single, .intro isWordChar_minus (by decide) fun _ => hend⟩, trivial⟩
  | comment t => exact ⟨⟨.comment, h.1, h.2, hend, rfl⟩, trivial⟩
  | string quote t =>
      obtain ⟨hquote, s, rfl, hs⟩ := h
      exact ⟨⟨.string, .cut hquote hs hend⟩, trivial⟩
  | escape quote t =>
      obtain ⟨hquote, s, rfl, hs⟩ := h
      exact ⟨⟨.string, .cutEscape hquote hs hend⟩, trivial⟩

/-! ### One character -/

/-- Behind `before` and with `rest` still to come, the completed tokens have a shape, and what is
pending is the beginning of the next one. -/
def Advances (before rest : Text) (result : List Token × Pending) : Prop :=
  Shaped before result.1 (result.2.text ++ rest) ∧ result.2.Begins (before ++ flatten result.1)

lemma endsOutsideWord_append_singleton (hc : isWordChar c = false) :
    EndsOutsideWord (before ++ [c]) := by
  simpa [EndsOutsideWord] using hc

/-- No token is completed. -/
lemma advances_pending (h : p.Begins before) : Advances before rest ([], p) :=
  ⟨trivial, by simpa using h⟩

lemma advances_start (hbefore : isWordChar c → EndsOutsideWord before) :
    Advances before rest (start c) := by
  rw [start]
  split
  · next hword => exact advances_pending ⟨by simp, by simpa using hword, hbefore hword⟩
  · next hword =>
      rw [Bool.not_eq_true] at hword
      split
      · exact advances_pending trivial
      · next hminus =>
          split
          · next hquote => exact advances_pending ⟨hquote, [], rfl, .nil⟩
          · next hquote =>
              rw [Bool.not_eq_true] at hquote
              refine ⟨⟨⟨.single, .intro hword hquote fun h => absurd h hminus⟩, trivial⟩, ?_⟩
              exact endsOutsideWord_append_singleton hword

/-- A token ends before `c`, with which the next one begins. -/
lemma advances_restart (h : p.Begins before) (hend : p.EndsBefore (c :: rest))
    (hword : isWordChar c → EndsOutsideWord (before ++ p.text)) :
    Advances before rest (p.restart c) := by
  obtain ⟨hstart, hbegins⟩ : Advances (before ++ p.text) rest (start c) := advances_start hword
  have hnext : flatten (start c).1 ++ ((start c).2.text ++ rest) = c :: rest := by
    rw [← List.append_assoc, flatten_start]
    rfl
  refine ⟨shaped_append.mpr ⟨?_, ?_⟩, ?_⟩
  · rw [restart, hnext]
    exact shaped_finish h hend
  · rw [flatten_finish]
    exact hstart
  · rw [restart, flatten_append, flatten_finish, ← List.append_assoc]
    exact hbegins

/-- A character goes on with what is pending, or ends it where it can end. -/
lemma advances_step (h : p.Begins before) (c : Char) (rest : Text) :
    Advances before rest (p.step c) := by
  cases p with
  | nothing => exact advances_start fun _ => h
  | word t =>
      obtain ⟨hne, hword, hbefore⟩ := h
      rw [step]
      split
      · next hc =>
          refine advances_pending ⟨by simp, fun d hd => ?_, hbefore⟩
          obtain hd | rfl : d ∈ t ∨ d = c := by simpa using hd
          · exact hword d hd
          · exact hc
      · next hc =>
          exact advances_restart ⟨hne, hword, hbefore⟩ (by simpa [EndsBefore] using hc)
            fun hc' => absurd hc' hc
  | minus =>
      rw [step]
      split
      · exact advances_pending ⟨List.prefix_refl _, by decide⟩
      · next hc =>
          refine advances_restart trivial (by simpa [EndsBefore] using hc) fun _ => ?_
          exact endsOutsideWord_append_singleton isWordChar_minus
  | comment t =>
      rw [step]
      split
      · next hc =>
          refine advances_restart h (by simpa [EndsBefore] using hc) fun hword => ?_
          rw [hc, isWordChar_newline] at hword
          cases hword
      · next hc =>
          refine advances_pending ⟨h.1.trans (List.prefix_append _ _), ?_⟩
          simpa [h.2] using Ne.symm hc
  | string quote t =>
      obtain ⟨hquote, s, rfl, hs⟩ := h
      rw [step]
      split
      · next hc =>
          refine ⟨⟨⟨.string, .closed hquote hs hc⟩, trivial⟩, ?_⟩
          have hlast : isWordChar c = false := by
            obtain rfl | rfl := hc
            · exact isWordChar_of_isQuote hquote
            · exact isWordChar_newline
          have hend : EndsOutsideWord (before ++ quote :: s ++ [c]) :=
            endsOutsideWord_append_singleton hlast
          simpa [Begins, finish] using hend
      · next hc =>
          rw [not_or] at hc
          split
          · next hslash => exact advances_pending ⟨hquote, s, by simp [hslash], hs⟩
          · next hslash =>
              exact advances_pending
                ⟨hquote, s ++ [c], rfl, hs.append (.plain hc.1 hc.2 hslash .nil)⟩
  | escape quote t =>
      obtain ⟨hquote, s, rfl, hs⟩ := h
      exact advances_pending ⟨hquote, s ++ ['\\', c], by simp, hs.append (.escaped c .nil)⟩

/-! ### The whole script -/

lemma shaped_tokens (h : p.Begins before) (t : Text) : Shaped before (p.tokens t) [] := by
  induction t generalizing p before with
  | nil => exact shaped_finish h p.endsBefore_nil
  | cons c rest ih =>
      obtain ⟨hshaped, hbegins⟩ := advances_step h c rest
      rw [tokens, shaped_append, flatten_tokens, List.append_nil]
      exact ⟨hshaped, ih hbegins⟩

end Pending

lemma shaped_highlight (script : Text) : Shaped [] (highlight script) [] :=
  Pending.shaped_tokens (p := .nothing) (by simp [Pending.Begins, EndsOutsideWord]) script

/-- **Tokens**: the tokens of a script make it up, none of them is empty, and each is exactly one of
these: a word that nothing continues, with the style of its word; a comment up to the end of its
line; a string up to its quote, the end of its line or the end of the script; or one character that
is part of no other token. -/
theorem highlight_shapes (script : Text) :
    flatten (highlight script) = script ∧
    ∀ before t after, highlight script = before ++ t :: after →
      t.text ≠ [] ∧ ∃! shape, t.HasShape (flatten before) (flatten after) shape := by
  refine ⟨flatten_highlight script, fun before t after hsplit => ?_⟩
  have hshaped := shaped_highlight script
  rw [hsplit] at hshaped
  obtain ⟨shape, hshape⟩ := hshaped.exists_shape
  exact ⟨hshape.text_ne_nil, hshape.existsUnique⟩

/-- A lone minus before a string, in which a backslash takes one newline and the next one ends it; a
keyword before a comment that holds a quote; and a string that ends with the script, behind a
backslash. -/
theorem highlight_shapes_of_all_kinds :
    let script := "x-\x22a\\\n\x277\nend--\x22\n\x27\\".toList
    let tokens : List Token := [⟨"x".toList, .plain⟩, ⟨"-".toList, .plain⟩,
      ⟨"\x22a\\\n\x277\n".toList, .string⟩, ⟨"end".toList, .keyword⟩,
      ⟨"--\x22".toList, .comment⟩, ⟨"\n".toList, .plain⟩, ⟨"\x27\\".toList, .string⟩]
    highlight script = tokens ∧ flatten tokens = script ∧
      ∀ before t after, tokens = before ++ t :: after →
        t.text ≠ [] ∧ ∃! shape, t.HasShape (flatten before) (flatten after) shape := by
  intro script tokens
  have htokens : highlight script = tokens := by decide +kernel
  obtain ⟨hflatten, hshapes⟩ := highlight_shapes script
  rw [htokens] at hflatten hshapes
  exact ⟨htokens, hflatten, hshapes⟩

end Scratchpad
