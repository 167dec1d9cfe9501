/-
Lines are coloured one by one.

A newline ends whatever is pending: a word and a comment end in front of it, a string ends with it.
Only behind the backslash of a string it is taken as it is. So the tokens of a script can be cut
behind a newline, unless a backslash stands in front of it.

* `Pending.completed`, `Pending.after`: what a text completes, and what is pending behind it;
  `Pending.tokens_append` cuts the tokens of a text there.
* `Pending.step_newline`, `Pending.after_newline`: nothing is pending behind a newline.
* `highlight_append_line`: the tokens of a script are those of its first lines and those of the
  others.
-/
import Mathlib.Tactic
import Scratchpad.Proofs.Highlight

namespace Scratchpad

namespace Pending

variable {before t : Text} {p : Pending}

/-! ### Cutting a text -/

/-- The tokens that a text completes. -/
def completed : Pending → Text → List Token
  | _, [] => []
  | p, c :: rest => (p.step c).1 ++ completed (p.step c).2 rest

/-- What is pending behind a text. -/
def after (p : Pending) (t : Text) : Pending := t.foldl (fun p c => (p.step c).2) p

@[simp] lemma after_nil (p : Pending) : p.after [] = p := rfl

@[simp] lemma after_cons (p : Pending) (c : Char) (t : Text) :
    p.after (c :: t) = (p.step c).2.after t := rfl

lemma after_append (p : Pending) (t u : Text) : p.after (t ++ u) = (p.after t).after u := by
  simp [after]

/-- A text is coloured up to a character, and on from what is pending there. -/
lemma tokens_append (p : Pending) (t u : Text) :
    p.tokens (t ++ u) = p.completed t ++ (p.after t).tokens u := by
  induction t generalizing p with
  | nil => rfl
  | cons c t ih =>
      rw [List.cons_append, tokens, ih, completed, after_cons, List.append_assoc]

/-- What a text completes and what is pending behind it make it up. -/
lemma flatten_completed (p : Pending) (t : Text) :
    flatten (p.completed t) ++ (p.after t).text = p.text ++ t := by
  have hcut := tokens_append p t []
  rw [tokens, List.append_nil] at hcut
  rw [← flatten_tokens, hcut, flatten_append, flatten_finish]

/-- A text behind which nothing is pending has completed all its tokens. -/
lemma completed_eq_of_after (h : p.after t = nothing) : p.completed t = p.tokens t := by
  have hcut := tokens_append p t []
  rw [List.append_nil, h, tokens, finish, List.append_nil] at hcut
  exact hcut.symm

/-- What is pending behind a text is the beginning of a token. -/
lemma begins_after (h : p.Begins before) (t : Text) :
    (p.after t).Begins (before ++ flatten (p.completed t)) := by
  induction t generalizing p before with
  | nil => simpa [completed] using h
  | cons c t ih =>
      obtain ⟨-, hbegins⟩ := advances_step h c t
      simpa [completed] using ih hbegins

/-! ### Behind a newline -/

/-- A newline is a token for itself. -/
lemma start_newline : start '\n' = ([⟨['\n'], .plain⟩], nothing) := by
  rw [start, isWordChar_newline, if_neg Bool.false_ne_true, if_neg (by decide), if_neg (by decide)]

lemma restart_newline (p : Pending) : (p.restart '\n').2 = nothing := by
  rw [restart, start_newline]

/-- A newline ends all that is pending, unless a string takes it as it is. -/
lemma step_newline (h : ∀ quote t, p ≠ escape quote t) : (p.step '\n').2 = nothing := by
  cases p with
  | nothing => rw [step, start_newline]
  | word t => rw [step, isWordChar_newline, if_neg Bool.false_ne_true, restart_newline]
  | minus => rw [step, if_neg (by decide), restart_newline]
  | comment t => rw [step, if_pos rfl, restart_newline]
  | string quote t => rw [step, if_pos (Or.inr rfl)]
  | escape quote t => exact absurd rfl (h quote t)

/-- A text behind which a string takes the next character as it is ends in a backslash. -/
lemma getLast?_of_after_eq_escape {quote : Char} {u : Text}
    (h : nothing.after t = escape quote u) : t.getLast? = some '\\' := by
  have hnothing : nothing.Begins [] := by simp [Begins, EndsOutsideWord]
  have hbegins := begins_after hnothing t
  have htext := flatten_completed nothing t
  rw [h] at hbegins htext
  obtain ⟨-, s, rfl, -⟩ := hbegins
  have hend : (flatten (nothing.completed t) ++ quote :: s) ++ ['\\'] = t := by
    simpa [text] using htext
  rw [← hend, List.getLast?_concat]

/-- Nothing is pending behind a newline, unless a backslash stands in front of it. -/
lemma after_newline (h : t.getLast? ≠ some '\\') : nothing.after (t ++ ['\n']) = nothing := by
  rw [after_append]
  exact step_newline fun quote u heq => h (getLast?_of_after_eq_escape heq)

end Pending

/-- **Lines**: the tokens of a script are those of its first lines followed by those of the others,
cut at any newline in front of which there is no backslash. -/
theorem highlight_append_line {a : Text} (ha : a.getLast? ≠ some '\\') (b : Text) :
    highlight (a ++ '\n' :: b) = highlight (a ++ ['\n']) ++ highlight b := by
  have hcut : ∀ c, highlight (a ++ ['\n'] ++ c) =
      Pending.nothing.completed (a ++ ['\n']) ++ highlight c := by
    intro c
    rw [highlight, Pending.tokens_append, Pending.after_newline ha, highlight]
  have hnil : highlight [] = [] := rfl
  have hline := hcut []
  rw [hnil, List.append_nil, List.append_nil] at hline
  rw [List.append_cons, hcut, hline]

/-- The quote that is left open, with an escape in its string, has no effect on the line below. -/
theorem highlight_append_line_behind_open_string :
    let a := "f(\x27a\\n--".toList
    let b := "end\x27".toList
    a.getLast? ≠ some '\\' ∧
      highlight (a ++ '\n' :: b) = highlight (a ++ ['\n']) ++
        [⟨"end".toList, .keyword⟩, ⟨['\x27'], .string⟩] := by
  intro a b
  have ha : a.getLast? ≠ some '\\' := by decide +kernel
  have hb : highlight b = [⟨"end".toList, .keyword⟩, ⟨['\x27'], .string⟩] := by decide +kernel
  exact ⟨ha, hb ▸ highlight_append_line ha b⟩

/-- A backslash takes the newline into its string, and the string goes on. -/
example : highlight "\x27\\\nend".toList ≠ highlight "\x27\\\n".toList ++ highlight "end".toList := by
  decide +kernel

end Scratchpad
