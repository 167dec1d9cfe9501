/-
The colours of a script.

A script is cut into tokens: words, comments, strings, and every other character
for itself. The cut needs no look ahead: one pass keeps only what has been read
of the last token.

* `Style`: what a token is shown as, with its colour.
* `Token`: a part of the script with its style.
* `Pending`: the token at the end of what has been read, as long as more
  characters may belong to it.
* `Pending.step`, `Pending.finish`: what one more character, or the end of the
  script, does to it; `flatten_step` and `flatten_finish` say that no character
  is lost.
* `highlight`: the tokens of a script; `flatten_highlight` puts them together
  again.
-/
import Scratchpad.Catalog
import Scratchpad.Text.CharClass

namespace Scratchpad

/-- What a token is shown as. -/
inductive Style where
  | plain
  | keyword
  | function
  | number
  | comment
  | string
  deriving DecidableEq, Repr

/-- The colour of a style. -/
def Style.colour : Style → Colour
  | plain => ⟨220, 220, 220, 255⟩
  | keyword => ⟨197, 134, 192, 255⟩
  | function => ⟨220, 220, 170, 255⟩
  | number => ⟨181, 206, 168, 255⟩
  | comment => ⟨106, 153, 85, 255⟩
  | string => ⟨206, 145, 120, 255⟩

/-- A part of a script with its style. -/
structure Token where
  text : Text
  style : Style
  deriving DecidableEq, Repr

/-- The text that tokens make up together. -/
def flatten (tokens : List Token) : Text := tokens.flatMap Token.text

@[simp] theorem flatten_nil : flatten [] = [] := rfl

@[simp] theorem flatten_cons (t : Token) (rest : List Token) :
    flatten (t :: rest) = t.text ++ flatten rest := rfl

@[simp] theorem flatten_append (s t : List Token) : flatten (s ++ t) = flatten s ++ flatten t :=
  List.flatMap_append

/-- The style of a word. -/
def Style.ofWord (word : Text) : Style :=
  if isReserved word then .keyword
  else if isBuiltinFunction word then .function
  else if word.all (fun c => c.isDigit || c == '.') then .number
  else .plain

/-- Whether a character opens a string, and closes one that it opened. -/
def isQuote (c : Char) : Bool := c == '\x22' || c == '\x27'

/-- What has been read of a token that may go on. -/
inductive Pending where
  /-- All tokens are complete. -/
  | nothing
  | word (text : Text)
  /-- One minus; a second one makes it a comment. -/
  | minus
  | comment (text : Text)
  /-- A string that goes on to the next `quote` or to the end of the line. -/
  | string (quote : Char) (text : Text)
  /-- A string behind a backslash, whose next character is taken as it is. -/
  | escape (quote : Char) (text : Text)
  deriving DecidableEq, Repr

namespace Pending

/-- The characters that have been read. -/
def text : Pending → Text
  | nothing => []
  | word t | comment t | string _ t | escape _ t => t
  | minus => ['-']

/-- The token that ends here, if there is one. -/
def finish : Pending → List Token
  | nothing => []
  | word t => [⟨t, .ofWord t⟩]
  | minus => [⟨['-'], .plain⟩]
  | comment t => [⟨t, .comment⟩]
  | string _ t | escape _ t => [⟨t, .string⟩]

/-- The first character of a token. -/
def start (c : Char) : List Token × Pending :=
  if isWordChar c then ([], word [c])
  else if c = '-' then ([], minus)
  else if isQuote c then ([], string c [c])
  else ([⟨[c], .plain⟩], nothing)

/-- Ends the token and starts the next one. -/
def restart (p : Pending) (c : Char) : List Token × Pending :=
  (p.finish ++ (start c).1, (start c).2)

/-- The tokens that one more character completes, and what is pending behind it. -/
def step (p : Pending) (c : Char) : List Token × Pending :=
  match p with
  | nothing => start c
  | word t => if isWordChar c then ([], word (t ++ [c])) else p.restart c
  | minus => if c = '-' then ([], comment ['-', '-']) else p.restart c
  | comment t => if c = '\n' then p.restart c else ([], comment (t ++ [c]))
  | string quote t =>
    if c = quote ∨ c = '\n' then ((string quote (t ++ [c])).finish, nothing)
    else if c = '\\' then ([], escape quote (t ++ [c]))
    else ([], string quote (t ++ [c]))
  | escape quote t => ([], string quote (t ++ [c]))

/-- The tokens of what is pending and the characters that follow. -/
def tokens : Pending → Text → List Token
  | p, [] => p.finish
  | p, c :: rest => (p.step c).1 ++ tokens (p.step c).2 rest

theorem flatten_finish (p : Pending) : flatten p.finish = p.text := by
  cases p <;> simp [finish, text]

theorem flatten_start (c : Char) : flatten (start c).1 ++ (start c).2.text = [c] := by
  unfold start
  split
  · rfl
  · split
    · simp_all [text]
    · split <;> simp [text]

theorem flatten_restart (p : Pending) (c : Char) :
    flatten (p.restart c).1 ++ (p.restart c).2.text = p.text ++ [c] := by
  simp [restart, flatten_finish, flatten_start]

/-- Every character that was read is in a token or pending. -/
theorem flatten_step (p : Pending) (c : Char) :
    flatten (p.step c).1 ++ (p.step c).2.text = p.text ++ [c] := by
  cases p with
  | nothing => exact flatten_start c
  | word t =>
    simp only [step]
    split
    · simp [text]
    · exact flatten_restart _ c
  | minus =>
    simp only [step]
    split
    · simp_all [text]
    · exact flatten_restart _ c
  | comment t =>
    simp only [step]
    split
    · exact flatten_restart _ c
    · simp [text]
  | string quote t =>
    simp only [step]
    split
    · simp [text, finish]
    · split <;> simp [text]
  | escape quote t => simp [step, text]

theorem flatten_tokens (p : Pending) (t : Text) : flatten (p.tokens t) = p.text ++ t := by
  induction t generalizing p with
  | nil => simp [tokens, flatten_finish]
  | cons c rest ih =>
    rw [tokens, flatten_append, ih, ← List.append_assoc, flatten_step, List.append_assoc]
    rfl

end Pending

/-- The tokens of a script. -/
def highlight (script : Text) : List Token := Pending.nothing.tokens script

/-- The tokens of a script make it up. -/
theorem flatten_highlight (script : Text) : flatten (highlight script) = script :=
  Pending.flatten_tokens .nothing script

end Scratchpad
