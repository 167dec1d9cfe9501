/-
Completion for one document.

* `Completer`: the document with its caret, and what is derived from them: the
  declared names, the word before the caret, and the popup.
* `Completer.configured?`: a completer whose settings are accepted.
* `Completer.load`, `Completer.edit`, `Completer.moveCaret`,
  `Completer.pressKey`, `Completer.pressOutside`, `Completer.pickRow`,
  `Completer.setOrigin`, `Completer.reconfigure`: the inputs. Each recomputes
  what it invalidates; its `Outcome` holds the completer after it, its answer,
  and the states of the popup that an observer is told of.
* `Completer.handle`, `Completer.run`: all inputs as one function of an `Event`,
  and runs of events.
-/
import Scratchpad.Declarations
import Scratchpad.Popup
import Scratchpad.Word

namespace Scratchpad

/-- A document with its caret, and the state of its completion. -/
structure Completer where
  options : Options := {}
  metrics : Metrics := {}
  /-- The greatest number of suggestions, read off the options when these are taken. -/
  limit : Nat := options.maxCandidates.toNat
  /-- The upper left corner of the text surface. -/
  origin : Point := {}
  document : Text := []
  caret : Nat := 0
  /-- The names that the document declares. -/
  names : List Text := []
  /-- The word before the caret. -/
  word : WordSpan := {}
  popup : Popup := .closed
  deriving DecidableEq, Repr

/-- A suggestion that was accepted and put into the document. -/
structure Completion where
  /-- The text of the suggestion. -/
  text : Text
  /-- The document with the word replaced. -/
  document : Text
  /-- The position behind the inserted text. -/
  caret : Nat
  deriving DecidableEq, Repr

/-- What became of a key. -/
inductive KeyReply where
  /-- The key belongs to the text surface. -/
  | notConsumed
  /-- The popup used the key, possibly to accept a suggestion. -/
  | consumed (completion : Option Completion)
  deriving DecidableEq, Repr

/-- The effect of an input: the completer after it, the answer, and the states of
the popup that an observer is told of, in order. -/
structure Outcome (α : Type) where
  completer : Completer
  reply : α
  notices : List Popup

/-- The same effect with another form of the answer. -/
def Outcome.mapReply {α β : Type} (f : α → β) (o : Outcome α) : Outcome β :=
  { completer := o.completer, reply := f o.reply, notices := o.notices }

namespace Completer

/-- The context in which refused settings are reported. -/
def rejectionContext : String := "Invalid autocomplete configuration"

/-- The failure that refused settings are reported as. -/
def rejectionError (r : Rejection) : Error := .inContext rejectionContext r.toError

/-- An empty document under the given settings, which have to be accepted. -/
def configured? (options : Options) (metrics : Metrics) : Except Error Completer :=
  match validateSettings options metrics with
  | .ok () => .ok { options, metrics }
  | .error r => .error (rejectionError r)

/-! ### Derived state -/

/-- A position brought into the document. -/
def clamp (c : Completer) (caret : Nat) : Nat := min caret c.document.length

/-- The place of the popup. -/
def anchor (c : Completer) : Point := Scratchpad.anchor c.document c.caret c.origin c.metrics

/-- Moves a shown listing to the caret. -/
def reanchor (c : Completer) : Completer := { c with popup := c.popup.moveTo c.anchor }

/-- The popup for the word before the caret: closed if the word is too short or
nothing begins with it. -/
def freshPopup (c : Completer) : Popup :=
  if c.word.length < c.options.minPrefixLength.toNat then .closed
  else .ofCandidates (suggestions c.limit c.word.text c.names) c.anchor

/-- The word before the caret and its suggestions, computed anew. -/
def refresh (c : Completer) : Completer :=
  let c := { c with word := .atCaret c.document c.caret }
  { c with popup := c.freshPopup }

/-- Closes the popup; an observer is told if it was open. -/
def close (c : Completer) : Outcome Unit :=
  { completer := { c with popup := .closed }
    reply := ()
    notices := if c.popup.isOpen then [.closed] else [] }

/-- Puts a suggestion in the place of the word before the caret. -/
def complete (c : Completer) (candidate : Candidate) : Outcome Completion :=
  let (document, caret) := c.word.replace c.document candidate.text
  { completer := { c with
      document, caret, names := identifiers document, word := .atCaret document caret }
    reply := { text := candidate.text, document, caret }
    notices := [c.popup] }

/-! ### Inputs -/

/-- Takes a new document without offering anything. The caret goes to the front. -/
def load (c : Completer) (text : Text) : Outcome Unit :=
  { c with document := text, caret := 0, names := identifiers text, word := {} }.close

/-- The text was changed, with the caret at `caret` after the change. -/
def edit (c : Completer) (text : Text) (caret : Nat) : Outcome Popup :=
  let c := { c with document := text }
  let c := { c with caret := c.clamp caret, names := identifiers text }.refresh
  { completer := c, reply := c.popup, notices := [c.popup] }

/-- The caret was moved. A listing stays as long as the caret is in the same word, and
follows it. -/
def moveCaret (c : Completer) (caret : Nat) : Outcome Popup :=
  let caret := c.clamp caret
  let word := WordSpan.atCaret c.document caret
  let leftWord := decide (word.start ≠ c.word.start)
  let c := { c with caret, word }
  if !c.popup.isOpen then { completer := c, reply := c.popup, notices := [] }
  else
    let c := if leftWord then { c with popup := .closed } else c.reanchor
    { completer := c, reply := c.popup, notices := [c.popup] }

/-- A key is offered to the popup. -/
def pressKey (c : Completer) (key : Key) : Outcome KeyReply :=
  match c.popup.pressKey key with
  | (.ignored, popup) =>
    { completer := { c with popup }, reply := .notConsumed, notices := [] }
  | (.moved _, popup) | (.dismissed, popup) =>
    { completer := { c with popup }, reply := .consumed none, notices := [popup] }
  | (.accepted candidate, popup) =>
    let done := { c with popup }.complete candidate
    { done with reply := .consumed (some done.reply) }

/-- The pointer was pressed outside the popup. -/
def pressOutside (c : Completer) : Outcome Popup :=
  let done := c.close
  { done with reply := done.completer.popup }

/-- The pointer picked a row of the popup. -/
def pickRow (c : Completer) (row : Nat) : Outcome (Option Completion) :=
  match c.popup.selectRow row with
  | (.accepted candidate, popup) =>
    let done := { c with popup }.complete candidate
    { done with reply := some done.reply }
  | (_, popup) => { completer := { c with popup }, reply := none, notices := [] }

/-- The text surface begins at another place. -/
def setOrigin (c : Completer) (origin : Point) : Outcome Unit :=
  { completer := if c.origin.samePlace origin then c else { c with origin }.reanchor
    reply := ()
    notices := [] }

/-- Takes new settings if they are accepted, and closes the popup; the next edit
uses them. -/
def reconfigure (c : Completer) (options : Options) (metrics : Metrics) :
    Outcome (Except Error Unit) :=
  match validateSettings options metrics with
  | .ok () =>
    let c := { c with options, metrics, limit := options.maxCandidates.toNat }
    { c.close with reply := .ok () }
  | .error r => { completer := c, reply := .error (rejectionError r), notices := [] }

/-! ### Events -/

/-- The inputs of a completer. -/
inductive Event where
  | load (text : Text)
  | edit (text : Text) (caret : Nat)
  | moveCaret (caret : Nat)
  | pressKey (key : Key)
  | pressOutside
  | pickRow (row : Nat)
  | setOrigin (origin : Point)
  | reconfigure (options : Options) (metrics : Metrics)
  deriving DecidableEq, Repr

/-- The answers to events. -/
inductive Reply where
  | done
  | popup (popup : Popup)
  | key (reply : KeyReply)
  | completion (completion : Option Completion)
  | configured (result : Except Error Unit)

/-- The completion that an answer carries. -/
def Reply.completion? : Reply → Option Completion
  | .key (.consumed found) => found
  | .completion found => found
  | _ => none

/-- Whether an event brings a changed document, to be completed anew. -/
def Event.isEdit : Event → Bool
  | .edit _ _ => true
  | _ => false

/-- The effect of an event. -/
def handle (c : Completer) : Event → Outcome Reply
  | .load text => (c.load text).mapReply fun _ => .done
  | .edit text caret => (c.edit text caret).mapReply .popup
  | .moveCaret caret => (c.moveCaret caret).mapReply .popup
  | .pressKey key => (c.pressKey key).mapReply .key
  | .pressOutside => c.pressOutside.mapReply .popup
  | .pickRow row => (c.pickRow row).mapReply .completion
  | .setOrigin origin => (c.setOrigin origin).mapReply fun _ => .done
  | .reconfigure options metrics => (c.reconfigure options metrics).mapReply .configured

/-- The completer after a run of events. -/
def run (c : Completer) (events : List Event) : Completer :=
  events.foldl (fun c e => (c.handle e).completer) c

@[simp] theorem run_nil (c : Completer) : c.run [] = c := rfl

@[simp] theorem run_cons (c : Completer) (e : Event) (events : List Event) :
    c.run (e :: events) = (c.handle e).completer.run events := rfl

theorem run_append (c : Completer) (before after : List Event) :
    c.run (before ++ after) = (c.run before).run after := by
  simp [run, List.foldl_append]

/-! ### What the inputs leave behind -/

theorem completer_load (c : Completer) (text : Text) :
    (c.load text).completer =
      { c with document := text, caret := 0, names := identifiers text, word := {},
               popup := .closed } := rfl

theorem completer_edit (c : Completer) (text : Text) (caret : Nat) :
    (c.edit text caret).completer =
      { c with document := text, caret := min caret text.length,
               names := identifiers text }.refresh := rfl

theorem completer_moveCaret (c : Completer) (caret : Nat) :
    (c.moveCaret caret).completer =
      let word := WordSpan.atCaret c.document (c.clamp caret)
      let moved := { c with caret := c.clamp caret, word }
      if word.start = c.word.start then moved.reanchor else { moved with popup := .closed } := by
  rcases c with ⟨_, _, _, _, _, _, _, _, popup⟩
  cases popup <;> simp only [moveCaret, Popup.isOpen] <;> split <;> simp_all [reanchor, Popup.moveTo]

theorem completer_complete (c : Completer) (candidate : Candidate) :
    (c.complete candidate).completer =
      let done := (c.complete candidate).reply
      { c with document := done.document, caret := done.caret,
               names := identifiers done.document,
               word := .atCaret done.document done.caret } := rfl

/-- Settings that are accepted come into force, and close the popup. -/
theorem reconfigure_of_ok (c : Completer) {options : Options} {metrics : Metrics}
    (h : validateSettings options metrics = .ok ()) :
    (c.reconfigure options metrics).completer =
      { c with options, metrics, limit := options.maxCandidates.toNat, popup := .closed } := by
  simp [reconfigure, h, close]

/-- Settings that are refused change nothing. -/
theorem reconfigure_of_error (c : Completer) {options : Options} {metrics : Metrics}
    {r : Rejection} (h : validateSettings options metrics = .error r) :
    (c.reconfigure options metrics).completer = c := by
  simp [reconfigure, h]

end Completer

end Scratchpad
