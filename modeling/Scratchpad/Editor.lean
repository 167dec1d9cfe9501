/-
The editor of a tab: text surface, completer and popup together.

* `Tab.receive`, `Session.receive`: the editor passes an event on to the completer and
  keeps the content in step. The text of an edit and a completion become the content.
* `Reaction`: what the text surface did while it was drawn.
* `Tab.Frame`, `Tab.draw`: one drawing of the editor. The popup is offered a key
  first; then the completer hears of the text surface; then the pointer acts on
  the popup. The caret follows a completion.
* `Editor`: a tab with the keyboard focus.
* `Editor.type`, `Editor.clickRow`, `Editor.clickOutside`, `Editor.placeCaret`,
  `Editor.takeFocus`: what the user does, each as a drawing.
-/
import Scratchpad.PopupView
import Scratchpad.Session
import Scratchpad.Surface

namespace Scratchpad

/-- What the text surface did while it was drawn. -/
inductive Reaction where
  /-- The text was changed, with the caret at `caret` after the change. -/
  | edited (content : Text) (caret : Nat)
  /-- The text was not changed. Without the focus there is no caret. -/
  | rested (caret : Option Nat)
  deriving DecidableEq, Repr

namespace Tab

/-! ### Events -/

/-- The content after an event that the editor passes on, and its answer: an edit brings
a text, and so does a completion. -/
def contentAfter (content : Text) (event : Completer.Event) (reply : Completer.Reply) : Text :=
  match event, reply.completion? with
  | .edit text _, _ => text
  | _, some completion => completion.document
  | _, none => content

/-- The tab after an event that its editor passes on, with the answer of the completer. -/
def receive (t : Tab) (event : Completer.Event) : Tab × Completer.Reply :=
  let reply := (t.completer.handle event).reply
  ({ t.handle event with content := contentAfter t.content event reply }, reply)

/-! ### Drawing -/

/-- Everything that happens in one drawing of the editor. -/
structure Frame where
  /-- The key that is offered to the popup. -/
  key : Option Key := none
  /-- The upper left corner of the text surface. -/
  origin : Point := {}
  reaction : Reaction := .rested none
  /-- What the pointer did to the popup. -/
  pointer : Option PopupEvent := none
  deriving DecidableEq, Repr

/-- Passes an event on; the caret goes behind a completion. -/
def deliver (t : Tab) (event : Completer.Event) : Tab :=
  let (t, reply) := t.receive event
  match reply.completion? with
  | some completion => { t with caret := completion.caret }
  | none => t

/-- Whether the popup is open. -/
def offers (t : Tab) : Bool := t.completer.popup.isOpen

/-- Offers a key to an open popup. -/
def offerKey (t : Tab) (key : Option Key) : Tab :=
  match key with
  | some k => if t.offers then t.deliver (.pressKey k) else t
  | none => t

/-- Tells the completer what the text surface did. -/
def react (t : Tab) : Reaction → Tab
  | .edited content caret => { t with caret }.deliver (.edit content caret)
  | .rested none => t
  | .rested (some caret) =>
    if caret = t.completer.caret then { t with caret }
    else { t with caret }.deliver (.moveCaret caret)

/-- What the pointer does to an open popup. -/
def point (t : Tab) (pointer : Option PopupEvent) : Tab :=
  match pointer with
  | some (.select row) => if t.offers then t.deliver (.pickRow row) else t
  | some .close => if t.offers then t.deliver .pressOutside else t
  | none => t

/-- One drawing of the editor. -/
def draw (t : Tab) (frame : Frame) : Tab :=
  (((t.offerKey frame.key).deliver (.setOrigin frame.origin)).react frame.reaction).point
    frame.pointer

/-- The text surface of the tab. -/
def surface (t : Tab) : Surface := .place t.content t.caret

end Tab

/-- The session after an event that the editor of a tab passes on, with the answer of the
completer; there may be no such tab. -/
def Session.receive (s : Session) (id : TabId) (event : Completer.Event) :
    Session × Option Completer.Reply :=
  (s.modifyTab id fun t => (t.receive event).1, (s.tab? id).map fun t => (t.receive event).2)

/-- A tab with the keyboard focus. -/
structure Editor where
  tab : Tab
  focused : Bool
  deriving DecidableEq, Repr

namespace Editor

/-! ### Keys -/

/-- The keys that an open popup takes, those first that go before the others. -/
def popupKeys : List SurfaceKey := [.down, .up, .enter, .tab, .escape]

/-- The key that is offered to the popup. -/
def popupKey? (e : Editor) (inputs : List Input) : Option SurfaceKey :=
  if e.tab.offers then popupKeys.find? fun k => inputs.contains (.key k) else none

/-- The inputs that are left for the text surface: a key that was offered to the popup
is taken away wherever it stands. -/
def surfaceInputs (key : Option SurfaceKey) (inputs : List Input) : List Input :=
  match key with
  | some k => inputs.filter (· != .key k)
  | none => inputs

/-- What the inputs make the text surface do. -/
def reactionTo (t : Tab) (inputs : List Input) : Reaction :=
  match t.surface.run inputs with
  | (s, true) => .edited s.content s.caret
  | (s, false) => .rested (some s.caret)

/-- Whether the editor has the focus while inputs arrive. Escape takes it away before
anything else happens. -/
def keepsFocus (e : Editor) (inputs : List Input) : Bool :=
  e.focused && !inputs.contains (.key .escape)

/-- The drawing in which inputs arrive; without the focus they are lost. -/
def typingFrame (e : Editor) (inputs : List Input) : Tab.Frame :=
  if e.keepsFocus inputs then
    let taken := e.popupKey? inputs
    let key := taken.map SurfaceKey.forPopup
    { key, reaction := reactionTo (e.tab.offerKey key) (surfaceInputs taken inputs) }
  else {}

/-- Inputs arrive. -/
def type (e : Editor) (inputs : List Input) : Editor where
  tab := e.tab.draw (e.typingFrame inputs)
  focused := e.keepsFocus inputs

/-! ### Pointer and caret -/

/-- The popup of the editor as it is drawn. -/
def popupView (e : Editor) : PopupView where
  candidates := e.tab.completer.popup.candidates
  selected := e.tab.completer.popup.selected?.getD 0

/-- A click on the first row of the popup with the given text. The editor gets the
focus with the completion. -/
def clickRow (e : Editor) (text : Text) : Editor :=
  match e.popupView.row? text with
  | some row => ⟨e.tab.draw { pointer := e.popupView.click row .release }, true⟩
  | none => e

/-- A click far outside. -/
def clickOutside (e : Editor) : Editor := ⟨e.tab.draw { pointer := some .close }, false⟩

/-- The drawing in which the text surface tells that the caret is at the given place,
brought into the text. -/
def caretFrame (t : Tab) (caret : Nat) : Tab.Frame where
  reaction := .rested (some (Surface.place t.content caret).caret)

/-- Puts the caret at a place in the text. The completer hears of it only with the
focus. -/
def placeCaret (e : Editor) (caret : Nat) : Editor :=
  if e.focused then { e with tab := e.tab.draw (caretFrame e.tab caret) }
  else { e with tab := { e.tab with caret := (Surface.place e.tab.content caret).caret } }

/-- Gives the focus to the editor. -/
def takeFocus (e : Editor) : Editor := ⟨e.tab.draw (caretFrame e.tab e.tab.caret), true⟩

/-- An editor that has the focus and the caret at the given place in a text, under
settings that have to be accepted. -/
def configured? (options : Options) (metrics : Metrics) (text : Text) (caret : Nat) :
    Except Error Editor :=
  match Completer.configured? options metrics with
  | .error e => .error e
  | .ok _ =>
    let tab := Tab.opened 1 (Session.tabName 1) text options metrics
    .ok (placeCaret ⟨tab, true⟩ caret)

end Editor

end Scratchpad
