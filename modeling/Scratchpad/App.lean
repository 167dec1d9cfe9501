/-
The window of the editor.

* `App`: the saved state, the session, its dock, and the settings dialog. The dock is
  of any kind.
* `App.start?`: a window for a saved state whose settings are accepted.
* `App.perform`: does what the panels asked for. A tab that the session does not
  close goes back into the dock.
* `App.applySettings`: takes a filled form; one that is not accepted changes
  nothing but the error that is shown.
* `App.Frame`, `App.update`: one drawing of the window. The console and the
  editors act at once, and so does the dock, in which the user moves tabs and
  which takes away those that are to be closed; then the actions are done in their
  order, and the settings dialog comes last.
* `App.run`: drawings one after the other.
-/
import Scratchpad.Editor
import Scratchpad.SettingsForm
import Scratchpad.Workspace

namespace Scratchpad

/-- The window of the editor, with a dock of the kind `δ`. -/
structure App (δ : Type := Dock) where
  saved : SavedState
  session : Session
  dock : δ
  settings : Dialog SettingsForm := .closed
  /-- Why settings were not taken. -/
  lastError : Option Error := none
  /-- Whether the window was asked to become an icon. -/
  minimized : Bool := false
  /-- The tab whose editor has the keyboard focus. -/
  focus : Option TabId := none
  deriving DecidableEq

namespace App

variable {δ : Type} [Docking δ]

/-- The window for a saved state; its first tab has the number `first`. -/
def start? (saved : SavedState) (first : TabId := 1) : Except Error (App δ) :=
  let p := saved.preferences
  match Session.configured? p.options p.surfaceMetrics first with
  | .ok session => .ok { saved, session, dock := Docking.ofSession session }
  | .error e => .error e

/-- Whether the window has dark colours. -/
def isDark (a : App δ) : Bool := a.saved.preferences.darkMode

/-! ### Actions -/

/-- Brings a tab to the front of its leaf. -/
def bringToFront (a : App δ) (id : TabId) : App δ := { a with dock := Docking.focus a.dock id }

/-- Closes a tab that the dock has taken away, and shows the active one. -/
def closeTab (a : App δ) (id : TabId) : App δ :=
  let (session, closed) := a.session.closeTab id
  let dock := if closed then a.dock else Docking.restore a.dock id
  { a with session, dock }.bringToFront session.active

/-- Opens a new tab in front. -/
def newTab (a : App δ) : App δ :=
  let (session, id) := a.session.addTab
  { a with session, dock := Docking.pushToFocused a.dock id }

/-- Opens the settings dialog with the preferences in force. -/
def openSettings (a : App δ) : App δ :=
  { a with settings := .opened (.ofPreferences a.saved.preferences) }

/-- Does what a panel asked for. -/
def perform (a : App δ) : Action → App δ
  | .newTab => a.newTab
  | .closeTab id => a.closeTab id
  | .activateTab id => { a with session := (a.session.activate id).1 }
  | .runActive => { a with session := a.session.runActive }
  | .openSettings => a.openSettings
  | .minimize => { a with minimized := true }

/-! ### Settings -/

/-- Checks preferences and gives them to the session. -/
def reconfigure (s : Session) (p : Preferences) : Session × Except Error Unit :=
  match p.validate with
  | .ok () => s.reconfigure p.options p.surfaceMetrics
  | .error r => (s, .error r.toError)

/-- Takes a filled form. -/
def applySettings (a : App δ) (form : SettingsForm) : App δ :=
  let preferences := form.applyTo a.saved.preferences
  match reconfigure a.session preferences with
  | (session, .ok ()) =>
    { a with session, saved := { a.saved with preferences }, lastError := none }
  | (session, .error e) => { a with session, lastError := some e }

/-! ### Drawing -/

/-- Everything that happens in one drawing of the window. -/
structure Frame (δ : Type := Dock) where
  /-- How many tabs other sessions have opened since the drawing before. -/
  skipped : Nat := 0
  /-- Whether the button that empties the console is clicked. -/
  clearsConsole : Bool := false
  /-- What happens in the editors that are drawn. -/
  editors : List (TabId × Tab.Frame) := []
  /-- The dock as it is left by its drawing, if this changes it. -/
  docked : Option δ := none
  actions : List Action := []
  /-- What the settings dialog does if it is open. -/
  settings : SettingsForm → SettingsForm × Verdict SettingsForm := SettingsForm.paint .nothing

/-- The tabs that are to be closed. -/
def Frame.closing (f : Frame δ) : List TabId := f.actions.filterMap Action.closing?

/-- Draws the editors, one after the other. -/
def drawEditors (s : Session) (editors : List (TabId × Tab.Frame)) : Session :=
  editors.foldl (fun s (id, frame) => s.modifyTab id (·.draw frame)) s

/-- Draws the settings dialog; a form that was filled is taken. -/
def drawSettings (a : App δ) (paint : SettingsForm → SettingsForm × Verdict SettingsForm) :
    App δ :=
  let (settings, filled) := a.settings.draw paint
  match filled with
  | some form => { a with settings }.applySettings form
  | none => { a with settings }

/-- One drawing of the window. -/
def update (a : App δ) (f : Frame δ) : App δ :=
  let session := a.session.skip f.skipped
  let session := if f.clearsConsole then session.clearConsole else session
  let drawn := { a with
    session := drawEditors session f.editors, dock := f.docked.getD a.dock }
  (f.actions.foldl perform drawn).drawSettings f.settings

/-- The window after drawings. -/
def run (a : App δ) (frames : List (Frame δ)) : App δ := frames.foldl update a

@[simp] theorem run_nil (a : App δ) : a.run [] = a := rfl

@[simp] theorem run_cons (a : App δ) (f : Frame δ) (frames : List (Frame δ)) :
    a.run (f :: frames) = (a.update f).run frames := rfl

end App

end Scratchpad
