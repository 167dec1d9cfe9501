/-
What the user does to the window.

* `Control`: the buttons of the window by their labels.
* `App.press`, `App.clickLabel`, `App.middleClickLabel`: clicks on buttons and
  titles. As soon as the button of the pointer goes down, an open popup
  closes and the editor loses the focus; the rest happens when it is released.
* `App.useSettings`: typing into the settings dialog, and its box.
* `App.clickEditor`, `App.type`: the editor of the visible tab.
-/
import Scratchpad.App

namespace Scratchpad

/-- The buttons of the window. -/
inductive Control where
  | run
  | newTab
  | saveFile
  | importFile
  | exportFile
  | settings
  | minimize
  | clear
  | apply
  | cancel
  deriving DecidableEq, Repr

namespace Control

/-- The text on a button. -/
def label : Control → String
  | run => "▶ Run"
  | newTab => "+"
  | saveFile => "Save"
  | importFile => "Import"
  | exportFile => "Export"
  | settings => "⚙ Settings"
  | minimize => "🗕"
  | clear => "Clear"
  | apply => "Apply"
  | cancel => "Cancel"

/-- All buttons. -/
def all : List Control :=
  [run, newTab, saveFile, importFile, exportFile, settings, minimize, clear, apply, cancel]

/-- The button with the given text. -/
def ofLabel? (label : String) : Option Control := all.find? (·.label == label)

/-- Whether a button belongs to the settings dialog. -/
def isInSettings : Control → Bool
  | apply | cancel => true
  | _ => false

/-- What a click asks the window for. The buttons for files do nothing yet. -/
def actions : Control → List Action
  | run => [.runActive]
  | newTab => [.newTab]
  | settings => [.openSettings]
  | minimize => [.minimize]
  | _ => []

/-- What a click does to the settings dialog. -/
def settingsInput : Control → SettingsForm.Input
  | apply => .apply
  | cancel => .cancel
  | _ => .nothing

/-- The drawing in which the button is released. -/
def frame (c : Control) : App.Frame where
  clearsConsole := c == clear
  actions := c.actions
  settings := SettingsForm.paint c.settingsInput

end Control

namespace App

/-! ### The visible editor -/

/-- The tab in front of the first leaf. -/
def visible? (a : App) : Option TabId := a.dock.fronts.head?

/-- The editor of the visible tab. -/
def visibleEditor? (a : App) : Option Editor := do
  let id ← a.visible?
  let tab ← a.session.tab? id
  return { tab, focused := a.focus == some id }

/-- The button of the pointer goes down outside the popup. -/
def press (a : App) : App :=
  let a := a.update { editors := a.dock.fronts.map fun id => (id, { pointer := some .close }) }
  { a with focus := none }

/-! ### Clicks -/

/-- Whether a button can be seen. -/
def shows (a : App) (c : Control) : Bool := !c.isInSettings || a.settings.isOpen

/-- A click on a button, if it can be seen. -/
def click (a : App) (c : Control) : Option App :=
  if a.shows c then some (a.press.update c.frame) else none

/-- The first tab of the dock with the given title. -/
def titled? (a : App) (title : String) : Option TabId :=
  a.dock.tabs.find? fun id => a.session.title id == title

/-- A click on a title brings the tab to the front and makes it the active one. -/
def clickTitle (a : App) (title : String) : Option App :=
  (a.titled? title).map fun id =>
    let a := a.press
    a.update { docked := some (a.dock.bringToFront id), actions := [.activateTab id] }

/-- A click with the middle button on a title closes the tab unless it is the last. -/
def closeTitle (a : App) (title : String) : Option App :=
  (a.titled? title).map fun id =>
    let a := a.press
    if a.session.canClose then
      a.update { docked := some (a.dock.drop id), actions := closeRequests id }
    else a.update {}

/-- A click on a label, which is that of a button or a title. -/
def clickLabel (a : App) (label : String) : Option App :=
  match Control.ofLabel? label with
  | some c => a.click c
  | none => a.clickTitle label

/-- A click with the middle button on a label. Buttons do not react to it. -/
def middleClickLabel (a : App) (label : String) : Option App :=
  match Control.ofLabel? label with
  | some c => if a.shows c then some a.press else none
  | none => a.closeTitle label

/-- What the user does to a field of the settings dialog, if it is open. -/
def useSettings (a : App) (input : SettingsForm.Input) : Option App :=
  if a.settings.isOpen then some (a.press.update { settings := SettingsForm.paint input })
  else none

/-! ### Editing -/

/-- A click into the visible editor at the given position. -/
def clickEditor (a : App) (caret : Nat) : App :=
  let a := a.press
  match a.visibleEditor? with
  | some e =>
    let id := e.tab.id
    { a with focus := some id }.update
      { editors := [(id, Editor.caretFrame e.tab caret)], actions := [.activateTab id] }
  | none => a

/-- Inputs arrive at the editor of the visible tab. -/
def type (a : App) (inputs : List Input) : App :=
  match a.visibleEditor? with
  | some e =>
    let focus := if inputs.contains (.key .escape) then none else a.focus
    { a.update { editors := [(e.tab.id, e.typingFrame inputs)] } with focus }
  | none => a

/-- The numbers in the settings dialog, if it is open. -/
def settingsNumbers (a : App) : Option (List Nat) :=
  if a.settings.isOpen then
    some (SettingsForm.Field.all.map a.settings.fields.number)
  else none

end App

end Scratchpad
