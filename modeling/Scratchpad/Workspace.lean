/-
The tabs of a session on the screen.

* `Action`: what the panels of the window ask for; the window does it after they
  have been drawn.
* `Docking.ofSession`, `Docking.focus`, `Docking.restore`: the dock that a session
  starts with, a tab that is brought to the front, and one that is put back.
* `Session.title`, `Session.canClose`, `closeRequests`: what the title of a tab
  shows, whether it can be closed, and what closing it asks for.
-/
import Scratchpad.Dock

namespace Scratchpad

/-- What the panels of the window ask for. -/
inductive Action where
  | newTab
  | closeTab (id : TabId)
  | activateTab (id : TabId)
  | runActive
  | openSettings
  | minimize
  deriving DecidableEq, Repr

/-- The tab that is to be closed. -/
def Action.closing? : Action → Option TabId
  | closeTab id => some id
  | _ => none

/-- What closing a tab in the dock asks for. -/
def closeRequests (id : TabId) : List Action := [.closeTab id]

/-! ### Docks -/

namespace Docking

variable {δ : Type} [Docking δ]

/-- One leaf with all tabs of the session. -/
def ofSession (s : Session) : δ := ofTabs (s.tabs.map Tab.id)

/-- Brings a tab to the front of its leaf if the dock has it. -/
def focus (d : δ) (id : TabId) : δ :=
  match find? d id with
  | some place => setActive d place
  | none => d

/-- Puts a tab back into the first leaf if it has gone. -/
def restore (d : δ) (id : TabId) : δ :=
  match find? d id with
  | some _ => d
  | none => pushToFirst d id

end Docking

@[inherit_doc Docking.ofSession]
abbrev Dock.ofSession (s : Session) : Dock := Docking.ofSession s

@[inherit_doc Docking.focus]
abbrev Dock.bringToFront (d : Dock) (id : TabId) : Dock := Docking.focus d id

@[inherit_doc Docking.restore]
abbrev Dock.restore (d : Dock) (id : TabId) : Dock := Docking.restore d id

/-! ### Titles -/

namespace Session

/-- The title of a tab that is not open. -/
def unknownTitle : String := "Unknown"

/-- The title of a tab. -/
def title (s : Session) (id : TabId) : String :=
  match s.tab? id with
  | some t => t.name
  | none => unknownTitle

/-- Whether tabs can be closed, which the last one cannot. -/
def canClose (s : Session) : Bool := decide (1 < s.tabs.length)

end Session

end Scratchpad
