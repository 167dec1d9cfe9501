/-
The line at the bottom of the window.

* `statusLabels`: what it says about the active tab, from left to right.
-/
import Scratchpad.Session

namespace Scratchpad

/-- A number behind its name. -/
def counted (name : String) (n : Nat) : String := name ++ ": " ++ toString n

/-- The number of suggestions, which is not shown when there are none. -/
def suggestionLabels (n : Nat) : List String :=
  if n = 0 then [] else [toString n ++ " suggestions"]

/-- The language of the scripts. -/
def languageLabel : String := "Lua"

/-- What the status bar says. -/
def statusLabels (s : Session) : List String :=
  let completer := s.activeTab.completer
  [s.activeTab.name, counted "Lines" s.lineCount,
    counted "Identifiers" completer.names.length] ++
    suggestionLabels completer.popup.candidates.length ++ [languageLabel]

end Scratchpad
