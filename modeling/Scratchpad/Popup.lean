/-
The list of suggestions on the screen, and how keys move through it.

* `Listing`: the candidates shown, the one selected, and the place; a listing is
  never empty, and one of its candidates is selected.
* `Popup`: closed, or showing a listing.
* `Transition`: what an input does to the popup.
* `Popup.selectNext`, `Popup.selectPrevious`, `Popup.accept`, `Popup.dismiss`,
  `Popup.pressKey`, `Popup.selectRow`: the inputs, each with the popup after it.
  A closed popup ignores them all.
-/
import Scratchpad.Caret
import Scratchpad.Suggestions

namespace Scratchpad

/-- The suggestions on the screen. -/
structure Listing where
  candidates : List Candidate
  /-- The position of the selected candidate. -/
  selected : Nat
  /-- The upper left corner. -/
  anchor : Point
  selected_lt : selected < candidates.length
  deriving DecidableEq, Repr

/-- The candidate that is selected. -/
def Listing.choice (l : Listing) : Candidate := l.candidates.get ⟨l.selected, l.selected_lt⟩

/-- The same listing with another candidate selected. -/
def Listing.select (l : Listing) (i : Nat) (h : i < l.candidates.length) : Listing :=
  { l with selected := i, selected_lt := h }

/-- The state of the popup. -/
inductive Popup where
  | closed
  | shown (listing : Listing)
  deriving DecidableEq, Repr

/-- The keys that matter to the popup. -/
inductive Key where
  | enter
  | tab
  | escape
  | up
  | down
  | other
  deriving DecidableEq, Repr

/-- What an input does to the popup. -/
inductive Transition where
  /-- Nothing: the input belongs to the text surface. -/
  | ignored
  /-- Another candidate is selected. -/
  | moved (selected : Nat)
  /-- The popup closes. -/
  | dismissed
  /-- The popup closes, and this candidate is to be inserted. -/
  | accepted (candidate : Candidate)
  deriving DecidableEq, Repr

/-- Whether the popup used the input up. -/
def Transition.isConsumed : Transition → Bool
  | ignored => false
  | _ => true

namespace Popup

/-- Shows candidates with the first one selected; without candidates the popup is
closed. -/
def ofCandidates (candidates : List Candidate) (anchor : Point) : Popup :=
  if h : 0 < candidates.length then .shown ⟨candidates, 0, anchor, h⟩ else .closed

/-- Whether a listing is shown. -/
def isOpen : Popup → Bool
  | closed => false
  | shown _ => true

/-- The candidates shown. -/
def candidates : Popup → List Candidate
  | closed => []
  | shown l => l.candidates

/-- The position of the selected candidate. -/
def selected? : Popup → Option Nat
  | closed => none
  | shown l => some l.selected

/-- The selected candidate. -/
def choice? : Popup → Option Candidate
  | closed => none
  | shown l => some l.choice

/-- Moves the listing to another place. -/
def moveTo (anchor : Point) : Popup → Popup
  | closed => closed
  | shown l => shown { l with anchor }

/-- Selects the next candidate, the first one after the last. -/
def selectNext : Popup → Transition × Popup
  | closed => (.ignored, closed)
  | shown l =>
    let next := (l.selected + 1) % l.candidates.length
    (.moved next, shown (l.select next (Nat.mod_lt _ (Nat.zero_lt_of_lt l.selected_lt))))

/-- Selects the candidate before, the last one before the first. -/
def selectPrevious : Popup → Transition × Popup
  | closed => (.ignored, closed)
  | shown l =>
    let previous := (l.selected + l.candidates.length - 1) % l.candidates.length
    (.moved previous,
      shown (l.select previous (Nat.mod_lt _ (Nat.zero_lt_of_lt l.selected_lt))))

/-- Closes the popup and hands out the selected candidate. -/
def accept : Popup → Transition × Popup
  | closed => (.ignored, closed)
  | shown l => (.accepted l.choice, closed)

/-- Closes the popup. -/
def dismiss : Popup → Transition × Popup
  | closed => (.ignored, closed)
  | shown _ => (.dismissed, closed)

/-- Offers a key to the popup. -/
def pressKey (p : Popup) (key : Key) : Transition × Popup :=
  match key with
  | .down => p.selectNext
  | .up => p.selectPrevious
  | .enter | .tab => p.accept
  | .escape => p.dismiss
  | .other => (.ignored, p)

/-- Accepts the candidate in row `i`, whichever is selected; there may be no such
row. -/
def selectRow (p : Popup) (i : Nat) : Transition × Popup :=
  match p with
  | closed => (.ignored, closed)
  | shown l =>
    if h : i < l.candidates.length then (shown (l.select i h)).accept else (.ignored, p)

@[simp] theorem isOpen_ofCandidates (candidates : List Candidate) (anchor : Point) :
    (ofCandidates candidates anchor).isOpen = !candidates.isEmpty := by
  cases candidates <;> simp [ofCandidates, isOpen]

@[simp] theorem candidates_ofCandidates (candidates : List Candidate) (anchor : Point) :
    (ofCandidates candidates anchor).candidates = candidates := by
  cases candidates <;> simp [ofCandidates, Popup.candidates]

/-- A closed popup leaves every key to the text surface. -/
@[simp] theorem pressKey_closed (key : Key) : closed.pressKey key = (.ignored, closed) := by
  cases key <;> rfl

end Popup

end Scratchpad
