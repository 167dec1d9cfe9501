/-
The docks of the window.

* `Leaf`: a part of the screen with a row of tabs, one of them in front. A leaf
  without tabs does not exist.
* `Dock`: the leaves, and the one that has the focus.
* `Dock.push`, `Dock.pushFirst`, `Dock.find?`, `Dock.setActive`: the operations that
  the window needs; they make `Dock` a kind of docks.
* `Dock.drop`: takes a tab away, as the user does.
-/
import Scratchpad.Docking

namespace Scratchpad

/-! ### Leaves -/

/-- A row of tabs, one of them in front. -/
structure Leaf where
  tabs : List TabId
  /-- The position of the tab in front. -/
  front : Nat
  front_lt : front < tabs.length
  deriving DecidableEq, Repr

namespace Leaf

/-- The tab in front. -/
def frontTab (l : Leaf) : TabId := l.tabs.get ⟨l.front, l.front_lt⟩

/-- A leaf with one tab. -/
def single (id : TabId) : Leaf := ⟨[id], 0, by simp⟩

/-- Puts a tab behind the others and in front of the screen. -/
def push (l : Leaf) (id : TabId) : Leaf := ⟨l.tabs ++ [id], l.tabs.length, by simp⟩

/-- Brings the tab at a position to the front. -/
def setFront (l : Leaf) (i : Nat) : Leaf :=
  if h : i < l.tabs.length then { l with front := i, front_lt := h } else l

/-- The front position after a tab has gone: the tab in front keeps its place unless
it or one before it has gone; then the position goes down by one. -/
def frontAfter (gone front : Nat) : Nat := if gone ≤ front then front - 1 else front

theorem frontAfter_lt {gone front length : Nat} (hgone : gone < length) (hfront : front < length)
    (hlength : 1 < length) : frontAfter gone front < length - 1 := by
  unfold frontAfter
  split <;> omega

/-- The leaf without the tab at a position; nothing is left of a leaf with no other
tab. -/
def drop? (l : Leaf) (i : Nat) : Option Leaf :=
  if h : i < l.tabs.length then
    if hlength : 1 < l.tabs.length then
      some ⟨l.tabs.eraseIdx i, frontAfter i l.front, by
        rw [List.length_eraseIdx_of_lt h]
        exact frontAfter_lt h l.front_lt hlength⟩
    else none
  else some l

theorem frontTab_mem (l : Leaf) : l.frontTab ∈ l.tabs := List.get_mem _ _

@[simp] theorem frontTab_push (l : Leaf) (id : TabId) : (l.push id).frontTab = id := by
  simp [frontTab, push]

@[simp] theorem tabs_setFront (l : Leaf) (i : Nat) : (l.setFront i).tabs = l.tabs := by
  unfold setFront
  split <;> rfl

theorem frontTab_setFront_idxOf {l : Leaf} {id : TabId} (h : id ∈ l.tabs) :
    (l.setFront (l.tabs.idxOf id)).frontTab = id := by
  have hlt : l.tabs.idxOf id < l.tabs.length := List.idxOf_lt_length_iff.2 h
  simp [setFront, hlt, frontTab]

end Leaf

/-! ### Docks -/

/-- The leaves of the screen, and the position of the one that has the focus. -/
structure Dock where
  leaves : List Leaf
  focused : Option Nat := none
  deriving DecidableEq, Repr

namespace Dock

/-- One leaf with all the given tabs, the first one in front. -/
def ofTabs (tabs : List TabId) : Dock :=
  if h : 0 < tabs.length then { leaves := [⟨tabs, 0, h⟩] } else { leaves := [] }

/-- All tabs. -/
def tabs (d : Dock) : List TabId := d.leaves.flatMap Leaf.tabs

/-- The visible tabs. -/
def fronts (d : Dock) : List TabId := d.leaves.map Leaf.frontTab

/-- Puts a tab into a leaf, which is given the focus, or into a leaf of its own if there
is none. -/
def pushTo (d : Dock) (leaf : Nat) (id : TabId) : Dock :=
  if d.leaves.isEmpty then { leaves := [.single id], focused := some 0 }
  else { leaves := d.leaves.modify leaf (·.push id), focused := some leaf }

/-- The position of the leaf for new tabs: the one that has the focus, or the first
one. -/
def target (d : Dock) : Nat :=
  match d.focused with
  | some i => if i < d.leaves.length then i else 0
  | none => 0

/-- Puts a tab into the leaf for new tabs. -/
def push (d : Dock) (id : TabId) : Dock := d.pushTo d.target id

/-- Puts a tab into the first leaf. -/
def pushFirst (d : Dock) (id : TabId) : Dock := d.pushTo 0 id

/-- The first leaf that has the tab, with the first place of the tab there, as two
positions. -/
def locate (id : TabId) : List Leaf → Option (Nat × Nat)
  | [] => none
  | l :: rest =>
    if id ∈ l.tabs then some (0, l.tabs.idxOf id)
    else (locate id rest).map fun (leaf, i) => (leaf + 1, i)

/-- The place of a tab. -/
def find? (d : Dock) (id : TabId) : Option (Nat × Nat) := locate id d.leaves

/-- Brings the tab at a place to the front of its leaf. -/
def setActive (d : Dock) (place : Nat × Nat) : Dock :=
  { d with leaves := d.leaves.modify place.1 (·.setFront place.2) }

/-- The leaf with the focus after a leaf has gone. -/
def focusAfter (gone leaf : Nat) : Option Nat :=
  if leaf = gone then none else some (if gone < leaf then leaf - 1 else leaf)

/-- Takes a tab away. A leaf goes with its last tab. -/
def drop (d : Dock) (id : TabId) : Dock :=
  match d.find? id with
  | none => d
  | some (leaf, i) =>
    match d.leaves[leaf]?.bind (·.drop? i) with
    | some l => { d with leaves := d.leaves.set leaf l }
    | none => { leaves := d.leaves.eraseIdx leaf, focused := d.focused.bind (focusAfter leaf) }

@[default_instance]
instance : Docking Dock where
  Location := Nat × Nat
  ofTabs := ofTabs
  tabs := tabs
  fronts := fronts
  pushToFocused := push
  pushToFirst := pushFirst
  find? := find?
  setActive := setActive

end Dock

end Scratchpad
