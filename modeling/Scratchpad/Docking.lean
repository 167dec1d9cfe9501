/-
Docks: the arrangement of the tabs on the screen.

A dock has leaves, each with a row of tabs, one of them in front. The window works
with any kind of docks.

* `Docking`: the operations of a kind of docks, and what is seen of a dock.
* `Docking.Pushed`, `Docking.Fronted`: a dock with one more tab in front, and a dock
  with another of its tabs in front.
* `LawfulDocking`: which tabs the operations leave in a dock, and in front.
-/
import Scratchpad.Session

namespace Scratchpad

/-- A kind of docks. -/
class Docking (δ : Type) where
  /-- Where a tab stands. -/
  Location : Type
  /-- One leaf with all the given tabs. -/
  ofTabs : List TabId → δ
  /-- All tabs in the order of their titles. -/
  tabs : δ → List TabId
  /-- The visible tabs, one for each leaf. -/
  fronts : δ → List TabId
  /-- Puts a tab into the leaf that has the focus, or into another if none has it. -/
  pushToFocused : δ → TabId → δ
  /-- Puts a tab into the first leaf. -/
  pushToFirst : δ → TabId → δ
  /-- The place of a tab, if the dock has it. -/
  find? : δ → TabId → Option Location
  /-- Brings the tab at a place to the front of its leaf. -/
  setActive : δ → Location → δ

namespace Docking

variable {δ : Type} [Docking δ]

/-- The dock `d'` is `d` with one more tab, which is in front. It makes a leaf of its own
only where there is none. -/
structure Pushed (d : δ) (id : TabId) (d' : δ) : Prop where
  tabs_perm : (tabs d').Perm (id :: tabs d)
  mem_fronts : id ∈ fronts d'
  leaves_le : (fronts d').length ≤ max 1 (fronts d).length

/-- The dock `d'` is `d` with the tab `id` in front. -/
structure Fronted (d : δ) (id : TabId) (d' : δ) : Prop where
  tabs_perm : (tabs d').Perm (tabs d)
  mem_fronts : id ∈ fronts d'
  leaves_le : (fronts d').length ≤ (fronts d).length

end Docking

open Docking

/-- Docks keep the tabs that they are given: a tab that is pushed is added and comes to
the front, and a tab that is found is in the dock and can be brought to the front. -/
class LawfulDocking (δ : Type) [Docking δ] : Prop where
  tabs_ofTabs (ids : List TabId) : (tabs (ofTabs ids : δ)).Perm ids
  /-- Of the tabs of a new dock the first is in front. -/
  fronts_ofTabs (ids : List TabId) : fronts (ofTabs ids : δ) = ids.take 1
  fronts_subset (d : δ) : fronts d ⊆ tabs d
  pushed_pushToFocused (d : δ) (id : TabId) : Pushed d id (pushToFocused d id)
  pushed_pushToFirst (d : δ) (id : TabId) : Pushed d id (pushToFirst d id)
  isSome_find?_iff (d : δ) (id : TabId) : (find? d id).isSome ↔ id ∈ tabs d
  fronted_setActive {d : δ} {id : TabId} {place : Location δ} (h : find? d id = some place) :
    Fronted d id (setActive d place)

end Scratchpad
