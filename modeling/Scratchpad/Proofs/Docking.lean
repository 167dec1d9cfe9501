/-
What the operations of a dock do to its tabs and to the tab in front.

* `Docking.HasOneRow`: no tab stands beside another. There, a tab that was pushed or fronted is all
  that is visible (`Docking.HasOneRow.fronts_of_pushed`, `Docking.HasOneRow.fronts_of_fronted`).
* `Docking.pushed_restore`, `Docking.fronted_focus`: what the window does with lawful docks comes
  down to tabs that are pushed and tabs that are fronted.
* `Dock.pushed_pushTo`, `Dock.locate_eq_some`: the docks of the window put a tab into a leaf that
  exists, and find it where it is. They are lawful docks.
* `Dock.tabs_foldl_drop_perm`: tabs that are taken away leave all the others.
-/
import Mathlib.Tactic
import Scratchpad.Workspace

namespace Scratchpad

/-! ### Docks of any kind -/

namespace Docking

variable {δ : Type} [Docking δ] {d d' : δ} {id : TabId}

/-- No tab stands beside another: there is a single leaf, or none. -/
def HasOneRow (d : δ) : Prop := (fronts d).length ≤ 1

namespace HasOneRow

/-- In one row, a tab in front is the only one. -/
lemma fronts_eq (h : HasOneRow d) (hid : id ∈ fronts d) : fronts d = [id] := by
  have hlength : (fronts d).length = 1 := le_antisymm h (List.length_pos_of_mem hid)
  obtain ⟨x, hx⟩ := List.length_eq_one_iff.mp hlength
  rw [hx, List.mem_singleton] at hid
  rw [hx, hid]

lemma of_pushed (h : HasOneRow d) (hpushed : Pushed d id d') : HasOneRow d' :=
  hpushed.leaves_le.trans (max_le le_rfl h)

lemma fronts_of_pushed (h : HasOneRow d) (hpushed : Pushed d id d') : fronts d' = [id] :=
  (h.of_pushed hpushed).fronts_eq hpushed.mem_fronts

lemma of_fronted (h : HasOneRow d) (hfronted : Fronted d id d') : HasOneRow d' :=
  hfronted.leaves_le.trans h

lemma fronts_of_fronted (h : HasOneRow d) (hfronted : Fronted d id d') : fronts d' = [id] :=
  (h.of_fronted hfronted).fronts_eq hfronted.mem_fronts

end HasOneRow

variable [LawfulDocking δ]

lemma exists_find? (hid : id ∈ tabs d) : ∃ place, find? d id = some place :=
  Option.isSome_iff_exists.mp ((LawfulDocking.isSome_find?_iff d id).mpr hid)

lemma find?_eq_none (hid : id ∉ tabs d) : find? d id = none :=
  Option.not_isSome_iff_eq_none.mp (mt (LawfulDocking.isSome_find?_iff d id).mp hid)

/-- A tab that has gone is put back. -/
lemma pushed_restore (hid : id ∉ tabs d) : Pushed d id (restore d id) := by
  rw [restore, find?_eq_none hid]
  exact LawfulDocking.pushed_pushToFirst d id

/-- A tab of the dock comes to the front. -/
lemma fronted_focus (hid : id ∈ tabs d) : Fronted d id (focus d id) := by
  obtain ⟨place, hplace⟩ := exists_find? hid
  rw [focus, hplace]
  exact LawfulDocking.fronted_setActive hplace

/-- A tab that is not there is not brought to the front. -/
lemma focus_of_not_mem (hid : id ∉ tabs d) : focus d id = d := by
  rw [focus, find?_eq_none hid]

lemma tabs_focus_perm (d : δ) (id : TabId) : (tabs (focus d id)).Perm (tabs d) := by
  by_cases hid : id ∈ tabs d
  · exact (fronted_focus hid).tabs_perm
  · rw [focus_of_not_mem hid]

lemma HasOneRow.restore (h : HasOneRow d) (id : TabId) : HasOneRow (restore d id) := by
  by_cases hid : id ∈ tabs d
  · obtain ⟨place, hplace⟩ := exists_find? hid
    rwa [Docking.restore, hplace]
  · exact h.of_pushed (pushed_restore hid)

lemma HasOneRow.focus (h : HasOneRow d) (id : TabId) : HasOneRow (focus d id) := by
  by_cases hid : id ∈ tabs d
  · exact h.of_fronted (fronted_focus hid)
  · rwa [focus_of_not_mem hid]

end Docking

/-! ### The docks of the window -/

namespace Dock

variable {d : Dock} {id : TabId}

lemma perm_modify_push (id : TabId) : ∀ {leaves : List Leaf} {i : ℕ}, i < leaves.length →
    ((leaves.modify i (·.push id)).flatMap Leaf.tabs).Perm (id :: leaves.flatMap Leaf.tabs)
  | [], i, h => absurd h (Nat.not_lt_zero i)
  | l :: rest, 0, _ => by
      simp only [List.modify_zero_cons, List.flatMap_cons, Leaf.push, List.append_assoc,
        List.singleton_append]
      exact List.perm_middle
  | l :: rest, i + 1, h => by
      have ih := perm_modify_push id (Nat.lt_of_succ_lt_succ h)
      simp only [List.modify_succ_cons, List.flatMap_cons]
      exact (ih.append_left l.tabs).trans List.perm_middle

/-- The tab in front of a leaf that was changed is among the visible ones. -/
lemma frontTab_mem_map_modify {leaves : List Leaf} {i : ℕ} {l : Leaf} (f : Leaf → Leaf)
    (hl : leaves[i]? = some l) : (f l).frontTab ∈ (leaves.modify i f).map Leaf.frontTab := by
  refine List.mem_map_of_mem (List.mem_of_getElem? (i := i) ?_)
  rw [List.getElem?_modify_eq, hl]
  rfl

/-- A leaf that exists takes the tab, or a leaf is made for it. -/
lemma pushed_pushTo {i : ℕ} (h : d.leaves ≠ [] → i < d.leaves.length) (id : TabId) :
    Docking.Pushed d id (d.pushTo i id) := by
  rw [pushTo]
  split
  · next hnil =>
      have hleaves := List.isEmpty_iff.mp hnil
      refine ⟨?_, ?_, ?_⟩ <;>
        simp [Docking.tabs, Docking.fronts, tabs, fronts, hleaves, Leaf.single, Leaf.frontTab]
  · next hne =>
      have hi := h (mt List.isEmpty_iff.mpr hne)
      refine ⟨perm_modify_push id hi, ?_, ?_⟩
      · have hmem := frontTab_mem_map_modify (·.push id) (List.getElem?_eq_getElem hi)
        rwa [Leaf.frontTab_push] at hmem
      · simp [Docking.fronts, fronts]

/-- The leaf for new tabs is one that exists. -/
lemma target_lt (h : d.leaves ≠ []) : d.target < d.leaves.length := by
  have hpos := List.length_pos_of_ne_nil h
  rw [target]
  split
  · split
    · assumption
    · exact hpos
  · exact hpos

lemma isSome_locate_iff {leaves : List Leaf} :
    (locate id leaves).isSome ↔ id ∈ leaves.flatMap Leaf.tabs := by
  induction leaves with
  | nil => simp [locate]
  | cons l rest ih =>
      rw [locate, List.flatMap_cons, List.mem_append, ← ih]
      by_cases h : id ∈ l.tabs <;> simp [h]

/-- A tab is found at its place in a leaf that has it. -/
lemma locate_eq_some {leaves : List Leaf} {i j : ℕ} (h : locate id leaves = some (i, j)) :
    ∃ l, leaves[i]? = some l ∧ id ∈ l.tabs ∧ j = l.tabs.idxOf id := by
  induction leaves generalizing i with
  | nil => cases h
  | cons l rest ih =>
      rw [locate] at h
      split at h
      · next hid =>
          cases h
          exact ⟨l, rfl, hid, rfl⟩
      · obtain ⟨⟨i', j'⟩, hrest, heq⟩ := Option.map_eq_some_iff.mp h
        cases heq
        exact ih hrest

lemma flatMap_tabs_modify_setFront (leaves : List Leaf) (i j : ℕ) :
    (leaves.modify i (·.setFront j)).flatMap Leaf.tabs = leaves.flatMap Leaf.tabs := by
  induction leaves generalizing i with
  | nil => simp
  | cons l rest ih => cases i <;> simp [ih]

lemma fronted_setActive {place : ℕ × ℕ} (h : d.find? id = some place) :
    Docking.Fronted d id (d.setActive place) := by
  obtain ⟨l, hl, hid, hj⟩ := locate_eq_some h
  refine ⟨.of_eq (flatMap_tabs_modify_setFront _ _ _), ?_, ?_⟩
  · have hmem := frontTab_mem_map_modify (·.setFront place.2) hl
    rwa [hj, Leaf.frontTab_setFront_idxOf hid, ← hj] at hmem
  · simp [Docking.fronts, fronts, setActive]

/-- What is visible is in the dock. -/
lemma fronts_subset (d : Dock) : d.fronts ⊆ d.tabs := by
  intro id hid
  obtain ⟨l, hl, rfl⟩ := List.mem_map.mp hid
  exact List.mem_flatMap.mpr ⟨l, hl, l.frontTab_mem⟩

lemma tabs_ofTabs (ids : List TabId) : (ofTabs ids).tabs = ids := by
  cases ids <;> simp [ofTabs, tabs]

lemma fronts_ofTabs (ids : List TabId) : (ofTabs ids).fronts = ids.take 1 := by
  cases ids <;> simp [ofTabs, fronts, Leaf.frontTab]

instance : LawfulDocking Dock where
  tabs_ofTabs ids := .of_eq (tabs_ofTabs ids)
  fronts_ofTabs := fronts_ofTabs
  fronts_subset := fronts_subset
  pushed_pushToFocused _ := pushed_pushTo target_lt
  pushed_pushToFirst _ := pushed_pushTo List.length_pos_of_ne_nil
  isSome_find?_iff _ _ := isSome_locate_iff
  fronted_setActive := fronted_setActive

end Dock

/-! ### Tabs that are taken away -/

open scoped List

/-- What is left of a leaf are its tabs without the one that has gone. -/
lemma Leaf.cons_drop?_perm {l : Leaf} {id : TabId} (h : id ∈ l.tabs) :
    id :: (l.drop? (l.tabs.idxOf id)).elim [] tabs ~ l.tabs := by
  have hlt : l.tabs.idxOf id < l.tabs.length := List.idxOf_lt_length_iff.mpr h
  have hperm := List.getElem_cons_eraseIdx_perm hlt
  rw [List.getElem_idxOf] at hperm
  rw [drop?, dif_pos hlt]
  split
  · exact hperm
  · next hone =>
      have hnil : l.tabs.eraseIdx (l.tabs.idxOf id) = [] := by
        rw [← List.length_eq_zero_iff, List.length_eraseIdx_of_lt hlt]
        omega
      rwa [hnil] at hperm

namespace Dock

variable {d : Dock} {id : TabId}

/-- Taking a tab away leaves all the others. -/
lemma cons_tabs_drop_perm (h : id ∈ d.tabs) : id :: (d.drop id).tabs ~ d.tabs := by
  obtain ⟨⟨i, j⟩, hplace⟩ := Option.isSome_iff_exists.mp (isSome_locate_iff.mpr h)
  obtain ⟨l, hl, hid, rfl⟩ := locate_eq_some hplace
  obtain ⟨hi, hget⟩ := List.getElem?_eq_some_iff.mp hl
  have hsplit : d.tabs ~ l.tabs ++ (d.leaves.eraseIdx i).flatMap Leaf.tabs := by
    have hperm := (List.getElem_cons_eraseIdx_perm hi).symm.flatMap_right Leaf.tabs
    rwa [hget, List.flatMap_cons] at hperm
  have hdrop : (d.drop id).tabs ~
      (l.drop? (l.tabs.idxOf id)).elim [] Leaf.tabs ++
        (d.leaves.eraseIdx i).flatMap Leaf.tabs := by
    rw [drop, find?, hplace]
    dsimp only
    rw [hl, Option.bind_some]
    cases l.drop? (l.tabs.idxOf id) with
    | none => exact .refl _
    | some l' => exact (List.set_perm_cons_eraseIdx hi l').flatMap_right Leaf.tabs
  calc id :: (d.drop id).tabs
      _ ~ (id :: (l.drop? (l.tabs.idxOf id)).elim [] Leaf.tabs) ++
          (d.leaves.eraseIdx i).flatMap Leaf.tabs := hdrop.cons id
      _ ~ l.tabs ++ (d.leaves.eraseIdx i).flatMap Leaf.tabs :=
        (Leaf.cons_drop?_perm hid).append_right _
      _ ~ d.tabs := hsplit.symm

/-- So does taking several tabs away, one after the other. -/
lemma tabs_foldl_drop_perm {ids : List TabId} (hnodup : ids.Nodup) (hids : ids ⊆ d.tabs) :
    (ids.foldl drop d).tabs ++ ids ~ d.tabs := by
  induction ids generalizing d with
  | nil => simp
  | cons id ids ih =>
      rw [List.nodup_cons] at hnodup
      rw [List.cons_subset] at hids
      have hdrop := cons_tabs_drop_perm hids.1
      have hrest : ids ⊆ (d.drop id).tabs := by
        intro x hx
        refine List.mem_of_ne_of_mem ?_ (hdrop.mem_iff.mpr (hids.2 hx))
        rintro rfl
        exact hnodup.1 hx
      calc (ids.foldl drop (d.drop id)).tabs ++ id :: ids
          _ ~ id :: ((ids.foldl drop (d.drop id)).tabs ++ ids) := List.perm_middle
          _ ~ id :: (d.drop id).tabs := (ih hnodup.2 hrest).cons id
          _ ~ d.tabs := hdrop

end Dock

end Scratchpad
