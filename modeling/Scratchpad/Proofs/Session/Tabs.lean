/-
The tabs of a session and their numbers.

* `Session.IsFresh`, `Session.Reachable`: sessions that nothing has happened to, and the sessions
  that events make of them. `Session.run_induction`: what every event keeps, every run keeps.
* `Session.ids`: the numbers of the open tabs, in the order of the tabs.
* `Session.SameTabs`: the same tabs are open and the same one is active, whatever they hold.
* `Session.Closes`: one tab is gone, and the others are as before.
* `Session.Change`: the four things that an event can do to the tabs, with
  `Session.change_handle`.
* `Session.Ordered`: the numbers increase along the tabs and lie below that of the next tab, and
  the active tab is open. `Session.Ordered.change` keeps it over one event.
* `Session.Retired`: a number that was given out and is not in use; `Session.Retired.run` says
  that it never is again.
* `Session.tabs_of_reachable`: all of it for every reachable session.
-/
import Mathlib.Tactic
import Scratchpad.Proofs.Session.Settings

namespace Scratchpad

namespace Session

/-- A session that nothing has happened to: the default one, or one whose settings were accepted,
with whatever number its tab was given. -/
def IsFresh (s : Session) : Prop :=
  ∃ first, s = start {} {} first ∨ ∃ options metrics, configured? options metrics first = .ok s

/-- The sessions that runs of events make of fresh ones. -/
def Reachable (s : Session) : Prop :=
  ∃ (first : Session) (events : List Event), first.IsFresh ∧ first.run events = s

variable {s s' : Session} {id : TabId}

/-- What every event keeps, every run keeps. -/
lemma run_induction {P : Session → Prop}
    (hstep : ∀ {s : Session}, P s → ∀ e, P (s.handle e)) (h : P s) (events : List Event) :
    P (s.run events) := by
  induction events generalizing s with
  | nil => exact h
  | cons e events ih => exact ih (hstep h e)

lemma isFresh_default (first : TabId) : IsFresh (start {} {} first) := ⟨first, Or.inl rfl⟩

/-- A fresh session was started under valid settings. -/
lemma IsFresh.eq {s : Session} (h : s.IsFresh) :
    ∃ options metrics first, validateSettings options metrics = .ok () ∧
      s = start options metrics first := by
  obtain ⟨first, rfl | ⟨options, metrics, h⟩⟩ := h
  · exact ⟨{}, {}, first, by decide +kernel, rfl⟩
  · rw [configured?] at h
    split at h
    · next hok =>
        cases h
        exact ⟨options, metrics, first, hok, rfl⟩
    · cases h

/-! ### Numbers of tabs -/

/-- The numbers of the open tabs. -/
def ids (s : Session) : List TabId := s.tabs.map Tab.id

@[simp] lemma ids_addTab (s : Session) : s.addTab.1.ids = s.ids ++ [s.nextId] := by
  simp [ids, addTab, Tab.opened]

lemma mem_ids : id ∈ s.ids ↔ ∃ t ∈ s.tabs, t.id = id := List.mem_map

lemma isSome_tab?_iff : (s.tab? id).isSome ↔ id ∈ s.ids := by
  simp [tab?, mem_ids]

lemma id_of_tab?_eq_some {t : Tab} (h : s.tab? id = some t) : t.id = id := by
  simpa using List.find?_some h

/-- The same tabs are open and the same one is active; what is in them may differ, and numbers may
be gone. -/
structure SameTabs (s s' : Session) : Prop where
  ids_eq : s'.ids = s.ids
  active_eq : s'.active = s.active
  nextId_le : s.nextId ≤ s'.nextId

lemma sameTabs_refl (s : Session) : s.SameTabs s := ⟨rfl, rfl, le_rfl⟩

lemma SameTabs.trans {s'' : Session} (h : s.SameTabs s') (h' : s'.SameTabs s'') :
    s.SameTabs s'' :=
  ⟨h'.ids_eq.trans h.ids_eq, h'.active_eq.trans h.active_eq, h.nextId_le.trans h'.nextId_le⟩

/-- A change of what is in a tab. -/
lemma sameTabs_modifyTab (s : Session) (id : TabId) {f : Tab → Tab} (hf : ∀ t, (f t).id = t.id) :
    s.SameTabs (s.modifyTab id f) := by
  refine ⟨?_, rfl, le_rfl⟩
  simp only [ids, modifyTab, List.map_map]
  refine List.map_congr_left fun t _ => ?_
  simp only [Function.comp_apply]
  split
  · exact hf t
  · rfl

lemma sameTabs_skip (s : Session) (count : ℕ) : s.SameTabs (s.skip count) :=
  ⟨rfl, rfl, Nat.le_add_right _ _⟩

lemma sameTabs_reconfigure (s : Session) (options : Options) (metrics : Metrics) :
    s.SameTabs (s.reconfigure options metrics).1 := by
  cases h : validateSettings options metrics with
  | ok u =>
      have hforce := (s.reconfigure_of_ok h).2
      refine ⟨?_, hforce.active_eq, hforce.nextId_eq.ge⟩
      simp [ids, hforce.tabs_eq, Function.comp_def, Tab.reconfigured]
  | error r =>
      rw [s.reconfigure_of_error h]
      exact s.sameTabs_refl

/-! ### Closing -/

/-- The session `s'` is what closing the tab `id` leaves of `s`: exactly that tab is gone, and the
first one of those that remain is active if it was. -/
structure Closes (s : Session) (id : TabId) (s' : Session) : Prop where
  tabs_eq : ∃ before t after, t.id = id ∧ s.tabs = before ++ t :: after ∧ s'.tabs = before ++ after
  active_eq : s'.active = if s.active = id then (s'.tabs.head s'.tabs_ne_nil).id else s.active
  nextId_eq : s'.nextId = s.nextId
  console_eq : s'.console = s.console
  options_eq : s'.options = s.options
  metrics_eq : s'.metrics = s.metrics

lemma closeTab_of_mem (hmem : id ∈ s.ids) (htwo : 2 ≤ s.tabs.length) :
    (s.closeTab id).2 = true ∧ s.Closes id (s.closeTab id).1 := by
  have hclosable : 1 < s.tabs.length ∧ (s.tab? id).isSome := ⟨htwo, isSome_tab?_iff.mpr hmem⟩
  obtain ⟨t, ht, hid⟩ := mem_ids.mp hmem
  obtain ⟨u, before, after, -, hu, hsplit, herase⟩ :=
    List.exists_of_eraseP (p := fun t : Tab => t.id == id) ht (by simpa using hid)
  rw [closeTab, dif_pos hclosable]
  exact ⟨rfl, ⟨before, u, after, by simpa using hu, hsplit, herase⟩, rfl, rfl, rfl, rfl, rfl⟩

lemma closeTab_of_not (h : ¬ (id ∈ s.ids ∧ 2 ≤ s.tabs.length)) : s.closeTab id = (s, false) := by
  rw [closeTab, dif_neg]
  rw [isSome_tab?_iff]
  exact fun hclosable => h hclosable.symm

lemma closeTab_eq_true_iff : (s.closeTab id).2 = true ↔ id ∈ s.ids ∧ 2 ≤ s.tabs.length := by
  by_cases h : id ∈ s.ids ∧ 2 ≤ s.tabs.length
  · exact iff_of_true (closeTab_of_mem h.1 h.2).1 h
  · exact iff_of_false (by simp [closeTab_of_not h]) h

lemma closes_closeTab (h : (s.closeTab id).2 = true) : s.Closes id (s.closeTab id).1 := by
  obtain ⟨hmem, htwo⟩ := closeTab_eq_true_iff.mp h
  exact (closeTab_of_mem hmem htwo).2

/-- A tab that is not closed leaves no trace. -/
lemma closeTab_of_eq_false (h : (s.closeTab id).2 = false) : (s.closeTab id).1 = s := by
  rw [closeTab_of_not]
  rw [← closeTab_eq_true_iff, h]
  exact Bool.false_ne_true

namespace Closes

lemma ids_eq (h : s.Closes id s') :
    ∃ before after, s.ids = before ++ id :: after ∧ s'.ids = before ++ after := by
  obtain ⟨before, t, after, rfl, htabs, htabs'⟩ := h.tabs_eq
  exact ⟨before.map Tab.id, after.map Tab.id, by simp [ids, htabs], by simp [ids, htabs']⟩

lemma ids_sublist (h : s.Closes id s') : s'.ids.Sublist s.ids := by
  obtain ⟨before, after, hids, hids'⟩ := h.ids_eq
  rw [hids, hids']
  exact (List.Sublist.refl before).append (List.sublist_cons_self id after)

/-- The active tab is not the one that was closed. -/
lemma active_mem (h : s.Closes id s') (hactive : s.active ∈ s.ids) : s'.active ∈ s'.ids := by
  rw [h.active_eq]
  split
  · exact List.mem_map_of_mem (List.head_mem s'.tabs_ne_nil)
  · next hne =>
      obtain ⟨before, after, hids, hids'⟩ := h.ids_eq
      rw [hids, List.mem_append, List.mem_cons] at hactive
      rw [hids', List.mem_append]
      exact hactive.imp_right fun h => h.resolve_left hne

end Closes

/-! ### What an event does to the tabs -/

/-- Whatever happens to a session, the tabs stay the same, or one is opened, or one is closed, or
an open one becomes the active one. -/
inductive Change (s : Session) : Session → Prop
  | kept {s' : Session} (h : s.SameTabs s') : Change s s'
  | opened : Change s s.addTab.1
  | closed {id : TabId} {s' : Session} (h : s.Closes id s') : Change s s'
  | activated {id : TabId} (h : id ∈ s.ids) : Change s { s with active := id }

lemma change_refl (s : Session) : s.Change s := .kept s.sameTabs_refl

lemma change_closeTab (s : Session) (id : TabId) : s.Change (s.closeTab id).1 := by
  cases h : (s.closeTab id).2 with
  | true => exact .closed (closes_closeTab h)
  | false =>
      rw [closeTab_of_eq_false h]
      exact s.change_refl

lemma activate_of_mem (h : id ∈ s.ids) : s.activate id = ({ s with active := id }, true) := by
  rw [Session.activate, if_pos (isSome_tab?_iff.mpr h)]

lemma activate_of_not_mem (h : id ∉ s.ids) : s.activate id = (s, false) := by
  rw [Session.activate, if_neg (mt isSome_tab?_iff.mp h)]

lemma tabs_activate (s : Session) (id : TabId) : (s.activate id).1.tabs = s.tabs := by
  rw [Session.activate]
  split <;> rfl

lemma change_activate (s : Session) (id : TabId) : s.Change (s.activate id).1 := by
  by_cases h : id ∈ s.ids
  · rw [activate_of_mem h]
    exact .activated h
  · rw [activate_of_not_mem h]
    exact s.change_refl

theorem change_handle (s : Session) (e : Event) : s.Change (s.handle e) := by
  cases e with
  | add => exact .opened
  | close id => exact s.change_closeTab id
  | activate id => exact s.change_activate id
  | update content => exact .kept (s.sameTabs_modifyTab _ fun _ => rfl)
  | reconfigure options metrics => exact .kept (s.sameTabs_reconfigure options metrics)
  | run => exact .kept ⟨rfl, rfl, le_rfl⟩
  | clear => exact .kept ⟨rfl, rfl, le_rfl⟩
  | completer id event => exact .kept (s.sameTabs_modifyTab _ fun _ => rfl)
  | skip count => exact .kept (s.sameTabs_skip count)

/-! ### The order of the numbers -/

/-- The numbers increase along the tabs and are smaller than that of the next tab, and the active
tab is one of them. -/
structure Ordered (s : Session) : Prop where
  ids_increasing : s.ids.Pairwise (· < ·)
  lt_nextId : ∀ id ∈ s.ids, id < s.nextId
  active_mem : s.active ∈ s.ids

lemma IsFresh.ordered (h : s.IsFresh) : s.Ordered := by
  obtain ⟨options, metrics, first, -, rfl⟩ := h.eq
  exact ⟨List.pairwise_singleton _ _, by simp [ids, start, Tab.opened],
    by simp [ids, start, Tab.opened]⟩

namespace Ordered

lemma ids_nodup (h : s.Ordered) : s.ids.Nodup := h.ids_increasing.imp ne_of_lt

lemma of_sameTabs (h : s.Ordered) (hsame : s.SameTabs s') : s'.Ordered := by
  refine ⟨?_, ?_, ?_⟩
  · rw [hsame.ids_eq]
    exact h.ids_increasing
  · rw [hsame.ids_eq]
    exact fun id hid => (h.lt_nextId id hid).trans_le hsame.nextId_le
  · rw [hsame.ids_eq, hsame.active_eq]
    exact h.active_mem

lemma addTab (h : s.Ordered) : s.addTab.1.Ordered := by
  refine ⟨?_, ?_, ?_⟩
  · rw [ids_addTab, List.pairwise_append]
    exact ⟨h.ids_increasing, List.pairwise_singleton _ _, by simpa using h.lt_nextId⟩
  · intro id hid
    rw [ids_addTab, List.mem_append, List.mem_singleton] at hid
    show id < s.nextId + 1
    rcases hid with hid | rfl
    · exact (h.lt_nextId id hid).trans (Nat.lt_succ_self _)
    · exact Nat.lt_succ_self _
  · rw [ids_addTab]
    exact List.mem_append_right _ (List.mem_singleton_self _)

lemma of_closes (h : s.Ordered) (hcloses : s.Closes id s') : s'.Ordered := by
  refine ⟨h.ids_increasing.sublist hcloses.ids_sublist, fun k hk => ?_,
    hcloses.active_mem h.active_mem⟩
  rw [hcloses.nextId_eq]
  exact h.lt_nextId k (hcloses.ids_sublist.subset hk)

lemma change (h : s.Ordered) (hchange : s.Change s') : s'.Ordered := by
  cases hchange with
  | kept hsame => exact h.of_sameTabs hsame
  | opened => exact h.addTab
  | closed hcloses => exact h.of_closes hcloses
  | activated hmem => exact ⟨h.ids_increasing, h.lt_nextId, hmem⟩

lemma handle (h : s.Ordered) (e : Event) : (s.handle e).Ordered := h.change (s.change_handle e)

lemma run (h : s.Ordered) (events : List Event) : (s.run events).Ordered :=
  run_induction Ordered.handle h events

/-- The active tab is found by its number. -/
lemma tab?_active (h : s.Ordered) : s.tab? s.active = some s.activeTab := by
  obtain ⟨t, ht⟩ := Option.isSome_iff_exists.mp (isSome_tab?_iff.mpr h.active_mem)
  rw [activeTab, ht]
  rfl

lemma id_activeTab (h : s.Ordered) : s.activeTab.id = s.active := id_of_tab?_eq_some h.tab?_active

/-- New content is for the tab with the active number. -/
lemma updateContent_eq (h : s.Ordered) (content : Text) :
    s.updateContent content = s.modifyTab s.active (·.update content) := by
  rw [updateContent, h.id_activeTab]

end Ordered

lemma IsFresh.hasValidSettings (h : s.IsFresh) : s.HasValidSettings := by
  obtain ⟨options, metrics, first, hok, rfl⟩ := h.eq
  exact hok

theorem Reachable.ordered (h : s.Reachable) : s.Ordered := by
  obtain ⟨first, events, hfirst, rfl⟩ := h
  exact hfirst.ordered.run events

/-! ### Numbers that are not used again -/

lemma Change.nextId_le (h : s.Change s') : s.nextId ≤ s'.nextId := by
  cases h with
  | kept hsame => exact hsame.nextId_le
  | opened => exact Nat.le_succ _
  | closed hcloses => exact hcloses.nextId_eq.ge
  | activated => exact le_rfl

lemma nextId_le_run (s : Session) (events : List Event) : s.nextId ≤ (s.run events).nextId := by
  induction events generalizing s with
  | nil => exact le_rfl
  | cons e events ih => exact (s.change_handle e).nextId_le.trans (ih _)

/-- The number was given out, and no open tab has it. -/
def Retired (s : Session) (id : TabId) : Prop := id < s.nextId ∧ id ∉ s.ids

lemma Retired.change (h : s.Retired id) (hchange : s.Change s') : s'.Retired id := by
  refine ⟨h.1.trans_le hchange.nextId_le, ?_⟩
  cases hchange with
  | kept hsame =>
      rw [hsame.ids_eq]
      exact h.2
  | opened =>
      rw [ids_addTab, List.mem_append, List.mem_singleton, not_or]
      exact ⟨h.2, h.1.ne⟩
  | closed hcloses => exact fun hid => h.2 (hcloses.ids_sublist.subset hid)
  | activated => exact h.2

lemma Retired.run (h : s.Retired id) (events : List Event) : (s.run events).Retired id :=
  run_induction (P := fun s => s.Retired id) (fun h e => h.change (change_handle _ e)) h events

/-- A number in use was given out, for good. -/
lemma Ordered.lt_nextId_run (h : s.Ordered) (hid : id ∈ s.ids) (events : List Event) :
    id < (s.run events).nextId :=
  (h.lt_nextId id hid).trans_le (s.nextId_le_run events)

/-- **Tabs**: a session has a tab, and the numbers of its tabs increase. The number of an open tab
is smaller than every one given out later, and once its tab is closed it is in use no more. The
active tab is open, so that looking for it never falls back on the first tab. A tab is closed
exactly when it is open and not the only one; it goes alone, and the first one of those that
remain is active if it was. What is refused changes nothing. -/
theorem tabs_of_reachable (h : s.Reachable) :
    (s.tabs ≠ [] ∧ s.ids.Pairwise (· < ·) ∧ s.ids.Nodup) ∧
    (∀ id ∈ s.ids, ∀ events, id < (s.run events).addTab.2 ∧
      (id ∉ (s.run events).ids → ∀ later, id ∉ (s.run (events ++ later)).ids)) ∧
    (s.active ∈ s.ids ∧ s.tab? s.active = some s.activeTab ∧
      ∀ content, s.updateContent content = s.modifyTab s.active (·.update content)) ∧
    (∀ id, ((s.closeTab id).2 = true ↔ id ∈ s.ids ∧ 2 ≤ s.tabs.length) ∧
      ((s.closeTab id).2 = true → s.Closes id (s.closeTab id).1) ∧
      ((s.closeTab id).2 = false → (s.closeTab id).1 = s)) ∧
    ∀ id, ((s.activate id).2 = true ↔ id ∈ s.ids) ∧
      ((s.activate id).2 = false → (s.activate id).1 = s) := by
  have hs := h.ordered
  refine ⟨⟨s.tabs_ne_nil, hs.ids_increasing, hs.ids_nodup⟩, fun id hid events => ?_,
    ⟨hs.active_mem, hs.tab?_active, hs.updateContent_eq⟩,
    fun id => ⟨closeTab_eq_true_iff, closes_closeTab, closeTab_of_eq_false⟩, fun id => ?_⟩
  · have hlt := hs.lt_nextId_run hid events
    refine ⟨hlt, fun hclosed later => ?_⟩
    rw [run_append]
    exact (Retired.run ⟨hlt, hclosed⟩ later).2
  · by_cases hid : id ∈ s.ids
    · simp [activate_of_mem hid, hid]
    · simp [activate_of_not_mem hid, hid]

/-- The first number is 7, and two numbers go to other sessions. Of three more tabs the second is
closed: the active last one can be closed, which leaves the first one active, the closed one cannot,
and the number of the first one is not used again once it is closed. -/
theorem tabs_of_session_with_closed_tab :
    let s := (start {} {} 7).run [.add, .skip 2, .add, .close 8, .activate 7,
      .completer 11 (.edit "pri".toList 3), .reconfigure { maxCandidates := 0 } {}, .add]
    s.Reachable ∧ s.ids = [7, 11, 12] ∧ s.active = 12 ∧
      s.Closes 12 (s.closeTab 12).1 ∧ (s.closeTab 12).1.active = 7 ∧
      (s.closeTab 8).1 = s ∧ (s.activate 8).1 = s ∧
      ∀ later, 7 ∉ (s.run ([.close 7] ++ later)).ids := by
  intro s
  have h : s.Reachable := ⟨_, _, isFresh_default 7, rfl⟩
  obtain ⟨-, hnumbers, -, hclosing, hactivating⟩ := tabs_of_reachable h
  have hclosed : (s.closeTab 12).2 = true ∧ (s.closeTab 8).2 = false ∧
      (s.activate 8).2 = false := by
    decide +kernel
  exact ⟨h, by decide +kernel, by decide +kernel, (hclosing 12).2.1 hclosed.1, by decide +kernel,
    (hclosing 8).2.2 hclosed.2.1, (hactivating 8).2 hclosed.2.2,
    (hnumbers 7 (by decide +kernel) [.close 7]).2 (by decide +kernel)⟩

end Session

end Scratchpad
