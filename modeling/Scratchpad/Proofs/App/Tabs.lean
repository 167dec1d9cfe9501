/-
The dock and the session stay in step, whatever kind of docks the window has, as long as it is a
lawful one.

The dock drops the tabs that are to be closed while it is drawn; the session closes them one after
the other when the actions are done, or refuses to. In between, the tabs of the dock and those that
are still to be closed make up the open tabs of the session.

* `App.Throughout`: what holds of every drawing of a run.
* `App.ClosesDockedTabs`, `App.ActivatesFront`: the two rules that the dock keeps while it is
  drawn. `App.ClosesDockedTabs.of_drop`: the docks of the window keep the first.
* `App.InStep`: the tabs of the dock and the pending ones make up those of the session.
  `App.InStep.perform` keeps it over one action, `App.InStep.update` over one drawing.
* `App.Showing`: the same with one row of tabs, where the active tab is visible unless another is
  still to be closed. `App.Showing.perform` and `App.Showing.update` keep it.
* `App.dock_in_step_with_session`: both for every run of drawings.
-/
import Mathlib.Tactic
import Scratchpad.App
import Scratchpad.Proofs.Docking
import Scratchpad.Proofs.Editor

namespace Scratchpad

/-- The tab that an action asks to make the active one. -/
def Action.activating? : Action → Option TabId
  | activateTab id => some id
  | _ => none

namespace App

open scoped List

variable {δ : Type} [Docking δ] {a : App δ} {f : Frame δ} {id : TabId} {pending : List TabId}

/-! ### The settings dialog -/

lemma sameTabs_reconfigure (s : Session) (p : Preferences) : s.SameTabs (reconfigure s p).1 := by
  rw [reconfigure]
  split
  · exact s.sameTabs_reconfigure _ _
  · exact s.sameTabs_refl

omit [Docking δ] in
/-- Settings leave the dock and the tabs alone, whether they are taken or not. -/
lemma applySettings_keeps (a : App δ) (form : SettingsForm) :
    a.session.SameTabs (a.applySettings form).session ∧ (a.applySettings form).dock = a.dock := by
  have hsame := sameTabs_reconfigure a.session (form.applyTo a.saved.preferences)
  rw [applySettings]
  split
  · next h => exact ⟨by rwa [h] at hsame, rfl⟩
  · next h => exact ⟨by rwa [h] at hsame, rfl⟩

omit [Docking δ] in
lemma drawSettings_keeps (a : App δ)
    (paint : SettingsForm → SettingsForm × Verdict SettingsForm) :
    a.session.SameTabs (a.drawSettings paint).session ∧ (a.drawSettings paint).dock = a.dock := by
  simp only [drawSettings]
  split
  · next form _ => exact applySettings_keeps { a with settings := (a.settings.draw paint).1 } form
  · exact ⟨a.session.sameTabs_refl, rfl⟩

/-! ### Drawings -/

/-- The window when the editors and the dock have been drawn, before the actions. -/
def drawn (a : App δ) (f : Frame δ) : App δ :=
  let session := a.session.skip f.skipped
  { a with
    session := drawEditors (if f.clearsConsole then session.clearConsole else session) f.editors
    dock := f.docked.getD a.dock }

/-- The window when the actions have been done as well, before the settings dialog. -/
def acted (a : App δ) (f : Frame δ) : App δ := f.actions.foldl perform (a.drawn f)

lemma update_keeps (a : App δ) (f : Frame δ) :
    (a.acted f).session.SameTabs (a.update f).session ∧ (a.update f).dock = (a.acted f).dock :=
  drawSettings_keeps (a.acted f) f.settings

omit [Docking δ] in
/-- Before the actions, a drawing does nothing to the session but empty the console and draw
editors, and numbers may be gone. -/
lemma drawn_induction {P : Session → Prop} (h : P a.session)
    (hskip : ∀ s count, P s → P (s.skip count)) (hclear : ∀ s, P s → P s.clearConsole)
    (hdraw : ∀ s id frame, P s → P (s.modifyTab id (·.draw frame))) :
    P (a.drawn f).session := by
  have heditors (s : Session) (hs : P s) : P (drawEditors s f.editors) := by
    induction f.editors generalizing s with
    | nil => exact hs
    | cons editor editors ih => exact ih _ (hdraw s editor.1 editor.2 hs)
  have hskipped := hskip a.session f.skipped h
  refine heditors _ ?_
  split
  · exact hclear _ hskipped
  · exact hskipped

omit [Docking δ] in
lemma sameTabs_drawn (a : App δ) (f : Frame δ) : a.session.SameTabs (a.drawn f).session := by
  refine drawn_induction a.session.sameTabs_refl (fun s count h => ?_) (fun s h => ?_)
    fun s id frame h => ?_
  · exact h.trans (s.sameTabs_skip count)
  · exact h.trans ⟨rfl, rfl, le_rfl⟩
  · exact h.trans (s.sameTabs_modifyTab id fun t => t.id_draw frame)

/-! ### The rules of a drawing -/

/-- The condition holds of every drawing of a run, for the window that is drawn. -/
def Throughout (P : App δ → Frame δ → Prop) (a : App δ) : List (Frame δ) → Prop
  | [] => True
  | f :: frames => P a f ∧ (a.update f).Throughout P frames

instance decidableThroughout {P : App δ → Frame δ → Prop} [∀ a f, Decidable (P a f)] :
    ∀ (a : App δ) (frames : List (Frame δ)), Decidable (a.Throughout P frames)
  | _, [] => .isTrue trivial
  | a, f :: frames =>
      have := decidableThroughout (P := P) (a.update f) frames
      inferInstanceAs (Decidable (P a f ∧ (a.update f).Throughout P frames))

/-- The tabs that are to be made the active one. -/
def Frame.activating (f : Frame δ) : List TabId := f.actions.filterMap Action.activating?

/-- Each tab that is to be closed is asked for once, and while the dock is drawn it drops these tabs
and no others; for the rest, tabs are only moved. -/
structure ClosesDockedTabs (a : App δ) (f : Frame δ) : Prop where
  nodup : f.closing.Nodup
  perm : (Docking.tabs (a.drawn f).dock ++ f.closing).Perm (Docking.tabs a.dock)

/-- There is one row of tabs. Where no tab is dropped, another one comes to the front only together
with its activation, and this is for the tab in front and comes alone. -/
structure ActivatesFront (a : App δ) (f : Frame δ) : Prop where
  one_row : Docking.HasOneRow (a.drawn f).dock
  fronts_eq : f.activating = [] → f.closing = [] →
    Docking.fronts (a.drawn f).dock = Docking.fronts a.dock
  alone : ∀ id ∈ f.activating,
    f.actions = [.activateTab id] ∧ Docking.fronts (a.drawn f).dock = [id]

instance (a : App δ) (f : Frame δ) : Decidable (a.ClosesDockedTabs f) :=
  decidable_of_iff (f.closing.Nodup ∧
      (Docking.tabs (a.drawn f).dock ++ f.closing).Perm (Docking.tabs a.dock))
    ⟨fun h => ⟨h.1, h.2⟩, fun h => ⟨h.nodup, h.perm⟩⟩

instance (a : App δ) (f : Frame δ) : Decidable (a.ActivatesFront f) :=
  decidable_of_iff ((Docking.fronts (a.drawn f).dock).length ≤ 1 ∧
      (f.activating = [] → f.closing = [] →
        Docking.fronts (a.drawn f).dock = Docking.fronts a.dock) ∧
      ∀ id ∈ f.activating,
        f.actions = [.activateTab id] ∧ Docking.fronts (a.drawn f).dock = [id])
    ⟨fun h => ⟨h.1, h.2.1, h.2.2⟩, fun h => ⟨h.one_row, h.fronts_eq, h.alone⟩⟩

/-- The docks of the window keep the rule, as they drop the tabs that are to be closed one after the
other, whatever was moved before. -/
lemma ClosesDockedTabs.of_drop {a : App} {f : Frame} (moved : Dock)
    (hmoved : moved.tabs ~ a.dock.tabs) (hnodup : f.closing.Nodup)
    (hclosing : f.closing ⊆ a.dock.tabs)
    (hdocked : f.docked.getD a.dock = f.closing.foldl Dock.drop moved) :
    a.ClosesDockedTabs f := by
  refine ⟨hnodup, ?_⟩
  have hdropped := Dock.tabs_foldl_drop_perm hnodup fun x hx =>
    hmoved.mem_iff.mpr (hclosing hx)
  rw [← hdocked] at hdropped
  exact hdropped.trans hmoved

/-! ### Actions -/

/-- The tabs of the dock, together with those that it has dropped and the session has still to
close, are the open tabs of the session. -/
structure InStep (a : App δ) (pending : List TabId) : Prop where
  ordered : a.session.Ordered
  perm : (Docking.tabs a.dock ++ pending).Perm a.session.ids

namespace InStep

lemma nodup (h : a.InStep pending) : (Docking.tabs a.dock ++ pending).Nodup :=
  h.perm.nodup_iff.mpr h.ordered.ids_nodup

/-- With nothing pending, the dock has the open tabs. -/
lemma tabs_perm (h : a.InStep []) : (Docking.tabs a.dock).Perm a.session.ids := by
  simpa using h.perm

lemma of_sameTabs {a' : App δ} (h : a.InStep pending) (hsession : a.session.SameTabs a'.session)
    (hdock : a'.dock = a.dock) : a'.InStep pending := by
  refine ⟨h.ordered.of_sameTabs hsession, ?_⟩
  rw [hdock, hsession.ids_eq]
  exact h.perm

/-- The dock has dropped the tabs that are to be closed. -/
lemma drawn (h : a.InStep []) (hf : a.ClosesDockedTabs f) : (a.drawn f).InStep f.closing := by
  refine ⟨h.ordered.of_sameTabs (a.sameTabs_drawn f), ?_⟩
  rw [(a.sameTabs_drawn f).ids_eq]
  exact hf.perm.trans h.tabs_perm

section Lawful

variable [LawfulDocking δ]

lemma newTab (h : a.InStep pending) : a.newTab.InStep pending := by
  refine ⟨h.ordered.addTab, ?_⟩
  have hpushed := LawfulDocking.pushed_pushToFocused a.dock a.session.nextId
  calc Docking.tabs (Docking.pushToFocused a.dock a.session.nextId) ++ pending
      _ ~ a.session.nextId :: (Docking.tabs a.dock ++ pending) :=
        hpushed.tabs_perm.append_right pending
      _ ~ a.session.nextId :: a.session.ids := h.perm.cons _
      _ ~ a.session.ids ++ [a.session.nextId] := (List.perm_append_singleton _ _).symm
      _ = a.session.addTab.1.ids := a.session.ids_addTab.symm

/-- The session closes a tab that the dock has dropped, or the dock takes it back. -/
lemma closeTab (h : a.InStep (id :: pending)) : (a.closeTab id).InStep pending := by
  refine ⟨h.ordered.change (a.session.change_closeTab id), ?_⟩
  refine ((Docking.tabs_focus_perm _ _).append_right pending).trans ?_
  show (Docking.tabs (if (a.session.closeTab id).2 then a.dock else Docking.restore a.dock id) ++
    pending).Perm (a.session.closeTab id).1.ids
  cases hclosed : (a.session.closeTab id).2 with
  | true =>
      obtain ⟨before, after, hids, hids'⟩ := (Session.closes_closeTab hclosed).ids_eq
      have hperm : (id :: (Docking.tabs a.dock ++ pending)).Perm (id :: (before ++ after)) :=
        List.perm_middle.symm.trans ((hids ▸ h.perm).trans List.perm_middle)
      rw [if_pos rfl, hids']
      exact hperm.cons_inv
  | false =>
      have hgone : id ∉ Docking.tabs a.dock := fun hid =>
        List.disjoint_of_nodup_append h.nodup hid List.mem_cons_self
      have hrestored := (Docking.pushed_restore hgone).tabs_perm
      rw [if_neg Bool.false_ne_true, Session.closeTab_of_eq_false hclosed]
      exact (hrestored.append_right pending).trans (List.perm_middle.symm.trans h.perm)

/-- An action settles the tab that it closes, if it closes one. -/
lemma perform {action : Action} (h : a.InStep (action.closing?.toList ++ pending)) :
    (a.perform action).InStep pending := by
  cases action with
  | newTab => exact h.newTab
  | closeTab id => exact h.closeTab
  | activateTab id =>
      refine ⟨h.ordered.change (a.session.change_activate id), ?_⟩
      simp only [App.perform, Session.ids, Session.tabs_activate]
      exact h.perm
  | runActive => exact ⟨h.ordered.handle .run, h.perm⟩
  | openSettings => exact ⟨h.ordered, h.perm⟩
  | minimize => exact ⟨h.ordered, h.perm⟩

end Lawful

end InStep

/-- The tab that the first action closes is the first of all that are closed. -/
lemma filterMap_closing_cons (action : Action) (actions : List Action) :
    (action :: actions).filterMap Action.closing? =
      action.closing?.toList ++ actions.filterMap Action.closing? := by
  cases h : action.closing? <;> simp [h]

variable [LawfulDocking δ]

lemma InStep.performAll {actions : List Action}
    (h : a.InStep (actions.filterMap Action.closing?)) :
    (actions.foldl App.perform a).InStep [] := by
  induction actions generalizing a with
  | nil => exact h
  | cons action actions ih =>
      rw [filterMap_closing_cons] at h
      exact ih h.perform

lemma InStep.update (h : a.InStep []) (hf : a.ClosesDockedTabs f) : (a.update f).InStep [] :=
  (h.drawn hf).performAll.of_sameTabs (a.update_keeps f).1 (a.update_keeps f).2

/-! ### The tab in front -/

/-- There is one row of tabs, and the active tab is visible unless others are still to be
closed. -/
structure Showing (a : App δ) (pending : List TabId) : Prop where
  inStep : a.InStep pending
  one_row : Docking.HasOneRow a.dock
  fronts_eq : pending = [] → Docking.fronts a.dock = [a.session.active]

namespace Showing

omit [LawfulDocking δ] in
lemma of_sameTabs {a' : App δ} (h : a.Showing pending) (hsession : a.session.SameTabs a'.session)
    (hdock : a'.dock = a.dock) : a'.Showing pending := by
  refine ⟨h.inStep.of_sameTabs hsession hdock, ?_, ?_⟩
  · rw [hdock]
    exact h.one_row
  · rw [hdock, hsession.active_eq]
    exact h.fronts_eq

lemma newTab (h : a.Showing pending) : a.newTab.Showing pending := by
  have hpushed := LawfulDocking.pushed_pushToFocused a.dock a.session.nextId
  exact ⟨h.inStep.newTab, h.one_row.of_pushed hpushed, fun _ => h.one_row.fronts_of_pushed hpushed⟩

/-- The active tab comes to the front. It is in the dock when no other tab is pending. -/
lemma closeTab (h : a.Showing (id :: pending)) : (a.closeTab id).Showing pending := by
  have hstep := h.inStep.closeTab
  let dock := if (a.session.closeTab id).2 then a.dock else Docking.restore a.dock id
  have hrow : Docking.HasOneRow dock := by
    by_cases hclosed : (a.session.closeTab id).2
    · rw [show dock = a.dock from if_pos hclosed]
      exact h.one_row
    · rw [show dock = Docking.restore a.dock id from if_neg hclosed]
      exact h.one_row.restore id
  refine ⟨hstep, hrow.focus _, ?_⟩
  rintro rfl
  have hactive : (a.closeTab id).session.active ∈ Docking.tabs dock :=
    (Docking.tabs_focus_perm dock _).mem_iff.mp
      (hstep.tabs_perm.mem_iff.mpr hstep.ordered.active_mem)
  exact hrow.fronts_of_fronted (Docking.fronted_focus hactive)

lemma perform {action : Action} (h : a.Showing (action.closing?.toList ++ pending))
    (haction : action.activating? = none) : (a.perform action).Showing pending := by
  cases action with
  | newTab => exact h.newTab
  | closeTab id => exact h.closeTab
  | activateTab id => cases haction
  | runActive => exact h.of_sameTabs ⟨rfl, rfl, le_rfl⟩ rfl
  | openSettings => exact h.of_sameTabs a.session.sameTabs_refl rfl
  | minimize => exact h.of_sameTabs a.session.sameTabs_refl rfl

lemma performAll {actions : List Action} (h : a.Showing (actions.filterMap Action.closing?))
    (hactions : actions.filterMap Action.activating? = []) :
    (actions.foldl App.perform a).Showing [] := by
  rw [List.filterMap_eq_nil_iff] at hactions
  induction actions generalizing a with
  | nil => exact h
  | cons action actions ih =>
      rw [filterMap_closing_cons] at h
      rw [List.forall_mem_cons] at hactions
      exact ih (h.perform hactions.1) hactions.2

omit [LawfulDocking δ] in
/-- Without activations, the tab in front has changed only if tabs were dropped. -/
lemma drawn (h : a.Showing []) (hcloses : a.ClosesDockedTabs f) (hf : a.ActivatesFront f)
    (hnone : f.activating = []) : (a.drawn f).Showing f.closing := by
  refine ⟨h.inStep.drawn hcloses, hf.one_row, fun hnil => ?_⟩
  rw [hf.fronts_eq hnone hnil, h.fronts_eq rfl, (a.sameTabs_drawn f).active_eq]

/-- An activation comes alone, and makes the tab in front the active one. -/
lemma acted_of_activating (h : a.Showing []) (hcloses : a.ClosesDockedTabs f)
    (hf : a.ActivatesFront f) (hid : id ∈ f.activating) : (a.acted f).Showing [] := by
  obtain ⟨hactions, hfront⟩ := hf.alone id hid
  have hdrawn := h.inStep.drawn hcloses
  have hclosing : f.closing = [] := by simp [Frame.closing, hactions, Action.closing?]
  have hopen : id ∈ (a.drawn f).session.ids := by
    have hvisible : id ∈ Docking.fronts (a.drawn f).dock := hfront ▸ List.mem_singleton_self id
    rw [hclosing] at hdrawn
    exact hdrawn.tabs_perm.mem_iff.mp (LawfulDocking.fronts_subset _ hvisible)
  have hacted : a.acted f =
      { a.drawn f with session := { (a.drawn f).session with active := id } } := by
    rw [acted, hactions, List.foldl_cons, List.foldl_nil, App.perform,
      Session.activate_of_mem hopen]
  refine ⟨hdrawn.performAll, ?_, fun _ => ?_⟩
  · rw [hacted]
    exact hf.one_row
  · rw [hacted]
    exact hfront

lemma update (h : a.Showing []) (hcloses : a.ClosesDockedTabs f) (hf : a.ActivatesFront f) :
    (a.update f).Showing [] := by
  have hacted : (a.acted f).Showing [] := by
    cases hactivating : f.activating with
    | nil => exact (h.drawn hcloses hf hactivating).performAll hactivating
    | cons id rest => exact h.acted_of_activating hcloses hf (hactivating ▸ List.mem_cons_self)
  exact hacted.of_sameTabs (a.update_keeps f).1 (a.update_keeps f).2

end Showing

/-! ### Runs -/

lemma InStep.run (h : a.InStep []) {frames : List (Frame δ)}
    (hcloses : a.Throughout ClosesDockedTabs frames) : (a.run frames).InStep [] := by
  induction frames generalizing a with
  | nil => exact h
  | cons f frames ih => exact ih (h.update hcloses.1) hcloses.2

lemma Showing.run (h : a.Showing []) {frames : List (Frame δ)}
    (hcloses : a.Throughout ClosesDockedTabs frames)
    (hfronts : a.Throughout ActivatesFront frames) : (a.run frames).Showing [] := by
  induction frames generalizing a with
  | nil => exact h
  | cons f frames ih => exact ih (h.update hcloses.1 hfronts.1) hcloses.2 hfronts.2

/-- A window starts with its only tab in front. -/
lemma showing_of_start {saved : SavedState} {first : TabId} (h : start? saved first = .ok a) :
    a.Showing [] := by
  rw [start?] at h
  split at h
  · next session hsession =>
      cases h
      have hfresh : session.IsFresh := ⟨first, Or.inr ⟨_, _, hsession⟩⟩
      obtain ⟨options, metrics, number, -, rfl⟩ := hfresh.eq
      have hfronts : Docking.fronts (Docking.ofTabs [number] : δ) = [number] :=
        LawfulDocking.fronts_ofTabs [number]
      refine ⟨⟨hfresh.ordered, ?_⟩, (congrArg List.length hfronts).le, fun _ => hfronts⟩
      rw [List.append_nil]
      exact LawfulDocking.tabs_ofTabs [number]
  · cases h

/-- **Dock and session**: in a window with docks of any lawful kind, after every run of drawings the
dock has the open tabs of the session, each once and no others. With one row of tabs, of which
another comes to the front only when it is activated or when tabs are dropped, the tab in front is
the active one. -/
theorem dock_in_step_with_session {saved : SavedState} {first : TabId}
    (hstart : start? saved first = .ok a) {frames : List (Frame δ)}
    (hcloses : a.Throughout ClosesDockedTabs frames) :
    ((Docking.tabs (a.run frames).dock).Perm (a.run frames).session.ids ∧
      (Docking.tabs (a.run frames).dock).Nodup) ∧
    (a.Throughout ActivatesFront frames →
      Docking.fronts (a.run frames).dock = [(a.run frames).session.active]) := by
  have hshowing := showing_of_start hstart
  have hstep := hshowing.inStep.run hcloses
  refine ⟨⟨hstep.tabs_perm, ?_⟩, fun hfronts => (hshowing.run hcloses hfronts).fronts_eq rfl⟩
  exact hstep.tabs_perm.nodup_iff.mpr hstep.ordered.ids_nodup

/-- The first of three tabs is moved to the end and activated; then all three are closed at once
with a new one opened in between, and the session refuses to close that one. -/
theorem dock_in_step_after_closing_all :
    let session := Session.start {} ({} : Preferences).surfaceMetrics
    let a : App := { saved := {}, session, dock := .ofSession session }
    let moved : Dock := { leaves := [⟨[2, 3, 1], 2, by decide⟩] }
    let frames : List Frame :=
      [{ actions := [.newTab, .newTab] },
        { docked := some moved, actions := [.activateTab 1], skipped := 2 },
        { docked := some (((moved.drop 1).drop 3).drop 2)
          actions := [.closeTab 1, .closeTab 3, .newTab, .runActive, .closeTab 2] },
        { docked := some { leaves := [] }, actions := [.closeTab 6, .openSettings] }]
    start? {} = .ok a ∧ a.Throughout ClosesDockedTabs frames ∧
      a.Throughout ActivatesFront frames ∧
      ((Docking.tabs (a.run frames).dock).Perm (a.run frames).session.ids ∧
        (Docking.tabs (a.run frames).dock).Nodup) ∧
      Docking.fronts (a.run frames).dock = [(a.run frames).session.active] ∧
      (a.run frames).session.ids = [6] := by
  intro session a moved frames
  have hstart : start? {} = .ok a := by decide +kernel
  have hcloses : a.Throughout ClosesDockedTabs frames :=
    ⟨.of_drop a.dock (.refl _) (by decide) (by decide) rfl,
      .of_drop moved (by decide +kernel) (by decide) (by decide) rfl,
      .of_drop moved (by decide +kernel) (by decide) (by decide +kernel) rfl,
      .of_drop { leaves := [.single 6] } (by decide +kernel) (by decide) (by decide +kernel) rfl,
      trivial⟩
  have hfronts : a.Throughout ActivatesFront frames := by decide +kernel
  obtain ⟨htabs, hactive⟩ := dock_in_step_with_session hstart hcloses
  exact ⟨hstart, hcloses, hfronts, htabs, hactive hfronts, by decide +kernel⟩

end App

end Scratchpad
