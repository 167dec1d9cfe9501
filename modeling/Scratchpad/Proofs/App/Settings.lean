/-
The settings that were applied are the settings in force.

The same settings are in the saved preferences, in the session, and in the completer of every tab.
Only the settings dialog changes them, and it changes them everywhere or nowhere.

* `Completer.IsUnder`: the settings of a completer. `Completer.IsUnder.handle` says that nothing the
  editor does changes them.
* `Session.Uniform`: every tab is under the settings for new tabs. `Session.KeepsSettings` is what a
  session keeps when it is not reconfigured.
* `App.UnderPreferences`: the preferences are valid and in force. `App.UnderPreferences.update` keeps
  it over one drawing.
* `App.applySettings_of_ok`, `App.applySettings_of_error`: what a filled form does.
* `App.Fills`: the settings dialog ends with a filled form.
* `App.preferences_in_force`: all of it for every run of drawings.
-/
import Mathlib.Tactic
import Scratchpad.Proofs.App.Tabs
import Scratchpad.Proofs.Editor

namespace Scratchpad

/-! ### Completers -/

namespace Completer

variable {c : Completer} {options : Options} {metrics : Metrics}

/-- The completer has the given settings, with the limit that they give. -/
structure IsUnder (options : Options) (metrics : Metrics) (c : Completer) : Prop where
  options_eq : c.options = options
  metrics_eq : c.metrics = metrics
  limit_eq : c.limit = options.maxCandidates.toNat

lemma PopupInput.isUnder {c' : Completer} (h : c.PopupInput c') (hc : c.IsUnder options metrics) :
    c'.IsUnder options metrics := by
  cases h with
  | kept p _ => exact ⟨hc.options_eq, hc.metrics_eq, hc.limit_eq⟩
  | completed x => exact ⟨hc.options_eq, hc.metrics_eq, hc.limit_eq⟩

/-- The editor changes no settings. -/
lemma IsUnder.handle (h : c.IsUnder options metrics) {e : Event} (he : e.isFromEditor) :
    (c.handle e).completer.IsUnder options metrics := by
  cases e with
  | load text => cases he
  | edit text caret => exact ⟨h.options_eq, h.metrics_eq, h.limit_eq⟩
  | moveCaret caret =>
      simp only [Completer.handle, Outcome.mapReply, completer_moveCaret]
      split <;> exact ⟨h.options_eq, h.metrics_eq, h.limit_eq⟩
  | pressKey key => exact (popupInput_pressKey c key).isUnder h
  | pressOutside => exact ⟨h.options_eq, h.metrics_eq, h.limit_eq⟩
  | pickRow row => exact (popupInput_pickRow c row).isUnder h
  | setOrigin origin =>
      simp only [Completer.handle, Outcome.mapReply, Completer.setOrigin]
      split <;> exact ⟨h.options_eq, h.metrics_eq, h.limit_eq⟩
  | reconfigure options metrics => cases he

end Completer

lemma Tab.keptByEditor_isUnder (options : Options) (metrics : Metrics) :
    Tab.KeptByEditor (·.completer.IsUnder options metrics) where
  caret h _ := h
  receive h _ he := h.handle he

/-! ### Sessions -/

namespace Session

variable {s s' s'' : Session} {id : TabId}

/-- Every tab is under the settings for new tabs. -/
def Uniform (s : Session) : Prop := ∀ t ∈ s.tabs, t.completer.IsUnder s.options s.metrics

lemma uniform_start (options : Options) (metrics : Metrics) (first : TabId) :
    (start options metrics first).Uniform := by
  intro t ht
  obtain rfl := List.mem_singleton.mp ht
  exact ⟨rfl, rfl, rfl⟩

/-- Settings that come into force do so in every tab. -/
lemma InForce.uniform {options : Options} {metrics : Metrics} (h : s.InForce options metrics s') :
    s'.Uniform := by
  intro t ht
  rw [h.tabs_eq] at ht
  obtain ⟨t, -, rfl⟩ := List.mem_map.mp ht
  rw [h.options_eq, h.metrics_eq]
  exact ⟨rfl, rfl, rfl⟩

/-- The settings for new tabs stay, and no tab gets other ones. -/
structure KeepsSettings (s s' : Session) : Prop where
  options_eq : s'.options = s.options
  metrics_eq : s'.metrics = s.metrics
  uniform : s.Uniform → s'.Uniform

lemma keepsSettings_refl (s : Session) : s.KeepsSettings s := ⟨rfl, rfl, id⟩

lemma KeepsSettings.trans (h : s.KeepsSettings s') (h' : s'.KeepsSettings s'') :
    s.KeepsSettings s'' :=
  ⟨h'.options_eq.trans h.options_eq, h'.metrics_eq.trans h.metrics_eq, h'.uniform ∘ h.uniform⟩

lemma keepsSettings_drawTab (s : Session) (id : TabId) (frame : Tab.Frame) :
    s.KeepsSettings (s.modifyTab id (·.draw frame)) := by
  refine ⟨rfl, rfl, fun h t' ht' => ?_⟩
  obtain ⟨t, ht, rfl⟩ := List.mem_map.mp ht'
  split
  · exact (Tab.keptByEditor_isUnder _ _).draw (h t ht) frame
  · exact h t ht

/-- A new tab is under the settings for new tabs. -/
lemma keepsSettings_addTab (s : Session) : s.KeepsSettings s.addTab.1 := by
  refine ⟨rfl, rfl, fun h t ht => ?_⟩
  rw [tabs_addTab, List.mem_append, List.mem_singleton] at ht
  obtain ht | rfl := ht
  · exact h t ht
  · exact ⟨rfl, rfl, rfl⟩

lemma keepsSettings_closeTab (s : Session) (id : TabId) :
    s.KeepsSettings (s.closeTab id).1 := by
  obtain ⟨hoptions, hmetrics⟩ : (s.closeTab id).1.options = s.options ∧
      (s.closeTab id).1.metrics = s.metrics :=
    settings_handle (e := .close id) (by simp [Event.BringsSettings])
  refine ⟨hoptions, hmetrics, fun h t ht => ?_⟩
  rw [hoptions, hmetrics]
  exact h t (mem_of_mem_closeTab ht)

lemma keepsSettings_activate (s : Session) (id : TabId) :
    s.KeepsSettings (s.activate id).1 := by
  simp only [Session.activate]
  split
  · exact ⟨rfl, rfl, fun h => h⟩
  · exact s.keepsSettings_refl

end Session

/-! ### The window -/

namespace App

variable {δ : Type} {a : App δ} {form : SettingsForm}

/-- The saved preferences are valid, and they are in force in the session and in every tab. -/
structure UnderPreferences (a : App δ) : Prop where
  valid : a.saved.preferences.validate = .ok ()
  options_eq : a.session.options = a.saved.preferences.options
  metrics_eq : a.session.metrics = a.saved.preferences.surfaceMetrics
  uniform : a.session.Uniform

lemma UnderPreferences.of_keeps {a' : App δ} (h : a.UnderPreferences)
    (hsession : a.session.KeepsSettings a'.session) (hsaved : a'.saved = a.saved) :
    a'.UnderPreferences := by
  refine ⟨?_, hsession.options_eq.trans ?_, hsession.metrics_eq.trans ?_,
    hsession.uniform h.uniform⟩
  · rw [hsaved]
    exact h.valid
  · rw [hsaved]
    exact h.options_eq
  · rw [hsaved]
    exact h.metrics_eq

lemma keepsSettings_drawn (a : App δ) (f : Frame δ) :
    a.session.KeepsSettings (a.drawn f).session :=
  drawn_induction a.session.keepsSettings_refl (fun _ _ h => h.trans ⟨rfl, rfl, fun h => h⟩)
    (fun _ h => h.trans ⟨rfl, rfl, fun h => h⟩) fun s id frame h =>
    h.trans (s.keepsSettings_drawTab id frame)

/-! ### A filled form -/

/-- A form that gives valid preferences is taken, and these come into force. -/
lemma applySettings_of_ok (a : App δ)
    (h : (form.applyTo a.saved.preferences).validate = .ok ()) :
    ∃ session, a.session.InForce (form.applyTo a.saved.preferences).options
        (form.applyTo a.saved.preferences).surfaceMetrics session ∧
      a.applySettings form =
        { a with session, lastError := none,
                 saved := { a.saved with preferences := form.applyTo a.saved.preferences } } := by
  obtain ⟨hreply, hforce⟩ := a.session.reconfigure_of_ok h
  cases htaken : a.session.reconfigure (form.applyTo a.saved.preferences).options
      (form.applyTo a.saved.preferences).surfaceMetrics with
  | mk session reply =>
      rw [htaken] at hreply hforce
      obtain rfl : reply = .ok () := hreply
      refine ⟨session, hforce, ?_⟩
      rw [applySettings, reconfigure, h]
      simp only [htaken]

/-- Any other form leaves nothing but an error to be shown. -/
lemma applySettings_of_error (a : App δ) {r : Rejection}
    (h : (form.applyTo a.saved.preferences).validate = .error r) :
    a.applySettings form = { a with lastError := some r.toError } := by
  rw [applySettings, reconfigure, h]

/-- A form changes nothing but the preferences that it has fields for. -/
lemma applySettings_keeps_override (a : App δ) (form : SettingsForm) :
    (a.applySettings form).saved.preferences.metricsOverride =
      a.saved.preferences.metricsOverride := by
  cases h : (form.applyTo a.saved.preferences).validate with
  | ok u =>
      obtain ⟨session, -, heq⟩ := a.applySettings_of_ok h
      rw [heq]
      rfl
  | error r => rw [a.applySettings_of_error h]

lemma UnderPreferences.applySettings (h : a.UnderPreferences) (form : SettingsForm) :
    (a.applySettings form).UnderPreferences := by
  cases hvalid : (form.applyTo a.saved.preferences).validate with
  | ok u =>
      obtain ⟨session, hforce, heq⟩ := a.applySettings_of_ok hvalid
      rw [heq]
      exact ⟨hvalid, hforce.options_eq, hforce.metrics_eq, hforce.uniform⟩
  | error r =>
      rw [a.applySettings_of_error hvalid]
      exact h.of_keeps a.session.keepsSettings_refl rfl

/-! ### Drawings -/

variable [Docking δ]

/-- The panels ask for nothing that changes settings. -/
lemma keepsSettings_perform (a : App δ) (action : Action) :
    a.session.KeepsSettings (a.perform action).session ∧ (a.perform action).saved = a.saved := by
  cases action with
  | newTab => exact ⟨a.session.keepsSettings_addTab, rfl⟩
  | closeTab id => exact ⟨a.session.keepsSettings_closeTab id, rfl⟩
  | activateTab id => exact ⟨a.session.keepsSettings_activate id, rfl⟩
  | runActive => exact ⟨⟨rfl, rfl, fun h => h⟩, rfl⟩
  | openSettings => exact ⟨a.session.keepsSettings_refl, rfl⟩
  | minimize => exact ⟨a.session.keepsSettings_refl, rfl⟩

lemma keepsSettings_performAll (a : App δ) (actions : List Action) :
    a.session.KeepsSettings (actions.foldl perform a).session ∧
      (actions.foldl perform a).saved = a.saved := by
  induction actions generalizing a with
  | nil => exact ⟨a.session.keepsSettings_refl, rfl⟩
  | cons action actions ih =>
      obtain ⟨hsession, hsaved⟩ := a.keepsSettings_perform action
      obtain ⟨hsessions, hsaveds⟩ := ih (a.perform action)
      exact ⟨hsession.trans hsessions, hsaveds.trans hsaved⟩

lemma keepsSettings_acted (a : App δ) (f : Frame δ) :
    a.session.KeepsSettings (a.acted f).session ∧ (a.acted f).saved = a.saved := by
  obtain ⟨hsession, hsaved⟩ := (a.drawn f).keepsSettings_performAll f.actions
  exact ⟨(a.keepsSettings_drawn f).trans hsession, hsaved⟩

/-- The settings dialog, drawn at the end of the drawing `f`, ends with a filled form. -/
def Fills (a : App δ) (f : Frame δ) (form : SettingsForm) : Prop :=
  ((a.acted f).settings.draw f.settings).2 = some form

lemma Fills.update_eq {f : Frame δ} (h : a.Fills f form) :
    a.update f = { a.acted f with settings := .closed }.applySettings form := by
  have hdraw : (a.acted f).settings.draw f.settings = (.closed, some form) :=
    Prod.ext (Dialog.draw_eq_closed_of_action h) h
  show (a.acted f).drawSettings f.settings = _
  rw [drawSettings, hdraw]

/-- Without a filled form, the dialog is all that changes. -/
lemma update_of_not_fills {f : Frame δ} (h : ∀ form, ¬ a.Fills f form) :
    (a.update f).session = (a.acted f).session ∧ (a.update f).saved = (a.acted f).saved := by
  show ((a.acted f).drawSettings f.settings).session = _ ∧
    ((a.acted f).drawSettings f.settings).saved = _
  cases hdraw : (a.acted f).settings.draw f.settings with
  | mk settings filled =>
      cases filled with
      | none => simp only [drawSettings, hdraw, and_self]
      | some form => exact absurd (congrArg Prod.snd hdraw) (h form)

/-- A drawing keeps the preferences in force, whether a form was filled or not. -/
lemma UnderPreferences.update (h : a.UnderPreferences) (f : Frame δ) :
    (a.update f).UnderPreferences ∧
      (a.update f).saved.preferences.metricsOverride = a.saved.preferences.metricsOverride := by
  obtain ⟨hsession, hsaved⟩ := a.keepsSettings_acted f
  have hacted := h.of_keeps hsession hsaved
  by_cases hfills : ∃ form, a.Fills f form
  · obtain ⟨form, hform⟩ := hfills
    rw [hform.update_eq, applySettings_keeps_override, hsaved]
    have hclosed : UnderPreferences { a.acted f with settings := .closed } :=
      hacted.of_keeps (Session.keepsSettings_refl _) rfl
    exact ⟨hclosed.applySettings form, rfl⟩
  · obtain ⟨hsession', hsaved'⟩ := update_of_not_fills (not_exists.mp hfills)
    rw [hsaved', hsaved]
    refine ⟨hacted.of_keeps ?_ hsaved', rfl⟩
    rw [hsession']
    exact Session.keepsSettings_refl _

lemma UnderPreferences.run (h : a.UnderPreferences) (frames : List (Frame δ)) :
    (a.run frames).UnderPreferences ∧
      (a.run frames).saved.preferences.metricsOverride = a.saved.preferences.metricsOverride := by
  induction frames generalizing a with
  | nil => exact ⟨h, rfl⟩
  | cons f frames ih =>
      obtain ⟨hunder, hoverride⟩ := h.update f
      obtain ⟨hunders, hoverrides⟩ := ih hunder
      exact ⟨hunders, hoverrides.trans hoverride⟩

variable (δ) in
/-- A window opens for valid preferences, which are in force in it. -/
lemma exists_start {saved : SavedState} (h : saved.preferences.validate = .ok ())
    (first : TabId) :
    ∃ a : App δ, start? saved first = .ok a ∧ a.saved = saved ∧ a.UnderPreferences := by
  have hsession :
      Session.configured? saved.preferences.options saved.preferences.surfaceMetrics first =
        .ok (.start saved.preferences.options saved.preferences.surfaceMetrics first) := by
    rw [Session.configured?, show validateSettings _ _ = .ok () from h]
  refine ⟨_, by rw [start?, hsession], rfl, h, rfl, rfl, Session.uniform_start _ _ _⟩

/-- **Settings**: in a window that was opened for valid preferences, with docks of any kind, and
whatever is done in it, the saved preferences are valid, they keep the grid they were given, and
they are in force in the session and in every tab. A form that is filled in the settings dialog is
taken if it gives valid preferences; otherwise the drawing leaves the preferences as they were, and
the session as it was before the dialog. -/
theorem preferences_in_force {saved : SavedState} (hvalid : saved.preferences.validate = .ok ())
    (first : TabId) :
    ∃ a : App δ, start? saved first = .ok a ∧ ∀ frames,
      ((a.run frames).UnderPreferences ∧
        (a.run frames).saved.preferences.metricsOverride = saved.preferences.metricsOverride) ∧
      ∀ f form, (a.run frames).Fills f form →
        ((form.applyTo (a.run frames).saved.preferences).validate = .ok () →
          ((a.run frames).update f).saved.preferences =
            form.applyTo (a.run frames).saved.preferences) ∧
        ((form.applyTo (a.run frames).saved.preferences).validate ≠ .ok () →
          ((a.run frames).update f).saved = (a.run frames).saved ∧
            ((a.run frames).update f).session = ((a.run frames).acted f).session) := by
  obtain ⟨a, hstart, rfl, hunder⟩ := exists_start δ hvalid first
  refine ⟨a, hstart, fun frames => ⟨hunder.run frames, fun f form hform => ?_⟩⟩
  obtain ⟨-, hsaved⟩ := (a.run frames).keepsSettings_acted f
  rw [hform.update_eq, ← hsaved]
  refine ⟨fun hok => ?_, fun hrefused => ?_⟩
  · obtain ⟨session, -, heq⟩ :=
      applySettings_of_ok { (a.run frames).acted f with settings := .closed } hok
    rw [heq]
  · cases hr : (form.applyTo ((a.run frames).acted f).saved.preferences).validate with
    | ok u => exact absurd hr hrefused
    | error r =>
        rw [applySettings_of_error { (a.run frames).acted f with settings := .closed } hr]
        exact ⟨rfl, rfl⟩

/-- A form is taken under a given grid, with a popup open in the first of two tabs; a third tab is
opened then, and a form without a shortest word is refused. -/
theorem preferences_in_force_after_refusal :
    let saved : SavedState := { preferences := { metricsOverride := some { charWidth := 10 } } }
    let session := Session.start saved.preferences.options saved.preferences.surfaceMetrics
    let a : App := { saved, session, dock := .ofSession session }
    let taken : SettingsForm := ⟨false, 20, 3, 2⟩
    let refused : SettingsForm := ⟨true, 12, 3, 0⟩
    let frames : List Frame :=
      [{ editors := [(1, { reaction := .edited "pri".toList 3 })]
         actions := [.newTab, .openSettings] },
        { settings := fun _ => (taken, .finish taken) },
        { actions := [.newTab, .openSettings] }]
    let f : Frame := { settings := fun _ => (refused, .finish refused) }
    saved.preferences.validate = .ok () ∧ start? saved = .ok a ∧ (a.run frames).Fills f refused ∧
      (a.run frames).UnderPreferences ∧
      (a.run frames).saved.preferences =
        { saved.preferences with darkMode := false, fontSize := 20, options := ⟨3, 2⟩ } ∧
      (a.run frames).session.ids = [1, 2, 3] ∧
      ((a.run frames).update f).saved = (a.run frames).saved ∧
      ((a.run frames).update f).session = ((a.run frames).acted f).session := by
  intro saved session a taken refused frames f
  have hvalid : saved.preferences.validate = .ok () := by decide +kernel
  have hstart : start? saved = .ok a := by decide +kernel
  have hfills : (a.run frames).Fills f refused := by
    unfold Fills
    decide +kernel
  obtain ⟨a', hstart', hruns⟩ := preferences_in_force hvalid 1
  obtain rfl : a = a' := Except.ok.inj (hstart.symm.trans hstart')
  obtain ⟨⟨hunder, -⟩, hforms⟩ := hruns frames
  obtain ⟨-, hkeeps⟩ := hforms f refused hfills
  obtain ⟨hsaved, hsession⟩ := hkeeps (by decide +kernel)
  exact ⟨hvalid, hstart, hfills, hunder, by decide +kernel, by decide +kernel, hsaved, hsession⟩

end App

end Scratchpad
