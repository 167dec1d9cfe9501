/-
New settings come into force in every tab of a session or in none.

* `Completer.reconfigure_eq_ok_iff`, `Completer.reconfigure_eq_of_refused`: one completer takes
  settings exactly when they are valid, and others leave it as it is.
* `Tab.reconfigured`: a tab whose completer has taken settings. The walk over the tabs stops at
  the first refusal: `Session.reconfigureTabs_of_ok` says that valid settings reach all tabs,
  `Session.reconfigureTabs_of_error` that others stop at the first tab and have changed none.
* `Session.InForce`: the session that valid settings leave behind.
* `Session.HasValidSettings`: the settings for new tabs are valid, which every event keeps.
* `Session.OpensUnder`: new tabs are under the given settings. `Session.opensUnder_run` keeps it
  over every run of events that bring no other settings.
* `Session.settings_in_force_everywhere_or_nowhere`: all of it for every session.
-/
import Mathlib.Tactic
import Scratchpad.Session

namespace Scratchpad

/-- An answer without a value of its own is a failure, or it says that all is well. -/
lemma exists_error_iff {answer : Except Error Unit} :
    (∃ e, answer = .error e) ↔ answer ≠ .ok () := by
  cases answer <;> simp

/-! ### One completer -/

namespace Completer

variable {options : Options} {metrics : Metrics}

lemma reconfigure_eq_ok_iff (c : Completer) :
    (c.reconfigure options metrics).reply = .ok () ↔ validateSettings options metrics = .ok () := by
  cases h : validateSettings options metrics <;> simp [reconfigure, h]

/-- Refused settings leave nothing behind but the answer. -/
lemma reconfigure_eq_of_refused (c : Completer) {r : Rejection}
    (h : validateSettings options metrics = .error r) :
    c.reconfigure options metrics =
      { completer := c, reply := .error (rejectionError r), notices := [] } := by
  rw [reconfigure, h]

lemma reconfigure_of_ne_ok (c : Completer) (h : (c.reconfigure options metrics).reply ≠ .ok ()) :
    (c.reconfigure options metrics).completer = c := by
  cases hvalid : validateSettings options metrics with
  | ok u => exact absurd (c.reconfigure_eq_ok_iff.mpr hvalid) h
  | error r => exact reconfigure_of_error c hvalid

end Completer

/-- The tab with a completer that has taken new settings: these, the limit of the suggestions and
the popup, which is closed, are all that changes. -/
def Tab.reconfigured (options : Options) (metrics : Metrics) (t : Tab) : Tab :=
  { t with
    completer := { t.completer with
      options, metrics, limit := options.maxCandidates.toNat, popup := .closed } }

namespace Session

variable {s : Session} {options : Options} {metrics : Metrics}

/-! ### The walk over the tabs -/

/-- Whether settings are valid does not depend on the tab, so that valid ones reach the last. -/
lemma reconfigureTabs_of_ok (h : validateSettings options metrics = .ok ()) (tabs : List Tab) :
    reconfigureTabs options metrics tabs = (tabs.map (.reconfigured options metrics), .ok ()) := by
  induction tabs with
  | nil => rfl
  | cons t rest ih =>
      have hreply := (Completer.reconfigure_eq_ok_iff t.completer).mpr h
      have htab := Completer.reconfigure_of_ok t.completer h
      simp only [reconfigureTabs, hreply, htab, ih]
      rfl

/-- Other settings are refused by the first tab, which they leave as it was. -/
lemma reconfigureTabs_of_error {r : Rejection} (h : validateSettings options metrics = .error r)
    {tabs : List Tab} (hne : tabs ≠ []) :
    reconfigureTabs options metrics tabs = (tabs, .error (Completer.rejectionError r)) := by
  cases tabs with
  | nil => exact absurd rfl hne
  | cons t rest =>
      simp only [reconfigureTabs, Completer.reconfigure_eq_of_refused t.completer h]

/-- The session `s'` is what settings that come into force leave of `s`. -/
structure InForce (s : Session) (options : Options) (metrics : Metrics) (s' : Session) : Prop where
  options_eq : s'.options = options
  metrics_eq : s'.metrics = metrics
  tabs_eq : s'.tabs = s.tabs.map (.reconfigured options metrics)
  active_eq : s'.active = s.active
  nextId_eq : s'.nextId = s.nextId
  console_eq : s'.console = s.console

lemma reconfigure_of_ok (s : Session) (h : validateSettings options metrics = .ok ()) :
    (s.reconfigure options metrics).2 = .ok () ∧
      s.InForce options metrics (s.reconfigure options metrics).1 := by
  have htabs := reconfigureTabs_of_ok h s.tabs
  simp only [reconfigure, htabs]
  exact ⟨trivial, rfl, rfl, rfl, rfl, rfl, rfl⟩

lemma reconfigure_of_error (s : Session) {r : Rejection}
    (h : validateSettings options metrics = .error r) :
    s.reconfigure options metrics = (s, .error (Completer.rejectionError r)) := by
  have htabs := reconfigureTabs_of_error h s.tabs_ne_nil
  simp only [reconfigure, htabs]

lemma reconfigure_eq_ok_iff (s : Session) :
    (s.reconfigure options metrics).2 = .ok () ↔ validateSettings options metrics = .ok () := by
  cases h : validateSettings options metrics with
  | ok u => exact iff_of_true (s.reconfigure_of_ok h).1 rfl
  | error r => simp [s.reconfigure_of_error h]

lemma reconfigure_of_ne_ok (s : Session) (h : (s.reconfigure options metrics).2 ≠ .ok ()) :
    (s.reconfigure options metrics).1 = s := by
  cases hvalid : validateSettings options metrics with
  | ok u => exact absurd (s.reconfigure_eq_ok_iff.mpr hvalid) h
  | error r => rw [s.reconfigure_of_error hvalid]

/-! ### Later tabs -/

/-- The event brings settings that come into force. -/
def Event.BringsSettings (e : Event) : Prop :=
  ∃ options metrics, e = .reconfigure options metrics ∧ validateSettings options metrics = .ok ()

/-- Only settings that come into force change those of new tabs. -/
lemma settings_handle {e : Event} (he : ¬ e.BringsSettings) :
    (s.handle e).options = s.options ∧ (s.handle e).metrics = s.metrics := by
  cases e with
  | add => exact ⟨rfl, rfl⟩
  | close id =>
      simp only [handle, closeTab]
      split <;> exact ⟨rfl, rfl⟩
  | activate id =>
      simp only [handle, Session.activate]
      split <;> exact ⟨rfl, rfl⟩
  | update content => exact ⟨rfl, rfl⟩
  | reconfigure options metrics =>
      cases h : validateSettings options metrics with
      | ok u => exact absurd ⟨options, metrics, rfl, h⟩ he
      | error r => simp [handle, s.reconfigure_of_error h]
  | run => exact ⟨rfl, rfl⟩
  | clear => exact ⟨rfl, rfl⟩
  | completer id event => exact ⟨rfl, rfl⟩
  | skip count => exact ⟨rfl, rfl⟩

lemma settings_run {events : List Event} (hevents : ∀ e ∈ events, ¬ e.BringsSettings) :
    (s.run events).options = s.options ∧ (s.run events).metrics = s.metrics := by
  induction events generalizing s with
  | nil => exact ⟨rfl, rfl⟩
  | cons e events ih =>
      rw [List.forall_mem_cons] at hevents
      obtain ⟨hoptions, hmetrics⟩ := ih (s := s.handle e) hevents.2
      have hhandle := settings_handle (s := s) hevents.1
      exact ⟨hoptions.trans hhandle.1, hmetrics.trans hhandle.2⟩

/-- The settings for new tabs are valid. -/
def HasValidSettings (s : Session) : Prop := validateSettings s.options s.metrics = .ok ()

lemma HasValidSettings.handle (h : s.HasValidSettings) (e : Event) :
    (s.handle e).HasValidSettings := by
  by_cases he : e.BringsSettings
  · obtain ⟨options, metrics, rfl, hok⟩ := he
    have hforce := (s.reconfigure_of_ok hok).2
    show validateSettings (s.reconfigure options metrics).1.options
      (s.reconfigure options metrics).1.metrics = .ok ()
    rw [hforce.options_eq, hforce.metrics_eq, hok]
  · obtain ⟨hoptions, hmetrics⟩ := settings_handle (s := s) he
    rwa [HasValidSettings, hoptions, hmetrics]

/-- A tab that is opened now has a completer under the given settings. -/
def OpensUnder (s : Session) (options : Options) (metrics : Metrics) : Prop :=
  ∃ t : Tab, s.addTab.1.tabs = s.tabs ++ [t] ∧ t.completer.options = options ∧
    t.completer.metrics = metrics ∧ t.completer.limit = options.maxCandidates.toNat

/-- New tabs are under the settings of the session. -/
lemma opensUnder (s : Session) : s.OpensUnder s.options s.metrics :=
  ⟨_, rfl, rfl, rfl, rfl⟩

lemma InForce.opensUnder_run {s' : Session} (h : s.InForce options metrics s')
    {later : List Event} (hlater : ∀ e ∈ later, ¬ e.BringsSettings) :
    (s'.run later).OpensUnder options metrics := by
  obtain ⟨hoptions, hmetrics⟩ := settings_run (s := s') hlater
  have hopens := (s'.run later).opensUnder
  rwa [hoptions, hmetrics, h.options_eq, h.metrics_eq] at hopens

/-- **All or nothing**: new settings are refused exactly when the options or the metrics are not
valid, and then nothing has changed. Otherwise they are in force in every tab and for the session,
with every popup closed and all else as it was, and tabs are opened under them until others come
into force. A completer on its own refuses the same settings, and nothing of it has changed
then. -/
theorem settings_in_force_everywhere_or_nowhere (s : Session) (options : Options)
    (metrics : Metrics) :
    (((∃ e, (s.reconfigure options metrics).2 = .error e) ↔
        options.validate ≠ .ok () ∨ metrics.validate ≠ .ok ()) ∧
      ((∃ e, (s.reconfigure options metrics).2 = .error e) →
        (s.reconfigure options metrics).1 = s) ∧
      ((s.reconfigure options metrics).2 = .ok () →
        s.InForce options metrics (s.reconfigure options metrics).1 ∧
        ∀ later, (∀ e ∈ later, ¬ Event.BringsSettings e) →
          ((s.reconfigure options metrics).1.run later).OpensUnder options metrics)) ∧
    ∀ c : Completer,
      ((∃ e, (c.reconfigure options metrics).reply = .error e) ↔
        options.validate ≠ .ok () ∨ metrics.validate ≠ .ok ()) ∧
      ((∃ e, (c.reconfigure options metrics).reply = .error e) →
        (c.reconfigure options metrics).completer = c) := by
  have hinvalid : validateSettings options metrics ≠ .ok () ↔
      options.validate ≠ .ok () ∨ metrics.validate ≠ .ok () := by
    rw [Ne, validateSettings_eq_ok_iff, not_and_or]
  refine ⟨⟨?_, ?_, fun hok => ?_⟩, fun c => ⟨?_, ?_⟩⟩
  · exact exists_error_iff.trans ((not_congr s.reconfigure_eq_ok_iff).trans hinvalid)
  · rw [exists_error_iff]
    exact s.reconfigure_of_ne_ok
  · have hforce := (s.reconfigure_of_ok (s.reconfigure_eq_ok_iff.mp hok)).2
    exact ⟨hforce, fun later => hforce.opensUnder_run⟩
  · exact exists_error_iff.trans ((not_congr c.reconfigure_eq_ok_iff).trans hinvalid)
  · rw [exists_error_iff]
    exact c.reconfigure_of_ne_ok

/-- Two tabs, the first with an open popup and the second with a limit of its own: a limit of zero
changes neither, a limit of five reaches both, and it is that of later tabs also after another
refusal. -/
theorem settings_in_force_under_open_popup :
    let s := (start {} {}).run [.completer 1 (.edit "pri".toList 3), .add,
      .completer 2 (.reconfigure { maxCandidates := 3 } {})]
    s.tabs.map (·.completer.popup.isOpen) = [true, false] ∧
      s.tabs.map (·.completer.limit) = [8, 3] ∧
      (s.reconfigure { maxCandidates := 0 } {}).1 = s ∧
      s.InForce { maxCandidates := 5 } {} (s.reconfigure { maxCandidates := 5 } {}).1 ∧
      ((s.reconfigure { maxCandidates := 5 } {}).1.run
          [.reconfigure { minPrefixLength := 0 } {}, .close 1]).OpensUnder
        { maxCandidates := 5 } {} := by
  intro s
  obtain ⟨⟨hrefused, hunchanged, -⟩, -⟩ :=
    settings_in_force_everywhere_or_nowhere s { maxCandidates := 0 } {}
  obtain ⟨⟨-, -, hforce⟩, -⟩ :=
    settings_in_force_everywhere_or_nowhere s { maxCandidates := 5 } {}
  have hvalid : validateSettings { maxCandidates := 5 } {} = .ok () := by decide +kernel
  obtain ⟨hin, hlater⟩ := hforce (s.reconfigure_eq_ok_iff.mpr hvalid)
  refine ⟨by decide +kernel, by decide +kernel, hunchanged (hrefused.mpr (Or.inl (by decide))), hin,
    hlater _ ?_⟩
  simp only [List.forall_mem_cons, Event.BringsSettings]
  refine ⟨?_, by simp, by simp⟩
  rintro ⟨options, metrics, heq, hok⟩
  cases heq
  revert hok
  decide +kernel

end Session

end Scratchpad
