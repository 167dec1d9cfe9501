/-
Starting on whatever is found where the state file is kept.

Settings are checked in three places: as the preferences that were read, when a session is started
and when a completer is created.

* `Session.exists_configured?_iff`, `Completer.exists_configured?_iff`: a session and a completer
  accept exactly the settings that pass the check.
* `Preferences.validate_validatedOrDefault`: what replaces refused preferences is accepted.
* `Store.startup_never_fails`: the application starts on every store, with the preferences of the
  file if they can be read and are accepted, and else with the default ones;
  `Store.startup_with_taken_and_replaced_preferences` shows both.
-/
import Mathlib.Tactic
import Scratchpad.App
import Scratchpad.Store

namespace Scratchpad

/-! ### The three checks -/

lemma Session.exists_configured?_iff {options : Options} {metrics : Metrics} {first : TabId} :
    (∃ s, Session.configured? options metrics first = .ok s) ↔
      validateSettings options metrics = .ok () := by
  rw [configured?]
  cases validateSettings options metrics <;> simp

lemma Completer.exists_configured?_iff {options : Options} {metrics : Metrics} :
    (∃ c, Completer.configured? options metrics = .ok c) ↔
      validateSettings options metrics = .ok () := by
  rw [configured?]
  cases validateSettings options metrics <;> simp

/-- The window needs no more than its session. -/
lemma App.exists_start?_iff {δ : Type} [Docking δ] {saved : SavedState} {first : TabId} :
    (∃ a : App δ, App.start? saved first = .ok a) ↔ saved.preferences.validate = .ok () := by
  dsimp only [start?]
  cases h : saved.preferences.validate <;>
    simp [Session.configured?, show validateSettings _ _ = _ from h]

/-! ### The preferences in use -/

namespace Preferences

variable {p : Preferences}

lemma validatedOrDefault_of_ok (h : p.validate = .ok ()) : p.validatedOrDefault = p := by
  rw [validatedOrDefault, h]

lemma validatedOrDefault_of_ne_ok (h : p.validate ≠ .ok ()) : p.validatedOrDefault = {} := by
  rw [validatedOrDefault]
  cases hp : p.validate with
  | ok u => exact absurd hp h
  | error r => rfl

/-- Whatever the preferences are, those in use are accepted. -/
lemma validate_validatedOrDefault (p : Preferences) : p.validatedOrDefault.validate = .ok () := by
  by_cases h : p.validate = .ok ()
  · rwa [validatedOrDefault_of_ok h]
  · rw [validatedOrDefault_of_ne_ok h]
    exact validate_default

/-- Preferences are accepted for what they mean: lists that can open, on a grid with cells of finite
size and padding that is finite and not negative. -/
lemma validate_eq_ok_iff :
    p.validate = .ok () ↔
      (p.options.maxCandidates ≠ 0 ∧ p.options.minPrefixLength ≠ 0) ∧
      (p.surfaceMetrics.charWidth.isFinite ∧ p.surfaceMetrics.charWidth.isPositive) ∧
      (p.surfaceMetrics.lineHeight.isFinite ∧ p.surfaceMetrics.lineHeight.isPositive) ∧
      (p.surfaceMetrics.padding.isFinite ∧ p.surfaceMetrics.padding.isNonneg) := by
  rw [validate, validateSettings_eq_ok_iff, Options.validate_eq_ok_iff, Metrics.validate_eq_ok_iff]

end Preferences

/-! ### Starting -/

namespace Store

variable {store : Store} {saved : SavedState}

lemma loadOrDefault_of_ok (h : store.load = .ok saved) : store.loadOrDefault = saved := by
  rw [loadOrDefault, h]

lemma loadOrDefault_of_error {e : Error} (h : store.load = .error e) :
    store.loadOrDefault = {} := by
  rw [loadOrDefault, h]

/-- **Starting**: whatever stands where the state file is kept, the preferences the application
starts with are accepted by the check, by the session, by the completer and by the window. They are
those of the file if it can be read and they are accepted, and the default ones otherwise. The three
checks agree on all preferences, and accept exactly those with lists that can open on a grid of
finite cells. -/
theorem startup_never_fails {δ : Type} [Docking δ] (store : Store) (first : TabId) :
    let p := store.loadOrDefault.preferences.validatedOrDefault
    p.validate = .ok () ∧
    (∃ s, Session.configured? p.options p.surfaceMetrics first = .ok s) ∧
    (∃ c, Completer.configured? p.options p.surfaceMetrics = .ok c) ∧
    (∃ a : App δ, App.start? { store.loadOrDefault with preferences := p } first = .ok a) ∧
    (∀ saved, store.load = .ok saved → saved.preferences.validate = .ok () →
      p = saved.preferences) ∧
    ((∀ saved, store.load = .ok saved → saved.preferences.validate ≠ .ok ()) → p = {}) ∧
    ∀ q : Preferences,
      (q.validate = .ok () ↔ ∃ s, Session.configured? q.options q.surfaceMetrics first = .ok s) ∧
      (q.validate = .ok () ↔ ∃ c, Completer.configured? q.options q.surfaceMetrics = .ok c) ∧
      (q.validate = .ok () ↔
        (q.options.maxCandidates ≠ 0 ∧ q.options.minPrefixLength ≠ 0) ∧
        (q.surfaceMetrics.charWidth.isFinite ∧ q.surfaceMetrics.charWidth.isPositive) ∧
        (q.surfaceMetrics.lineHeight.isFinite ∧ q.surfaceMetrics.lineHeight.isPositive) ∧
        (q.surfaceMetrics.padding.isFinite ∧ q.surfaceMetrics.padding.isNonneg)) := by
  intro p
  have hvalid : p.validate = .ok () := Preferences.validate_validatedOrDefault _
  refine ⟨hvalid, Session.exists_configured?_iff.mpr hvalid,
    Completer.exists_configured?_iff.mpr hvalid, App.exists_start?_iff.mpr hvalid,
    fun saved hload hsaved => ?_, fun hrefused => ?_, fun q => ?_⟩
  · show store.loadOrDefault.preferences.validatedOrDefault = saved.preferences
    rw [loadOrDefault_of_ok hload, Preferences.validatedOrDefault_of_ok hsaved]
  · show store.loadOrDefault.preferences.validatedOrDefault = {}
    cases hload : store.load with
    | ok saved =>
        rw [loadOrDefault_of_ok hload, Preferences.validatedOrDefault_of_ne_ok (hrefused saved hload)]
    | error e =>
        rw [loadOrDefault_of_error hload]
        exact Preferences.validatedOrDefault_of_ok Preferences.validate_default
  · exact ⟨Session.exists_configured?_iff.symm, Completer.exists_configured?_iff.symm,
      Preferences.validate_eq_ok_iff⟩

/-- Of two files, one gives a font size and a shortest word, which are taken; the other a font size
beyond single precision, which is read as an infinite one and replaced. -/
theorem startup_with_taken_and_replaced_preferences :
    let given := "\x7b\"preferences\": \x7b\"font_size\": 16, " ++
      "\"autocomplete\": \x7b\"min_prefix_length\": 2\x7d\x7d\x7d"
    let large := "\x7b\"preferences\": \x7b\"dark_mode\": false, \"font_size\": 1e39\x7d\x7d"
    let taken : Store := .usable { occupant := .file given.toUTF8 }
    let replaced : Store := .usable { occupant := .file large.toUTF8 }
    taken.loadOrDefault.preferences.validatedOrDefault =
        { fontSize := 16, options := { minPrefixLength := 2 } } ∧
      replaced.load = .ok { preferences := { darkMode := false, fontSize := ⟨0x7F800000⟩ } } ∧
      replaced.loadOrDefault.preferences.validatedOrDefault = {} := by
  intro given large taken replaced
  let preferences : Preferences := { fontSize := 16, options := { minPrefixLength := 2 } }
  let refused : Preferences := { darkMode := false, fontSize := ⟨0x7F800000⟩ }
  have htaken : taken.load = .ok { preferences } := by decide +kernel
  have hreplaced : replaced.load = .ok { preferences := refused } := by decide +kernel
  obtain ⟨-, -, -, -, hfile, -⟩ := @startup_never_fails Dock _ taken 1
  obtain ⟨-, -, -, -, -, hdefault, -⟩ := @startup_never_fails Dock _ replaced 1
  refine ⟨hfile _ htaken (by decide +kernel), hreplaced, hdefault fun saved hsaved => ?_⟩
  obtain rfl : { preferences := refused } = saved := Except.ok.inj (hreplaced.symm.trans hsaved)
  decide +kernel

end Store

end Scratchpad
