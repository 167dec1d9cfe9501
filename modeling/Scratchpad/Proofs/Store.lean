/-
What is saved is loaded again.

* `Text.ofUtf8?_toUTF8`: the bytes of a text stand for it.
* `Occupant.load_fileBytes`, `Occupant.load_fileBytes_eq_error`: what is loaded from the file that a
  saved state leaves behind.
* `SavedState.saved_text_reads_back`: the text of the file stands for the state that was saved.
* `Preferences.isFinite_fontSize`: where the metrics follow the font size, the conditions of the
  settings keep it finite.
* `SavedState.LoadsAgain`: a saved state is there again, unless the metrics are given and the font
  size is not finite.
* `SavedState.load_of_validate`: so it is with settings that meet the conditions, wherever they were
  saved; `SavedState.not_forall_load_of_validate` shows an infinite font size.
-/
import Mathlib.Tactic
import Scratchpad.Proofs.StateFile
import Scratchpad.Store

namespace Scratchpad

/-! ### Bytes -/

lemma Text.ofUtf8?_toUTF8 (t : Text) : Text.ofUtf8? (String.ofList t).toUTF8 = some t := by
  have hvalid : (String.ofList t).toUTF8.IsValidUTF8 := (String.ofList t).isValidUTF8
  rw [Text.ofUtf8?, String.fromUTF8?, dif_pos hvalid, Option.map_some]
  exact congrArg some String.toList_ofList

variable {s : SavedState}

lemma Occupant.text?_fileBytes (s : SavedState) :
    (Occupant.file s.fileBytes).text? = some s.fileText :=
  Text.ofUtf8?_toUTF8 s.fileText

/-- A state whose numbers are finite is loaded again. -/
lemma Occupant.load_fileBytes (h : ∀ x ∈ s.preferences.numbers, x.isFinite = true) :
    (Occupant.file s.fileBytes).load = .ok s := by
  rw [load, SavedState.fileBytes, Text.ofUtf8?_toUTF8]
  dsimp only
  rw [SavedState.ofText?_fileText h]

/-- Without a finite font size what is saved cannot be understood. -/
lemma Occupant.load_fileBytes_eq_error (h : s.preferences.fontSize.isFinite = false) :
    (Occupant.file s.fileBytes).load = .error malformed := by
  rw [load, SavedState.fileBytes, Text.ofUtf8?_toUTF8]
  dsimp only
  rw [s.ofText?_fileText_eq, Preferences.ofJson?_toJson_eq_none h]
  rfl

/-! ### The text of the file -/

/-- The text that is saved for a state whose numbers are finite stands for that state, whatever its
version and its options are and whether metrics are given. -/
theorem SavedState.saved_text_reads_back (h : ∀ x ∈ s.preferences.numbers, x.isFinite = true) :
    SavedState.ofText? s.fileText = some s ∧
      ∀ path place occ, s.saveTo path place = .ok occ → occ.text? = some s.fileText := by
  refine ⟨SavedState.ofText?_fileText h, fun path place occ hsave => ?_⟩
  rw [eq_of_saveTo hsave, Occupant.text?_fileBytes]

/-- The greatest version and option, the least positive and the greatest number, a negative zero,
and a number whose numeral is hard to read. -/
theorem SavedState.saved_text_reads_back_at_bounds :
    let s : SavedState :=
      { version := 0xFFFFFFFF
        preferences :=
          { darkMode := false
            fontSize := ⟨0x00000001⟩
            options := { maxCandidates := 0xFFFFFFFFFFFFFFFF, minPrefixLength := 0 }
            metricsOverride := some ⟨⟨0x80000000⟩, ⟨0x7F7FFFFF⟩, ⟨0x95AE43FD⟩⟩ } }
    (∀ x ∈ s.preferences.numbers, x.isFinite = true) ∧ SavedState.ofText? s.fileText = some s ∧
      ∀ path place occ, s.saveTo path place = .ok occ → occ.text? = some s.fileText := by
  intro s
  have hfinite : ∀ x ∈ s.preferences.numbers, x.isFinite = true := by decide
  exact ⟨hfinite, SavedState.saved_text_reads_back hfinite⟩

/-! ### Settings that meet the conditions -/

/-- A product is finite only if its factors are. -/
lemma Single.isFinite_of_mul {x y : Single} (h : (x * y).isFinite = true) : x.isFinite = true := by
  change (x.mul y).isFinite = true at h
  have hnan : (Single.ofValue .nan).isFinite = false := by decide
  have hinfinite (negative : Bool) : (Single.ofValue (.infinite negative)).isFinite = false := by
    revert negative
    decide
  rw [mul] at h
  cases hx : x.value with
  | nan => simp [hx, hnan] at h
  | infinite negative =>
      cases hy : y.value with
      | nan => simp [hx, hy, hnan] at h
      | infinite negative' => simp [hx, hy, hinfinite] at h
      | finite negative' m =>
          simp only [hx, hy] at h
          split_ifs at h
          · rw [hnan] at h
            cases h
          · rw [hinfinite] at h
            cases h
  | finite negative m => simp [isFinite, hx]

/-- Where the metrics follow the font size, a font size that is not finite is refused. -/
lemma Preferences.isFinite_fontSize {p : Preferences} (hvalid : p.validate = .ok ())
    (hoverride : p.metricsOverride = none) : p.fontSize.isFinite = true := by
  rw [validate, validateSettings_eq_ok_iff, Metrics.validate_eq_ok_iff, surfaceMetrics,
    hoverride] at hvalid
  exact Single.isFinite_of_mul hvalid.2.1.1

/-- Of the numbers of settings that meet the conditions only the font size may not be finite. -/
lemma Preferences.isFinite_of_validate {p : Preferences} (hvalid : p.validate = .ok ())
    (hsize : p.fontSize.isFinite = true) : ∀ x ∈ p.numbers, x.isFinite = true := by
  rw [numbers, List.forall_mem_cons]
  refine ⟨hsize, ?_⟩
  rw [validate, validateSettings_eq_ok_iff, Metrics.validate_eq_ok_iff, surfaceMetrics] at hvalid
  obtain ⟨-, ⟨hwidth, -⟩, ⟨hheight, -⟩, hpadding, -⟩ := hvalid
  cases hoverride : p.metricsOverride with
  | none => simp
  | some m =>
      rw [hoverride] at hwidth hheight hpadding
      simp only [Option.map_some, Option.getD_some, Metrics.numbers, List.forall_mem_cons]
      exact ⟨hwidth, hheight, hpadding, by simp⟩

/-- What loading gives for a state that was saved: the state, with the version it was saved with, if
the font size is finite or the metrics follow it. What was saved without a finite font size cannot
be loaded. -/
structure SavedState.LoadsAgain (s : SavedState) (loaded : Except Error SavedState) : Prop where
  of_isFinite : s.preferences.fontSize.isFinite = true → loaded = .ok s
  of_noOverride : s.preferences.metricsOverride = none → loaded = .ok s
  of_not_isFinite : s.preferences.fontSize.isFinite = false → loaded = .error Occupant.malformed

lemma SavedState.loadsAgain_of_validate (hvalid : s.preferences.validate = .ok ()) :
    s.LoadsAgain (Occupant.file s.fileBytes).load := by
  have hload (hsize : s.preferences.fontSize.isFinite = true) :=
    Occupant.load_fileBytes (Preferences.isFinite_of_validate hvalid hsize)
  exact ⟨hload, fun hoverride => hload (Preferences.isFinite_fontSize hvalid hoverride),
    Occupant.load_fileBytes_eq_error⟩

/-- **Restart**: settings that meet the conditions are loaded again from wherever they were saved,
at any path and at the default location, with the version they were saved with, if the font size
is finite; it is wherever the metrics follow it. With metrics given, a font size that is not finite
meets the conditions too, but what is saved then cannot be loaded. -/
theorem SavedState.load_of_validate (hvalid : s.preferences.validate = .ok ()) :
    (∀ path place occ, s.saveTo path place = .ok occ → s.LoadsAgain occ.load) ∧
      ∀ store : Store, (store.save s).2 = .ok () → s.LoadsAgain (store.save s).1.load := by
  have hagain := SavedState.loadsAgain_of_validate hvalid
  refine ⟨fun path place occ hsave => ?_, fun store hsave => ?_⟩
  · rw [eq_of_saveTo hsave]
    exact hagain
  · rw [Store.load_of_save hsave]
    exact hagain

/-- A state with given metrics, saved at the default location over a file that is no state. -/
theorem SavedState.load_of_validate_with_metrics :
    let s : SavedState :=
      { version := 7
        preferences :=
          { fontSize := 16
            metricsOverride := some ⟨⟨0x41100000⟩, ⟨0x41900000⟩, ⟨0x40000000⟩⟩ } }
    let place : Place := { occupant := .file "no state".toUTF8 }
    s.preferences.validate = .ok () ∧
      s.saveTo Store.path.toList place = .ok (.file s.fileBytes) ∧
      (Store.usable place).save s = (.usable { place with occupant := .file s.fileBytes }, .ok ()) ∧
      s.LoadsAgain (Occupant.file s.fileBytes).load ∧
      (Occupant.file s.fileBytes).load = .ok s ∧ ((Store.usable place).save s).1.load = .ok s := by
  intro s place
  have hvalid : s.preferences.validate = .ok () := by
    rw [Preferences.validate, validateSettings_eq_ok_iff, Options.validate_eq_ok_iff,
      Metrics.validate_eq_ok_iff]
    decide
  have hsize : s.preferences.fontSize.isFinite = true := by decide
  have hsave : s.saveTo Store.path.toList place = .ok (.file s.fileBytes) := rfl
  have hstore : (Store.usable place).save s =
      (.usable { place with occupant := .file s.fileBytes }, .ok ()) := rfl
  obtain ⟨hplaces, hstores⟩ := SavedState.load_of_validate hvalid
  have hagain := hplaces _ place _ hsave
  have hrestart := hstores (.usable place) (congrArg Prod.snd hstore)
  exact ⟨hvalid, hsave, hstore, hagain, hagain.of_isFinite hsize, hrestart.of_isFinite hsize⟩

/-- An infinite font size meets the conditions when the metrics are given, and is not loaded
again. -/
theorem SavedState.not_forall_load_of_validate :
    ¬ ∀ (s : SavedState) (path : Text) (place : Place) (occ : Occupant),
      s.preferences.validate = .ok () → s.saveTo path place = .ok occ → occ.load = .ok s := by
  intro h
  let s : SavedState :=
    { preferences :=
        { fontSize := ⟨0x7F800000⟩
          metricsOverride := some ⟨⟨0x41100000⟩, ⟨0x41900000⟩, ⟨0x40000000⟩⟩ } }
  have hvalid : s.preferences.validate = .ok () := by
    rw [Preferences.validate, validateSettings_eq_ok_iff, Options.validate_eq_ok_iff,
      Metrics.validate_eq_ok_iff]
    decide
  have hload := h s "state.json".toList .nothing (.file s.fileBytes) hvalid rfl
  rw [Occupant.load_fileBytes_eq_error (by decide)] at hload
  cases hload

end Scratchpad
