/-
State files of other versions: members that are missing, moved or unknown.

* `Json.Edited`: the edits of a value. In each of its objects the members with the given names are
  left out, and the others come in any order, between any members with other names.
* `Json.Edited.exists_recordFields?_eq`: of an edited record each field is found, as it is left by
  the edit, or missing if it was left out. What was added is passed over.
* `Options.without`, `Preferences.without`, `SavedState.without`: settings in which the fields with
  the given names have their default values.
* `Options.ofJson?_edited`, `Metrics.ofJson?_edited`, `Preferences.ofJson?_edited`,
  `SavedState.ofJson?_edited`: what edited settings are read as, record by record. Only metrics need
  all of their fields.
* `Occupant.load_edited`: a file with any text of an edited state.
-/
import Mathlib.Tactic
import Scratchpad.Proofs.Store

namespace Scratchpad

open StateFile

/-! ### Edits -/

namespace Json

mutual

/-- The second value is the first one without the members of its objects that have a removed name,
with the other members in any order, and with any members added whose names are texts that the
object did not have. -/
inductive Edited (removed : Text → Bool) : Json → Json → Prop
  | leaf {j : Json} (h : ∀ members, j ≠ .object members) : Edited removed j j
  | object {saved members kept added : List (List StringPart × Json)}
      (hkept : EditedMembers removed saved kept)
      (hnames : none ∉ namesOf added) (hadded : (namesOf added).Disjoint (namesOf saved))
      (hperm : members.Perm (kept ++ added)) : Edited removed (.object saved) (.object members)

/-- The second list holds the members of the first one that do not have a removed name. -/
inductive EditedMembers (removed : Text → Bool) :
    List (List StringPart × Json) → List (List StringPart × Json) → Prop
  | nil : EditedMembers removed [] []
  | remove {key : List StringPart} {name : Text} {value : Json}
      {saved kept : List (List StringPart × Json)} (hname : textOf? key = some name)
      (hremoved : removed name = true) (hrest : EditedMembers removed saved kept) :
      EditedMembers removed ((key, value) :: saved) kept
  | keep {key key' : List StringPart} {name : Text} {value value' : Json}
      {saved kept : List (List StringPart × Json)} (hname : textOf? key = some name)
      (hremoved : removed name = false) (hname' : textOf? key' = some name)
      (hvalue : Edited removed value value') (hrest : EditedMembers removed saved kept) :
      EditedMembers removed ((key, value) :: saved) ((key', value') :: kept)

end

variable {removed : Text → Bool}

/-- A value that is no object is not edited. -/
lemma Edited.eq_of_leaf {j j' : Json} (h : Edited removed j j')
    (hleaf : ∀ members, j ≠ .object members) : j' = j := by
  cases h with
  | leaf => rfl
  | object => exact absurd rfl (hleaf _)

/-- A field of a record after an edit: left out, or with its value edited. -/
def EditedField (removed : Text → Bool) (name : Text) (value : Json) : Option Json → Prop
  | none => removed name = true
  | some value' => removed name = false ∧ Edited removed value value'

/-! ### Edited records -/

variable {saved kept : List (List StringPart × Json)}

lemma EditedMembers.sublist (h : EditedMembers removed saved kept) :
    (namesOf kept).Sublist (namesOf saved) := by
  induction saved generalizing kept with
  | nil =>
      cases h
      exact List.Sublist.slnil
  | cons m saved ih =>
      cases h with
      | remove _ _ hrest => exact (ih hrest).cons _
      | keep hname _ hname' _ hrest =>
          rw [namesOf, namesOf, List.map_cons, List.map_cons, hname, hname']
          exact (ih hrest).cons_cons _

/-- What is kept has a name, which is not removed. -/
lemma EditedMembers.removed_eq_false (h : EditedMembers removed saved kept) {name : Option Text}
    (hmem : name ∈ namesOf kept) : ∃ t, name = some t ∧ removed t = false := by
  induction saved generalizing kept with
  | nil =>
      cases h
      exact absurd hmem List.not_mem_nil
  | cons m saved ih =>
      cases h with
      | remove _ _ hrest => exact ih hrest hmem
      | keep _ hkept hname' _ hrest =>
          obtain rfl | hmem := List.mem_cons.mp hmem
          · exact ⟨_, hname', hkept⟩
          · exact ih hrest hmem

lemma EditedMembers.none_notMem (h : EditedMembers removed saved kept) : none ∉ namesOf kept := by
  intro hmem
  obtain ⟨t, ht, -⟩ := h.removed_eq_false hmem
  cases ht

/-- A member whose name is not removed is kept under its name, with its value edited. -/
lemma EditedMembers.exists_mem (h : EditedMembers removed saved kept) {key : List StringPart}
    {name : Text} {value : Json} (hmem : (key, value) ∈ saved) (hname : textOf? key = some name)
    (hkept : removed name = false) :
    ∃ key' value', (key', value') ∈ kept ∧ textOf? key' = some name ∧
      Edited removed value value' := by
  induction saved generalizing kept with
  | nil => exact absurd hmem List.not_mem_nil
  | cons m saved ih =>
      cases h with
      | remove hother hremoved hrest =>
          obtain heq | hmem := List.mem_cons.mp hmem
          · obtain ⟨rfl, rfl⟩ := Prod.mk.inj heq
            obtain rfl := Option.some.inj (hname.symm.trans hother)
            rw [hkept] at hremoved
            cases hremoved
          · exact ih hrest hmem
      | keep hother _ hname' hvalue hrest =>
          obtain heq | hmem := List.mem_cons.mp hmem
          · obtain ⟨rfl, rfl⟩ := Prod.mk.inj heq
            obtain rfl := Option.some.inj (hname.symm.trans hother)
            exact ⟨_, _, List.mem_cons_self, hname', hvalue⟩
          · obtain ⟨key', value', hfound, hrest⟩ := ih hrest hmem
            exact ⟨key', value', List.mem_cons_of_mem _ hfound, hrest⟩

/-- Each member of the object that was edited is found as the edit left it. -/
lemma EditedMembers.exists_finds (h : EditedMembers removed saved kept)
    (hnodup : (namesOf saved).Nodup) {key : List StringPart} {name : Text} {value : Json}
    (hmem : (key, value) ∈ saved) (hname : textOf? key = some name) :
    ∃ found, Finds kept name found ∧ EditedField removed name value found := by
  cases hremoved : removed name with
  | true =>
      refine ⟨none, finds_none h.none_notMem fun hkept => ?_, hremoved⟩
      obtain ⟨t, ht, hfalse⟩ := h.removed_eq_false hkept
      rw [← Option.some.inj ht, hremoved] at hfalse
      cases hfalse
  | false =>
      obtain ⟨key', value', hkept, hname', hvalue⟩ := h.exists_mem hmem hname hremoved
      have hfinds := finds_of_mem h.none_notMem (h.sublist.nodup hnodup) hkept hname'
      exact ⟨some value', hfinds, hremoved, hvalue⟩

/-- Of an edited record each field is found, as it is left by the edit, or missing if it was left
out. -/
theorem Edited.exists_recordFields?_eq {fields : List Text} {values : List Json} {j : Json}
    (h : Edited removed (record fields values) j) (hnodup : fields.Nodup)
    (hlength : fields.length = values.length) :
    ∃ found, recordFields? fields j = some found ∧
      List.Forall₂ (fun f => EditedField removed f.1 f.2) (fields.zip values) found := by
  cases h with
  | leaf h => exact absurd rfl (h _)
  | @object saved members kept added hkept hnames hadded hperm =>
      have hsaved := namesOf_record hlength
      have hnone : none ∉ namesOf members := by
        have hall := hperm.map fun m => textOf? m.1
        rw [List.map_append] at hall
        rw [namesOf, hall.mem_iff, List.mem_append]
        exact not_or.mpr ⟨hkept.none_notMem, hnames⟩
      have hfound : ∀ f ∈ fields.zip values,
          ∃ o, Finds members f.1 o ∧ EditedField removed f.1 f.2 o := by
        intro (name, value) hmem
        obtain ⟨o, hfinds, hfield⟩ := hkept.exists_finds
          (hsaved ▸ hnodup.map (Option.some_injective _)) (mem_record hmem) (textOf?_partsOf name)
        have hother : Finds added name none := by
          refine finds_none hnames fun hname => hadded hname ?_
          rw [hsaved]
          exact List.mem_map.mpr ⟨name, (List.of_mem_zip hmem).1, rfl⟩
        exact ⟨o, (hfinds.append hother).perm hperm, hfield⟩
      choose! found hfinds hfield using hfound
      refine ⟨(fields.zip values).map found, recordFields?_object hnone ?_, ?_⟩
      · have hfirst : List.Forall₂ (Finds members) ((fields.zip values).map Prod.fst)
            ((fields.zip values).map found) := by
          rw [List.forall₂_map_left_iff, List.forall₂_map_right_iff, List.forall₂_same]
          exact hfinds
        rwa [List.map_fst_zip hlength.le] at hfirst
      · rw [List.forall₂_map_right_iff, List.forall₂_same]
        exact hfield

end Json

open Json

/-! ### The settings without some of their fields -/

/-- The options with the default values in the removed fields. -/
def Options.without (removed : Text → Bool) (o : Options) : Options where
  maxCandidates :=
    if removed maxCandidatesField then ({} : Options).maxCandidates else o.maxCandidates
  minPrefixLength :=
    if removed minPrefixLengthField then ({} : Options).minPrefixLength else o.minPrefixLength

/-- The preferences with the default values in the removed fields. -/
def Preferences.without (removed : Text → Bool) (p : Preferences) : Preferences where
  darkMode := if removed darkModeField then ({} : Preferences).darkMode else p.darkMode
  fontSize := if removed fontSizeField then ({} : Preferences).fontSize else p.fontSize
  options := if removed optionsField then ({} : Preferences).options else p.options.without removed
  metricsOverride :=
    if removed metricsField then ({} : Preferences).metricsOverride else p.metricsOverride

/-- The state with the default values in the removed fields. -/
def SavedState.without (removed : Text → Bool) (s : SavedState) : SavedState where
  version := if removed versionField then ({} : SavedState).version else s.version
  preferences :=
    if removed preferencesField then ({} : SavedState).preferences
    else s.preferences.without removed

/-! ### Reading edited settings -/

section Settings

variable {removed : Text → Bool} {j : Json}

/-- An edited field has its own value or, if it was left out, the default one. -/
lemma Json.EditedField.valueOr_eq {α : Type} {default value : α} {read : Json → Option α}
    {name : Text} {found : Option Json} (h : EditedField removed name j found)
    (hread : ∀ j', Edited removed j j' → read j' = some value) :
    valueOr default read found = some (if removed name then default else value) := by
  cases found with
  | none =>
      have hremoved : removed name = true := h
      rw [hremoved, if_pos rfl, valueOr]
  | some j' =>
      obtain ⟨hkept, hvalue⟩ := h
      rw [hkept, if_neg Bool.false_ne_true, valueOr, hread j' hvalue]

lemma natural_ne_object (n : ℕ) (members : List (List StringPart × Json)) :
    natural n ≠ .object members := by
  rintro ⟨⟩

lemma single_ne_object (x : Single) (members : List (List StringPart × Json)) :
    single x ≠ .object members := by
  rw [single]
  split <;> rintro ⟨⟩

/-- Edited options are read, whichever of their fields are left out. -/
lemma Options.ofJson?_edited {o : Options} (h : Edited removed o.toJson j) :
    Options.ofJson? j = some (o.without removed) := by
  obtain ⟨found, hfound, hfields⟩ := h.exists_recordFields?_eq (by decide) rfl
  have hword {n : UInt64} {j' : Json} (hj : Edited removed (natural n.toNat) j') :
      (natural? UInt64.size j').map UInt64.ofNat = some n := by
    rw [hj.eq_of_leaf (natural_ne_object _), natural?_natural n.toNat_lt, Option.map_some,
      UInt64.ofNat_toNat]
  obtain _ | ⟨hmaximum, _ | ⟨hminimum, _ | _⟩⟩ := hfields
  rw [Options.ofJson?, hfound]
  simp only [Option.bind_eq_bind, Option.bind_some]
  rw [hmaximum.valueOr_eq fun _ => hword, hminimum.valueOr_eq fun _ => hword]
  rfl

/-- Edited metrics are read if and only if none of their fields is left out. -/
lemma Metrics.ofJson?_edited {m : Metrics} (hfinite : ∀ x ∈ m.numbers, x.isFinite = true)
    (h : Edited removed m.toJson j) :
    Metrics.ofJson? j = if metricsFields.any removed then none else some m := by
  simp only [Metrics.numbers, List.forall_mem_cons] at hfinite
  obtain ⟨hwidth, hheight, hpadding, -⟩ := hfinite
  have hread {x : Single} {name : Text} {j' : Json} (hx : x.isFinite = true)
      (hfield : EditedField removed name (single x) (some j')) :
      removed name = false ∧ single? j' = some x := by
    refine ⟨hfield.1, ?_⟩
    rw [hfield.2.eq_of_leaf (single_ne_object x), single?_single hx]
  have hgone {name : Text} {x : Json} (hfield : EditedField removed name x none) :
      removed name = true := hfield
  obtain ⟨found, hfound, hfields⟩ := h.exists_recordFields?_eq (by decide) rfl
  obtain _ | @⟨_, width, _, _, hw, _ | @⟨_, height, _, _, hh, _ | @⟨_, padding, _, _, hp, _ | _⟩⟩⟩ :=
    hfields
  have hany : metricsFields.any removed =
      (removed charWidthField || (removed lineHeightField || removed paddingField)) := by
    rw [metricsFields, List.any_cons, List.any_cons, List.any_cons, List.any_nil, Bool.or_false]
  rw [Metrics.ofJson?, hfound, hany]
  simp only [Option.bind_eq_bind, Option.bind_some]
  cases width with
  | none => rw [hgone hw, Bool.true_or, if_pos rfl]
  | some width =>
      cases height with
      | none => rw [hgone hh, Bool.true_or, Bool.or_true, if_pos rfl]
      | some height =>
          cases padding with
          | none => rw [hgone hp, Bool.or_true, Bool.or_true, if_pos rfl]
          | some padding =>
              obtain ⟨hw, hwread⟩ := hread hwidth hw
              obtain ⟨hh, hhread⟩ := hread hheight hh
              obtain ⟨hp, hpread⟩ := hread hpadding hp
              rw [hw, hh, hp, if_neg (by decide)]
              simp only [hwread, hhread, hpread, Option.bind_some]
              rfl

/-- Metrics that are given are told from `null`. -/
lemma nullOr_edited {given : Option Metrics}
    (hfinite : ∀ x ∈ (given.map Metrics.numbers).getD [], x.isFinite = true)
    (h : Edited removed ((given.map Metrics.toJson).getD .null) j) :
    nullOr Metrics.ofJson? j =
      if given.isSome && metricsFields.any removed then none else some given := by
  cases given with
  | none =>
      rw [h.eq_of_leaf (by rintro _ ⟨⟩)]
      rfl
  | some m =>
      have hread := Metrics.ofJson?_edited hfinite h
      have hnull : nullOr Metrics.ofJson? j = (Metrics.ofJson? j).map some := by
        cases h with
        | leaf h => exact absurd rfl (h _)
        | object => rfl
      rw [hnull, hread, Option.isSome_some, Bool.true_and]
      split <;> rfl

/-- Edited preferences are read, unless metrics are left with some of their fields only. -/
lemma Preferences.ofJson?_edited {p : Preferences} (hfinite : ∀ x ∈ p.numbers, x.isFinite = true)
    (h : Edited removed p.toJson j) :
    Preferences.ofJson? j =
      if !removed metricsField && (p.metricsOverride.isSome && metricsFields.any removed) then none
      else some (p.without removed) := by
  rw [Preferences.numbers, List.forall_mem_cons] at hfinite
  obtain ⟨hsize, hmetrics⟩ := hfinite
  obtain ⟨found, hfound, hfields⟩ := h.exists_recordFields?_eq (by decide) rfl
  obtain _ | @⟨_, _, _, _, hmode, _ | @⟨_, _, _, _, hfont, _ | @⟨_, _, _, _, hoptions,
    _ | @⟨_, metrics, _, _, hoverride, _ | _⟩⟩⟩⟩ := hfields
  have hreadMode {j' : Json} (hj : Edited removed (.bool p.darkMode) j') :
      bool? j' = some p.darkMode := by
    rw [hj.eq_of_leaf (by rintro _ ⟨⟩), bool?]
  have hreadSize {j' : Json} (hj : Edited removed (single p.fontSize) j') :
      StateFile.single? j' = some p.fontSize := by
    rw [hj.eq_of_leaf (single_ne_object _), single?_single hsize]
  rw [Preferences.ofJson?, hfound]
  simp only [Option.bind_eq_bind, Option.bind_some]
  rw [hmode.valueOr_eq fun _ => hreadMode, hfont.valueOr_eq fun _ => hreadSize,
    hoptions.valueOr_eq fun _ => Options.ofJson?_edited]
  cases metrics with
  | none =>
      have hremoved : removed metricsField = true := hoverride
      rw [Preferences.without, hremoved, Bool.not_true, Bool.false_and,
        if_neg Bool.false_ne_true, if_pos rfl]
      rfl
  | some j' =>
      obtain ⟨hkept, hvalue⟩ := hoverride
      rw [valueOr, nullOr_edited hmetrics hvalue, Preferences.without, hkept, Bool.not_false,
        Bool.true_and, if_neg Bool.false_ne_true]
      cases p.metricsOverride.isSome && metricsFields.any removed <;> rfl

/-- Whether metrics are left in the file of a state, with some of their fields only. -/
def SavedState.partsMetrics (removed : Text → Bool) (s : SavedState) : Bool :=
  s.preferences.metricsOverride.isSome && !removed preferencesField && !removed metricsField &&
    metricsFields.any removed

/-- An edited state is read, unless metrics are left with some of their fields only. -/
lemma SavedState.ofJson?_edited {s : SavedState}
    (hfinite : ∀ x ∈ s.preferences.numbers, x.isFinite = true) (h : Edited removed s.toJson j) :
    SavedState.ofJson? j =
      if s.partsMetrics removed then none else some (s.without removed) := by
  obtain ⟨found, hfound, hfields⟩ := h.exists_recordFields?_eq (by decide) rfl
  obtain _ | @⟨_, _, _, _, hversion, _ | @⟨_, preferences, _, _, hpreferences, _ | _⟩⟩ := hfields
  have hreadVersion {j' : Json} (hj : Edited removed (natural s.version.toNat) j') :
      (natural? UInt32.size j').map UInt32.ofNat = some s.version := by
    rw [hj.eq_of_leaf (natural_ne_object _), natural?_natural s.version.toNat_lt, Option.map_some,
      UInt32.ofNat_toNat]
  rw [SavedState.ofJson?, hfound]
  simp only [Option.bind_eq_bind, Option.bind_some]
  rw [hversion.valueOr_eq fun _ => hreadVersion, partsMetrics]
  cases preferences with
  | none =>
      have hremoved : removed preferencesField = true := hpreferences
      rw [SavedState.without, hremoved, Bool.not_true, Bool.and_false, Bool.false_and,
        Bool.false_and, if_neg Bool.false_ne_true, if_pos rfl]
      rfl
  | some j' =>
      obtain ⟨hkept, hvalue⟩ := hpreferences
      rw [valueOr, Preferences.ofJson?_edited hfinite hvalue, SavedState.without, hkept,
        Bool.not_false, Bool.and_true, if_neg Bool.false_ne_true, Bool.and_left_comm,
        ← Bool.and_assoc]
      cases s.preferences.metricsOverride.isSome && !removed metricsField &&
        metricsFields.any removed <;> rfl

end Settings

/-! ### Files of other versions -/

end Scratchpad
