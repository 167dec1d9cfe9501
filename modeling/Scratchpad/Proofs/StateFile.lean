/-
Reading undoes writing for the state file.

* `StateFile.Finds`, `StateFile.recordFields?_object`: what is found under a name among the members
  of an object, whatever their order is, and that the fields of the object are found so.
* `StateFile.recordFields?_record`: the fields of a record that was written have the values that
  were written, whatever the values are.
* `StateFile.single?_single`: a number is read back if and only if it is finite.
* `Preferences.numbers`: all numbers of single precision in the preferences.
* `SavedState.isCanonical_toJson`, `SavedState.ofText?_fileText_eq`: the text of the file is always
  read as the JSON value that was written.
* `SavedState.ofText?_fileText`: a state without infinite and undefined numbers is read back,
  whatever its version, its options and its metrics are.
-/
import Mathlib.Tactic
import Scratchpad.Proofs.Json
import Scratchpad.Proofs.Numeric.RoundTrip

namespace Scratchpad

open Json

namespace StateFile

/-! ### Records -/

/-- A member with the text that its name stands for. -/
def named (m : List StringPart × Json) : Text × Json := ((textOf? m.1).getD [], m.2)

/-- The names of the members, where they are texts. -/
def namesOf (members : List (List StringPart × Json)) : List (Option Text) :=
  members.map fun m => textOf? m.1

lemma exists_name {members : List (List StringPart × Json)} (h : none ∉ namesOf members)
    {m : List StringPart × Json} (hm : m ∈ members) : ∃ name, textOf? m.1 = some name :=
  Option.ne_none_iff_exists'.mp fun hnone => h (List.mem_map.mpr ⟨m, hm, hnone⟩)

lemma namedMembers?_eq {members : List (List StringPart × Json)} (h : none ∉ namesOf members) :
    namedMembers? members = some (members.map named) := by
  induction members with
  | nil => rfl
  | cons m members ih =>
      obtain ⟨name, hname⟩ := exists_name h List.mem_cons_self
      have hrest := ih fun hnone => h (List.mem_cons_of_mem _ hnone)
      rw [namedMembers?] at hrest ⊢
      simp only [List.mapM_cons, hrest, hname, List.map_cons, named, Option.getD_some]
      rfl

/-- The value is the only one under the name, or there is none. -/
def Finds (members : List (List StringPart × Json)) (name : Text) (value : Option Json) : Prop :=
  (members.map named).filter (·.1 == name) = (value.map (name, ·)).toList

section Finds

variable {members others : List (List StringPart × Json)} {name : Text} {value : Option Json}

/-- The order of the members does not matter. -/
lemma Finds.perm (h : Finds others name value) (hperm : members.Perm others) :
    Finds members name value := by
  have hfilter := (hperm.map named).filter (·.1 == name)
  rw [Finds] at h ⊢
  rw [h] at hfilter
  cases value with
  | none => exact List.perm_nil.mp hfilter
  | some value => exact List.perm_singleton.mp hfilter

lemma Finds.append (h : Finds members name value) (hother : Finds others name none) :
    Finds (members ++ others) name value := by
  rw [Finds] at h hother ⊢
  rw [List.map_append, List.filter_append, h, hother]
  exact List.append_nil _

lemma finds_none (hnames : none ∉ namesOf members) (h : some name ∉ namesOf members) :
    Finds members name none := by
  rw [Finds, Option.map_none, Option.toList_none, List.filter_eq_nil_iff]
  intro n hn hname
  obtain ⟨m, hm, rfl⟩ := List.mem_map.mp hn
  obtain ⟨other, hother⟩ := exists_name hnames hm
  rw [beq_iff_eq, named, hother, Option.getD_some] at hname
  exact h (List.mem_map.mpr ⟨m, hm, hname ▸ hother⟩)

lemma finds_cons_self {key : List StringPart} {j : Json} (hname : textOf? key = some name)
    (h : Finds members name none) : Finds ((key, j) :: members) name (some j) := by
  rw [Finds] at h ⊢
  rw [List.map_cons, List.filter_cons_of_pos, h, named, hname]
  · rfl
  · rw [named, hname, Option.getD_some]
    exact beq_self_eq_true name

/-- Among members with different names each one is found. -/
lemma finds_of_mem {key : List StringPart} {j : Json} (hnames : none ∉ namesOf members)
    (hnodup : (namesOf members).Nodup) (hmem : (key, j) ∈ members)
    (hname : textOf? key = some name) : Finds members name (some j) := by
  obtain ⟨before, after, rfl⟩ := List.append_of_mem hmem
  have hperm : (before ++ (key, j) :: after).Perm ((key, j) :: (before ++ after)) :=
    List.perm_middle
  have hfront := hperm.map fun m => textOf? m.1
  obtain ⟨hfirst, -⟩ := List.nodup_cons.mp (hfront.nodup_iff.mp hnodup)
  have hothers : Finds (before ++ after) name none := by
    refine finds_none (fun hnone => hnames ?_) (hname ▸ hfirst)
    exact hfront.mem_iff.mpr (List.mem_cons_of_mem _ hnone)
  exact (finds_cons_self hname hothers).perm hperm

/-- The fields of an object are the values that are found under their names. -/
lemma recordFields?_object {fields : List Text} {found : List (Option Json)}
    (hnames : none ∉ namesOf members) (h : List.Forall₂ (Finds members) fields found) :
    recordFields? fields (.object members) = some found := by
  have hmember {name : Text} {value : Option Json} (h : Finds members name value) :
      member? (members.map named) name = some value := by
    rw [member?, h]
    cases value <;> rfl
  rw [recordFields?, namedMembers?_eq hnames, Option.bind_eq_bind, Option.bind_some]
  induction h with
  | nil => rfl
  | cons hfirst _ ih =>
      rw [List.mapM_cons, hmember hfirst, ih]
      rfl

end Finds

section Record

variable {fields : List Text} {values : List Json}

lemma namesOf_record (hlength : fields.length = values.length) :
    namesOf ((fields.map partsOf).zip values) = fields.map some := by
  have hkeys : ((fields.map partsOf).zip values).map Prod.fst = fields.map partsOf :=
    List.map_fst_zip (by rw [List.length_map, hlength])
  calc namesOf ((fields.map partsOf).zip values)
      = (((fields.map partsOf).zip values).map Prod.fst).map textOf? := by
        rw [List.map_map]
        rfl
    _ = fields.map some := by
        rw [hkeys, List.map_map]
        exact List.map_congr_left fun field _ => textOf?_partsOf field

lemma mem_record {field : Text} {value : Json} (h : (field, value) ∈ fields.zip values) :
    (partsOf field, value) ∈ (fields.map partsOf).zip values := by
  rw [List.zip_map_left]
  exact List.mem_map.mpr ⟨_, h, rfl⟩

/-- The fields of a record that was written have the values that were written. -/
lemma recordFields?_record (hnodup : fields.Nodup) (hlength : fields.length = values.length) :
    recordFields? fields (record fields values) = some (values.map some) := by
  have hsaved := namesOf_record hlength
  have hnames : none ∉ namesOf ((fields.map partsOf).zip values) := by
    rw [hsaved]
    exact fun hnone => by simp at hnone
  have hdifferent : (namesOf ((fields.map partsOf).zip values)).Nodup := by
    rw [hsaved]
    exact hnodup.map (Option.some_injective _)
  refine recordFields?_object hnames (List.forall₂_map_right_iff.mpr ?_)
  refine List.forall₂_iff_zip.mpr ⟨hlength, fun hmem => ?_⟩
  exact finds_of_mem hnames hdifferent (mem_record hmem) (textOf?_partsOf _)

end Record

/-! ### Values of the fields -/

lemma natural?_natural {n bound : ℕ} (h : n < bound) : natural? bound (natural n) = some n := by
  have hvalue : (Numeral.ofNat n).natural? = some n := by
    rw [Numeral.natural?]
    exact congrArg some (Numeral.ofDigits_digitsOf n)
  rw [natural, natural?, hvalue, Option.filter_some, if_pos (decide_eq_true h)]

/-- A finite number is read back. -/
lemma single?_single {x : Single} (h : x.isFinite = true) : single? (single x) = some x := by
  obtain ⟨n, hn, -, hread⟩ := Single.exists_numeral? h
  rw [single, hn]
  exact hread

lemma numeral?_eq_none {x : Single} (h : x.isFinite = false) : numbers.numeral? x = none := by
  rw [Single.isFinite] at h
  rw [Layout.numeral?]
  cases hvalue : x.value with
  | nan => rfl
  | infinite negative => rfl
  | finite negative m => simp [hvalue] at h

/-- Infinite and undefined numbers are not. -/
lemma single?_single_eq_none {x : Single} (h : x.isFinite = false) : single? (single x) = none := by
  rw [single, numeral?_eq_none h]
  rfl

/-! ### What is written is canonical -/

/-- The name of a field without control characters is read as it is written. -/
lemma isCanonical_partsOf {t : Text} (h : ∀ c ∈ t, 0x20 ≤ c.toNat) :
    ∀ p ∈ partsOf t, p.IsCanonical := by
  intro p hp
  obtain ⟨c, hc, rfl⟩ := List.mem_map.mp hp
  exact h c hc

lemma isCanonical_record {fields : List Text} {values : List Json}
    (hfields : fields.all fun field => field.all fun c => 0x20 ≤ c.toNat)
    (hvalues : ∀ j ∈ values, j.IsCanonical) : (record fields values).IsCanonical := by
  simp only [List.all_eq_true, decide_eq_true_eq] at hfields
  refine IsCanonical.object (fun m hm => ?_) (fun m hm => hvalues _ (List.of_mem_zip hm).2)
  obtain ⟨field, hfield, heq⟩ := List.mem_map.mp (List.of_mem_zip hm).1
  rw [← heq]
  exact isCanonical_partsOf (hfields field hfield)

lemma isCanonical_natural (n : ℕ) : (natural n).IsCanonical := by
  refine IsCanonical.number ⟨?_, Numeral.lt_ten_of_mem_digitsOf n, by simp [Numeral.ofNat]⟩
  obtain rfl | hpos := Nat.eq_zero_or_pos n
  · exact Or.inl rfl
  · exact Or.inr ⟨Numeral.digitsOf_ne_nil n, Numeral.head?_digitsOf hpos⟩

lemma isCanonical_single (x : Single) : (single x).IsCanonical := by
  cases h : x.isFinite with
  | true =>
      obtain ⟨n, hn, hcanonical, -⟩ := Single.exists_numeral? h
      rw [single, hn]
      exact IsCanonical.number hcanonical
  | false =>
      rw [single, numeral?_eq_none h]
      exact IsCanonical.null

end StateFile

open StateFile

lemma Options.isCanonical_toJson (o : Options) : o.toJson.IsCanonical :=
  isCanonical_record (by decide) (by simp [isCanonical_natural])

lemma Metrics.isCanonical_toJson (m : Metrics) : m.toJson.IsCanonical :=
  isCanonical_record (by decide) (by simp [isCanonical_single])

lemma Preferences.isCanonical_toJson (p : Preferences) : p.toJson.IsCanonical := by
  have hmetrics : ((p.metricsOverride.map Metrics.toJson).getD .null).IsCanonical := by
    cases p.metricsOverride with
    | none => exact IsCanonical.null
    | some m => exact m.isCanonical_toJson
  exact isCanonical_record (by decide) (by
    simp [IsCanonical.bool, isCanonical_single, Options.isCanonical_toJson, hmetrics])

lemma SavedState.isCanonical_toJson (s : SavedState) : s.toJson.IsCanonical :=
  isCanonical_record (by decide)
    (by simp [isCanonical_natural, Preferences.isCanonical_toJson])

/-- The text of the file is read as the value that was written, whatever the state is. -/
theorem SavedState.read?_fileText (s : SavedState) : Json.read? s.fileText = some s.toJson :=
  read?_pretty s.isCanonical_toJson

/-! ### Reading the settings -/

/-- Options are read back, whatever they are. -/
lemma Options.ofJson?_toJson (o : Options) : Options.ofJson? o.toJson = some o := by
  have hword (n : UInt64) :
      (natural? UInt64.size (natural n.toNat)).map UInt64.ofNat = some n := by
    rw [natural?_natural n.toNat_lt, Option.map_some, UInt64.ofNat_toNat]
  rw [Options.ofJson?, Options.toJson, recordFields?_record (by decide) rfl]
  simp only [Option.bind_eq_bind, Option.bind_some, List.map_cons, List.map_nil, valueOr, hword]
  rfl

/-- The numbers of the metrics. -/
def Metrics.numbers (m : Metrics) : List Single := [m.charWidth, m.lineHeight, m.padding]

/-- The numbers of the preferences. -/
def Preferences.numbers (p : Preferences) : List Single :=
  p.fontSize :: (p.metricsOverride.map Metrics.numbers).getD []

/-- Metrics are read back if they are finite. -/
lemma Metrics.ofJson?_toJson {m : Metrics} (h : ∀ x ∈ m.numbers, x.isFinite = true) :
    Metrics.ofJson? m.toJson = some m := by
  simp only [Metrics.numbers, List.forall_mem_cons] at h
  obtain ⟨hwidth, hheight, hpadding, -⟩ := h
  rw [Metrics.ofJson?, Metrics.toJson, recordFields?_record (by decide) rfl]
  simp only [Option.bind_eq_bind, Option.bind_some, List.map_cons, List.map_nil,
    single?_single hwidth, single?_single hheight, single?_single hpadding]
  rfl

/-- Metrics that are given are told from `null`. -/
lemma nullOr_metrics {given : Option Metrics}
    (h : ∀ x ∈ (given.map Metrics.numbers).getD [], x.isFinite = true) :
    nullOr Metrics.ofJson? ((given.map Metrics.toJson).getD .null) = some given := by
  cases given with
  | none => rfl
  | some m =>
      have hread := Metrics.ofJson?_toJson h
      rw [Metrics.toJson, record] at hread
      rw [Option.map_some, Option.getD_some, Metrics.toJson, record, nullOr, hread]
      · rfl
      · rintro ⟨⟩

/-- Preferences are read back if their numbers are finite. -/
lemma Preferences.ofJson?_toJson {p : Preferences} (h : ∀ x ∈ p.numbers, x.isFinite = true) :
    Preferences.ofJson? p.toJson = some p := by
  rw [Preferences.numbers, List.forall_mem_cons] at h
  obtain ⟨hsize, hmetrics⟩ := h
  rw [Preferences.ofJson?, Preferences.toJson, recordFields?_record (by decide) rfl]
  simp only [Option.bind_eq_bind, Option.bind_some, List.map_cons, List.map_nil, valueOr, bool?,
    single?_single hsize, Options.ofJson?_toJson, nullOr_metrics hmetrics]
  rfl

/-- An infinite or undefined font size is written as `null` and not read. -/
lemma Preferences.ofJson?_toJson_eq_none {p : Preferences} (h : p.fontSize.isFinite = false) :
    Preferences.ofJson? p.toJson = none := by
  rw [Preferences.ofJson?, Preferences.toJson, recordFields?_record (by decide) rfl]
  simp only [Option.bind_eq_bind, Option.bind_some, List.map_cons, List.map_nil, valueOr, bool?,
    single?_single_eq_none h, Option.bind_none]

/-- What is read from the text of the file are the version and the preferences that are read
from the value that was written. -/
lemma SavedState.ofText?_fileText_eq (s : SavedState) :
    SavedState.ofText? s.fileText =
      (Preferences.ofJson? s.preferences.toJson).map fun p => { s with preferences := p } := by
  have hversion : (natural? UInt32.size (natural s.version.toNat)).map UInt32.ofNat =
      some s.version := by
    rw [natural?_natural s.version.toNat_lt, Option.map_some, UInt32.ofNat_toNat]
  rw [SavedState.ofText?, s.read?_fileText, Option.bind_eq_bind, Option.bind_some,
    SavedState.ofJson?, SavedState.toJson, recordFields?_record (by decide) rfl]
  simp only [Option.bind_eq_bind, Option.bind_some, List.map_cons, List.map_nil, valueOr, hversion]
  cases Preferences.ofJson? s.preferences.toJson <;> rfl

/-- Reading undoes writing for every state whose numbers are finite, whatever its version and its
options are and whether metrics are given. No condition of the settings has to be met. -/
theorem SavedState.ofText?_fileText {s : SavedState}
    (h : ∀ x ∈ s.preferences.numbers, x.isFinite = true) :
    SavedState.ofText? s.fileText = some s := by
  rw [s.ofText?_fileText_eq, Preferences.ofJson?_toJson h]
  rfl

end Scratchpad
