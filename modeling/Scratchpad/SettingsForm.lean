/-
The form of the settings dialog.

* `SettingsForm`: a copy of the preferences that can be edited.
* `SettingsForm.ofPreferences`, `SettingsForm.applyTo`: filling the form, and
  writing it over preferences. A grid that the preferences give stays.
* `SettingsForm.Field`: the fields that hold numbers, with their labels and the
  numbers they accept.
* `SettingsForm.shown`: the form as a drawing of the dialog leaves it: every
  number is whole and in its range.
* `SettingsForm.Input`, `SettingsForm.paint`: what the user does to the dialog
  while it is drawn.
-/
import Scratchpad.Dialog
import Scratchpad.Numeric.Entered
import Scratchpad.Settings

namespace Scratchpad

/-- A copy of the preferences that can be edited. -/
structure SettingsForm where
  darkMode : Bool
  fontSize : Single
  maxCandidates : UInt64
  minPrefixLength : UInt64
  deriving DecidableEq, Repr

namespace SettingsForm

/-- The window of the settings dialog. -/
def window : Window := { width := 320 }

/-- Fills the form. -/
def ofPreferences (p : Preferences) : SettingsForm where
  darkMode := p.darkMode
  fontSize := p.fontSize
  maxCandidates := p.options.maxCandidates
  minPrefixLength := p.options.minPrefixLength

/-- Writes the form over preferences, whose own grid stays. -/
def applyTo (f : SettingsForm) (p : Preferences) : Preferences :=
  { p with
    darkMode := f.darkMode
    fontSize := f.fontSize
    options := ⟨f.maxCandidates, f.minPrefixLength⟩ }

/-- The first values are those of the default preferences. -/
instance : Inhabited SettingsForm := ⟨ofPreferences {}⟩

/-- Writing a form just filled changes nothing. -/
@[simp] theorem applyTo_ofPreferences (p : Preferences) : (ofPreferences p).applyTo p = p := rfl

@[simp] theorem ofPreferences_applyTo (f : SettingsForm) (p : Preferences) :
    ofPreferences (f.applyTo p) = f := rfl

@[simp] theorem metricsOverride_applyTo (f : SettingsForm) (p : Preferences) :
    (f.applyTo p).metricsOverride = p.metricsOverride := rfl

/-! ### Fields -/

/-- The fields that hold numbers. -/
inductive Field where
  | fontSize
  | maxCandidates
  | minPrefixLength
  deriving DecidableEq, Repr

namespace Field

/-- The fields in the order in which they are shown. -/
def all : List Field := [fontSize, maxCandidates, minPrefixLength]

/-- The text beside the field. -/
def label : Field → String
  | fontSize => "Font size:"
  | maxCandidates => "Max suggestions:"
  | minPrefixLength => "Min prefix length:"

/-- The numbers that the field accepts. -/
def span : Field → Span
  | fontSize => ⟨9, 24, by decide⟩
  | maxCandidates => ⟨1, 20, by decide⟩
  | minPrefixLength => ⟨1, 5, by decide⟩

/-- The field with the given text beside it. -/
def ofLabel? (label : String) : Option Field := all.find? (·.label == label)

end Field

/-- The text beside the box for the dark mode. -/
def darkModeLabel : String := "Dark mode:"

/-- The number that a field shows. -/
def number (f : SettingsForm) : Field → Nat
  | .fontSize => Field.fontSize.span.fitSingle f.fontSize
  | .maxCandidates => Field.maxCandidates.span.clamp f.maxCandidates.toNat
  | .minPrefixLength => Field.minPrefixLength.span.clamp f.minPrefixLength.toNat

/-- Puts a number into a field. -/
def put (f : SettingsForm) (n : Nat) : Field → SettingsForm
  | .fontSize => { f with fontSize := .ofNat n }
  | .maxCandidates => { f with maxCandidates := UInt64.ofNat n }
  | .minPrefixLength => { f with minPrefixLength := UInt64.ofNat n }

/-- The form as it is shown. -/
def shown (f : SettingsForm) : SettingsForm :=
  Field.all.foldl (fun g field => g.put (f.number field) field) f

/-- Takes a text typed into a field; what is no number is ignored. -/
def enter (f : SettingsForm) (field : Field) (typed : Text) : SettingsForm :=
  match Entered.read? typed with
  | some x => f.put (field.span.fit x) field
  | none => f

/-! ### Drawing -/

/-- What the user does to the dialog. -/
inductive Input where
  | nothing
  /-- A text is typed into a field and confirmed. -/
  | enter (field : Field) (typed : Text)
  /-- The box for the dark mode is clicked. -/
  | toggle
  | apply
  | cancel
  deriving DecidableEq, Repr

/-- The form after a drawing of the dialog, and what was decided. -/
def paint (input : Input) (f : SettingsForm) : SettingsForm × Verdict SettingsForm :=
  let f := f.shown
  match input with
  | .nothing => (f, .stay)
  | .enter field typed => (f.enter field typed, .stay)
  | .toggle => ({ f with darkMode := !f.darkMode }, .stay)
  | .apply => (f, .finish f)
  | .cancel => (f, .close)

end SettingsForm

end Scratchpad
