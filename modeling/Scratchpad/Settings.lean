/-
The settings of the editor and the conditions they have to meet.

* `Options`: how many suggestions are listed, and from which word length on.
* `Metrics`: the grid of the text surface, on which the popup is placed.
* `Preferences`: what the user chooses; `surfaceMetrics` follows the font size
  unless the metrics are given.
* `SavedState`: the preferences with the version of their file.
* `Rejection`: why settings are refused; the checks run in the order of its
  constructors and report the first that fails. `Options.validate_eq_ok_iff`
  and `Metrics.validate_eq_ok_iff` say when none does.
-/
import Scratchpad.Error
import Scratchpad.Numeric.Layout

namespace Scratchpad

/-! ### The settings -/

/-- When and how many suggestions are listed. -/
structure Options where
  /-- The greatest number of suggestions in a list. -/
  maxCandidates : UInt64 := 8
  /-- The length of the shortest word that opens the list. -/
  minPrefixLength : UInt64 := 1
  deriving DecidableEq, Repr

/-- The grid of the text surface in screen points. -/
structure Metrics where
  charWidth : Single := .ofRatio false 78 10
  lineHeight : Single := 20
  /-- The distance of the popup from the caret, on both axes. -/
  padding : Single := 4
  deriving DecidableEq, Repr

/-- The grid of a monospaced font: six tenths of its size wide, one and a half
times its size high. -/
def Metrics.forFontSize (size : Single) : Metrics where
  charWidth := size * .ofRatio false 6 10
  lineHeight := size * .ofRatio false 15 10

/-- What the user chooses. -/
structure Preferences where
  darkMode : Bool := true
  fontSize : Single := 13
  options : Options := {}
  metricsOverride : Option Metrics := none
  deriving DecidableEq, Repr

/-- The grid the popup is placed on. -/
def Preferences.surfaceMetrics (p : Preferences) : Metrics :=
  p.metricsOverride.getD (.forFontSize p.fontSize)

/-- What is kept from one session to the next. -/
structure SavedState where
  version : UInt32 := 1
  preferences : Preferences := {}
  deriving DecidableEq, Repr

/-! ### The conditions -/

/-- Why settings are refused. -/
inductive Rejection where
  | noCandidates
  | noPrefix
  | charWidth (given : Single)
  | lineHeight (given : Single)
  | padding (given : Single)
  deriving DecidableEq, Repr

/-- Numbers in messages have no exponent, and whole numbers no point. -/
def Rejection.numbers : Layout where
  plain := none
  pointZero := false
  exponentPlus := false
  tie := .up

/-- The text of a refusal. -/
def Rejection.message : Rejection → String
  | noCandidates => "max_candidates must be at least 1"
  | noPrefix => "min_prefix_length must be at least 1"
  | charWidth x =>
    "char_width must be a positive number, got " ++ String.ofList (numbers.render x)
  | lineHeight x =>
    "line_height must be a positive number, got " ++ String.ofList (numbers.render x)
  | padding x => "padding must be zero or positive, got " ++ String.ofList (numbers.render x)

/-- The failure that a refusal is reported as. -/
def Rejection.toError (r : Rejection) : Error := .config r.message

/-- Refuses options under which no list could ever open. -/
def Options.validate (o : Options) : Except Rejection Unit :=
  if o.maxCandidates = 0 then .error .noCandidates
  else if o.minPrefixLength = 0 then .error .noPrefix
  else .ok ()

/-- Refuses a grid without finite cells, or with padding that is infinite,
undefined or negative. -/
def Metrics.validate (m : Metrics) : Except Rejection Unit :=
  if !(m.charWidth.isFinite && m.charWidth.isPositive) then .error (.charWidth m.charWidth)
  else if !(m.lineHeight.isFinite && m.lineHeight.isPositive) then .error (.lineHeight m.lineHeight)
  else if !(m.padding.isFinite && m.padding.isNonneg) then .error (.padding m.padding)
  else .ok ()

/-- Checks options before metrics. -/
def validateSettings (o : Options) (m : Metrics) : Except Rejection Unit := do
  o.validate
  m.validate

/-- Checks the options and the grid in use. -/
def Preferences.validate (p : Preferences) : Except Rejection Unit :=
  validateSettings p.options p.surfaceMetrics

/-- These preferences, or the default ones where these are refused. -/
def Preferences.validatedOrDefault (p : Preferences) : Preferences :=
  match p.validate with
  | .ok () => p
  | .error _ => {}

/-! ### When settings are accepted -/

theorem Options.validate_eq_ok_iff {o : Options} :
    o.validate = .ok () ↔ o.maxCandidates ≠ 0 ∧ o.minPrefixLength ≠ 0 := by
  unfold validate
  split
  · simp_all
  · split <;> simp_all

theorem Metrics.validate_eq_ok_iff {m : Metrics} :
    m.validate = .ok () ↔
      (m.charWidth.isFinite ∧ m.charWidth.isPositive) ∧
      (m.lineHeight.isFinite ∧ m.lineHeight.isPositive) ∧
      (m.padding.isFinite ∧ m.padding.isNonneg) := by
  unfold validate
  grind

theorem validateSettings_eq_ok_iff {o : Options} {m : Metrics} :
    validateSettings o m = .ok () ↔ o.validate = .ok () ∧ m.validate = .ok () := by
  cases h : o.validate <;> simp [validateSettings, bind, Except.bind, h]

/-- The default preferences are accepted. -/
theorem Preferences.validate_default : ({} : Preferences).validate = .ok () := by
  rw [validate, validateSettings_eq_ok_iff, Options.validate_eq_ok_iff,
    Metrics.validate_eq_ok_iff]
  decide

end Scratchpad
