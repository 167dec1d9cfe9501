/-
The file that keeps the preferences from one session to the next.

The file is a JSON object whose members are the settings.

* `SavedState.toJson`, `SavedState.fileText`: the form that is written. Infinite
  and undefined numbers are written as `null`.
* `recordFields?`: a record may be an object, whose unknown members are passed
  over, or an array of its fields in their order.
* `SavedState.ofJson?`, `SavedState.ofText?`: the state that a file stands for.
  Fields that are missing have their default values; only the three metrics
  have to be given together.
-/
import Scratchpad.Json.Reader
import Scratchpad.Settings

namespace Scratchpad

namespace StateFile

/-! ### Names of the fields -/

def versionField : Text := "version".toList
def preferencesField : Text := "preferences".toList
def darkModeField : Text := "dark_mode".toList
def fontSizeField : Text := "font_size".toList
def optionsField : Text := "autocomplete".toList
def metricsField : Text := "metrics_override".toList
def maxCandidatesField : Text := "max_candidates".toList
def minPrefixLengthField : Text := "min_prefix_length".toList
def charWidthField : Text := "char_width".toList
def lineHeightField : Text := "line_height".toList
def paddingField : Text := "padding".toList

/-- The fields of the whole state. -/
def stateFields : List Text := [versionField, preferencesField]

/-- The fields of the preferences. -/
def preferencesFields : List Text := [darkModeField, fontSizeField, optionsField, metricsField]

/-- The fields of the options. -/
def optionsFields : List Text := [maxCandidatesField, minPrefixLengthField]

/-- The fields of the metrics. -/
def metricsFields : List Text := [charWidthField, lineHeightField, paddingField]

/-! ### Writing -/

/-- Numbers in the file keep a digit behind the point, and have an exponent below
`10 ^ -6` and from `10 ^ 13` on. -/
def numbers : Layout where
  plain := some (-6, 12)
  pointZero := true
  exponentPlus := true
  tie := .toEven

/-- A record as an object. -/
def record (fields : List Text) (values : List Json) : Json :=
  .object ((fields.map Json.partsOf).zip values)

/-- A natural number in the file. -/
def natural (n : Nat) : Json := .number (.ofNat n)

/-- A number of single precision in the file. -/
def single (x : Single) : Json :=
  match numbers.numeral? x with
  | some n => .number n
  | none => .null

end StateFile

open StateFile

/-- The options as they are written. -/
def Options.toJson (o : Options) : Json :=
  record optionsFields [natural o.maxCandidates.toNat, natural o.minPrefixLength.toNat]

/-- The metrics as they are written. -/
def Metrics.toJson (m : Metrics) : Json :=
  record metricsFields [single m.charWidth, single m.lineHeight, single m.padding]

/-- The preferences as they are written. -/
def Preferences.toJson (p : Preferences) : Json :=
  record preferencesFields [.bool p.darkMode, single p.fontSize, p.options.toJson,
    (p.metricsOverride.map Metrics.toJson).getD .null]

/-- The state as it is written. -/
def SavedState.toJson (s : SavedState) : Json :=
  record stateFields [natural s.version.toNat, s.preferences.toJson]

/-- The text of the file. -/
def SavedState.fileText (s : SavedState) : Text := s.toJson.pretty

/-! ### Reading -/

namespace StateFile

/-- The members of an object whose names are texts; a name that is none fails. -/
def namedMembers? (members : List (List StringPart × Json)) : Option (List (Text × Json)) :=
  members.mapM fun (key, value) => (Json.textOf? key).map fun name => (name, value)

/-- The value of the member with the given name, which may be missing but not
repeated. -/
def member? (members : List (Text × Json)) (name : Text) : Option (Option Json) :=
  match members.filter (·.1 == name) with
  | [] => some none
  | [(_, value)] => some (some value)
  | _ => none

/-- The values of the fields of a record, each of which may be missing. -/
def recordFields? (fields : List Text) : Json → Option (List (Option Json))
  | .object members => do
    let members ← namedMembers? members
    fields.mapM (member? members)
  | .array items =>
    if items.length ≤ fields.length then
      some (items.map some ++ List.replicate (fields.length - items.length) none)
    else none
  | _ => none

/-- The value of a field, or its default when it is missing. -/
def valueOr {α : Type} (default : α) (read : Json → Option α) : Option Json → Option α
  | none => some default
  | some j => read j

/-- A truth value. -/
def bool? : Json → Option Bool
  | .bool b => some b
  | _ => none

/-- A natural number below a bound. -/
def natural? (bound : Nat) : Json → Option Nat
  | .number n => n.natural?.filter (· < bound)
  | _ => none

/-- A number of single precision. -/
def single? : Json → Option Single
  | .number n => n.single?
  | _ => none

/-- A value, or `null` for its absence. -/
def nullOr {α : Type} (read : Json → Option α) : Json → Option (Option α)
  | .null => some none
  | j => (read j).map some

end StateFile

/-- The options that a value stands for. -/
def Options.ofJson? (j : Json) : Option Options := do
  let word (j : Json) := (natural? UInt64.size j).map UInt64.ofNat
  match ← recordFields? optionsFields j with
  | [maximum, minimum] =>
    let maxCandidates ← valueOr ({} : Options).maxCandidates word maximum
    let minPrefixLength ← valueOr ({} : Options).minPrefixLength word minimum
    return { maxCandidates, minPrefixLength }
  | _ => none

/-- The metrics that a value stands for. -/
def Metrics.ofJson? (j : Json) : Option Metrics := do
  match ← recordFields? metricsFields j with
  | [some width, some height, some padding] =>
    let charWidth ← single? width
    let lineHeight ← single? height
    let padding ← single? padding
    return { charWidth, lineHeight, padding }
  | _ => none

/-- The preferences that a value stands for. -/
def Preferences.ofJson? (j : Json) : Option Preferences := do
  match ← recordFields? preferencesFields j with
  | [mode, size, options, metrics] =>
    let darkMode ← valueOr ({} : Preferences).darkMode bool? mode
    let fontSize ← valueOr ({} : Preferences).fontSize single? size
    let options ← valueOr ({} : Preferences).options Options.ofJson? options
    let metricsOverride ← valueOr none (nullOr Metrics.ofJson?) metrics
    return { darkMode, fontSize, options, metricsOverride }
  | _ => none

/-- The state that a value stands for. -/
def SavedState.ofJson? (j : Json) : Option SavedState := do
  match ← recordFields? stateFields j with
  | [version, preferences] =>
    let version ← valueOr ({} : SavedState).version
      (fun j => (natural? UInt32.size j).map UInt32.ofNat) version
    let preferences ← valueOr ({} : SavedState).preferences Preferences.ofJson? preferences
    return { version, preferences }
  | _ => none

/-- The state that the text of a file stands for. -/
def SavedState.ofText? (t : Text) : Option SavedState := Json.read? t >>= SavedState.ofJson?

end Scratchpad
