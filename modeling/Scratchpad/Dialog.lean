/-
The life of a dialog window.

A dialog keeps the state of its fields while it is open. Every time it is drawn,
the drawing decides whether it goes on; a dialog that closes forgets its fields.

* `Window`: the appearance of a dialog window.
* `Verdict`: what drawing a dialog decided.
* `Dialog`: whether a dialog is open, and its fields.
* `Dialog.draw`: one drawing, with the action that it ended in.
-/
import Scratchpad.Numeric.Single

namespace Scratchpad

/-- The appearance of a dialog window. -/
structure Window where
  width : Single := 360
  resizable : Bool := false
  collapsible : Bool := false
  deriving DecidableEq, Repr

/-- What drawing a dialog decided. -/
inductive Verdict (α : Type) where
  /-- The dialog stays open. -/
  | stay
  /-- The dialog closes, and nothing is done. -/
  | close
  /-- The dialog closes, and the action is to be done. -/
  | finish (action : α)
  deriving DecidableEq, Repr

namespace Verdict

/-- Whether the dialog closes. -/
def closes {α : Type} : Verdict α → Bool
  | stay => false
  | _ => true

/-- The action to be done. -/
def action? {α : Type} : Verdict α → Option α
  | finish action => some action
  | _ => none

end Verdict

/-- A dialog with the state of its fields. -/
structure Dialog (σ : Type) where
  isOpen : Bool
  fields : σ
  deriving DecidableEq, Repr

namespace Dialog

variable {σ α : Type}

/-- A closed dialog, whose fields have their first values. -/
def closed [Inhabited σ] : Dialog σ := ⟨false, default⟩

/-- Opens a dialog with the given fields. -/
def opened (fields : σ) : Dialog σ := ⟨true, fields⟩

/-- Draws a dialog if it is open. `paint` gives the fields after the drawing and what
was decided. -/
def draw [Inhabited σ] (d : Dialog σ) (paint : σ → σ × Verdict α) : Dialog σ × Option α :=
  if d.isOpen then
    let (fields, verdict) := paint d.fields
    (if verdict.closes then closed else opened fields, verdict.action?)
  else (d, none)

/-- An action comes only with the end of a dialog. -/
theorem draw_eq_closed_of_action [Inhabited σ] {d : Dialog σ} {paint : σ → σ × Verdict α}
    {action : α} (h : (d.draw paint).2 = some action) : (d.draw paint).1 = closed := by
  unfold draw at h ⊢
  split
  · rename_i hopen
    rw [if_pos hopen] at h
    cases hv : (paint d.fields).2 with
    | stay => simp [hv, Verdict.action?] at h
    | close => simp [hv, Verdict.closes]
    | finish a => simp [hv, Verdict.closes]
  · simp_all

end Dialog

end Scratchpad
