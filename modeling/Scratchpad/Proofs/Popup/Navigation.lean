/-
Runs of inputs through the popup.

The candidates stand in a circle. As long as nothing is accepted or dismissed, the selection goes
one candidate on with every input downwards and one back with every input upwards, all the way round
in both directions, and nothing else moves it.

* `Listing.nextPosition?`, `Listing.previousPosition?`: the positions beside the selected one, as
  they are computed with numbers of 64 bits; `Listing.nextPosition?_eq` and
  `Listing.previousPosition?_eq` say that these suffice.
* `Popup.Input`, `Popup.respond`, `Popup.run`: the inputs, what one of them does, and runs of them.
* `Popup.Input.Steers`: the inputs that keep the list on the screen.
* `Popup.exists_respond`, `Popup.exists_run`: where one of these, and a run of them, moves the
  selection.
* `Popup.Responds`: what every input does to a listing.
* `Popup.selection_goes_round`: where a run leads from the first candidate on.
-/
import Mathlib.Tactic
import Scratchpad.Proofs.Popup

namespace Scratchpad

/-! ### Positions in 64 bits -/

/-- The sum, if it has no more than 64 bits. -/
def wordSum? (m n : ℕ) : Option ℕ := if m + n < 2 ^ 64 then some (m + n) else none

/-- The difference, if it is not negative. -/
def wordDifference? (m n : ℕ) : Option ℕ := if n ≤ m then some (m - n) else none

/-- The remainder, if there is one. -/
def wordRemainder? (m n : ℕ) : Option ℕ := if n = 0 then none else some (m % n)

variable {m n : ℕ}

lemma wordSum?_of_lt (h : m + n < 2 ^ 64) : wordSum? m n = some (m + n) := if_pos h

lemma wordDifference?_of_le (h : n ≤ m) : wordDifference? m n = some (m - n) := if_pos h

lemma wordRemainder?_of_pos (h : 0 < n) : wordRemainder? m n = some (m % n) := if_neg h.ne'

namespace Listing

/-- The position behind the selected one. -/
def nextPosition? (l : Listing) : Option ℕ := do
  let sum ← wordSum? l.selected 1
  wordRemainder? sum l.candidates.length

/-- The position in front of the selected one. -/
def previousPosition? (l : Listing) : Option ℕ := do
  let sum ← wordSum? l.selected l.candidates.length
  let before ← wordDifference? sum 1
  wordRemainder? before l.candidates.length

variable {l : Listing}

lemma length_pos (l : Listing) : 0 < l.candidates.length := Nat.zero_lt_of_lt l.selected_lt

lemma nextPosition?_eq (h : l.candidates.length < 2 ^ 63) :
    l.nextPosition? = some ((l.selected + 1) % l.candidates.length) := by
  have hlt := l.selected_lt
  have hsum : l.selected + 1 < 2 ^ 64 := by omega
  rw [nextPosition?, wordSum?_of_lt hsum]
  exact wordRemainder?_of_pos l.length_pos

/-- The sum of two positions needs one more bit than a position. -/
lemma previousPosition?_eq (h : l.candidates.length < 2 ^ 63) :
    l.previousPosition? =
      some ((l.selected + l.candidates.length - 1) % l.candidates.length) := by
  have hlt := l.selected_lt
  have hsum : l.selected + l.candidates.length < 2 ^ 64 := by omega
  have hle : 1 ≤ l.selected + l.candidates.length := by omega
  rw [previousPosition?, wordSum?_of_lt hsum, Option.bind_eq_bind, Option.bind_some,
    wordDifference?_of_le hle]
  exact wordRemainder?_of_pos l.length_pos

end Listing

namespace Popup

/-! ### Inputs -/

/-- The inputs of the popup, and the order to move it to another place. -/
inductive Input where
  | selectNext
  | selectPrevious
  | accept
  | dismiss
  | key (key : Key)
  | row (i : ℕ)
  | moveTo (anchor : Point)

namespace Input

/-- Whether the input selects the next candidate. -/
def isDown : Input → Bool
  | selectNext | key .down => true
  | _ => false

/-- Whether the input selects the candidate before. -/
def isUp : Input → Bool
  | selectPrevious | key .up => true
  | _ => false

/-- The inputs that keep a list of `n` candidates on the screen. -/
def Steers (n : ℕ) : Input → Prop
  | selectNext | selectPrevious | key .up | key .down | key .other | moveTo _ => True
  | row i => n ≤ i
  | accept | dismiss | key .enter | key .tab | key .escape => False

/-- The transition that is reported. Moving the popup reports none. -/
def report : Input → Transition → Option Transition
  | moveTo _, _ => none
  | _, t => some t

/-- What a steering input reports that leaves the given position selected. -/
def steered (e : Input) (selected : ℕ) : Option Transition :=
  e.report (if e.isDown || e.isUp then .moved selected else .ignored)

/-- How far the input moves the selection. -/
def shift (e : Input) : ℤ := e.isDown.toNat - e.isUp.toNat

end Input

/-- What an input does: the transition that is reported, and the popup after it. -/
def respond (p : Popup) : Input → Option Transition × Popup
  | .selectNext => p.selectNext.map some id
  | .selectPrevious => p.selectPrevious.map some id
  | .accept => p.accept.map some id
  | .dismiss => p.dismiss.map some id
  | .key key => (p.pressKey key).map some id
  | .row i => (p.selectRow i).map some id
  | .moveTo anchor => (none, p.moveTo anchor)

/-- The popup after a run of inputs. -/
def run (p : Popup) (inputs : List Input) : Popup := inputs.foldl (fun p e => (p.respond e).2) p

@[simp] lemma run_nil (p : Popup) : p.run [] = p := rfl

@[simp] lemma run_cons (p : Popup) (e : Input) (inputs : List Input) :
    p.run (e :: inputs) = (p.respond e).2.run inputs := rfl

/-- How far a run of inputs moves the selection. -/
def net (inputs : List Input) : ℤ := inputs.countP Input.isDown - inputs.countP Input.isUp

lemma net_cons (e : Input) (inputs : List Input) : net (e :: inputs) = e.shift + net inputs := by
  have hdown : ((e :: inputs).countP Input.isDown : ℤ) =
      inputs.countP Input.isDown + e.isDown.toNat := by
    cases h : e.isDown <;> simp [h]
  have hup : ((e :: inputs).countP Input.isUp : ℤ) =
      inputs.countP Input.isUp + e.isUp.toNat := by
    cases h : e.isUp <;> simp [h]
  rw [net, net, Input.shift, hdown, hup]
  ring

variable {l : Listing} {e : Input} {inputs : List Input}

/-! ### One input -/

/-- The listing `l'` shows what `l` does, with the selection moved round by `k`. -/
def Moved (k : ℤ) (l l' : Listing) : Prop :=
  l'.candidates = l.candidates ∧
    (l'.selected : ℤ) = (l.selected + k) % (l.candidates.length : ℤ)

lemma moved_next (l : Listing) : ∃ l', (shown l).selectNext = (.moved l'.selected, shown l') ∧
    Moved 1 l l' := by
  refine ⟨l.select ((l.selected + 1) % l.candidates.length) (Nat.mod_lt _ l.length_pos), rfl, rfl,
    ?_⟩
  rw [Listing.select, Int.natCast_emod, Nat.cast_add, Nat.cast_one]

lemma moved_previous (l : Listing) :
    ∃ l', (shown l).selectPrevious = (.moved l'.selected, shown l') ∧ Moved (-1) l l' := by
  refine ⟨l.select ((l.selected + l.candidates.length - 1) % l.candidates.length)
    (Nat.mod_lt _ l.length_pos), rfl, rfl, ?_⟩
  have hpos : 1 ≤ l.selected + l.candidates.length := Nat.le_add_left_of_le l.length_pos
  rw [Listing.select, Int.natCast_emod, Nat.cast_sub hpos, Nat.cast_add, Nat.cast_one,
    add_sub_right_comm, Int.add_emod_right, sub_eq_add_neg]

lemma moved_zero {l' : Listing} (hcandidates : l'.candidates = l.candidates)
    (hselected : l'.selected = l.selected) : Moved 0 l l' := by
  have hlt : (l.selected : ℤ) < l.candidates.length := Int.ofNat_lt.mpr l.selected_lt
  refine ⟨hcandidates, ?_⟩
  rw [hselected, add_zero, Int.emod_eq_of_lt (Int.natCast_nonneg _) hlt]

/-- A steering input moves the selection by its shift, and reports where it went. -/
lemma exists_respond (h : e.Steers l.candidates.length) :
    ∃ l', (shown l).respond e = (e.steered l'.selected, shown l') ∧ Moved e.shift l l' := by
  cases e with
  | selectNext =>
      obtain ⟨l', hnext, hmoved⟩ := moved_next l
      exact ⟨l', by rw [respond, hnext]; rfl, hmoved⟩
  | selectPrevious =>
      obtain ⟨l', hprevious, hmoved⟩ := moved_previous l
      exact ⟨l', by rw [respond, hprevious]; rfl, hmoved⟩
  | accept => exact h.elim
  | dismiss => exact h.elim
  | key key =>
      cases key with
      | enter => exact h.elim
      | tab => exact h.elim
      | escape => exact h.elim
      | down =>
          obtain ⟨l', hnext, hmoved⟩ := moved_next l
          exact ⟨l', by rw [respond, pressKey, hnext]; rfl, hmoved⟩
      | up =>
          obtain ⟨l', hprevious, hmoved⟩ := moved_previous l
          exact ⟨l', by rw [respond, pressKey, hprevious]; rfl, hmoved⟩
      | other => exact ⟨l, rfl, moved_zero rfl rfl⟩
  | row i => exact ⟨l, by rw [respond, selectRow_of_le h]; rfl, moved_zero rfl rfl⟩
  | moveTo anchor => exact ⟨_, rfl, moved_zero rfl rfl⟩

/-! ### Runs -/

lemma Moved.trans {j k : ℤ} {l₁ l₂ l₃ : Listing} (h₁ : Moved j l₁ l₂) (h₂ : Moved k l₂ l₃) :
    Moved (j + k) l₁ l₃ := by
  refine ⟨h₂.1.trans h₁.1, ?_⟩
  rw [h₂.2, h₁.1, h₁.2, Int.emod_add_emod, add_assoc]

/-- A run of steering inputs moves the selection by the sum of their shifts. -/
lemma exists_run (h : ∀ e ∈ inputs, e.Steers l.candidates.length) :
    ∃ l', (shown l).run inputs = shown l' ∧ Moved (net inputs) l l' := by
  induction inputs generalizing l with
  | nil => exact ⟨l, rfl, moved_zero rfl rfl⟩
  | cons e inputs ih =>
      rw [List.forall_mem_cons] at h
      obtain ⟨l₁, hrespond, hmoved⟩ := exists_respond h.1
      rw [← hmoved.1] at h
      obtain ⟨l₂, hrun, hmoved'⟩ := ih h.2
      refine ⟨l₂, ?_, ?_⟩
      · rw [run_cons, hrespond, hrun]
      · rw [net_cons]
        exact hmoved.trans hmoved'

/-! ### All inputs at a listing -/

/-- What every input does while the listing is shown. -/
structure Responds (l : Listing) : Prop where
  /-- The neighbours of the selected position are found in 64 bits. -/
  positions : ∃ next previous, l.nextPosition? = some next ∧ l.previousPosition? = some previous ∧
    (shown l).selectNext.1 = .moved next ∧ (shown l).selectPrevious.1 = .moved previous
  /-- A steering input keeps the list on the screen and reports the position it leads to. -/
  steered : ∀ e : Input, e.Steers l.candidates.length →
    ∃ l', (shown l).respond e = (e.steered l'.selected, shown l') ∧ Moved e.shift l l'
  /-- The selected candidate is handed out. -/
  accepted : ∃ x, l.candidates[l.selected]? = some x ∧
    ∀ e ∈ [Input.accept, .key .enter, .key .tab],
      (shown l).respond e = (some (.accepted x), closed)
  /-- A row hands out its own candidate. -/
  picked : ∀ i x, l.candidates[i]? = some x →
    (shown l).respond (.row i) = (some (.accepted x), closed)
  dismissed : ∀ e ∈ [Input.dismiss, .key .escape],
    (shown l).respond e = (some .dismissed, closed)

lemma responds (h : l.candidates.length < 2 ^ 63) : Responds l where
  positions := ⟨_, _, Listing.nextPosition?_eq h, Listing.previousPosition?_eq h, rfl, rfl⟩
  steered _ := exists_respond
  accepted := by
    refine ⟨l.choice, List.getElem?_eq_getElem l.selected_lt, fun e he => ?_⟩
    simp only [List.mem_cons, List.not_mem_nil, or_false] at he
    rcases he with rfl | rfl | rfl <;> rfl
  picked i x hx := by
    obtain ⟨hi, rfl⟩ := List.getElem?_eq_some_iff.mp hx
    rw [respond, selectRow_of_lt hi]
    rfl
  dismissed e he := by
    simp only [List.mem_cons, List.not_mem_nil, or_false] at he
    rcases he with rfl | rfl <;> rfl

/-- A closed popup ignores every input. -/
lemma respond_closed (e : Input) : closed.respond e = (e.report .ignored, closed) := by
  cases e with
  | key key => rw [respond, pressKey_closed]; rfl
  | selectNext | selectPrevious | accept | dismiss | row | moveTo => rfl

/-- **Navigation**: over any run of steering inputs the candidates stay on the screen, and from the
first one the selection goes on by the inputs downwards and back by those upwards, modulo their
number. Wherever that leads, its neighbours are found in 64 bits, a steering input reports where it
goes, the other inputs close the popup, and a closed popup ignores everything. -/
theorem selection_goes_round {candidates : List Candidate} (hne : candidates ≠ [])
    (hlength : candidates.length < 2 ^ 63) (anchor : Point) {inputs : List Input}
    (h : ∀ e ∈ inputs, e.Steers candidates.length) :
    (∃ l, (ofCandidates candidates anchor).run inputs = shown l ∧ l.candidates = candidates ∧
      (l.selected : ℤ) =
        (inputs.countP Input.isDown - inputs.countP Input.isUp) % (candidates.length : ℤ) ∧
      Responds l) ∧
    ∀ e : Input, closed.respond e = (e.report .ignored, closed) := by
  refine ⟨?_, respond_closed⟩
  have hpos := List.length_pos_iff.mpr hne
  have hopened : ofCandidates candidates anchor = shown ⟨candidates, 0, anchor, hpos⟩ := dif_pos hpos
  obtain ⟨l, hrun, hcandidates, hselected⟩ := exists_run (l := ⟨candidates, 0, anchor, hpos⟩) h
  refine ⟨l, hopened ▸ hrun, hcandidates, ?_, responds (hcandidates ▸ hlength)⟩
  rw [hselected, Nat.cast_zero, zero_add, net]

/-- One down and five up among three candidates lead to the last one; neither a row that does not
exist nor a key of the surface nor a new place of the popup has a part in it. -/
theorem selection_goes_round_of_three :
    let candidates := ["print", "x", "pairs"].map fun s => Candidate.userVariable s.toList
    let inputs : List Input := [.key .up, .row 3, .key .other, .selectPrevious, .moveTo ⟨5, 7⟩,
      .key .up, .key .up, .selectNext, .key .up]
    (candidates ≠ [] ∧ candidates.length < 2 ^ 63 ∧ ∀ e ∈ inputs, e.Steers candidates.length) ∧
      ∃ l, (ofCandidates candidates {}).run inputs = shown l ∧ l.candidates = candidates ∧
        l.selected = 2 ∧ Responds l := by
  intro candidates inputs
  have hne : candidates ≠ [] := by simp [candidates]
  have hlength : candidates.length < 2 ^ 63 := by simp [candidates]
  have hsteers : ∀ e ∈ inputs, e.Steers candidates.length := by
    simp [inputs, candidates, Input.Steers]
  obtain ⟨⟨l, hrun, hcandidates, hselected, hresponds⟩, -⟩ :=
    selection_goes_round hne hlength {} hsteers
  have hdowns : inputs.countP Input.isDown = 1 := rfl
  have hups : inputs.countP Input.isUp = 5 := rfl
  have hthree : candidates.length = 3 := rfl
  rw [hdowns, hups, hthree] at hselected
  exact ⟨⟨hne, hlength, hsteers⟩, l, hrun, hcandidates, by omega, hresponds⟩

end Popup

end Scratchpad
