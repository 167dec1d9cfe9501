/-
The text of an editor and the document of its completer never drift apart.

Whatever an editor does to its tab when it is drawn comes down to two things: it moves the caret of
the text surface, and it passes events on to the completer, none of which loads another document.

* `Tab.KeptByEditor`: what both of them keep. `Tab.KeptByEditor.draw` says that a drawing keeps it,
  and `Tab.KeptByEditor.run` that every run of drawings does.
* `Completer.HandedOut`: what a completer that hands out a completion was and becomes.
  `Completer.handedOut_handle` says so for every event.
* `Tab.HoldsDocument`: the content is the document of the completer.
  `Completer.document_handle` is the reason why the editor keeps this.
* `Tab.Took`: content, document and both carets are those of a completion.
  `Tab.took_deliver` says so behind every event that hands one out, and `Tab.Took.react` and
  `Tab.Took.point` that nothing in the rest of the drawing changes it.
* `Tab.Accepts`, `Tab.Rests`: a drawing in which a completion is accepted, and one in which the text
  surface does nothing of its own.
* `Session.OpenedBy.eq_opened`: a tab as the session has opened it.
* `Session.content_is_document`: all of it for every tab of a session.
-/
import Mathlib.Tactic
import Scratchpad.Editor
import Scratchpad.Proofs.Completer.Acceptance
import Scratchpad.Proofs.Session.Independence

namespace Scratchpad

/-! ### Events and the document -/

namespace Completer

variable {c : Completer} {e : Event} {done : Completion}

/-- An editor passes the event on when it is drawn; other documents and new settings come from
elsewhere. -/
def Event.isFromEditor : Event → Bool
  | .load _ | .reconfigure _ _ => false
  | _ => true

/-- The completer `c'` is what is left of `c` when it has handed out a completion: only an open
popup does so, and it closes. -/
structure HandedOut (c : Completer) (done : Completion) (c' : Completer) : Prop where
  isOpen : c.popup.isOpen
  document_eq : c'.document = done.document
  caret_eq : c'.caret = done.caret
  popup_eq : c'.popup = .closed

lemma handedOut_pressKey {key : Key} (h : (c.pressKey key).reply = .consumed (some done)) :
    c.HandedOut done (c.pressKey key).completer := by
  cases hpopup : c.popup with
  | closed => simp [pressKey_of_closed hpopup] at h
  | shown l =>
      have hopen : c.popup.isOpen := by rw [hpopup]; rfl
      simp only [pressKey] at h ⊢
      split at h
      · cases h
      · cases h
      · cases h
      · next hkey =>
          cases h
          exact ⟨hopen, rfl, rfl, Popup.eq_closed_of_pressKey hkey⟩

lemma handedOut_pickRow {row : ℕ} (h : (c.pickRow row).reply = some done) :
    c.HandedOut done (c.pickRow row).completer := by
  rcases Nat.lt_or_ge row c.popup.candidates.length with hrow | hrow
  · have hopen : c.popup.isOpen :=
      Popup.isOpen_iff_candidates_ne_nil.mpr (List.ne_nil_of_length_pos (Nat.zero_lt_of_lt hrow))
    simp only [pickRow] at h ⊢
    split at h
    · next hselect =>
        cases h
        exact ⟨hopen, rfl, rfl, Popup.eq_closed_of_selectRow hselect⟩
    · cases h
  · simp [pickRow_of_le hrow] at h

/-- Keys and rows are all that completions come from. -/
lemma handedOut_handle (h : (c.handle e).reply.completion? = some done) :
    c.HandedOut done (c.handle e).completer := by
  cases e with
  | pressKey key =>
      cases hreply : (c.pressKey key).reply with
      | notConsumed => simp [handle, Outcome.mapReply, hreply, Reply.completion?] at h
      | consumed found =>
          obtain rfl : found = some done := by
            simpa [handle, Outcome.mapReply, hreply, Reply.completion?] using h
          exact handedOut_pressKey hreply
  | pickRow row => exact handedOut_pickRow h
  | load text => cases h
  | edit text caret => cases h
  | moveCaret caret => cases h
  | pressOutside => cases h
  | setOrigin origin => cases h
  | reconfigure options metrics => cases h

/-- An event of the editor changes the document as it changes the content of a tab. -/
lemma document_handle (c : Completer) (he : e.isFromEditor) :
    (c.handle e).completer.document = Tab.contentAfter c.document e (c.handle e).reply := by
  cases e with
  | load text => cases he
  | edit text caret => rfl
  | moveCaret caret =>
      simp only [handle, Outcome.mapReply, completer_moveCaret]
      split <;> rfl
  | pressKey key =>
      simp only [handle, pressKey]
      split <;> rfl
  | pressOutside => rfl
  | pickRow row =>
      simp only [handle, pickRow]
      split <;> rfl
  | setOrigin origin =>
      simp only [handle, setOrigin]
      split <;> rfl
  | reconfigure options metrics => cases he

end Completer

namespace Tab

variable {t : Tab} {P : Tab → Prop} {done : Completion}

/-! ### What a drawing keeps -/

/-- What an editor does to its tab when it is drawn keeps `P`: it moves the caret of the text
surface, and it passes on events. -/
structure KeptByEditor (P : Tab → Prop) : Prop where
  caret : ∀ {t : Tab}, P t → ∀ caret, P { t with caret }
  receive : ∀ {t : Tab}, P t → ∀ {e : Completer.Event}, e.isFromEditor → P (t.receive e).1

namespace KeptByEditor

lemma deliver (hP : KeptByEditor P) (h : P t) {e : Completer.Event} (he : e.isFromEditor) :
    P (t.deliver e) := by
  have hreceive := hP.receive h he
  simp only [Tab.deliver]
  split
  · exact hP.caret hreceive _
  · exact hreceive

/-- Keys and pointer reach the completer only through an open popup. -/
lemma deliver_if_offers (hP : KeptByEditor P) (h : P t) {e : Completer.Event}
    (he : e.isFromEditor) : P (if t.offers then t.deliver e else t) := by
  split
  · exact hP.deliver h he
  · exact h

lemma offerKey (hP : KeptByEditor P) (h : P t) (key : Option Key) : P (t.offerKey key) := by
  cases key with
  | none => exact h
  | some k => exact hP.deliver_if_offers h rfl

lemma react (hP : KeptByEditor P) (h : P t) (reaction : Reaction) : P (t.react reaction) := by
  rcases reaction with ⟨content, caret⟩ | (_ | caret)
  · exact hP.deliver (e := .edit content caret) (hP.caret h caret) rfl
  · exact h
  · simp only [Tab.react]
    split
    · exact hP.caret h caret
    · exact hP.deliver (hP.caret h caret) rfl

lemma point (hP : KeptByEditor P) (h : P t) (pointer : Option PopupEvent) :
    P (t.point pointer) := by
  rcases pointer with _ | (row | _)
  · exact h
  · exact hP.deliver_if_offers h rfl
  · exact hP.deliver_if_offers h rfl

lemma draw (hP : KeptByEditor P) (h : P t) (frame : Frame) : P (t.draw frame) :=
  hP.point (hP.react (hP.deliver (hP.offerKey h frame.key) rfl) frame.reaction) frame.pointer

end KeptByEditor

/-- The tab after drawings of its editor. -/
def run (t : Tab) (frames : List Frame) : Tab := frames.foldl draw t

lemma KeptByEditor.run (hP : KeptByEditor P) (h : P t) (frames : List Frame) :
    P (t.run frames) := by
  induction frames generalizing t with
  | nil => exact h
  | cons frame frames ih => exact ih (hP.draw h frame)

/-- Drawing its editor keeps the number of a tab. -/
lemma id_draw (t : Tab) (frame : Frame) : (t.draw frame).id = t.id :=
  KeptByEditor.draw (P := fun t' => t'.id = t.id) ⟨fun h _ => h, fun h _ _ => h⟩ rfl frame

/-! ### Content and document -/

/-- The content is the document of the completer. -/
def HoldsDocument (t : Tab) : Prop := t.content = t.completer.document

lemma keptByEditor_holdsDocument : KeptByEditor HoldsDocument where
  caret h _ := h
  receive := by
    intro t h e he
    show contentAfter t.content e (t.completer.handle e).reply =
      (t.completer.handle e).completer.document
    rw [t.completer.document_handle he, h]

lemma keptByEditor_coherent : KeptByEditor (·.completer.Coherent) where
  caret h _ := h
  receive h _ _ := h.handle _

/-! ### A completion in a drawing -/

/-- The tab has taken a completion: content and document are its document, both carets are behind
it, and the popup is closed. -/
structure Took (t : Tab) (done : Completion) : Prop where
  content_eq : t.content = done.document
  document_eq : t.completer.document = done.document
  completer_caret_eq : t.completer.caret = done.caret
  caret_eq : t.caret = done.caret
  popup_eq : t.completer.popup = .closed

/-- The tab takes every completion that an event hands out. -/
lemma took_deliver {e : Completer.Event}
    (h : (t.completer.handle e).reply.completion? = some done) : (t.deliver e).Took done := by
  have hdone := Completer.handedOut_handle h
  have hdeliver : t.deliver e = { (t.receive e).1 with caret := done.caret } := by
    simp only [deliver, receive, h]
  rw [hdeliver]
  refine ⟨?_, hdone.document_eq, hdone.caret_eq, rfl, hdone.popup_eq⟩
  show contentAfter t.content e (t.completer.handle e).reply = done.document
  cases e with
  | edit text caret => cases h
  | _ => simp only [contentAfter, h]

namespace Took

/-- The surface goes to another place and leaves everything else. -/
lemma setOrigin (h : t.Took done) (origin : Point) : (t.deliver (.setOrigin origin)).Took done := by
  have hkeeps : (t.completer.setOrigin origin).completer.document = t.completer.document ∧
      (t.completer.setOrigin origin).completer.caret = t.completer.caret ∧
      (t.completer.setOrigin origin).completer.popup = .closed := by
    simp only [Completer.setOrigin]
    split
    · exact ⟨rfl, rfl, h.popup_eq⟩
    · exact ⟨rfl, rfl, congrArg (Popup.moveTo _) h.popup_eq⟩
  obtain ⟨hdocument, hcaret, hpopup⟩ := hkeeps
  exact ⟨h.content_eq, hdocument.trans h.document_eq, hcaret.trans h.completer_caret_eq,
    h.caret_eq, hpopup⟩

/-- The completer hears of no caret that is where it has it. -/
lemma react (h : t.Took done) {reaction : Reaction}
    (hreaction : reaction = .rested none ∨ reaction = .rested (some done.caret)) :
    (t.react reaction).Took done := by
  obtain rfl | rfl := hreaction
  · exact h
  · rw [Tab.react, if_pos h.completer_caret_eq.symm]
    exact ⟨h.content_eq, h.document_eq, h.completer_caret_eq, rfl, h.popup_eq⟩

/-- There is nothing to point at. -/
lemma point (h : t.Took done) (pointer : Option PopupEvent) : (t.point pointer).Took done := by
  have hoffers : t.offers = false := by rw [offers, h.popup_eq]; rfl
  rcases pointer with _ | (row | _)
  · exact h
  · simpa [Tab.point, hoffers] using h
  · simpa [Tab.point, hoffers] using h

end Took

/-- The tab when the pointer comes to the popup, at the end of a drawing. -/
def beforePointer (t : Tab) (frame : Frame) : Tab :=
  ((t.offerKey frame.key).deliver (.setOrigin frame.origin)).react frame.reaction

/-- The key or the row that is clicked in a drawing is accepted, with the completion `done`. -/
inductive Accepts (t : Tab) (frame : Frame) (done : Completion) : Prop
  | key {k : Key} (hkey : frame.key = some k)
      (h : (t.completer.pressKey k).reply = .consumed (some done))
  | row {row : ℕ} (hrow : frame.pointer = some (.select row))
      (h : ((t.beforePointer frame).completer.pickRow row).reply = some done)

/-- The text surface does nothing of its own: it does not change the text, and it keeps the caret
that is stored for it if this lies in the text. -/
def Rests (t : Tab) : Reaction → Prop
  | .edited _ _ => False
  | .rested none => True
  | .rested (some caret) => t.caret ≤ t.content.length → caret = t.caret

lemma Took.eq_rested (h : t.Took done) (hle : done.caret ≤ done.document.length)
    {reaction : Reaction} (hrests : t.Rests reaction) :
    reaction = .rested none ∨ reaction = .rested (some done.caret) := by
  rcases reaction with ⟨content, caret⟩ | (_ | caret)
  · cases hrests
  · exact Or.inl rfl
  · rw [Rests, h.content_eq, h.caret_eq] at hrests
    rw [hrests hle]
    exact Or.inr rfl

/-- A drawing takes the completion that is accepted in it, unless the text surface goes on after a
key. -/
lemma took_draw (ht : t.completer.Coherent) {frame : Frame} (haccepts : t.Accepts frame done)
    (hrests : (t.offerKey frame.key).Rests frame.reaction) : (t.draw frame).Took done := by
  cases haccepts with
  | @key k hkey h =>
      have hdone : (t.completer.handle (.pressKey k)).reply.completion? = some done :=
        congrArg (fun reply => Completer.Reply.completion? (.key reply)) h
      have hoffers : t.offers := (Completer.handedOut_pressKey h).isOpen
      have htook : (t.offerKey frame.key).Took done := by
        rw [hkey, offerKey, if_pos hoffers]
        exact took_deliver hdone
      -- the completer stays coherent, so that the caret of the completion lies in its document
      have hle := (keptByEditor_coherent.offerKey ht frame.key).caret_le
      rw [htook.completer_caret_eq, htook.document_eq] at hle
      exact ((htook.setOrigin frame.origin).react (htook.eq_rested hle hrests)).point frame.pointer
  | @row row hrow h =>
      have hdone : ((t.beforePointer frame).completer.handle (.pickRow row)).reply.completion? =
          some done := h
      have hoffers : (t.beforePointer frame).offers := (Completer.handedOut_pickRow h).isOpen
      have hdraw : t.draw frame = (t.beforePointer frame).deliver (.pickRow row) := by
        rw [draw, hrow]
        exact if_pos hoffers
      rw [hdraw]
      exact took_deliver hdone

end Tab

/-! ### The tabs of a session -/

namespace Session

variable {s : Session} {before : List Event} {t : Tab}

/-- A tab as the session has opened it holds a document of its own under valid settings, and nothing
else. -/
lemma OpenedBy.eq_opened (ht : s.OpenedBy before t) (hs : s.IsFresh) :
    ∃ id name content options metrics, validateSettings options metrics = .ok () ∧
      t = .opened id name content options metrics := by
  obtain ⟨hmem, hsooner⟩ := ht
  obtain rfl | ⟨init, e, rfl⟩ := before.eq_nil_or_concat
  · obtain ⟨options, metrics, first, hok, rfl⟩ := hs.eq
    obtain rfl := List.mem_singleton.mp hmem
    exact ⟨_, _, _, options, metrics, hok, rfl⟩
  · rw [List.concat_eq_append] at hmem hsooner
    rw [run_append] at hmem
    -- the tab was not open before the last event, so that this event has opened it
    obtain ⟨t₀, ht₀, hcontinues⟩ | ⟨-, rfl⟩ := (hs.ordered.run init).continues_handle hmem
    · refine absurd ?_ (hsooner init (List.prefix_append _ _) (by simp))
      exact mem_ids.mpr ⟨t₀, ht₀, hcontinues.id_eq.symm⟩
    · have hok : (s.run init).HasValidSettings :=
        run_induction HasValidSettings.handle hs.hasValidSettings init
      exact ⟨_, _, _, _, _, hok, rfl⟩

/-- **Content and document**: over every run of drawings since a tab was opened, its content is the
document of its completer. If in one more drawing a completion is accepted by a key or a click on a
row, and the text surface does nothing of its own, then both are the document of the completion, and
the completer and the text surface have the caret behind it. -/
theorem content_is_document (hs : s.IsFresh) (ht : s.OpenedBy before t)
    (frames : List Tab.Frame) :
    (t.run frames).content = (t.run frames).completer.document ∧
    ∀ frame done, (t.run frames).Accepts frame done →
      ((t.run frames).offerKey frame.key).Rests frame.reaction →
      ((t.run frames).draw frame).Took done := by
  obtain ⟨id, name, content, options, metrics, hok, rfl⟩ := ht.eq_opened hs
  have hcoherent : (Tab.opened id name content options metrics).completer.Coherent := by
    have hfresh : Completer.IsFresh { options, metrics } :=
      Or.inr ⟨options, metrics, by rw [Completer.configured?, hok]⟩
    exact hfresh.coherent.load content
  have hholds : (Tab.opened id name content options metrics).HoldsDocument := rfl
  refine ⟨Tab.keptByEditor_holdsDocument.run hholds frames, fun frame done => ?_⟩
  exact Tab.took_draw (Tab.keptByEditor_coherent.run hcoherent frames)

/-- In a second tab `pr` is typed behind a letter of two bytes, Enter accepts `print` while the
surface keeps the caret, and after another edit a click on the last row is accepted. -/
theorem content_is_document_of_second_tab :
    let s := start {} {}
    let t := (s.run []).newTab
    let typed : List Tab.Frame := [{ origin := ⟨5, 7⟩, reaction := .edited "é pr".toList 4 }]
    let entered : Tab.Frame :=
      { key := some .enter, reaction := .rested (some 7), pointer := some (.select 0) }
    let again : List Tab.Frame := typed ++ [entered, { reaction := .edited "p".toList 9 }]
    let clicked : Tab.Frame := { pointer := some (.select 2) }
    s.IsFresh ∧ s.OpenedBy ([] ++ [.add]) t ∧
      ((t.run typed).Accepts entered ⟨"print".toList, "é print".toList, 7⟩ ∧
        ((t.run typed).offerKey entered.key).Rests entered.reaction ∧
        ((t.run typed).draw entered).Took ⟨"print".toList, "é print".toList, 7⟩) ∧
      (t.run again).content = (t.run again).completer.document ∧
      ((t.run again).Accepts clicked ⟨"pcall".toList, "pcall".toList, 5⟩ ∧
        ((t.run again).draw clicked).Took ⟨"pcall".toList, "pcall".toList, 5⟩) := by
  intro s t typed entered again clicked
  have hopened : s.OpenedBy ([] ++ [.add]) t := (isFresh_default 1).ordered.openedBy_add []
  have hentered : (t.run typed).Accepts entered ⟨"print".toList, "é print".toList, 7⟩ :=
    .key rfl (by decide +kernel)
  have hrests : ((t.run typed).offerKey entered.key).Rests entered.reaction := by
    intro _
    decide +kernel
  have hclicked : (t.run again).Accepts clicked ⟨"pcall".toList, "pcall".toList, 5⟩ :=
    .row rfl (by decide +kernel)
  obtain ⟨-, htyped⟩ := content_is_document (isFresh_default 1) hopened typed
  obtain ⟨hagain, htaken⟩ := content_is_document (isFresh_default 1) hopened again
  exact ⟨isFresh_default 1, hopened, ⟨hentered, hrests, htyped _ _ hentered hrests⟩, hagain,
    hclicked, htaken _ _ hclicked trivial⟩

end Session

end Scratchpad
