/-
The names of the tabs of a session.

A tab is named after the number of tabs that are open once it is, and keeps its name.

* `Session.names`: the names of the open tabs, in the order of the tabs.
* `Session.names_addTab`, `Session.names_handle_sublist`: an opening puts a name behind the others,
  and every other event leaves names out or keeps them all.
* `Session.nodup_handle_iff`: two tabs come to have one name only where a tab is opened, and exactly
  when the name it gets is in use.
* `Session.Numbered`: the tabs are named in their order, from one on, so that no two names are the
  same. Openings keep this, and so does closing the last tab.
* `Session.ClosesFromEnd`: in a run of events, what is closed before a later opening is the last
  tab.
* `Session.names_told_apart`: when the names in a run of events are different.
* `Session.not_forall_names_nodup`: they need not be.
-/
import Mathlib.Tactic
import Scratchpad.Proofs.Session.Tabs

namespace Scratchpad

namespace Session

variable {s s' : Session} {id : TabId}

/-! ### Names -/

/-- The names of the open tabs. -/
def names (s : Session) : List String := s.tabs.map Tab.name

/-- Tabs that are opened at different numbers of tabs get different names. -/
lemma tabName_injective : Function.Injective tabName := by
  intro m n h
  rw [tabName, tabName, String.append_right_inj, Nat.toString_eq_ofList_toDigits,
    Nat.toString_eq_ofList_toDigits, String.ofList_inj] at h
  rw [← Nat.ofDigitChars_ten_toDigits (n := m), h, Nat.ofDigitChars_ten_toDigits]

/-- A new tab stands behind the others. -/
lemma names_addTab (s : Session) :
    s.addTab.1.names = s.names ++ [tabName (s.tabs.length + 1)] := by
  rw [names, addTab, List.map_append]
  rfl

/-- Changes in a tab do not rename it. -/
lemma names_modifyTab (s : Session) (id : TabId) {f : Tab → Tab} (hf : ∀ t, (f t).name = t.name) :
    (s.modifyTab id f).names = s.names := by
  rw [names, modifyTab, List.map_map]
  refine List.map_congr_left fun t _ => ?_
  simp only [Function.comp_apply]
  split
  · exact hf t
  · rfl

lemma names_reconfigure (s : Session) (options : Options) (metrics : Metrics) :
    (s.reconfigure options metrics).1.names = s.names := by
  cases h : validateSettings options metrics with
  | ok u =>
      rw [names, (s.reconfigure_of_ok h).2.tabs_eq, List.map_map]
      rfl
  | error r => rw [s.reconfigure_of_error h]

/-- Only opening and closing change the list of names. -/
lemma names_handle {e : Event} (hadd : e ≠ .add) (hclose : ∀ id, e ≠ .close id) :
    (s.handle e).names = s.names := by
  cases e with
  | add => exact absurd rfl hadd
  | close id => exact absurd rfl (hclose id)
  | activate id => exact congrArg (List.map Tab.name) (s.tabs_activate id)
  | update content => exact s.names_modifyTab _ fun _ => rfl
  | reconfigure options metrics => exact s.names_reconfigure options metrics
  | run => rfl
  | clear => rfl
  | completer id event => exact s.names_modifyTab id fun _ => rfl
  | skip count => rfl

lemma Closes.names_sublist (h : s.Closes id s') : s'.names.Sublist s.names := by
  obtain ⟨before, t, after, -, htabs, htabs'⟩ := h.tabs_eq
  rw [names, names, htabs, htabs']
  exact ((List.Sublist.refl before).append (List.sublist_cons_self t after)).map _

/-- Without an opening no name is added. -/
lemma names_handle_sublist {e : Event} (hadd : e ≠ .add) : (s.handle e).names.Sublist s.names := by
  by_cases hclose : ∃ id, e = .close id
  · obtain ⟨id, rfl⟩ := hclose
    cases hclosed : (s.closeTab id).2 with
    | true => exact (closes_closeTab hclosed).names_sublist
    | false => rw [handle, closeTab_of_eq_false hclosed]
  · rw [names_handle hadd (not_exists.mp hclose)]

lemma names_run_sublist {events : List Event} (hadd : .add ∉ events) :
    (s.run events).names.Sublist s.names := by
  induction events generalizing s with
  | nil => exact List.Sublist.refl _
  | cons e events ih =>
      rw [List.mem_cons, not_or] at hadd
      exact (ih hadd.2).trans (names_handle_sublist (Ne.symm hadd.1))

/-- Names that are different stay so unless a tab is opened whose name is in use. -/
lemma nodup_handle_iff (h : s.names.Nodup) (e : Event) :
    (s.handle e).names.Nodup ↔ (e = .add → tabName (s.tabs.length + 1) ∉ s.names) := by
  by_cases hadd : e = .add
  · subst hadd
    rw [handle, names_addTab, List.nodup_append_comm, List.singleton_append, List.nodup_cons]
    simp [h]
  · exact iff_of_true (h.sublist (names_handle_sublist hadd)) fun hopens => absurd hopens hadd

/-- The names are different all along a run exactly if none is given while it is in use. -/
lemma nodup_run_iff (h : s.names.Nodup) (events : List Event) :
    (∀ before, before <+: events → (s.run before).names.Nodup) ↔
      ∀ before, before ++ [.add] <+: events →
        tabName ((s.run before).tabs.length + 1) ∉ (s.run before).names := by
  induction events generalizing s with
  | nil => simp [h]
  | cons e events ih =>
      have hstep := nodup_handle_iff h e
      constructor
      · intro hall before hbefore
        cases before with
        | nil =>
            obtain ⟨rfl, -⟩ := List.cons_prefix_cons.mp hbefore
            exact hstep.mp (hall [.add] (by simp)) rfl
        | cons e' before =>
            obtain ⟨rfl, hrest⟩ := List.cons_prefix_cons.mp hbefore
            have hnext : (s.handle e').names.Nodup := hall [e'] (by simp)
            exact (ih hnext).mp (fun b hb => hall (e' :: b) (by simpa using hb)) before hrest
      · intro hall before hbefore
        cases before with
        | nil => exact h
        | cons e' before =>
            obtain ⟨rfl, hrest⟩ := List.cons_prefix_cons.mp hbefore
            have hnext : (s.handle e').names.Nodup := by
              refine hstep.mpr ?_
              rintro rfl
              exact hall [] (by simp)
            exact (ih hnext).mpr (fun b hb => hall (e' :: b) (by simpa using hb)) before hrest

/-! ### Names in the order of the tabs -/

/-- The tabs are named in their order. -/
def Numbered (s : Session) : Prop :=
  s.names = (List.range s.tabs.length).map fun i => tabName (i + 1)

/-- If the event closes a tab, this is the last one. -/
def ClosesLast (s : Session) : Event → Prop
  | .close id => (s.closeTab id).2 = true → s.ids.getLast? = some id
  | _ => True

instance (s : Session) : (e : Event) → Decidable (s.ClosesLast e)
  | .close id => inferInstanceAs (Decidable ((s.closeTab id).2 = true → _))
  | .add | .activate _ | .update _ | .reconfigure _ _ | .run | .clear | .completer _ _ | .skip _ =>
    isTrue trivial

lemma IsFresh.numbered (h : s.IsFresh) : s.Numbered := by
  obtain ⟨options, metrics, first, -, rfl⟩ := h.eq
  rfl

namespace Numbered

lemma nodup (h : s.Numbered) : s.names.Nodup := by
  rw [h]
  exact List.nodup_range.map fun i j hij => Nat.succ_injective (tabName_injective hij)

lemma addTab (h : s.Numbered) : s.addTab.1.Numbered := by
  rw [Numbered, names_addTab, h]
  simp [Session.addTab, List.range_succ]

/-- Without the last tab the others are still named in their order. -/
lemma of_closes (h : s.Numbered) (hs : s.Ordered) (hlast : s.ids.getLast? = some id)
    (hcloses : s.Closes id s') : s'.Numbered := by
  obtain ⟨before, t, after, rfl, htabs, htabs'⟩ := hcloses.tabs_eq
  obtain rfl : after = [] := by
    have hnodup := hs.ids_nodup
    rw [ids, htabs, List.map_append, List.map_cons] at hnodup hlast
    cases after with
    | nil => rfl
    | cons u after =>
        rw [List.map_cons, List.getLast?_append_cons, List.getLast?_cons_cons] at hlast
        have hnot := (List.nodup_cons.mp hnodup.of_append_right).1
        exact absurd (List.mem_of_getLast? hlast) hnot
  rw [Numbered, names, htabs, List.map_append, List.length_append, List.length_singleton,
    List.range_succ, List.map_append] at h
  rw [Numbered, names, htabs', List.append_nil]
  exact List.append_inj_left' h rfl

lemma handle (h : s.Numbered) (hs : s.Ordered) {e : Event} (hlast : s.ClosesLast e) :
    (s.handle e).Numbered := by
  by_cases hadd : e = .add
  · rw [hadd]
    exact h.addTab
  by_cases hclose : ∃ id, e = .close id
  · obtain ⟨id, rfl⟩ := hclose
    cases hclosed : (s.closeTab id).2 with
    | true => exact h.of_closes hs (hlast hclosed) (closes_closeTab hclosed)
    | false => rwa [Session.handle, closeTab_of_eq_false hclosed]
  · have hnames := names_handle (s := s) hadd (not_exists.mp hclose)
    have hlength := congrArg List.length hnames
    rw [names, names, List.length_map, List.length_map] at hlength
    rw [Numbered, hnames, hlength]
    exact h

end Numbered

/-- In a run, a tab that is closed before a later opening is the last one at that time. -/
def ClosesFromEnd (s : Session) : List Event → Prop
  | [] => True
  | e :: events => (.add ∈ events → s.ClosesLast e) ∧ (s.handle e).ClosesFromEnd events

instance decidableClosesFromEnd (s : Session) :
    (events : List Event) → Decidable (s.ClosesFromEnd events)
  | [] => isTrue trivial
  | e :: events =>
    have := (s.handle e).decidableClosesFromEnd events
    inferInstanceAs (Decidable
      ((.add ∈ events → s.ClosesLast e) ∧ (s.handle e).ClosesFromEnd events))

/-- Up to the last opening of such a run the tabs are named in their order, and behind it no name
is given. -/
lemma Numbered.nodup_run (h : s.Numbered) (hs : s.Ordered) {events : List Event}
    (hcloses : s.ClosesFromEnd events) : (s.run events).names.Nodup := by
  induction events generalizing s with
  | nil => exact h.nodup
  | cons e events ih =>
      by_cases hadd : .add ∈ events
      · exact ih (h.handle hs (hcloses.1 hadd)) (hs.handle e) hcloses.2
      · have hnext : (s.handle e).names.Nodup := by
          by_cases hopens : e = .add
          · rw [hopens]
            exact h.addTab.nodup
          · exact h.nodup.sublist (names_handle_sublist hopens)
        exact hnext.sublist (names_run_sublist (s := s.handle e) hadd)

/-! ### The names of a run -/

/-- **Names**: in a session that was just started and in every run of events from there, a tab that
is opened gets the name with the number of tabs there are then. The names of the open tabs are
therefore different all along exactly if no tab is opened whose name is in use at that time, and
they are different wherever tabs that are closed before a later opening are closed from the end. -/
theorem names_told_apart {s : Session} (h : s.IsFresh) (events : List Event) :
    ((s.run events).addTab.1.names =
      (s.run events).names ++ ["Untitled " ++ toString ((s.run events).tabs.length + 1)]) ∧
    ((∀ before, before <+: events → (s.run before).names.Nodup) ↔
      ∀ before, before ++ [.add] <+: events →
        "Untitled " ++ toString ((s.run before).tabs.length + 1) ∉ (s.run before).names) ∧
    (s.ClosesFromEnd events → (s.run events).names.Nodup) :=
  ⟨names_addTab _, nodup_run_iff h.numbered.nodup events, h.numbered.nodup_run h.ordered⟩

/-- Two tabs are opened, of which the last is closed and opened again; then the first is closed. -/
theorem names_told_apart_after_closing_last :
    IsFresh (start {} {}) ∧
      (start {} {}).ClosesFromEnd [.add, .add, .close 3, .activate 1, .add, .close 1] ∧
      ((start {} {}).run [.add, .add, .close 3, .activate 1, .add, .close 1]).names.Nodup := by
  have hcloses : (start {} {}).ClosesFromEnd
      [.add, .add, .close 3, .activate 1, .add, .close 1] := by
    decide +kernel
  exact ⟨isFresh_default 1, hcloses, (names_told_apart (isFresh_default 1) _).2.2 hcloses⟩

/-- Two tabs are opened, and the first one is closed: the next one gets the name of the last. -/
theorem not_forall_names_nodup :
    ¬ ∀ (s : Session) (events : List Event), s.IsFresh → (s.run events).names.Nodup := by
  intro h
  have hnodup := h (start {} {}) [.add, .add, .close 1, .add] (isFresh_default 1)
  revert hnodup
  decide +kernel

end Session

end Scratchpad
