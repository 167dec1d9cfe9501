/-
The tabs of a session do not interfere.

* `Session.eventsFor`, `Session.trace`: what an event of the session, and a run of events, is for
  the completer of one tab.
* `Tab.Continues`: a tab is another one whose completer has run through some events.
* `Session.Ordered.continues_handle`: after an event every tab continues an open one, or it was
  just opened. `Session.Ordered.continues_run` is the same over a run.
* `Session.OpenedBy`: a tab as it was when it was opened.
* `Session.completer_runs_alone`: the completer of a tab is what its own events make of a completer
  that there is nothing beside.
-/
import Mathlib.Tactic
import Scratchpad.Proofs.Session.Tabs

namespace Scratchpad

/-- The tab `t'` is `t`, and its completer has run through `events` in between. -/
structure Tab.Continues (t t' : Tab) (events : List Completer.Event) : Prop where
  id_eq : t'.id = t.id
  completer_eq : t'.completer = t.completer.run events

namespace Tab

lemma continues_refl (t : Tab) : t.Continues t [] := ⟨rfl, rfl⟩

lemma Continues.trans {t t' t'' : Tab} {before after : List Completer.Event}
    (h : t.Continues t' before) (h' : t'.Continues t'' after) :
    t.Continues t'' (before ++ after) := by
  refine ⟨h'.id_eq.trans h.id_eq, ?_⟩
  rw [h'.completer_eq, h.completer_eq, Completer.run_append]

lemma continues_handle (t : Tab) (event : Completer.Event) :
    t.Continues (t.handle event) [event] := ⟨rfl, rfl⟩

lemma continues_update (t : Tab) (content : Text) :
    t.Continues (t.update content) [.load content] := ⟨rfl, rfl⟩

lemma continues_reconfigured (t : Tab) {options : Options} {metrics : Metrics}
    (h : validateSettings options metrics = .ok ()) :
    t.Continues (t.reconfigured options metrics) [.reconfigure options metrics] :=
  ⟨rfl, (Completer.reconfigure_of_ok t.completer h).symm⟩

lemma continues_of_refused (t : Tab) {options : Options} {metrics : Metrics} {r : Rejection}
    (h : validateSettings options metrics = .error r) :
    t.Continues t [.reconfigure options metrics] :=
  ⟨rfl, (Completer.reconfigure_of_error t.completer h).symm⟩

end Tab

namespace Session

variable {s : Session}

/-! ### The events of one tab -/

/-- What an event of the session is for the completer of the tab `id`: its own events, new content
while the tab is active, and new settings. -/
def eventsFor (s : Session) (id : TabId) : Event → List Completer.Event
  | .update content => if s.active = id then [.load content] else []
  | .reconfigure options metrics => [.reconfigure options metrics]
  | .completer target event => if target = id then [event] else []
  | .add | .close _ | .activate _ | .run | .clear | .skip _ => []

/-- What a run of events of the session is for the completer of the tab `id`. -/
def trace (s : Session) (id : TabId) : List Event → List Completer.Event
  | [] => []
  | e :: events => s.eventsFor id e ++ (s.handle e).trace id events

/-! ### One event -/

/-- The tab that is opened next. -/
def newTab (s : Session) : Tab :=
  .opened s.nextId (tabName (s.tabs.length + 1)) newContent s.options s.metrics

lemma tabs_addTab (s : Session) : s.addTab.1.tabs = s.tabs ++ [s.newTab] := rfl

/-- A change of the tab `target` is one of no other tab. -/
lemma continues_modifyTab {target : TabId} {f : Tab → Tab} {events : List Completer.Event}
    (hf : ∀ t : Tab, t.Continues (f t) events) {t' : Tab}
    (ht' : t' ∈ (s.modifyTab target f).tabs) :
    ∃ t ∈ s.tabs, t.Continues t' (if target = t.id then events else []) := by
  obtain ⟨t, ht, rfl⟩ := List.mem_map.mp ht'
  refine ⟨t, ht, ?_⟩
  by_cases h : t.id = target
  · rw [if_pos h, if_pos h.symm]
    exact hf t
  · rw [if_neg h, if_neg (Ne.symm h)]
    exact t.continues_refl

/-- Valid settings reach every tab, and others are refused by every one of them. -/
lemma continues_reconfigure {options : Options} {metrics : Metrics} {t' : Tab}
    (ht' : t' ∈ (s.reconfigure options metrics).1.tabs) :
    ∃ t ∈ s.tabs, t.Continues t' [.reconfigure options metrics] := by
  cases h : validateSettings options metrics with
  | ok u =>
      rw [(s.reconfigure_of_ok h).2.tabs_eq] at ht'
      obtain ⟨t, ht, rfl⟩ := List.mem_map.mp ht'
      exact ⟨t, ht, t.continues_reconfigured h⟩
  | error r =>
      rw [s.reconfigure_of_error h] at ht'
      exact ⟨t', ht', t'.continues_of_refused h⟩

lemma mem_of_mem_closeTab {id : TabId} {t : Tab} (h : t ∈ (s.closeTab id).1.tabs) :
    t ∈ s.tabs := by
  cases hclosed : (s.closeTab id).2 with
  | true =>
      obtain ⟨before, u, after, -, htabs, htabs'⟩ := (closes_closeTab hclosed).tabs_eq
      rw [htabs', List.mem_append] at h
      rw [htabs, List.mem_append, List.mem_cons]
      exact h.imp_right Or.inr
  | false => rwa [closeTab_of_eq_false hclosed] at h

/-- A tab that is open after an event continues one that was open before it, or was just
opened. -/
lemma Ordered.continues_handle (h : s.Ordered) {e : Event} {t' : Tab}
    (ht' : t' ∈ (s.handle e).tabs) :
    (∃ t ∈ s.tabs, t.Continues t' (s.eventsFor t.id e)) ∨ (e = .add ∧ t' = s.newTab) := by
  cases e with
  | add =>
      rw [Session.handle, tabs_addTab, List.mem_append, List.mem_singleton] at ht'
      exact ht'.imp (fun ht' => ⟨t', ht', t'.continues_refl⟩) fun ht' => ⟨rfl, ht'⟩
  | close id => exact Or.inl ⟨t', mem_of_mem_closeTab ht', t'.continues_refl⟩
  | activate id =>
      rw [Session.handle, tabs_activate] at ht'
      exact Or.inl ⟨t', ht', t'.continues_refl⟩
  | update content =>
      rw [Session.handle, h.updateContent_eq] at ht'
      exact Or.inl (continues_modifyTab (fun t => t.continues_update content) ht')
  | reconfigure options metrics => exact Or.inl (continues_reconfigure ht')
  | run => exact Or.inl ⟨t', ht', t'.continues_refl⟩
  | clear => exact Or.inl ⟨t', ht', t'.continues_refl⟩
  | completer id event =>
      exact Or.inl (continues_modifyTab (fun t => t.continues_handle event) ht')
  | skip count => exact Or.inl ⟨t', ht', t'.continues_refl⟩

/-! ### Runs -/

/-- A tab that is open after a run continues one that was open before it, or one that was opened in
the run. -/
lemma Ordered.continues_run (h : s.Ordered) {events : List Event} {t' : Tab}
    (ht' : t' ∈ (s.run events).tabs) :
    (∃ t ∈ s.tabs, t.Continues t' (s.trace t.id events)) ∨
      ∃ before after, events = before ++ .add :: after ∧
        (s.run before).newTab.Continues t' ((s.run before).addTab.1.trace t'.id after) := by
  induction events generalizing s with
  | nil => exact Or.inl ⟨t', ht', t'.continues_refl⟩
  | cons e events ih =>
      obtain ⟨t, ht, hlater⟩ | ⟨before, after, rfl, hlater⟩ := ih (h.handle e) ht'
      · obtain ⟨t₀, ht₀, hnow⟩ | ⟨rfl, rfl⟩ := h.continues_handle ht
        · refine Or.inl ⟨t₀, ht₀, ?_⟩
          rw [trace, ← hnow.id_eq]
          exact (hnow.id_eq ▸ hnow).trans hlater
        · exact Or.inr ⟨[], events, rfl, hlater.id_eq ▸ hlater⟩
      · exact Or.inr ⟨e :: before, after, rfl, hlater⟩

/-- After the events `before` the tab is open, and it was not open sooner: it is as it was when it
was opened. -/
structure OpenedBy (s : Session) (before : List Event) (t : Tab) : Prop where
  mem : t ∈ (s.run before).tabs
  not_sooner : ∀ earlier, earlier <+: before → earlier ≠ before → t.id ∉ (s.run earlier).ids

lemma openedBy_nil {t : Tab} (ht : t ∈ s.tabs) : s.OpenedBy [] t :=
  ⟨ht, fun _ hearlier hne => absurd (List.prefix_nil.mp hearlier) hne⟩

/-- A new tab has a number that was never in use. -/
lemma Ordered.openedBy_add (h : s.Ordered) (before : List Event) :
    s.OpenedBy (before ++ [.add]) (s.run before).newTab := by
  refine ⟨?_, fun earlier hearlier hne hmem => ?_⟩
  · rw [run_append, run_cons, run_nil, Session.handle, tabs_addTab]
    exact List.mem_append_right _ (List.mem_singleton_self _)
  · obtain heq | hearlier := List.prefix_concat_iff.mp hearlier
    · exact hne heq
    · obtain ⟨rest, rfl⟩ := hearlier
      have hlt := (h.run earlier).lt_nextId_run hmem rest
      rw [← run_append] at hlt
      exact lt_irrefl _ hlt

/-- **Independence**: the completer of an open tab is the one that starts alone under the settings
the session had when the tab was opened, loads the content the tab had then, and runs in their
order through the events for this tab, the new contents while it was active, and the new settings
for the session since then. -/
theorem completer_runs_alone (hs : s.IsFresh) (events : List Event) {t : Tab}
    (ht : t ∈ (s.run events).tabs) :
    ∃ before after t₀ alone, events = before ++ after ∧ s.OpenedBy before t₀ ∧ t₀.id = t.id ∧
      Completer.configured? (s.run before).options (s.run before).metrics = .ok alone ∧
      t.completer = (alone.load t₀.content).completer.run ((s.run before).trace t.id after) := by
  obtain ⟨t₀, ht₀, hcontinues⟩ | ⟨before, after, rfl, hcontinues⟩ := hs.ordered.continues_run ht
  · obtain ⟨options, metrics, first, hok, rfl⟩ := hs.eq
    obtain rfl := List.mem_singleton.mp ht₀
    refine ⟨[], events, _, { options, metrics }, rfl, openedBy_nil ht₀, hcontinues.id_eq.symm,
      ?_, ?_⟩
    · simp [Completer.configured?, start, hok]
    · rw [hcontinues.completer_eq, hcontinues.id_eq]
      rfl
  · have hok : (s.run before).HasValidSettings :=
      run_induction HasValidSettings.handle hs.hasValidSettings before
    refine ⟨before ++ [.add], after, (s.run before).newTab,
      { options := (s.run before).options, metrics := (s.run before).metrics }, by simp,
      hs.ordered.openedBy_add before, hcontinues.id_eq.symm, ?_, ?_⟩
    · rw [run_append]
      simp only [Completer.configured?, run_cons, run_nil, handle]
      rw [show validateSettings (s.run before).addTab.1.options (s.run before).addTab.1.metrics =
        .ok () from hok]
      rfl
    · rw [hcontinues.completer_eq, run_append]
      rfl

/-- The second tab beside one that is edited and closed and one that is edited while it is active,
with a number gone between the first and the second: of ten events, four are for its completer. -/
theorem completer_of_second_tab_runs_alone :
    let s := start {} {}
    let opening : List Event := [.completer 1 (.edit "pr".toList 2), .skip 1, .add]
    let events : List Event := [.completer 3 (.edit "pri".toList 3), .update "lo".toList,
      .reconfigure { maxCandidates := 3 } {}, .close 1, .add, .update "fo".toList,
      .completer 4 (.edit "fu".toList 2), .skip 4, .activate 3, .reconfigure { maxCandidates := 0 } {}]
    (s.run opening).trace 3 events = [.edit "pri".toList 3, .load "lo".toList,
      .reconfigure { maxCandidates := 3 } {}, .reconfigure { maxCandidates := 0 } {}] ∧
    ∃ t ∈ (s.run (opening ++ events)).tabs, t.id = 3 ∧
      ∃ before after t₀ alone, opening ++ events = before ++ after ∧ s.OpenedBy before t₀ ∧
        t₀.id = t.id ∧
        Completer.configured? (s.run before).options (s.run before).metrics = .ok alone ∧
        t.completer = (alone.load t₀.content).completer.run ((s.run before).trace t.id after) := by
  intro s opening events
  have hopen : 3 ∈ (s.run (opening ++ events)).ids := by decide +kernel
  obtain ⟨t, ht, hid⟩ := mem_ids.mp hopen
  exact ⟨by decide +kernel, t, ht, hid, completer_runs_alone (isFresh_default 1) _ ht⟩

end Session

end Scratchpad
