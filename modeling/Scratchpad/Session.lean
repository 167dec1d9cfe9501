/-
The open documents and the console.

* `Tab`: a document with its name, its content and its completer. An event of the
  completer leaves the content alone (`Tab.handle`); the editor of the tab is what
  writes it.
* `Session`: the open tabs, of which there is always one, the active one among
  them, the console, and the settings for new tabs.
* `Session.addTab`, `Session.closeTab`, `Session.activate`,
  `Session.updateContent`, `Session.reconfigure`, `Session.runActive`,
  `Session.clearConsole`: the operations.
* `Session.skip`: all sessions take the numbers of their tabs from one counter, so
  that a session may find numbers gone.
* `Session.handle`, `Session.run`: all of it as one function of a
  `Session.Event`, and runs of events.
-/
import Scratchpad.Completer

namespace Scratchpad

/-- The tabs of all sessions are numbered in the order in which they were opened; a
number is never used again. -/
abbrev TabId := Nat

/-- An open document. -/
structure Tab where
  id : TabId
  name : String
  content : Text
  completer : Completer
  /-- The position of the caret in the text surface. -/
  caret : Nat := 0
  deriving DecidableEq, Repr

namespace Tab

/-- A tab whose completer has loaded the content. -/
def opened (id : TabId) (name : String) (content : Text) (options : Options)
    (metrics : Metrics) : Tab :=
  let completer : Completer := { options, metrics }
  { id, name, content, completer := (completer.load content).completer }

/-- The tab after an event of its completer. The content is not the completer's to
change. -/
def handle (t : Tab) (event : Completer.Event) : Tab :=
  { t with completer := (t.completer.handle event).completer }

/-- Replaces the content; nothing is suggested until the next edit. -/
def update (t : Tab) (content : Text) : Tab :=
  { t with content, completer := (t.completer.load content).completer }

end Tab

/-- The open documents and the console. -/
structure Session where
  tabs : List Tab
  active : TabId
  /-- The number of the next tab. -/
  nextId : TabId
  console : String
  /-- The options of new tabs. -/
  options : Options
  /-- The metrics of new tabs. -/
  metrics : Metrics
  tabs_ne_nil : tabs ≠ []
  deriving DecidableEq, Repr

namespace Session

/-! ### Start -/

/-- The content of the first tab. -/
def welcomeContent : Text := "-- Start coding here...\n\n".toList

/-- The content of every tab added later. -/
def newContent : Text := "-- New file...\n\n".toList

/-- The text of an empty console. -/
def consoleHeader : String := "Console Output\n"

/-- The name of the tab that is opened when `n` tabs are open after it. -/
def tabName (n : Nat) : String := "Untitled " ++ toString n

/-- A session with one tab, which has the number `first`, under settings that are
accepted. -/
def start (options : Options) (metrics : Metrics) (first : TabId := 1) : Session where
  tabs := [.opened first (tabName 1) welcomeContent options metrics]
  active := first
  nextId := first + 1
  console := consoleHeader
  options
  metrics
  tabs_ne_nil := by simp

/-- A session under the given settings, which have to be accepted. -/
def configured? (options : Options) (metrics : Metrics) (first : TabId := 1) :
    Except Error Session :=
  match validateSettings options metrics with
  | .ok () => .ok (start options metrics first)
  | .error r => .error r.toError

/-! ### Tabs -/

/-- The open tab with the given number. -/
def tab? (s : Session) (id : TabId) : Option Tab := s.tabs.find? (·.id == id)

/-- The active tab. -/
def activeTab (s : Session) : Tab := (s.tab? s.active).getD (s.tabs.head s.tabs_ne_nil)

/-- Changes the open tab with the given number. -/
def modifyTab (s : Session) (id : TabId) (f : Tab → Tab) : Session :=
  { s with
    tabs := s.tabs.map fun t => if t.id = id then f t else t
    tabs_ne_nil := by simpa using s.tabs_ne_nil }

/-- The number of lines of the active tab. -/
def lineCount (s : Session) : Nat := s.activeTab.content.segments.length

/-- Makes a tab the active one; the answer says whether it is open. -/
def activate (s : Session) (id : TabId) : Session × Bool :=
  if (s.tab? id).isSome then ({ s with active := id }, true) else (s, false)

/-- Opens a new tab and makes it the active one; the answer is its number. -/
def addTab (s : Session) : Session × TabId :=
  let tab := Tab.opened s.nextId (tabName (s.tabs.length + 1)) newContent s.options s.metrics
  ({ s with
      tabs := s.tabs ++ [tab]
      active := s.nextId
      nextId := s.nextId + 1
      tabs_ne_nil := by simp }, s.nextId)

/-- The tabs without the first one with the given number. -/
def tabsWithout (s : Session) (id : TabId) : List Tab := s.tabs.eraseP (·.id == id)

theorem tabsWithout_ne_nil {s : Session} (h : 1 < s.tabs.length) (id : TabId) :
    s.tabsWithout id ≠ [] := by
  intro hnil
  have hle := List.le_length_eraseP (p := fun t : Tab => t.id == id) (l := s.tabs)
  rw [show s.tabs.eraseP (fun t => t.id == id) = [] from hnil] at hle
  simp only [List.length_nil] at hle
  omega

/-- Closes a tab; the answer says whether it was. The last tab stays open. After the
active tab the first one of those that remain is active. -/
def closeTab (s : Session) (id : TabId) : Session × Bool :=
  if h : 1 < s.tabs.length ∧ (s.tab? id).isSome then
    let remaining := s.tabsWithout id
    let ne_nil := tabsWithout_ne_nil h.1 id
    ({ s with
        tabs := remaining
        active := if s.active = id then (remaining.head ne_nil).id else s.active
        tabs_ne_nil := ne_nil }, true)
  else (s, false)

/-- Replaces the content of the active tab. -/
def updateContent (s : Session) (content : Text) : Session :=
  s.modifyTab s.activeTab.id (·.update content)

/-- Tabs are opened in other sessions, and as many numbers are gone. -/
def skip (s : Session) (count : Nat) : Session := { s with nextId := s.nextId + count }

/-! ### Settings -/

/-- Gives new settings to one tab after the other, up to the first that refuses
them. -/
def reconfigureTabs (options : Options) (metrics : Metrics) :
    List Tab → List Tab × Except Error Unit
  | [] => ([], .ok ())
  | t :: rest =>
    let outcome := t.completer.reconfigure options metrics
    let tab := { t with completer := outcome.completer }
    match outcome.reply with
    | .error e => (tab :: rest, .error e)
    | .ok () =>
      let (rest, result) := reconfigureTabs options metrics rest
      (tab :: rest, result)

theorem length_reconfigureTabs (options : Options) (metrics : Metrics) (tabs : List Tab) :
    (reconfigureTabs options metrics tabs).1.length = tabs.length := by
  induction tabs with
  | nil => rfl
  | cons t rest ih =>
    rw [reconfigureTabs]
    split <;> simp [ih]

/-- Gives new settings to every open and every later tab. -/
def reconfigure (s : Session) (options : Options) (metrics : Metrics) :
    Session × Except Error Unit :=
  let reconfigured := reconfigureTabs options metrics s.tabs
  let tabs_ne_nil : reconfigured.1 ≠ [] := by
    intro h
    have := length_reconfigureTabs options metrics s.tabs
    rw [show (reconfigureTabs options metrics s.tabs).1 = [] from h] at this
    exact s.tabs_ne_nil (List.length_eq_zero_iff.1 this.symm)
  let s := { s with tabs := reconfigured.1, tabs_ne_nil }
  match reconfigured.2 with
  | .error e => (s, .error e)
  | .ok () => ({ s with options, metrics }, .ok ())

/-! ### Console -/

/-- What a run of a tab writes to the console. -/
def transcript (name : String) : String :=
  "\n> Running " ++ name ++ "...\n> Output: Hello World!"

/-- Writes to the console what a run of the active tab would look like. -/
def runActive (s : Session) : Session :=
  { s with console := s.console ++ transcript s.activeTab.name }

/-- Empties the console. -/
def clearConsole (s : Session) : Session := { s with console := consoleHeader }

/-! ### Events -/

/-- The operations on a session, and what other sessions do. -/
inductive Event where
  | add
  | close (id : TabId)
  | activate (id : TabId)
  | update (content : Text)
  | reconfigure (options : Options) (metrics : Metrics)
  | run
  | clear
  | completer (id : TabId) (event : Completer.Event)
  | skip (count : Nat)
  deriving DecidableEq, Repr

/-- The session after an event. -/
def handle (s : Session) : Event → Session
  | .add => s.addTab.1
  | .close id => (s.closeTab id).1
  | .activate id => (s.activate id).1
  | .update content => s.updateContent content
  | .reconfigure options metrics => (s.reconfigure options metrics).1
  | .run => s.runActive
  | .clear => s.clearConsole
  | .completer id event => s.modifyTab id (·.handle event)
  | .skip count => s.skip count

/-- The session after a run of events. -/
def run (s : Session) (events : List Event) : Session := events.foldl handle s

@[simp] theorem run_nil (s : Session) : s.run [] = s := rfl

@[simp] theorem run_cons (s : Session) (e : Event) (events : List Event) :
    s.run (e :: events) = (s.handle e).run events := rfl

theorem run_append (s : Session) (before after : List Event) :
    s.run (before ++ after) = (s.run before).run after := by
  simp [run, List.foldl_append]

end Session

end Scratchpad
