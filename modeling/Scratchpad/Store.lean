/-
The place where the state file is kept.

* `Occupant`: what stands at a path. `Occupant.load` reads a state there: a missing
  file has the default state, and what cannot be read or understood fails.
* `Place`: a path of the file system, with what stands there and with the reason why
  nothing can be written there, if there is one. `SavedState.saveTo` saves a state.
* `Store`: the data directory of the user, in whose subdirectory the file is kept.
  The system may not name one, and the subdirectory may be impossible to create.
* `Store.ensure`, `Store.load`, `Store.loadOrDefault`, `Store.save`: the
  operations on the default location.
-/
import Scratchpad.StateFile

namespace Scratchpad

/-- What stands at a path. -/
inductive Occupant where
  | nothing
  | file (bytes : ByteArray)
  | directory
  /-- A file that can neither be read nor replaced, for the reason that the system
  gives. -/
  | locked (detail : String)

namespace Occupant

/-- The text of a file, if it is one. -/
def text? : Occupant → Option Text
  | file bytes => Text.ofUtf8? bytes
  | _ => none

/-- The failure of reading what is no text. -/
def unreadable (detail : String) : Error := .inContext "Failed to read app state" (.io detail)

/-- The failure of reading a text that is no state. -/
def malformed : Error :=
  .inContext "Failed to parse app state" (.serialization "not a state of the application")

/-- Reads the state. -/
def load : Occupant → Except Error SavedState
  | nothing => .ok {}
  | directory => .error (unreadable "is a directory")
  | locked detail => .error (unreadable detail)
  | file bytes =>
    match Text.ofUtf8? bytes with
    | none => .error (unreadable "not valid UTF-8")
    | some t =>
      match SavedState.ofText? t with
      | some s => .ok s
      | none => .error malformed

end Occupant

/-! ### Places -/

/-- A path of the file system. -/
structure Place where
  occupant : Occupant
  /-- Why nothing can be written there: a missing directory, a full disk, or whatever
  else the system reports. -/
  obstacle? : Option String := none

namespace Place

/-- A path at which there is nothing. -/
def nothing : Place where
  occupant := .nothing

/-- Whether a relative path names a file that can be created in a directory without
subdirectories: it passes through no other directory, and ends in a name. -/
def namesFile (path : Text) : Bool :=
  let parts := Text.splitAtChar '/' path
  let name := parts.getLastD []
  parts.dropLast.all (fun part => part.isEmpty || part == ['.']) &&
    !(name.isEmpty || name == ['.'] || name == ['.', '.'])

/-- A relative path in an empty directory. -/
def inEmptyDirectory (path : Text) : Place where
  occupant := .nothing
  obstacle? := if namesFile path then none else some "no such file or directory"

/-- Writes a file; the result is what stands there then. A file is replaced as a whole. -/
def write (p : Place) (bytes : ByteArray) : Except String Occupant :=
  match p.occupant, p.obstacle? with
  | .directory, _ => .error "is a directory"
  | .locked detail, _ => .error detail
  | _, some detail => .error detail
  | _, none => .ok (.file bytes)

/-- What was written stands there. -/
theorem eq_of_write {p : Place} {bytes : ByteArray} {o : Occupant} (h : p.write bytes = .ok o) :
    o = .file bytes := by
  unfold write at h
  split at h <;> simp_all

end Place

/-- The failure of writing to `path`. -/
def writeFailure (path detail : String) : Error :=
  .inContext ("Failed to write app state to " ++ path) (.io detail)

namespace SavedState

/-- The bytes that are written for a state. -/
def fileBytes (s : SavedState) : ByteArray := (String.ofList s.fileText).toUTF8

/-- Saves a state at a path; the result is what stands there then. Where nothing else
is known of the path, it is one in an empty directory. -/
def saveTo (s : SavedState) (path : Text) (place : Place := .inEmptyDirectory path) :
    Except Error Occupant :=
  match place.write s.fileBytes with
  | .ok o => .ok o
  | .error detail => .error (writeFailure (String.ofList path) detail)

/-- The file that a saved state leaves behind. -/
theorem eq_of_saveTo {s : SavedState} {path : Text} {place : Place} {o : Occupant}
    (h : s.saveTo path place = .ok o) : o = .file s.fileBytes := by
  unfold saveTo at h
  split at h
  · next hwrite =>
    cases h
    exact Place.eq_of_write hwrite
  · cases h

end SavedState

/-! ### The default location -/

/-- The data directory of the user. -/
inductive Store where
  /-- The system names none. -/
  | unknown
  /-- The directory of the application is missing and cannot be created, as where a plain
  file stands in the place of the data directory. -/
  | blocked
  /-- It can be used, and the state file has its place there. -/
  | usable (place : Place)

namespace Store

/-- The data directory, where there is one. -/
def root : String := "/data"

/-- The directory of the application. -/
def directory : String := root ++ "/dev.luapad.luapad-rs"

/-- The path of the state file. -/
def path : String := directory ++ "/app_state.json"

/-- What stands at the path of the state file; without a directory there is nothing. -/
def occupant : Store → Occupant
  | unknown | blocked => .nothing
  | usable place => place.occupant

/-- The directory of the application, created if it is missing. -/
def ensure : Store → Except Error String
  | unknown => .error (.config "Could not determine app data directory")
  | blocked => .error (.config "Failed to create app data directory")
  | usable _ => .ok directory

/-- Reads the state. -/
def load : Store → Except Error SavedState
  | unknown => .error (.config "Could not determine app state path")
  | s => s.occupant.load

/-- Reads the state, or takes the default one when that fails. -/
def loadOrDefault (s : Store) : SavedState :=
  match s.load with
  | .ok state => state
  | .error _ => {}

/-- Writes the state. -/
def save (s : Store) (state : SavedState) : Store × Except Error Unit :=
  match s with
  | usable place =>
    match state.saveTo path.toList place with
    | .ok o => (usable { place with occupant := o }, .ok ())
    | .error e => (s, .error e)
  | s => (s, s.ensure.map fun _ => ())

/-- A state that was saved is read from its file. -/
theorem load_of_save {s : Store} {state : SavedState} (h : (s.save state).2 = .ok ()) :
    (s.save state).1.load = (Occupant.file state.fileBytes).load := by
  cases s with
  | unknown => cases h
  | blocked => cases h
  | usable place =>
    unfold save at h ⊢
    cases hsave : state.saveTo path.toList place with
    | error e => simp [hsave] at h
    | ok o => simp [hsave, load, occupant, SavedState.eq_of_saveTo hsave]

/-! ### Changes from outside -/

/-- Changes what stands at the path of the state file, if there can be anything. -/
def setOccupant (s : Store) (occupant : Occupant) : Store :=
  match s with
  | usable place => usable { place with occupant }
  | s => s

/-- Puts a file at the path of the state file, unless a directory stands there. -/
def put (s : Store) (bytes : ByteArray) : Store :=
  match s.occupant with
  | .directory => s
  | _ => s.setOccupant (.file bytes)

/-- Removes what stands at the path of the state file. -/
def remove (s : Store) : Store := s.setOccupant .nothing

/-- Puts a directory at the path of the state file. -/
def blockFile (s : Store) : Store := s.setOccupant .directory

/-- Puts a plain file in the place of the data directory. -/
def block (_ : Store) : Store := blocked

end Store

end Scratchpad
