/-
What can go wrong outside of editing: settings that are refused, and files that
cannot be read or written.

* `Error`: the kinds of failure; any of them can be put into a context.
* `Error.message`: the full text, the outermost context first.
* `Error.sources`: the texts of the failures below, from the outside in.
* `Error.summary`: the text without what the system or the reader reported.
-/

namespace Scratchpad

/-- A failure. -/
inductive Error where
  /-- Settings that are refused, or a directory that cannot be had. -/
  | config (text : String)
  /-- A file that cannot be read or written, with what the system reported. -/
  | io (detail : String)
  /-- A file whose content cannot be understood, with what the reader reported. -/
  | serialization (detail : String)
  /-- A failure within some larger task. -/
  | inContext (context : String) (source : Error)
  deriving DecidableEq, Repr

namespace Error

/-- The full text of a failure. -/
def message : Error → String
  | config text => "Configuration error: " ++ text
  | io detail => "IO error: " ++ detail
  | serialization detail => "Serialization error: " ++ detail
  | inContext context source => context ++ ": " ++ source.message

/-- The text of a failure without what the system or the reader reported. -/
def summary : Error → String
  | config text => "Configuration error: " ++ text
  | io _ => "IO error"
  | serialization _ => "Serialization error"
  | inContext context source => context ++ ": " ++ source.summary

/-- The texts of the failures below, from the outside in. What the system reported
is the failure below an `io`. -/
def sources : Error → List String
  | config _ => []
  | io detail => [detail]
  | serialization _ => []
  | inContext _ source => source.message :: source.sources

/-- Puts a failure into contexts, the innermost first. -/
def within (e : Error) (contexts : List String) : Error :=
  contexts.foldl (fun e context => inContext context e) e

end Error

end Scratchpad
