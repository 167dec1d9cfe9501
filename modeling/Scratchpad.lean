import Scratchpad.App.Controls
import Scratchpad.Completer.Description
import Scratchpad.Highlight
import Scratchpad.StatusBar
import Scratchpad.Store
import Scratchpad.Proofs.Completer.Coherence
import Scratchpad.Proofs.IgnoringCase
import Scratchpad.Proofs.Suggestions
import Scratchpad.Proofs.Text.Bytes
import Scratchpad.Proofs.Text.Lines
import Scratchpad.Proofs.Word.Replacement
import Scratchpad.Proofs.Caret
import Scratchpad.Proofs.Popup.Navigation
import Scratchpad.Proofs.Completer.Acceptance
import Scratchpad.Proofs.Completer.Listing
import Scratchpad.Proofs.Completer.Lifetime
import Scratchpad.Proofs.Completer.Notices
import Scratchpad.Proofs.Completer.Editing
import Scratchpad.Proofs.Completer.Repeats
import Scratchpad.Proofs.Declarations
import Scratchpad.Proofs.Declarations.Search
import Scratchpad.Proofs.Declarations.Lines
import Scratchpad.Proofs.Numeric.Rounding
import Scratchpad.Proofs.Numeric.Shortest
import Scratchpad.Proofs.Numeric.Separation
import Scratchpad.Proofs.Numeric.Layout
import Scratchpad.Proofs.Numeric.Reading
import Scratchpad.Proofs.Numeric.RoundTrip
import Scratchpad.Proofs.Json.Grammar
import Scratchpad.Proofs.Json.Accepted
import Scratchpad.Proofs.Json
import Scratchpad.Proofs.StateFile
import Scratchpad.Proofs.Store
import Scratchpad.Proofs.StateFile.Edited
import Scratchpad.Proofs.Startup
import Scratchpad.Proofs.Session.Settings
import Scratchpad.Proofs.Session.Tabs
import Scratchpad.Proofs.Session.Independence
import Scratchpad.Proofs.Session.Names
import Scratchpad.Proofs.Editor
import Scratchpad.Proofs.Docking
import Scratchpad.Proofs.App.Tabs
import Scratchpad.Proofs.App.Settings
import Scratchpad.Proofs.Highlight
import Scratchpad.Proofs.Highlight.Lines
import Scratchpad.Proofs.Highlight.Numbers
