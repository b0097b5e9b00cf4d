import CloudLift.Text.Blank
import CloudLift.Text.Cut

/-!
# Lines of a source

A source is read line by line: a line holds at most one assignment, or it opens or
closes a block.  What a line can be is decided here; what it means depends on where
it stands.
-/

namespace CloudLift.Line

/-- Starts the declaration of a machine. -/
def machineMarker : String :=
  "resource \"virtualbox_server\""

/-- Starts the block of a network adapter. -/
def adapterMarker : String :=
  "network_adapter"

/-- The key and the value of a line with an equals sign, both trimmed. -/
def assignment? (line : String) : Option (String × String) :=
  (Text.cutAt? '=' line).map fun (key, value) => (Text.trim key, Text.trim value)

/-- Whether the line is a closing brace alone. -/
def closesBlock (line : String) : Bool :=
  Text.trim line == "\x7d"

/-- Whether a line, or the value of an assignment, ends by opening a block. -/
def opensBlock (text : String) : Bool :=
  (Text.Chars.trimEnd text.toList).getLast? == some '{'

def namesMachine (line : String) : Bool :=
  Text.holds machineMarker line

def namesAdapter (line : String) : Bool :=
  Text.holds adapterMarker line

/-- The third word, where a declaration has its label. -/
def reference? (line : String) : Option String :=
  (Text.words line)[2]?

end CloudLift.Line
