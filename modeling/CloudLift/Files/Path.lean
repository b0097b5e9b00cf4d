import CloudLift.Text.Cut

/-!
# Paths

A path is kept as it was written, because reports repeat it.  Its steps are the parts
between slashes.
-/

namespace CloudLift

structure Path where
  text : String
  deriving DecidableEq, Repr

namespace Path

/-- The parts between slashes, empty ones included. -/
def steps (path : Path) : List String :=
  Text.pieces '/' path.text

def isAbsolute (path : Path) : Bool :=
  path.text.toList.head? == some '/'

/-- The last step that is neither empty nor a single dot, unless it leads upwards. -/
def fileName? (path : Path) : Option String :=
  match (path.steps.filter fun step => step != "" && step != ".").getLast? with
  | none => none
  | some ".." => none
  | some name => some name

namespace Chars

/-- What follows the last dot, if something precedes that dot. -/
def extension? (name : List Char) : Option (List Char) :=
  let tail := name.reverse.takeWhile (· ≠ '.')
  let before := name.length - tail.length
  if 2 ≤ before then some tail.reverse else none

end Chars

/-- The extension of the file name; a dot at its start does not begin one. -/
def extension? (path : Path) : Option String :=
  path.fileName?.bind fun name => (Chars.extension? name.toList).map String.ofList

/-- The path of an entry of a directory. -/
def child (directory : Path) (name : String) : Path :=
  let text := directory.text
  if text.isEmpty then ⟨name⟩
  else if text.toList.getLast? == some '/' then ⟨text ++ name⟩
  else ⟨text ++ "/" ++ name⟩

end Path

end CloudLift
