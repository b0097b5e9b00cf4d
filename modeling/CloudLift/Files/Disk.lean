import CloudLift.Fault
import CloudLift.Files.Path
import CloudLift.Text.Utf8

/-!
# The disk

Files and directories by their location, which is the list of names that leads to them
from the root.  A path is resolved step by step from the working directory, and each
step needs a directory to start from.  Every operation says why it fails, and changes
at most the one location that its path designates.
-/

namespace CloudLift

/-- The names from the root. -/
abbrev Location := List String

inductive Node where
  | file (bytes : List UInt8)
  | directory
  deriving DecidableEq, Repr

structure Disk where
  nodes : List (Location × Node)
  /-- The working directory. -/
  home : Location
  deriving DecidableEq, Repr

namespace Disk

def findIn? (location : Location) : List (Location × Node) → Option Node
  | [] => none
  | (l, node) :: rest => if location = l then some node else findIn? location rest

/-- What stands at a location.  The root is always there. -/
def node? (disk : Disk) (location : Location) : Option Node :=
  match location with
  | [] => some .directory
  | _ => findIn? location disk.nodes

/-- The location after one step from a directory. -/
def stepFrom (here : Location) (step : String) : Location :=
  if step = "" ∨ step = "." then here
  else if step = ".." then here.dropLast
  else here ++ [step]

/-- Requires a directory. -/
def enter (disk : Disk) (here : Location) : Except IoFault Unit :=
  match disk.node? here with
  | none => .error .notFound
  | some (.file _) => .error .notDirectory
  | some .directory => .ok ()

def follow (disk : Disk) (here : Location) : List String → Except IoFault Location
  | [] => .ok here
  | step :: steps =>
    match disk.enter here with
    | .error fault => .error fault
    | .ok () => follow disk (stepFrom here step) steps

def origin (disk : Disk) (path : Path) : Location :=
  if path.isAbsolute then [] else disk.home

/-- The location that a path designates, whether something stands there or not. -/
def locate (disk : Disk) (path : Path) : Except IoFault Location :=
  if path.text.isEmpty then
    .error .notFound
  else
    disk.follow (disk.origin path) path.steps

def readBytes (disk : Disk) (path : Path) : Except IoFault (List UInt8) := do
  let location ← disk.locate path
  match disk.node? location with
  | none => .error .notFound
  | some .directory => .error .isDirectory
  | some (.file bytes) => .ok bytes

def readText (disk : Disk) (path : Path) : Except IoFault String := do
  let bytes ← disk.readBytes path
  match Text.Utf8.decode? bytes with
  | some text => .ok text
  | none => .error .invalidUtf8

def isFile (disk : Disk) (path : Path) : Bool :=
  match disk.readBytes path with
  | .ok _ => true
  | .error _ => false

/-- The name under which a location stands in a directory. -/
def entryName? (directory : Location) (location : Location) : Option String :=
  match location.getLast? with
  | some name => if location.dropLast = directory then some name else none
  | none => none

/-- The names of the entries of a directory, in no order that means anything. -/
def list (disk : Disk) (path : Path) : Except IoFault (List String) := do
  let location ← disk.locate path
  disk.enter location
  return disk.nodes.filterMap fun (l, _) => entryName? location l

def erase (disk : Disk) (location : Location) : Disk :=
  { disk with nodes := disk.nodes.filter fun (l, _) => l ≠ location }

def place (disk : Disk) (location : Location) (node : Node) : Disk :=
  { disk.erase location with nodes := (location, node) :: (disk.erase location).nodes }

/-- Deletes a file. -/
def remove (disk : Disk) (path : Path) : Except IoFault Disk := do
  let location ← disk.locate path
  match disk.node? location with
  | none => .error .notFound
  | some .directory => .error .isDirectory
  | some (.file _) => .ok (disk.erase location)

/-- The steps without the empty ones at their end. -/
def withoutFinalSlash (steps : List String) : List String :=
  (steps.reverse.dropWhile (· == "")).reverse

/-- The location for a new or replaced file.  A path that ends in a slash designates
a directory. -/
def locateForWriting (disk : Disk) (path : Path) : Except IoFault Location := do
  if path.text.isEmpty then
    .error .notFound
  else if path.steps.getLast? = some "" then
    let parent ← disk.follow (disk.origin path) (withoutFinalSlash path.steps).dropLast
    disk.enter parent
    .error .isDirectory
  else
    let location ← disk.follow (disk.origin path) path.steps
    match disk.node? location with
    | some .directory => .error .isDirectory
    | _ => .ok location

/-- Writes a whole file, in place of one that may be there. -/
def write (disk : Disk) (path : Path) (bytes : List UInt8) : Except IoFault Disk := do
  let location ← disk.locateForWriting path
  return disk.place location (.file bytes)

/-- Makes a directory and the directories above it. -/
def makeDirectory (disk : Disk) (location : Location) : Disk :=
  (List.range location.length).foldl (fun disk n =>
    let above := location.take (n + 1)
    match disk.node? above with
    | some _ => disk
    | none => disk.place above .directory) disk

/-- The locations at which two disks differ, with what the second one has there. -/
def changes (before after : Disk) : List (Location × Option Node) :=
  let locations := (before.nodes ++ after.nodes).map Prod.fst
  (locations.filter fun l => before.node? l ≠ after.node? l).eraseDups.map fun l =>
    (l, after.node? l)

/-- The locations that a path passes on its way and the one it ends at. -/
def passed (disk : Disk) (path : Path) : List Location :=
  path.steps.foldl
    (fun passed step => passed ++ [stepFrom (passed.getLast?.getD []) step])
    [disk.origin path]

theorem findIn?_filter_ne (nodes : List (Location × Node)) (location other : Location) :
    findIn? other (nodes.filter fun (l, _) => l ≠ location) =
      if other = location then none else findIn? other nodes := by
  induction nodes with
  | nil => simp [findIn?]
  | cons entry rest ih =>
    obtain ⟨l, node⟩ := entry
    by_cases hl : l = location
    · subst hl
      by_cases ho : other = l <;> simp_all [findIn?]
    · by_cases ho : other = location
      · subst ho
        have : ¬ other = l := fun e => hl e.symm
        simp_all [findIn?]
      · by_cases hol : other = l <;> simp_all [findIn?]

/-- Erasing a location leaves every other one as it is. -/
theorem node?_erase (disk : Disk) (location other : Location) (h : other ≠ []) :
    (disk.erase location).node? other =
      if other = location then none else disk.node? other := by
  cases other with
  | nil => exact absurd rfl h
  | cons name names => exact findIn?_filter_ne _ _ _

theorem node?_place (disk : Disk) (location other : Location) (node : Node)
    (h : other ≠ []) :
    (disk.place location node).node? other =
      if other = location then some node else disk.node? other := by
  cases other with
  | nil => exact absurd rfl h
  | cons name names =>
    simp only [node?, place, findIn?]
    by_cases ho : name :: names = location
    · simp [ho]
    · rw [if_neg ho, if_neg ho]
      exact (findIn?_filter_ne _ _ _).trans (if_neg ho)

end Disk

end CloudLift
