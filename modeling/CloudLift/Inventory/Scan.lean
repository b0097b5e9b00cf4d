import CloudLift.Interaction
import CloudLift.Inventory.Basic
import CloudLift.Inventory.Line
import CloudLift.Text.Utf8

/-!
# Scanning a source

The scan goes over the lines once and remembers where it stands: outside every
declaration, in the body of a machine, or in the block of an adapter.  A body keeps
the number of further blocks that are open in it, so that it ends at its own brace.
`Scan.step` is what a line does to the inventory, and `Scan.remark?` is what it adds to
the journal.
-/

namespace CloudLift

/-- Where the next line stands. -/
inductive Place where
  | outside
  | machine (slot depth : Nat)
  /-- An adapter that belongs to no machine has no slot. -/
  | adapter (slot? : Option Nat) (depth : Nat)
  deriving DecidableEq, Repr

structure Scan where
  inventory : Inventory
  place : Place
  deriving DecidableEq, Repr

namespace Scan

def start : Scan :=
  ⟨.empty, .outside⟩

/-- A line outside every declaration. -/
def stepOutside (inventory : Inventory) (line : String) : Scan :=
  if (Line.assignment? line).isSome then
    ⟨inventory, .outside⟩
  else if Line.namesMachine line then
    match Line.reference? line with
    | some reference => ⟨inventory.declare reference, .machine inventory.nextSlot 0⟩
    | none => ⟨inventory, .outside⟩
  else if Line.namesAdapter line then
    ⟨inventory, .adapter none 0⟩
  else
    ⟨inventory, .outside⟩

/-- A line in the body of a machine.  Attributes count at the body's own level only. -/
def stepMachine (inventory : Inventory) (slot depth : Nat) (line : String) : Scan :=
  if Line.closesBlock line then
    match depth with
    | 0 => ⟨inventory, .outside⟩
    | depth + 1 => ⟨inventory, .machine slot depth⟩
  else
    match Line.assignment? line with
    | some (key, value) =>
      if Line.opensBlock value then
        ⟨inventory, .machine slot (depth + 1)⟩
      else if depth = 0 then
        ⟨inventory.setAttribute slot key value, .machine slot depth⟩
      else
        ⟨inventory, .machine slot depth⟩
    | none =>
      if Line.namesAdapter line then
        ⟨inventory.addAdapter slot,
          .adapter ((inventory.nextAdapter? slot).map fun _ => slot) depth⟩
      else if Line.opensBlock line then
        ⟨inventory, .machine slot (depth + 1)⟩
      else
        ⟨inventory, .machine slot depth⟩

/-- A line in the block of an adapter. -/
def stepAdapter (inventory : Inventory) (slot? : Option Nat) (depth : Nat)
    (line : String) : Scan :=
  if Line.closesBlock line then
    match slot? with
    | some slot => ⟨inventory, .machine slot depth⟩
    | none => ⟨inventory, .outside⟩
  else
    match slot?, Line.assignment? line with
    | some slot, some (key, value) =>
      ⟨inventory.setAdapterAttribute slot key value, .adapter slot? depth⟩
    | _, _ => ⟨inventory, .adapter slot? depth⟩

def step (scan : Scan) (line : String) : Scan :=
  match scan.place with
  | .outside => stepOutside scan.inventory line
  | .machine slot depth => stepMachine scan.inventory slot depth line
  | .adapter slot? depth => stepAdapter scan.inventory slot? depth line

/-- The scan after a list of lines. -/
def walk (scan : Scan) (lines : List String) : Scan :=
  lines.foldl step scan

/-- What the journal says about the line with a number. -/
def remark? (scan : Scan) (number : Nat) (line : String) : Option Event :=
  match scan.place with
  | .outside =>
    if (Line.assignment? line).isSome then
      some (.debug s!"Line {number}: assignment outside of any resource ignored")
    else if Line.namesMachine line then
      match Line.reference? line with
      | some reference => some (.debug s!"Line {number}: found virtual machine {reference}")
      | none => some (.warn s!"Line {number}: resource without a reference name ignored")
    else
      none
  | .machine _ depth =>
    if Line.closesBlock line && depth == 0 then
      some (.debug s!"Line {number}: end of virtual machine block")
    else
      none
  | .adapter _ _ => none

/-- The machine whose adapter is still open. -/
def unterminatedOwner? (scan : Scan) : Option String :=
  match scan.place with
  | .adapter slot? _ =>
    some (((slot?.bind fun slot => scan.inventory.machines[slot]?).map
      Machine.reference).getD "<none>")
  | _ => none

/-- What the journal says at the end of the source. -/
def closingRemarks (scan : Scan) : List Event :=
  (match scan.unterminatedOwner? with
    | some owner =>
      [.warn s!"Unterminated network_adapter block in {owner} at end of input"]
    | none => []) ++
  [.debug (s!"Scanned {scan.inventory.machines.length} entities " ++
    s!"and {scan.inventory.groups.entries.length} groups")]

/-- Goes over the lines that follow line `number`.  A line that is not text ends the
scan at once. -/
def lines (scan : Scan) (number : Nat) : List (List UInt8) → Interaction Inventory
  | [] => do
    Interaction.each Interaction.log scan.closingRemarks
    return scan.inventory
  | bytes :: rest =>
    match Text.Utf8.decode? bytes with
    | none => .fail (.read .invalidUtf8)
    | some line => do
      Interaction.each Interaction.log (scan.remark? (number + 1) line).toList
      lines (scan.step line) (number + 1) rest

end Scan

/-- The inventory of a source. -/
def Inventory.read (source : List UInt8) : Interaction Inventory :=
  Scan.start.lines 0 (Text.Utf8.lines source)

end CloudLift
