import CloudLift.Conversion.Request
import CloudLift.Files.Disk
import CloudLift.Inventory.Scan

/-!
# The source of a conversion

The source is the file that is named.  Otherwise it is one of the configurations in a
directory: the only one, or the one that the operator chooses.  A file with the name of
the output is not taken for a source.
-/

namespace CloudLift.Request

def sourceQuestion : String :=
  "Please select the file to convert from this list."

/-- Whether a file of this name can be a source. -/
def accepts (request : Request) (name : String) : Bool :=
  (Path.mk name).extension? == some "tf" && request.output.fileName? != some name

/-- The names of the possible sources, in ascending order. -/
def candidates (request : Request) (disk : Disk) : Except IoFault (List String) := do
  let names ← disk.list request.directory
  return (names.filter request.accepts).mergeSort fun a b => decide (a ≤ b)

def selectAmong (request : Request) (names : List String) : Interaction Path :=
  match names with
  | [] => .fail (.noSourceFile request.directory.text)
  | [name] => .done (request.directory.child name)
  | names => do
    let choice ← Interaction.select sourceQuestion names
    match names[choice]? with
    | some name => return request.directory.child name
    | none => .fail (.noSuchOption choice sourceQuestion)

/-- The path of the source. -/
def selectSource (request : Request) (disk : Disk) : Interaction Path :=
  match request.source with
  | some source => .done source
  | none =>
    match request.candidates disk with
    | .ok names => request.selectAmong names
    | .error fault => .fail (.io fault)

end CloudLift.Request

namespace CloudLift

/-- The inventory of a source file. -/
def Inventory.ofFile (disk : Disk) (source : Path) : Interaction Inventory :=
  match disk.readBytes source with
  | .ok bytes => Inventory.read bytes
  | .error fault => .fail (.read fault)

end CloudLift
