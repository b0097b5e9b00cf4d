import CloudLift.Generate.Group

/-!
# Instances and their folders

A machine without a group becomes one instance.  Its block is written as its parts
are checked, so that a fault leaves the text up to the part that it concerns.  A folder
is written before the first instance that stands in it.
-/

namespace CloudLift.Generate

open Terraform

def folderBlock (name : String) : String :=
  render (resource folderType (quote name)) [.attribute "name" (quote name)]

/-- Writes the folder of a raw name unless it is among the folders written so far, and
gives all that are written now. -/
def folder (written : List String) (rawName : String) : Interaction (List String) :=
  let name := Name.unquote rawName
  if name ∈ written then do
    Interaction.log (.debug s!"Folder {name} already created")
    return written
  else do
    requireName name
    Interaction.put (folderBlock name)
    return written ++ [name]

/-- Does something for an attribute that a machine may have. -/
def withAttribute (machine : Machine) (key : String)
    (body : String → Interaction Unit) : Interaction Unit :=
  match machine.attribute? key with
  | some value => body value
  | none => .done ()

/-- Writes an item of a block at the top. -/
def putItem (item : Item) : Interaction Unit :=
  Interaction.put (item.render 1)

def instanceHeader (machine : Machine) : String :=
  openLine 0 (resource instanceType machine.reference)

def instanceInterface (settings : Settings) (machine : Machine) : Item :=
  .block "network_interface"
    (.attribute "subnet_id" (idOf subnetType settings.network.subnetName) ::
      natItems machine.usesNat)

def instanceResources (size : Size) : Item :=
  .block "resources" [
    .attribute "cores" (toString size.cores),
    .attribute "memory" (toString size.memory)]

/-- The lines that an instance has only if its machine has the attribute. -/
def optionalLines (machine : Machine) : Interaction Unit := do
  withAttribute machine "count" fun count => putItem (.attribute "count" count)
  withAttribute machine "name" fun name => do
    requireName (Name.unquote name)
    putItem (.attribute "name" name)
  withAttribute machine "basedir" fun directory =>
    putItem (.attribute "folder_id" (idOf folderType (Name.unquote directory)))

/-- The image of a machine's own tag. -/
def machineImage (catalog : Image.Catalog) (machine : Machine) : Interaction String :=
  match machine.attribute? "os_id" with
  | none => .fail (.osIdNotDefined machine.reference)
  | some tag => catalog.resolve tag

def singleInstance (catalog : Image.Catalog) (settings : Settings)
    (machine : Machine) : Interaction Unit := do
  Interaction.log (.debug s!"Converting virtual machine {machine.reference}")
  Interaction.put (instanceHeader machine)
  optionalLines machine
  let image ← machineImage catalog machine
  putItem (bootDisk image)
  putItem (instanceInterface settings machine)
  let size ← Interaction.ofExcept (Size.ofMachine machine)
  putItem (instanceResources size.rounded)
  Interaction.put topClose

/-- Writes the machines one by one, and gives the folders that are written then. -/
def instances (catalog : Image.Catalog) (settings : Settings) :
    List String → List Machine → Interaction (List String)
  | folders, [] => .done folders
  | folders, machine :: machines => do
    let folders ←
      match machine.attribute? "basedir" with
      | some directory => folder folders directory
      | none => pure folders
    singleInstance catalog settings machine
    instances catalog settings folders machines

end CloudLift.Generate
