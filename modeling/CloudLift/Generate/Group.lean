import CloudLift.Generate.Shared
import CloudLift.Image.Catalog
import CloudLift.Size

/-!
# Instance groups

The machines of a group become one instance group.  Everything that the block needs is
found before any of it is written: the service account, a size that is enough for each
member, the image, and the number of instances.
-/

namespace CloudLift.Generate

open Terraform

/-- What is known of a group when its block is written. -/
structure GroupPlan where
  name : String
  serviceAccount : String
  size : Size
  image : String
  nat : Bool
  scale : Nat
  deriving DecidableEq, Repr

/-- NAT is switched on by a line and off by its absence. -/
def natItems (nat : Bool) : List Item :=
  if nat then [.attribute "nat" "true"] else []

def bootDisk (image : String) : Item :=
  .block "boot_disk" [
    .block "initialize_params" [.attribute "image_id" (quote image)]]

def GroupPlan.block (settings : Settings) (plan : GroupPlan) : String :=
  let network := settings.network
  render (resource groupType (quote plan.name)) [
    .attribute "name" (quote plan.name),
    .attribute "folder_id" (quote settings.credentials.folderId),
    .attribute "service_account_id" (quote plan.serviceAccount),
    .block "instance_template" [
      .block "resources" [
        .attribute "memory" (toString plan.size.memory),
        .attribute "cores" (toString plan.size.cores)],
      bootDisk plan.image,
      .block "network_interface" ([
        .attribute "network_id" (idOf networkType network.networkName),
        .attribute "subnet_ids" ("[" ++ idOf subnetType network.subnetName ++ "]")] ++
        natItems plan.nat)],
    .block "scale_policy" [
      .block "fixed_scale" [.attribute "size" (toString plan.scale)]],
    .block "allocation_policy" [
      .attribute "zones" (singleton settings.credentials.zone)],
    .block "deploy_policy" [
      .attribute "max_unavailable" "1",
      .attribute "max_expansion" "1"]]

/-- The machines that the references of a group stand for. -/
def members (inventory : Inventory) (references : List String) : List Machine :=
  references.filterMap inventory.machine?

/-- The values without repetition, each at its first place, after those of `seen`. -/
def distinctFrom (seen : List String) : List String → List String
  | [] => seen
  | value :: values =>
    distinctFrom (if value ∈ seen then seen else seen ++ [value]) values

/-- The tag of each machine, which it must have. -/
def tags : List Machine → Except Fault (List String)
  | [] => .ok []
  | machine :: machines =>
    match machine.attribute? "os_id" with
    | none => .error (.osIdNotDefined machine.reference)
    | some tag => do
      let rest ← tags machines
      return tag :: rest

def accountQuestion (group : String) : String :=
  s!"Please write the ID of the service account authorized for {group} instance group."

def systemQuestion (group : String) : String :=
  s!"Please select the os for group of vm {group} from this list."

/-- The account that the settings hold for a group, or else the operator names. -/
def serviceAccount (settings : Settings) (group : String) : Interaction String :=
  match settings.serviceAccounts.find? group with
  | some account => .done account
  | none => Interaction.inquire (accountQuestion group)

/-- The tag that a group boots; members that disagree leave the choice to the
operator. -/
def chooseTag (group : String) : List String → Interaction String
  | [] => .fail (.osIdNotDefined s!"group {group}")
  | [tag] => .done tag
  | options => do
    let choice ← Interaction.select (systemQuestion group) options
    match options[choice]? with
    | some tag => .done tag
    | none => .fail (.choiceOutOfRange choice group)

def groupImage (catalog : Image.Catalog) (group : String) (machines : List Machine) :
    Interaction String := do
  let all ← Interaction.ofExcept (tags machines)
  let tag ← chooseTag group (distinctFrom [] all)
  Interaction.log (.debug s!"Group {group} boots {tag}")
  catalog.resolve tag

/-- Finds what the block of a group needs. -/
def planGroup (inventory : Inventory) (catalog : Image.Catalog) (settings : Settings)
    (rawName : String) (references : List String) : Interaction GroupPlan := do
  let name := Name.unquote rawName
  requireName name
  let machines := members inventory references
  Interaction.log (.info s!"Converting group {name} with {machines.length} machines")
  let account ← serviceAccount settings name
  let size ← Interaction.ofExcept (Size.zero.supOf machines)
  let image ← groupImage catalog name machines
  let scale ← Interaction.ofExcept (totalCount 0 machines)
  return ⟨name, account, size.rounded, image, machines.any Machine.usesNat, scale⟩

def group (inventory : Inventory) (catalog : Image.Catalog) (settings : Settings)
    (rawName : String) (references : List String) : Interaction Unit := do
  let plan ← planGroup inventory catalog settings rawName references
  Interaction.put (plan.block settings)

end CloudLift.Generate
