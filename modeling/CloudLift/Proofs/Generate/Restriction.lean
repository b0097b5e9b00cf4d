import CloudLift.Generate.Configuration
import CloudLift.Proofs.Interaction
import CloudLift.Proofs.Inventory.Restriction

/-!
# What a configuration reads of an inventory

A configuration reads seven attributes of a machine and one of an adapter.  If an
inventory is restricted to these keys, or to more, the configuration stays the same: not
only its text, but the whole interaction with its questions and events.
-/

namespace CloudLift

open Machine (restrict)

/-- The keys that are read somewhere, of machines and of adapters. -/
def Generate.keys : List String :=
  ["group", "cpus", "memory", "count", "os_id", "name", "basedir", "network_mode"]

/-- Every key that is read is kept. -/
def Generate.Keeps (keep : String → Bool) : Prop :=
  ∀ key ∈ Generate.keys, keep key = true

section Kept

variable {keep : String → Bool} (hkeep : Generate.Keeps keep) (machine : Machine)

namespace Machine

@[simp] theorem reference_restrict : (machine.restrict keep).reference = machine.reference :=
  rfl

theorem attribute?_restrict {key : String} (hkey : keep key = true) :
    (machine.restrict keep).attribute? key = machine.attribute? key :=
  Table.find?_restrict hkey machine.attributes

theorem readQuantity_restrict (quantity : Quantity) (raw : String) :
    (machine.restrict keep).readQuantity quantity raw = machine.readQuantity quantity raw := by
  unfold readQuantity
  rw [reference_restrict]

include hkeep

theorem isGrouped_restrict : (machine.restrict keep).isGrouped = machine.isGrouped :=
  congrArg Option.isSome (machine.attribute?_restrict (hkeep _ (by decide)))

theorem usesNat_restrict : (machine.restrict keep).usesNat = machine.usesNat := by
  have hadapter : Adapter.usesNat ∘ Adapter.restrict keep = Adapter.usesNat := by
    funext adapter
    rw [Function.comp_apply, Adapter.usesNat, Adapter.usesNat, Adapter.restrict,
      Table.find?_restrict (hkeep _ (by decide))]
  simp [usesNat, restrict, hadapter]

theorem quantity_restrict (quantity : Quantity) (missing : String → Fault) :
    (machine.restrict keep).quantity quantity missing = machine.quantity quantity missing := by
  have hkey : keep quantity.key = true := by
    cases quantity with
    | cpus => exact hkeep _ (by decide)
    | memory => exact hkeep _ (by decide)
    | count => exact hkeep _ (by decide)
  unfold Machine.quantity
  rw [machine.attribute?_restrict hkey]
  cases machine.attribute? quantity.key with
  | none => rfl
  | some raw => exact readQuantity_restrict machine quantity raw

theorem count_restrict : (machine.restrict keep).count = machine.count := by
  have hkey : keep Quantity.count.key = true := hkeep _ (by decide)
  unfold count
  rw [machine.attribute?_restrict hkey]
  cases machine.attribute? Quantity.count.key with
  | none => rfl
  | some raw => exact readQuantity_restrict machine .count raw

end Machine

include hkeep

theorem Size.ofMachine_restrict : ofMachine (machine.restrict keep) = ofMachine machine := by
  rw [ofMachine, ofMachine, machine.quantity_restrict hkeep, machine.quantity_restrict hkeep]

theorem Size.supOf_map_restrict (size : Size) (machines : List Machine) :
    size.supOf (machines.map (restrict keep)) = size.supOf machines := by
  induction machines generalizing size with
  | nil => rfl
  | cons machine machines ih =>
    rw [List.map_cons, supOf, supOf, Size.ofMachine_restrict hkeep]
    simp only [ih]

theorem totalCount_map_restrict (total : Nat) (machines : List Machine) :
    totalCount total (machines.map (restrict keep)) = totalCount total machines := by
  induction machines generalizing total with
  | nil => rfl
  | cons machine machines ih =>
    have hcount : (machine.restrict keep).attribute? Quantity.count.key =
        machine.attribute? Quantity.count.key :=
      machine.attribute?_restrict (hkeep _ (by decide))
    rw [List.map_cons, totalCount, totalCount, machine.count_restrict hkeep, hcount]
    simp only [ih, Machine.reference_restrict]

namespace Generate

variable (inventory : Inventory) (catalog : Image.Catalog) (settings : Settings)

theorem tags_map_restrict (machines : List Machine) :
    tags (machines.map (restrict keep)) = tags machines := by
  induction machines with
  | nil => rfl
  | cons machine machines ih =>
    rw [List.map_cons, tags, tags, machine.attribute?_restrict (hkeep _ (by decide)), ih]
    rfl

omit hkeep in
theorem members_restrict (references : List String) :
    members (inventory.restrict keep) references =
      (members inventory references).map (restrict keep) := by
  have hmachine (reference : String) : (inventory.restrict keep).machine? reference =
      (inventory.machine? reference).map (restrict keep) := by
    rw [Inventory.machine?, Inventory.machine?, Inventory.restrict, ← List.map_reverse,
      List.find?_map]
    rfl
  induction references with
  | nil => rfl
  | cons reference references ih =>
    unfold members at ih ⊢
    rw [List.filterMap_cons, List.filterMap_cons, hmachine]
    cases inventory.machine? reference with
    | none => exact ih
    | some machine => exact congrArg (machine.restrict keep :: ·) ih

theorem groupImage_map_restrict (group : String) (machines : List Machine) :
    groupImage catalog group (machines.map (restrict keep)) =
      groupImage catalog group machines := by
  rw [groupImage, groupImage, tags_map_restrict hkeep]

theorem group_restrict (rawName : String) (references : List String) :
    group (inventory.restrict keep) catalog settings rawName references =
      group inventory catalog settings rawName references := by
  have hplan : planGroup (inventory.restrict keep) catalog settings rawName references =
      planGroup inventory catalog settings rawName references := by
    have hnat (machines : List Machine) :
        (machines.map (restrict keep)).any Machine.usesNat = machines.any Machine.usesNat := by
      rw [List.any_map]
      congr 1
      funext machine
      exact machine.usesNat_restrict hkeep
    unfold planGroup
    simp only [members_restrict, List.length_map, Size.supOf_map_restrict hkeep,
      groupImage_map_restrict hkeep, totalCount_map_restrict hkeep, hnat]
  rw [group, group, hplan]

theorem optionalLines_restrict :
    optionalLines (machine.restrict keep) = optionalLines machine := by
  have hwith {key : String} (hkey : key ∈ keys) (body : String → Interaction Unit) :
      withAttribute (machine.restrict keep) key body = withAttribute machine key body := by
    rw [withAttribute, withAttribute, machine.attribute?_restrict (hkeep key hkey)]
  unfold optionalLines
  rw [hwith (by decide), hwith (by decide), hwith (by decide)]

theorem singleInstance_restrict :
    singleInstance catalog settings (machine.restrict keep) =
      singleInstance catalog settings machine := by
  have himage : machineImage catalog (machine.restrict keep) =
      machineImage catalog machine := by
    rw [machineImage, machineImage, machine.attribute?_restrict (hkeep _ (by decide))]
    rfl
  have hinterface : instanceInterface settings (machine.restrict keep) =
      instanceInterface settings machine := by
    rw [instanceInterface, instanceInterface, machine.usesNat_restrict hkeep]
  unfold singleInstance
  rw [optionalLines_restrict hkeep, himage, hinterface, Size.ofMachine_restrict hkeep]
  rfl

theorem instances_map_restrict (folders : List String) (machines : List Machine) :
    instances catalog settings folders (machines.map (restrict keep)) =
      instances catalog settings folders machines := by
  induction machines generalizing folders with
  | nil => rfl
  | cons machine machines ih =>
    rw [List.map_cons, instances, instances, machine.attribute?_restrict (hkeep _ (by decide)),
      singleInstance_restrict hkeep]
    simp only [ih]

/-- The interaction is the same for an inventory without the attributes that are not
read. -/
theorem configuration_restrict :
    configuration (inventory.restrict keep) catalog settings =
      configuration inventory catalog settings := by
  have hgroup : (fun entry : String × List String =>
        group (inventory.restrict keep) catalog settings entry.1 entry.2) =
      fun entry => group inventory catalog settings entry.1 entry.2 := by
    funext entry
    exact group_restrict hkeep inventory catalog settings entry.1 entry.2
  have hgroups (entries : List (String × List String)) :
      groups (inventory.restrict keep) catalog settings entries =
        groups inventory catalog settings entries :=
    congrArg (Interaction.each · entries) hgroup
  have hstandalone : (inventory.restrict keep).standalone =
      inventory.standalone.map (restrict keep) := by
    rw [Inventory.standalone, Inventory.standalone, Inventory.restrict, List.filter_map]
    congr 1
    apply List.filter_congr
    intro machine hmachine
    rw [Function.comp_apply, machine.isGrouped_restrict hkeep]
  unfold configuration
  rw [hgroups, hstandalone, instances_map_restrict hkeep, List.length_map]
  rfl

end Generate

end Kept

end CloudLift
