import CloudLift.Table

/-!
# The inventory of a source

The machines that a source declares, in the order of their declaration, and the
groups they are assigned to, in the order in which the groups were first named.  A
machine has a slot, which is its position; the same reference can be declared more
than once, and looking it up then finds the last machine that has it.
-/

namespace CloudLift

/-- The values of a block, as written, with their quotes. -/
abbrev Attributes := Table String

structure Adapter where
  /-- The position among the adapters of the machine. -/
  index : Nat
  attributes : Attributes
  deriving DecidableEq, Repr

namespace Adapter

def usesNat (adapter : Adapter) : Bool :=
  adapter.attributes.find? "network_mode" == some "\"nat\""

end Adapter

structure Machine where
  /-- The label of the declaration, with its quotes. -/
  reference : String
  attributes : Attributes
  adapters : List Adapter
  deriving DecidableEq, Repr

namespace Machine

def named (reference : String) : Machine :=
  ⟨reference, .empty, []⟩

def attribute? (machine : Machine) (key : String) : Option String :=
  machine.attributes.find? key

/-- A machine in a group is converted with its group only. -/
def isGrouped (machine : Machine) : Bool :=
  machine.attributes.contains "group"

/-- A machine without adapters needs NAT too. -/
def usesNat (machine : Machine) : Bool :=
  machine.adapters.isEmpty || machine.adapters.any Adapter.usesNat

def setAttribute (machine : Machine) (key value : String) : Machine :=
  { machine with attributes := machine.attributes.insert key value }

def addAdapter (machine : Machine) : Machine :=
  { machine with adapters := machine.adapters ++ [⟨machine.adapters.length, .empty⟩] }

/-- Sets an attribute of the adapter that was added last. -/
def setAdapterAttribute (machine : Machine) (key value : String) : Machine :=
  { machine with
    adapters := machine.adapters.modify (machine.adapters.length - 1) fun adapter =>
      { adapter with attributes := adapter.attributes.insert key value } }

end Machine

structure Inventory where
  machines : List Machine
  /-- The references of the members, by the name of the group as written. -/
  groups : Table (List String)
  deriving DecidableEq, Repr

namespace Inventory

def empty : Inventory :=
  ⟨[], .empty⟩

instance : Inhabited Inventory := ⟨empty⟩

def isEmpty (inventory : Inventory) : Bool :=
  inventory.machines.isEmpty

/-- The slot of the machine that is declared next. -/
def nextSlot (inventory : Inventory) : Nat :=
  inventory.machines.length

/-- Declares a machine at the next slot. -/
def declare (inventory : Inventory) (reference : String) : Inventory :=
  { inventory with machines := inventory.machines ++ [Machine.named reference] }

/-- The index of the adapter that `addAdapter` adds, if the slot holds a machine. -/
def nextAdapter? (inventory : Inventory) (slot : Nat) : Option Nat :=
  inventory.machines[slot]?.map fun machine => machine.adapters.length

def addAdapter (inventory : Inventory) (slot : Nat) : Inventory :=
  { inventory with machines := inventory.machines.modify slot Machine.addAdapter }

/-- Adds a member at the end of a group; a new group comes last. -/
def join (inventory : Inventory) (group reference : String) : Inventory :=
  { inventory with
    groups := inventory.groups.alter group fun members? =>
      members?.getD [] ++ [reference] }

/-- Sets an attribute of the machine at a slot.  Each setting of `group` makes the
machine a member of that group once more. -/
def setAttribute (inventory : Inventory) (slot : Nat) (key value : String) :
    Inventory :=
  match inventory.machines[slot]? with
  | none => inventory
  | some machine =>
    let changed : Inventory :=
      { inventory with
        machines := inventory.machines.modify slot fun m => m.setAttribute key value }
    if key = "group" then changed.join value machine.reference else changed

def setAdapterAttribute (inventory : Inventory) (slot : Nat) (key value : String) :
    Inventory :=
  { inventory with
    machines := inventory.machines.modify slot fun m => m.setAdapterAttribute key value }

/-- The last machine that was declared with a reference. -/
def machine? (inventory : Inventory) (reference : String) : Option Machine :=
  inventory.machines.reverse.find? fun machine => machine.reference == reference

/-- The members of a group. -/
def group? (inventory : Inventory) (name : String) : Option (List String) :=
  inventory.groups.find? name

/-- The machines that are converted one by one. -/
def standalone (inventory : Inventory) : List Machine :=
  inventory.machines.filter fun machine => !machine.isGrouped

end Inventory

end CloudLift
