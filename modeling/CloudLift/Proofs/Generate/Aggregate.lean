import CloudLift.Proofs.Generate.Opening
import Mathlib.Data.List.Forall2
import Mathlib.Data.List.MinMax
import Mathlib.Order.Nat

/-!
# Groups and the instances of their members

A group has one block for all of its members.  What stands in it is compared with what would
stand in the instance of each member alone: the numbers must be the largest ones, NAT must be
switched on if any member needs it, and the image must be the one of a member.

A group rounds the largest size once, and an instance rounds its own size.  Rounding keeps
the order of sizes, so it does not matter which comes first.
-/

namespace CloudLift

theorem roundUpToEven_le {a b : Nat} (h : a ≤ b) : roundUpToEven a ≤ roundUpToEven b := by
  unfold roundUpToEven
  omega

namespace Terraform

def Item.attribute? (key : String) : Item → Option String
  | .attribute other value => if other = key then some value else none
  | .block _ _ => none

def Item.block? (header : String) : Item → Option (List Item)
  | .attribute _ _ => none
  | .block other items => if other = header then some items else none

/-- The value of an attribute in the block that the headers lead to. -/
def valueAt : List String → String → List Item → Option String
  | [], key, items => items.findSome? (Item.attribute? key)
  | header :: headers, key, items =>
    (items.findSome? (Item.block? header)).bind (valueAt headers key)

end Terraform

namespace Generate

open Terraform Interaction

variable {inventory : Inventory} {catalog : Image.Catalog} {settings : Settings}
  {machines : List Machine}

/-- The value of an attribute in the instance of a machine. -/
def alone (catalog : Image.Catalog) (settings : Settings) (header : String)
    (headers : List String) (key : String) (machine : Machine) : Option String :=
  valueAt (header :: headers) key (instanceItems catalog settings machine)

/-- The number is enough for each of the machines, and one of them has it. -/
structure Largest (printed : Machine → Option String) (machines : List Machine) (n : Nat) :
    Prop where
  enough : ∀ machine ∈ machines, ∃ m ≤ n, printed machine = some (toString m)
  needed : ∃ machine ∈ machines, printed machine = some (toString n)

/-- The block of a group agrees with the instances of its members. -/
structure Agrees (inventory : Inventory) (catalog : Image.Catalog) (settings : Settings)
    (entry : String × List String) (plan : GroupPlan) (items : List Item) : Prop where
  block : plan.block settings = render (resource groupType (quote plan.name)) items
  name : plan.name = Name.unquote entry.1
  sized : ∀ machine ∈ members inventory entry.2, Size.ofMachine machine = .ok machine.size
  cores : valueAt ["instance_template", "resources"] "cores" items =
    some (toString plan.size.cores)
  memory : valueAt ["instance_template", "resources"] "memory" items =
    some (toString plan.size.memory)
  largestCores : Largest (alone catalog settings "resources" [] "cores")
    (members inventory entry.2) plan.size.cores
  largestMemory : Largest (alone catalog settings "resources" [] "memory")
    (members inventory entry.2) plan.size.memory
  nat : valueAt ["instance_template", "network_interface"] "nat" items = some "true" ↔
    ∃ machine ∈ members inventory entry.2,
      alone catalog settings "network_interface" [] "nat" machine = some "true"
  image : ∃ id, valueAt ["instance_template", "boot_disk", "initialize_params"] "image_id" items =
      some (quote id) ∧
    (∃ machine ∈ members inventory entry.2, machine.image? catalog = some id) ∧
    ((∀ machine ∈ members inventory entry.2, ∀ other ∈ members inventory entry.2,
        machine.attribute? "os_id" = other.attribute? "os_id") →
      ∀ machine ∈ members inventory entry.2, machine.image? catalog = some id ∧
        alone catalog settings "boot_disk" ["initialize_params"] "image_id" machine =
          some (quote id))
  permuted : ∀ references, references.Perm entry.2 →
    (Size.zero.supOf (members inventory references)).map Size.rounded = .ok plan.size ∧
      (members inventory references).any Machine.usesNat = plan.nat

/-! ## Instances -/

theorem block?_optionalItems (machine : Machine) (header : String) :
    (optionalItems machine).findSome? (Item.block? header) = none := by
  rw [List.findSome?_eq_none_iff]
  intro item hitem
  unfold optionalItems at hitem
  simp only [List.mem_append, List.mem_map] at hitem
  rcases hitem with (⟨_, _, heq⟩ | ⟨_, _, heq⟩) | ⟨_, _, heq⟩
  · rw [← heq]
    rfl
  · rw [← heq]
    rfl
  · rw [← heq]
    rfl

/-- The lines that an instance may have or not are no blocks. -/
theorem alone_eq (header : String) (headers : List String) (key : String) (machine : Machine) :
    alone catalog settings header headers key machine =
      valueAt (header :: headers) key
        [bootDisk ((machine.image? catalog).getD ""), instanceInterface settings machine,
          instanceResources machine.size.rounded] := by
  rw [alone, instanceItems, valueAt, List.findSome?_append, block?_optionalItems]
  rfl

theorem alone_cores (machine : Machine) :
    alone catalog settings "resources" [] "cores" machine =
      some (toString machine.size.rounded.cores) := by
  rw [alone_eq]
  rfl

theorem alone_memory (machine : Machine) :
    alone catalog settings "resources" [] "memory" machine =
      some (toString machine.size.rounded.memory) := by
  rw [alone_eq]
  rfl

theorem value_natItems_iff (nat : Bool) :
    (natItems nat).findSome? (Item.attribute? "nat") = some "true" ↔ nat = true := by
  cases nat with
  | false => simp [natItems]
  | true => simp [natItems, Item.attribute?]

theorem alone_nat_iff (machine : Machine) :
    alone catalog settings "network_interface" [] "nat" machine = some "true" ↔
      machine.usesNat = true := by
  rw [alone_eq]
  exact value_natItems_iff machine.usesNat

theorem alone_image (machine : Machine) :
    alone catalog settings "boot_disk" ["initialize_params"] "image_id" machine =
      some (quote ((machine.image? catalog).getD "")) := by
  rw [alone_eq]
  rfl

/-! ## The largest size -/

theorem largest_of_rounded {printed : Machine → Option String} {f : Machine → Nat}
    (hprinted : ∀ machine, printed machine = some (toString (roundUpToEven (f machine))))
    (hmachines : machines ≠ []) :
    Largest printed machines (roundUpToEven ((machines.map f).foldr max 0)) := by
  constructor
  · intro machine hmachine
    have hle : f machine ≤ (machines.map f).foldr max 0 :=
      List.le_max_of_le' 0 (List.mem_map_of_mem hmachine) le_rfl
    exact ⟨_, roundUpToEven_le hle, hprinted machine⟩
  · have hne : machines.map f ≠ [] := by
      simpa using hmachines
    have hmem : (machines.map f).foldr max 0 ∈ machines.map f :=
      List.maximum_mem (List.foldr_max_of_ne_nil hne).symm
    rcases List.mem_map.mp hmem with ⟨machine, hmachine, heq⟩
    exact ⟨machine, hmachine, heq ▸ hprinted machine⟩

theorem largest_perm {more : List Machine} (hperm : machines.Perm more) :
    Size.largest machines = Size.largest more := by
  have hmax : ∀ f : Machine → Nat,
      (machines.map f).foldr max 0 = (more.map f).foldr max 0 := by
    intro f
    apply (hperm.map f).foldr_eq'
    intro a _ b _ c
    exact max_left_comm b a c
  unfold Size.largest
  rw [hmax, hmax]

/-! ## Groups -/

theorem agrees_of_planned {entry : String × List String} {plan : GroupPlan}
    (hplan : Planned inventory catalog entry plan) :
    ∃ items, Agrees inventory catalog settings entry plan items := by
  rcases hplan.image with ⟨tag, htag, himage⟩
  rcases List.mem_filterMap.mp htag with ⟨member, hmember, hown⟩
  have hmachines : members inventory entry.2 ≠ [] := List.ne_nil_of_mem hmember
  have hmemberImage : member.image? catalog = some plan.image := by
    rw [Machine.image?, hown, Option.bind_some, himage]
  -- The items are read off the block.
  apply Exists.intro
  constructor
  case block => rfl
  case name => exact hplan.name
  case sized =>
    intro machine hmachine
    exact Size.ofMachine_eq_ok_iff.mpr ⟨hplan.sized machine hmachine, rfl⟩
  case cores => rfl
  case memory => rfl
  case largestCores =>
    rw [hplan.size]
    exact largest_of_rounded alone_cores hmachines
  case largestMemory =>
    rw [hplan.size]
    exact largest_of_rounded alone_memory hmachines
  case nat =>
    have hnat : (plan.nat = true) ↔ ∃ machine ∈ members inventory entry.2,
        alone catalog settings "network_interface" [] "nat" machine = some "true" := by
      rw [hplan.nat, List.any_eq_true]
      simp only [alone_nat_iff]
    exact (value_natItems_iff plan.nat).trans hnat
  case image =>
    refine ⟨plan.image, rfl, ⟨member, hmember, hmemberImage⟩, ?_⟩
    intro hsame machine hmachine
    have hown' : machine.image? catalog = some plan.image := by
      rw [Machine.image?, hsame machine hmachine member hmember]
      exact hmemberImage
    refine ⟨hown', ?_⟩
    rw [alone_image, hown', Option.getD_some]
  case permuted =>
    intro references hperm
    have hmembers : (members inventory references).Perm (members inventory entry.2) :=
      hperm.filterMap _
    have hsized : ∀ machine ∈ members inventory references, machine.Sized := by
      intro machine hmachine
      exact hplan.sized machine (hmembers.mem_iff.mp hmachine)
    have hsize : Size.zero.supOf (members inventory references) =
        .ok (Size.largest (members inventory references)) := by
      rw [Size.supOf_eq_ok_iff, Size.zero_sup]
      exact ⟨hsized, rfl⟩
    rw [hsize, hplan.size, hplan.nat, largest_perm hmembers]
    exact ⟨rfl, hmembers.any_eq⟩

theorem written_singleInstance {σ : Type} (op : Operator σ) (room : Room) (s : σ)
    {machine : Machine}
    (houtcome : ((singleInstance catalog settings machine).run op room s).outcome = .ok ()) :
    ((singleInstance catalog settings machine).run op room s).written =
      instancePieces catalog settings machine :=
  (emits_singleInstance.after_run op room s houtcome).1

/-- However a run ends, the blocks that it wrote for groups are those of the first groups, and
each of them agrees with the instances of its members.  The instance of a machine is what is
written for the machine alone. -/
theorem groups_agree {σ : Type} (op : Operator σ) (room : Room) (s : σ) (inventory : Inventory)
    (catalog : Image.Catalog) (settings : Settings) :
    (∃ done plans, done <+: inventory.groups.entries ∧
      opening groupType ((configuration inventory catalog settings).run op room s).written =
        plans.map (GroupPlan.block settings) ∧
      List.Forall₂ (fun entry plan => ∃ items,
        Agrees inventory catalog settings entry plan items) done plans) ∧
    ∀ machine : Machine,
      ((singleInstance catalog settings machine).run op room s).outcome = .ok () →
      ((singleInstance catalog settings machine).run op room s).written =
        instanceHeader machine ::
          ((instanceItems catalog settings machine).map (Item.render 1) ++ [topClose]) := by
  constructor
  · have hwritten := (written_configuration op room s inventory catalog settings).1
    rcases opening_group_of_stopsWith hwritten with ⟨done, plans, hdone, hplans, hopening⟩
    exact ⟨done, plans, hdone, hopening, hplans.imp fun _ _ => agrees_of_planned⟩
  · intro machine houtcome
    exact written_singleInstance op room s houtcome

end Generate

end CloudLift
