import CloudLift.Proofs.Inventory.Edit

/-!
# Inventories with indexes

An arena holds machines and groups in two lists, each with an index from names to slots, and
every lookup by name goes through an index.  The edits keep the indexes up to date: a new
machine takes over its reference, and a new group takes the next slot.

`Arena.Represents` says that an arena is as good as an inventory, which has no indexes and
searches its lists.  Edits lead from there to there, so both make the same inventory.
-/

namespace CloudLift

structure Group where
  name : String
  members : List String
  deriving DecidableEq, Repr

namespace Group

def add (group : Group) (reference : String) : Group :=
  { group with members := group.members ++ [reference] }

def entry (group : Group) : String × List String :=
  (group.name, group.members)

end Group

structure Arena where
  machines : List Machine
  /-- The slot of a machine, by its reference. -/
  slots : Table Nat
  groups : List Group
  /-- The slot of a group, by its name. -/
  groupSlots : Table Nat

namespace Arena

def empty : Arena :=
  ⟨[], .empty, [], .empty⟩

def declare (arena : Arena) (reference : String) : Arena :=
  { arena with
    machines := arena.machines ++ [Machine.named reference]
    slots := arena.slots.insert reference arena.machines.length }

def modifyMachine (arena : Arena) (slot : Nat) (f : Machine → Machine) : Arena :=
  { arena with machines := arena.machines.modify slot f }

/-- The slot of a group; a group that is new is listed last, without members. -/
def openGroup (arena : Arena) (name : String) : Arena × Nat :=
  match arena.groupSlots.find? name with
  | some slot => (arena, slot)
  | none =>
    ({ arena with
        groups := arena.groups ++ [⟨name, []⟩]
        groupSlots := arena.groupSlots.insert name arena.groups.length },
      arena.groups.length)

def join (arena : Arena) (name reference : String) : Arena :=
  let (opened, slot) := arena.openGroup name
  { opened with groups := opened.groups.modify slot fun group => group.add reference }

def setAttribute (arena : Arena) (slot : Nat) (key value : String) : Arena :=
  match arena.machines[slot]? with
  | none => arena
  | some machine =>
    let changed := arena.modifyMachine slot fun m => m.setAttribute key value
    if key = "group" then changed.join value machine.reference else changed

def edit (arena : Arena) : Edit → Arena
  | .declare reference => arena.declare reference
  | .addAdapter slot => arena.modifyMachine slot Machine.addAdapter
  | .setAttribute slot key value => arena.setAttribute slot key value
  | .setAdapterAttribute slot key value =>
    arena.modifyMachine slot fun m => m.setAdapterAttribute key value

def edited (edits : List Edit) : Arena :=
  edits.foldl edit empty

def machine? (arena : Arena) (reference : String) : Option Machine :=
  (arena.slots.find? reference).bind fun slot => arena.machines[slot]?

def group? (arena : Arena) (name : String) : Option Group :=
  (arena.groupSlots.find? name).bind fun slot => arena.groups[slot]?

end Arena

/-! ## Slots of references -/

namespace Inventory

theorem finds_congr {inventory other : Inventory}
    (hreferences : inventory.machines.map Machine.reference =
      other.machines.map Machine.reference) (reference : String) (slot : Nat) :
    inventory.Finds reference slot ↔ other.Finds reference slot := by
  rw [Finds, Finds, ← List.getElem?_map, ← List.getElem?_map, List.map_drop, List.map_drop,
    hreferences]

theorem Finds.lt_length {inventory : Inventory} {reference : String} {slot : Nat}
    (hfinds : inventory.Finds reference slot) : slot < inventory.machines.length := by
  rcases Option.map_eq_some_iff.mp hfinds.1 with ⟨machine, hmachine, -⟩
  exact (List.getElem?_eq_some_iff.mp hmachine).1

theorem finds_declare_iff {inventory : Inventory} {reference other : String} {slot : Nat} :
    (inventory.declare reference).Finds other slot ↔
      if other = reference then slot = inventory.machines.length
      else inventory.Finds other slot := by
  have hmachines : (inventory.declare reference).machines =
      inventory.machines ++ [Machine.named reference] := rfl
  rcases Nat.lt_trichotomy slot inventory.machines.length with hlt | heq | hgt
  · have hslot : (inventory.machines ++ [Machine.named reference])[slot]? =
        inventory.machines[slot]? :=
      List.getElem?_append_left hlt
    have hdrop : (inventory.machines ++ [Machine.named reference]).drop (slot + 1) =
        inventory.machines.drop (slot + 1) ++ [Machine.named reference] :=
      List.drop_append_of_le_length (Nat.succ_le_of_lt hlt)
    have hne : slot ≠ inventory.machines.length := Nat.ne_of_lt hlt
    rw [Finds, hmachines, hslot, hdrop, List.map_append, List.mem_append, not_or]
    by_cases hother : other = reference
    · simp [hother, hne, Machine.named]
    · simp [hother, Machine.named, Finds]
  · have hslot : (inventory.machines ++ [Machine.named reference])[slot]? =
        some (Machine.named reference) := by
      rw [heq, List.getElem?_concat_length]
    have hdrop : (inventory.machines ++ [Machine.named reference]).drop (slot + 1) = [] := by
      apply List.drop_of_length_le
      simp [heq]
    have hnot : ¬ inventory.Finds other slot := by
      intro hfinds
      exact absurd hfinds.lt_length (by omega)
    rw [Finds, hmachines, hslot, hdrop]
    by_cases hother : other = reference
    · simp [hother, heq, Machine.named]
    · simp [hother, Ne.symm hother, Machine.named, hnot]
  · have hnot : ¬ (inventory.declare reference).Finds other slot := by
      intro hfinds
      have hlt := hfinds.lt_length
      rw [hmachines, List.length_append, List.length_singleton] at hlt
      omega
    have hnot' : ¬ inventory.Finds other slot := by
      intro hfinds
      exact absurd hfinds.lt_length (by omega)
    have hne : slot ≠ inventory.machines.length := by omega
    simp [hnot, hnot', hne]

end Inventory

namespace Arena

/-! ## Arenas and inventories -/

/-- The lists are the same, and each index has exactly the slots that a search finds. -/
structure Represents (arena : Arena) (inventory : Inventory) : Prop where
  machines : arena.machines = inventory.machines
  groups : arena.groups.map Group.entry = inventory.groups.entries
  slots : ∀ reference slot, arena.slots.find? reference = some slot ↔
    inventory.Finds reference slot
  groupSlots : ∀ name slot, arena.groupSlots.find? name = some slot ↔
    arena.groups[slot]?.map Group.name = some name

namespace Represents

variable {arena : Arena} {inventory : Inventory}

theorem machine?_eq (h : arena.Represents inventory) (reference : String) :
    arena.machine? reference = inventory.machine? reference := by
  apply Option.ext
  intro machine
  rw [Inventory.machine?_eq_some_iff, machine?, Option.bind_eq_some_iff]
  constructor
  · intro hfound
    rcases hfound with ⟨slot, hslot, hmachine⟩
    rw [h.machines] at hmachine
    exact ⟨slot, hmachine, (h.slots reference slot).mp hslot⟩
  · intro hfound
    rcases hfound with ⟨slot, hmachine, hfinds⟩
    rw [← h.machines] at hmachine
    exact ⟨slot, (h.slots reference slot).mpr hfinds, hmachine⟩

theorem names (h : arena.Represents inventory) :
    arena.groups.map Group.name = inventory.groups.keys := by
  rw [Table.keys, ← h.groups, List.map_map]
  rfl

/-- Two groups with one name would have to share a slot. -/
theorem nodup_names (h : arena.Represents inventory) : inventory.groups.keys.Nodup := by
  rw [← h.names, List.nodup_iff_getElem?_ne_getElem?]
  intro i j hij hj heq
  have hname := List.getElem?_eq_getElem hj
  have hslot : arena.groupSlots.find? _ = some j :=
    (h.groupSlots _ j).mpr ((List.getElem?_map).symm.trans hname)
  have hother : arena.groupSlots.find? _ = some i :=
    (h.groupSlots _ i).mpr ((List.getElem?_map).symm.trans (heq.trans hname))
  have hsame := Option.some.inj (hslot.symm.trans hother)
  omega

theorem group?_eq (h : arena.Represents inventory) (name : String) :
    (arena.group? name).map Group.entry =
      (inventory.group? name).map fun members => (name, members) := by
  apply Option.ext
  intro entry
  rw [Option.map_eq_some_iff, Option.map_eq_some_iff]
  constructor
  · intro hfound
    rcases hfound with ⟨group, hgroup, hentry⟩
    rcases Option.bind_eq_some_iff.mp hgroup with ⟨slot, hslot, hget⟩
    have hname := (h.groupSlots name slot).mp hslot
    rw [hget, Option.map_some, Option.some.injEq] at hname
    have hlisted : (name, group.members) ∈ inventory.groups.entries := by
      rw [← h.groups, ← hname]
      exact List.mem_map_of_mem (List.mem_of_getElem? hget)
    have hfind : inventory.group? name = some group.members :=
      (Table.find?_eq_some_iff_mem h.nodup_names).mpr hlisted
    exact ⟨group.members, hfind, hname ▸ hentry⟩
  · intro hfound
    rcases hfound with ⟨members, hmembers, hentry⟩
    have hlisted := (Table.find?_eq_some_iff_mem h.nodup_names).mp hmembers
    rw [← h.groups, List.mem_map] at hlisted
    rcases hlisted with ⟨group, hmem, hgroup⟩
    rcases List.mem_iff_getElem?.mp hmem with ⟨slot, hget⟩
    have hslot : arena.groupSlots.find? name = some slot := by
      rw [h.groupSlots, hget, Option.map_some]
      exact congrArg (fun pair => some pair.1) hgroup
    refine ⟨group, ?_, hgroup.trans hentry⟩
    rw [group?, hslot, Option.bind_some, hget]

/-! ## What edits keep -/

theorem declare (h : arena.Represents inventory) (reference : String) :
    (arena.declare reference).Represents (inventory.declare reference) := by
  constructor
  · rw [Arena.declare, h.machines]
    rfl
  · exact h.groups
  · intro other slot
    rw [Inventory.finds_declare_iff, Arena.declare, Table.find?_insert, h.machines]
    by_cases hother : other = reference
    · simp [hother, eq_comm]
    · simp [hother, h.slots]
  · exact h.groupSlots

theorem modifyMachine (h : arena.Represents inventory) {f : Machine → Machine}
    (hreference : ∀ machine, (f machine).reference = machine.reference) (slot : Nat) :
    (arena.modifyMachine slot f).Represents
      { inventory with machines := inventory.machines.modify slot f } := by
  constructor
  · rw [Arena.modifyMachine, h.machines]
  · exact h.groups
  · intro other otherSlot
    have hreferences := map_modify_of_keeps hreference inventory.machines slot
    have hslots : arena.slots.find? other = some otherSlot ↔
        inventory.Finds other otherSlot := h.slots other otherSlot
    exact hslots.trans (Inventory.finds_congr hreferences.symm other otherSlot)
  · exact h.groupSlots

theorem join_known (h : arena.Represents inventory) {name : String} {slot : Nat}
    (hslot : arena.groupSlots.find? name = some slot) (reference : String) :
    (arena.join name reference).Represents (inventory.join name reference) := by
  have hjoin : arena.join name reference =
      { arena with groups := arena.groups.modify slot fun group => group.add reference } := by
    rw [join, openGroup, hslot]
  rcases Option.map_eq_some_iff.mp ((h.groupSlots name slot).mp hslot) with
    ⟨group, hgroup, hname⟩
  have hentry : inventory.groups.entries[slot]? = some (name, group.members) := by
    rw [← h.groups, List.getElem?_map, hgroup, Option.map_some, Group.entry, hname]
  rw [hjoin]
  constructor
  · exact h.machines
  · rw [Inventory.join, Table.alter, Table.alterEntries_of_getElem? h.nodup_names hentry,
      ← h.groups]
    apply map_modify_of_commute
    intro other
    rfl
  · exact h.slots
  · intro other otherSlot
    have hnames : (arena.groups.modify slot fun group => group.add reference).map Group.name =
        arena.groups.map Group.name := by
      apply map_modify_of_keeps
      intro group
      rfl
    rw [h.groupSlots, ← List.getElem?_map, ← List.getElem?_map, hnames]

theorem join_new (h : arena.Represents inventory) {name : String}
    (hslot : arena.groupSlots.find? name = none) (reference : String) :
    (arena.join name reference).Represents (inventory.join name reference) := by
  have hjoin : arena.join name reference =
      { arena with
        groups := arena.groups ++ [⟨name, [reference]⟩]
        groupSlots := arena.groupSlots.insert name arena.groups.length } := by
    rw [join, openGroup, hslot]
    simp only [modify_concat]
    rfl
  have hname : name ∉ inventory.groups.keys := by
    rw [← h.names]
    intro hmem
    rcases List.mem_iff_getElem?.mp hmem with ⟨slot, hget⟩
    rw [List.getElem?_map, ← h.groupSlots, hslot] at hget
    cases hget
  rw [hjoin]
  constructor
  · exact h.machines
  · rw [Inventory.join, Table.alter, Table.alterEntries_of_notMem hname, List.map_append,
      h.groups]
    rfl
  · exact h.slots
  · intro other slot
    rw [Table.find?_insert, getElem?_concat]
    by_cases hlast : slot = arena.groups.length
    · have hnone : arena.groupSlots.find? other ≠ some slot := by
        rw [Ne, h.groupSlots, hlast, List.getElem?_length]
        simp
      rw [if_pos hlast]
      by_cases hother : other = name
      · simp [hother, hlast]
      · simp [hother, Ne.symm hother, hnone]
    · rw [if_neg hlast, ← h.groupSlots]
      by_cases hother : other = name
      · simp [hother, hslot, Ne.symm hlast]
      · simp [hother]

theorem join (h : arena.Represents inventory) (name reference : String) :
    (arena.join name reference).Represents (inventory.join name reference) := by
  cases hslot : arena.groupSlots.find? name with
  | none => exact h.join_new hslot reference
  | some slot => exact h.join_known hslot reference

theorem setAttribute (h : arena.Represents inventory) (slot : Nat) (key value : String) :
    (arena.setAttribute slot key value).Represents
      (inventory.setAttribute slot key value) := by
  unfold Arena.setAttribute Inventory.setAttribute
  rw [h.machines]
  cases inventory.machines[slot]? with
  | none => exact h
  | some machine =>
    have hchanged := h.modifyMachine (f := fun m => m.setAttribute key value)
      (fun _ => rfl) slot
    dsimp only
    by_cases hkey : key = "group"
    · rw [if_pos hkey, if_pos hkey]
      exact hchanged.join value machine.reference
    · rw [if_neg hkey, if_neg hkey]
      exact hchanged

theorem edit (h : arena.Represents inventory) (change : Edit) :
    (arena.edit change).Represents (inventory.edit change) := by
  cases change with
  | declare reference => exact h.declare reference
  | addAdapter slot => exact h.modifyMachine (f := Machine.addAdapter) (fun _ => rfl) slot
  | setAttribute slot key value => exact h.setAttribute slot key value
  | setAdapterAttribute slot key value =>
    exact h.modifyMachine (f := fun m => m.setAdapterAttribute key value) (fun _ => rfl) slot

end Represents

theorem represents_empty : empty.Represents .empty := by
  constructor
  · rfl
  · rfl
  · intro reference slot
    simp [empty, Inventory.Finds, Inventory.empty]
  · intro name slot
    simp [empty]

theorem represents_edited (edits : List Edit) :
    (edited edits).Represents (Inventory.edited edits) := by
  have hfold : ∀ (arena : Arena) (inventory : Inventory), arena.Represents inventory →
      (edits.foldl edit arena).Represents (edits.foldl Inventory.edit inventory) := by
    induction edits with
    | nil => exact fun _ _ h => h
    | cons change edits ih =>
      intro arena inventory h
      exact ih _ _ (h.edit change)
  exact hfold empty .empty represents_empty

end Arena

end CloudLift
