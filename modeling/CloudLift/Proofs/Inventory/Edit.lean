import CloudLift.Proofs.Inventory.Account
import CloudLift.Proofs.Inventory.Restriction

/-!
# Inventories that are made by edits

An inventory is made by four operations, in any order and with any slots.  An edit of a
slot that holds no machine changes nothing.  What the operations keep is said by
`Inventory.Linked`: the groups and the machines refer to each other in both directions.

A machine is never taken away and its reference never changes, so a member that was added
to a group once can be looked up for ever.
-/

namespace CloudLift

inductive Edit where
  | declare (reference : String)
  | addAdapter (slot : Nat)
  | setAttribute (slot : Nat) (key value : String)
  | setAdapterAttribute (slot : Nat) (key value : String)
  deriving DecidableEq, Repr

namespace Inventory

def edit (inventory : Inventory) : Edit → Inventory
  | .declare reference => inventory.declare reference
  | .addAdapter slot => inventory.addAdapter slot
  | .setAttribute slot key value => inventory.setAttribute slot key value
  | .setAdapterAttribute slot key value => inventory.setAdapterAttribute slot key value

def edited (edits : List Edit) : Inventory :=
  edits.foldl edit empty

end Inventory

/-! ## Machines -/

theorem getElem?_concat {α : Type} (items : List α) (last : α) (i : Nat) :
    (items ++ [last])[i]? = if i = items.length then some last else items[i]? := by
  rcases Nat.lt_trichotomy i items.length with hlt | heq | hgt
  · rw [if_neg (Nat.ne_of_lt hlt), List.getElem?_append_left hlt]
  · rw [if_pos heq, heq, List.getElem?_concat_length]
  · have hlength : (items ++ [last]).length ≤ i := by
      rw [List.length_append, List.length_singleton]
      exact hgt
    rw [if_neg (Nat.ne_of_gt hgt), List.getElem?_eq_none hlength,
      List.getElem?_eq_none (Nat.le_of_lt hgt)]

theorem mem_modify {α : Type} {f : α → α} {items : List α} {slot : Nat} {a : α}
    (hmem : a ∈ items.modify slot f) :
    a ∈ items ∨ ∃ item, items[slot]? = some item ∧ a = f item := by
  have hget := List.mem_iff_getElem?.mp hmem
  rcases hget with ⟨i, hi⟩
  rw [List.getElem?_modify] at hi
  cases hitem : items[i]? with
  | none => simp [hitem] at hi
  | some item =>
    by_cases hslot : slot = i
    · have heq : f item = a := by
        simpa [hitem, hslot] using hi
      exact .inr ⟨item, hslot ▸ hitem, heq.symm⟩
    · have heq : item = a := by
        simpa [hitem, hslot] using hi
      exact .inl (heq ▸ List.mem_of_getElem? hitem)

theorem map_modify_of_keeps {α β : Type} {f : α → α} {g : α → β}
    (hkeeps : ∀ a, g (f a) = g a) (items : List α) (slot : Nat) :
    (items.modify slot f).map g = items.map g := by
  have hcommute : (items.modify slot f).map g = (items.map g).modify slot id :=
    map_modify_of_commute hkeeps items slot
  rw [hcommute, List.modify_id]

namespace Machine

/-- Each adapter has its position as its index. -/
def Numbered (machine : Machine) : Prop :=
  ∀ (i : Nat) (adapter : Adapter), machine.adapters[i]? = some adapter → adapter.index = i

theorem numbered_named (reference : String) : (named reference).Numbered := by
  intro i adapter hadapter
  simp [named] at hadapter

theorem Numbered.addAdapter {machine : Machine} (hnumbered : machine.Numbered) :
    machine.addAdapter.Numbered := by
  intro i adapter hadapter
  have happend : (machine.adapters ++ [⟨machine.adapters.length, .empty⟩])[i]? =
      some adapter := hadapter
  rw [getElem?_concat] at happend
  by_cases hlast : i = machine.adapters.length
  · rw [if_pos hlast, Option.some.injEq] at happend
    rw [← happend, hlast]
  · rw [if_neg hlast] at happend
    exact hnumbered i adapter happend

theorem Numbered.setAdapterAttribute {machine : Machine} (hnumbered : machine.Numbered)
    (key value : String) : (machine.setAdapterAttribute key value).Numbered := by
  intro i adapter hadapter
  have hindex : (machine.setAdapterAttribute key value).adapters.map Adapter.index =
      machine.adapters.map Adapter.index := by
    unfold Machine.setAdapterAttribute
    apply map_modify_of_keeps
    intro other
    rfl
  have hget := congrArg (fun indices => indices[i]?) hindex
  simp only [List.getElem?_map, hadapter, Option.map_some] at hget
  rcases Option.map_eq_some_iff.mp hget.symm with ⟨old, hold, heq⟩
  rw [← heq]
  exact hnumbered i old hold

theorem attribute?_setAttribute (machine : Machine) (key value other : String) :
    (machine.setAttribute key value).attribute? other =
      if other = key then some value else machine.attribute? other :=
  Table.find?_insert _ _ _ _

end Machine

namespace Inventory

/-! ## Groups -/

theorem machines_setAttribute (inventory : Inventory) (slot : Nat) (key value : String) :
    (inventory.setAttribute slot key value).machines =
      inventory.machines.modify slot fun machine => machine.setAttribute key value := by
  unfold setAttribute
  cases hmachine : inventory.machines[slot]? with
  | none =>
    have hlength : inventory.machines.length ≤ slot := List.getElem?_eq_none_iff.mp hmachine
    exact (List.modify_eq_self hlength).symm
  | some machine =>
    dsimp only
    split
    · rfl
    · rfl

theorem groups_setAttribute_of_ne (inventory : Inventory) (slot : Nat) {key : String}
    (hkey : key ≠ "group") (value : String) :
    (inventory.setAttribute slot key value).groups = inventory.groups := by
  unfold setAttribute
  cases inventory.machines[slot]? with
  | none => rfl
  | some machine =>
    dsimp only
    rw [if_neg hkey]

theorem group?_join (inventory : Inventory) (group reference other : String) :
    (inventory.join group reference).group? other =
      if other = group then some ((inventory.group? group).getD [] ++ [reference])
      else inventory.group? other :=
  Table.find?_alter _ _ _ _

/-- No group is listed twice or without members, every member is the reference of a machine,
and a machine with a group is among its members. -/
structure Linked (inventory : Inventory) : Prop where
  names : inventory.groups.keys.Nodup
  members : ∀ group references, inventory.group? group = some references →
    references ≠ [] ∧
      ∀ reference ∈ references, reference ∈ inventory.machines.map Machine.reference
  numbered : ∀ machine ∈ inventory.machines, machine.Numbered
  joined : ∀ machine ∈ inventory.machines, ∀ group,
    machine.attribute? "group" = some group →
      ∃ references, inventory.group? group = some references ∧
        machine.reference ∈ references

theorem linked_empty : Linked empty := by
  constructor
  · exact List.nodup_nil
  · intro group references hgroup
    simp [group?, empty] at hgroup
  · intro machine hmachine
    cases hmachine
  · intro machine hmachine
    cases hmachine

namespace Linked

variable {inventory : Inventory}

theorem declare (hlinked : inventory.Linked) (reference : String) :
    (inventory.declare reference).Linked := by
  constructor
  · exact hlinked.names
  · intro group references hgroup
    have hold := hlinked.members group references hgroup
    refine ⟨hold.1, ?_⟩
    intro member hmember
    have hmachine := hold.2 member hmember
    rw [Inventory.declare, List.map_append]
    exact List.mem_append_left _ hmachine
  · intro machine hmachine
    rcases List.mem_append.mp hmachine with hold | hnew
    · exact hlinked.numbered machine hold
    · rw [List.mem_singleton.mp hnew]
      exact Machine.numbered_named reference
  · intro machine hmachine group hgroup
    rcases List.mem_append.mp hmachine with hold | hnew
    · exact hlinked.joined machine hold group hgroup
    · rw [List.mem_singleton.mp hnew] at hgroup
      simp [Machine.named, Machine.attribute?] at hgroup

/-- A change of one machine, whose group then has to have the machine as a member. -/
theorem modify (hlinked : inventory.Linked) {f : Machine → Machine}
    (hreference : ∀ machine, (f machine).reference = machine.reference)
    (hnumbered : ∀ machine : Machine, machine.Numbered → (f machine).Numbered) {slot : Nat}
    (hjoined : ∀ machine, inventory.machines[slot]? = some machine → ∀ group,
      (f machine).attribute? "group" = some group →
        ∃ references, inventory.group? group = some references ∧
          machine.reference ∈ references) :
    Linked { inventory with machines := inventory.machines.modify slot f } := by
  have hreferences : (inventory.machines.modify slot f).map Machine.reference =
      inventory.machines.map Machine.reference :=
    map_modify_of_keeps hreference inventory.machines slot
  constructor
  · exact hlinked.names
  · intro group references hreferences'
    rw [hreferences]
    exact hlinked.members group references hreferences'
  · intro machine hmachine
    rcases mem_modify hmachine with hold | ⟨old, hold, heq⟩
    · exact hlinked.numbered machine hold
    · rw [heq]
      exact hnumbered old (hlinked.numbered old (List.mem_of_getElem? hold))
  · intro machine hmachine group hgroup
    rcases mem_modify hmachine with hold | ⟨old, hold, heq⟩
    · exact hlinked.joined machine hold group hgroup
    · rw [heq] at hgroup
      rw [heq, hreference]
      exact hjoined old hold group hgroup

/-- A change of one machine that has nothing to do with groups. -/
theorem modify_apart (hlinked : inventory.Linked) {f : Machine → Machine}
    (hreference : ∀ machine, (f machine).reference = machine.reference)
    (hnumbered : ∀ machine : Machine, machine.Numbered → (f machine).Numbered)
    (hgroup : ∀ machine, (f machine).attribute? "group" = machine.attribute? "group")
    (slot : Nat) :
    Linked { inventory with machines := inventory.machines.modify slot f } := by
  apply hlinked.modify hreference hnumbered
  intro machine hmachine group hsame
  rw [hgroup] at hsame
  exact hlinked.joined machine (List.mem_of_getElem? hmachine) group hsame

theorem join (hlinked : inventory.Linked) {reference : String}
    (hreference : reference ∈ inventory.machines.map Machine.reference) (group : String) :
    (inventory.join group reference).Linked := by
  constructor
  · exact Table.nodup_keys_alter hlinked.names group _
  · intro name references hname
    rw [group?_join] at hname
    by_cases heq : name = group
    · rw [if_pos heq, Option.some.injEq] at hname
      rw [← hname]
      refine ⟨by simp, ?_⟩
      intro member hmember
      rcases List.mem_append.mp hmember with hold | hnew
      · cases hgroup : inventory.group? group with
        | none => simp [hgroup] at hold
        | some old =>
          rw [hgroup, Option.getD_some] at hold
          exact (hlinked.members group old hgroup).2 member hold
      · rw [List.mem_singleton.mp hnew]
        exact hreference
    · rw [if_neg heq] at hname
      exact hlinked.members name references hname
  · exact hlinked.numbered
  · intro machine hmachine name hname
    rcases hlinked.joined machine hmachine name hname with ⟨references, hreferences, hmember⟩
    rw [group?_join]
    by_cases heq : name = group
    · rw [if_pos heq, ← heq, hreferences]
      exact ⟨_, rfl, List.mem_append_left _ hmember⟩
    · rw [if_neg heq]
      exact ⟨references, hreferences, hmember⟩

/-- The machine at the slot joins a group and leaves none. -/
theorem setGroup (hlinked : inventory.Linked) {slot : Nat} {machine : Machine}
    (hmachine : inventory.machines[slot]? = some machine) (group : String) :
    (inventory.setAttribute slot "group" group).Linked := by
  have hown : machine.reference ∈ inventory.machines.map Machine.reference :=
    List.mem_map_of_mem (List.mem_of_getElem? hmachine)
  -- The machine joins before it is changed, so the groups are right all the time.
  have hset : inventory.setAttribute slot "group" group =
      { machines := inventory.machines.modify slot fun m => m.setAttribute "group" group
        groups := (inventory.join group machine.reference).groups } := by
    simp [Inventory.setAttribute, hmachine, Inventory.join]
  rw [hset]
  apply (hlinked.join hown group).modify (f := fun m => m.setAttribute "group" group)
    (fun _ => rfl) (fun _ hnumbered => hnumbered)
  intro other hother name hname
  have hsame : other = machine := Option.some.inj (hother.symm.trans hmachine)
  rw [Machine.attribute?_setAttribute, if_pos rfl, Option.some.injEq] at hname
  rw [hsame, group?_join, if_pos hname.symm]
  exact ⟨_, rfl, List.mem_append_right _ (List.mem_singleton_self _)⟩

theorem setAttribute (hlinked : inventory.Linked) (slot : Nat) (key value : String) :
    (inventory.setAttribute slot key value).Linked := by
  by_cases hkey : key = "group"
  · rw [hkey]
    cases hmachine : inventory.machines[slot]? with
    | none =>
      have hsame : inventory.setAttribute slot "group" value = inventory := by
        simp [Inventory.setAttribute, hmachine]
      rw [hsame]
      exact hlinked
    | some machine => exact hlinked.setGroup hmachine value
  · have hchanged := hlinked.modify_apart (f := fun machine => machine.setAttribute key value)
      (fun _ => rfl) (fun _ hnumbered => hnumbered)
      (fun machine => by rw [Machine.attribute?_setAttribute, if_neg (Ne.symm hkey)]) slot
    rw [← machines_setAttribute, ← groups_setAttribute_of_ne inventory slot hkey value] at hchanged
    exact hchanged

theorem edit (hlinked : inventory.Linked) (change : Edit) : (inventory.edit change).Linked := by
  cases change with
  | declare reference => exact hlinked.declare reference
  | addAdapter slot =>
    exact hlinked.modify_apart (f := Machine.addAdapter) (fun _ => rfl)
      (fun _ hnumbered => hnumbered.addAdapter) (fun _ => rfl) slot
  | setAttribute slot key value => exact hlinked.setAttribute slot key value
  | setAdapterAttribute slot key value =>
    exact hlinked.modify_apart (f := fun machine => machine.setAdapterAttribute key value)
      (fun _ => rfl) (fun _ hnumbered => hnumbered.setAdapterAttribute key value)
      (fun _ => rfl) slot

end Linked

theorem linked_edited (edits : List Edit) : (edited edits).Linked := by
  have hfold : ∀ inventory : Inventory, inventory.Linked →
      (edits.foldl edit inventory).Linked := by
    induction edits with
    | nil => exact fun _ hlinked => hlinked
    | cons change edits ih =>
      intro inventory hlinked
      exact ih _ (hlinked.edit change)
  exact hfold empty linked_empty

/-! ## Looking machines and groups up -/

theorem machine?_eq_none_iff {inventory : Inventory} {reference : String} :
    inventory.machine? reference = none ↔
      reference ∉ inventory.machines.map Machine.reference := by
  rw [machine?, List.find?_eq_none, List.mem_map]
  constructor
  · intro hnone hmem
    rcases hmem with ⟨machine, hmachine, heq⟩
    have hdiffers := hnone machine (List.mem_reverse.mpr hmachine)
    exact hdiffers (beq_of_eq heq)
  · intro hnone machine hmachine hreference
    exact hnone ⟨machine, List.mem_reverse.mp hmachine, eq_of_beq hreference⟩

theorem finds_iff {inventory : Inventory} {reference : String} {slot : Nat} :
    inventory.Finds reference slot ↔
      (∃ machine, inventory.machines[slot]? = some machine ∧ machine.reference = reference) ∧
        ∀ (later : Nat) (other : Machine), slot < later →
          inventory.machines[later]? = some other → other.reference ≠ reference := by
  apply and_congr
  · rw [Option.map_eq_some_iff]
  · rw [List.mem_map]
    constructor
    · intro hnone later other hlater hother hreference
      have hdrop : (inventory.machines.drop (slot + 1))[later - (slot + 1)]? = some other := by
        rw [List.getElem?_drop, Nat.add_sub_cancel' hlater, hother]
      exact hnone ⟨other, List.mem_of_getElem? hdrop, hreference⟩
    · intro hnone hmem
      rcases hmem with ⟨other, hother, hreference⟩
      rcases List.mem_iff_getElem?.mp hother with ⟨i, hi⟩
      rw [List.getElem?_drop] at hi
      exact hnone (slot + 1 + i) other (by omega) hi hreference

/-- What can be relied on in an inventory, in the words of its lists and lookups. -/
structure Consistent (inventory : Inventory) : Prop where
  names : inventory.groups.keys.Nodup
  listed : ∀ name references, inventory.group? name = some references ↔
    (name, references) ∈ inventory.groups.entries
  populated : ∀ entry ∈ inventory.groups.entries, entry.2 ≠ []
  resolved : ∀ entry ∈ inventory.groups.entries, ∀ reference ∈ entry.2,
    ∃ machine, inventory.machine? reference = some machine
  latest : ∀ reference machine, inventory.machine? reference = some machine ↔
    ∃ slot : Nat, inventory.machines[slot]? = some machine ∧
      machine.reference = reference ∧
      ∀ (later : Nat) (other : Machine), slot < later →
        inventory.machines[later]? = some other → other.reference ≠ reference
  absent : ∀ reference, inventory.machine? reference = none ↔
    reference ∉ inventory.machines.map Machine.reference
  numbered : ∀ machine ∈ inventory.machines, machine.Numbered
  joined : ∀ machine ∈ inventory.machines, ∀ group,
    machine.attribute? "group" = some group →
      ∃ references, (group, references) ∈ inventory.groups.entries ∧
        machine.reference ∈ references

theorem Linked.consistent {inventory : Inventory} (hlinked : inventory.Linked) :
    inventory.Consistent := by
  have hlisted : ∀ name references, inventory.group? name = some references ↔
      (name, references) ∈ inventory.groups.entries :=
    fun name references => Table.find?_eq_some_iff_mem hlinked.names
  constructor
  · exact hlinked.names
  · exact hlisted
  · intro entry hentry
    exact (hlinked.members entry.1 entry.2 ((hlisted _ _).mpr hentry)).1
  · intro entry hentry reference hreference
    have hmember := (hlinked.members entry.1 entry.2 ((hlisted _ _).mpr hentry)).2
      reference hreference
    cases hmachine : inventory.machine? reference with
    | none => exact absurd hmember (machine?_eq_none_iff.mp hmachine)
    | some machine => exact ⟨machine, rfl⟩
  · intro reference machine
    rw [machine?_eq_some_iff]
    constructor
    · intro hfound
      rcases hfound with ⟨slot, hslot, hfinds⟩
      rcases finds_iff.mp hfinds with ⟨⟨other, hother, hreference⟩, hlater⟩
      have hsame : other = machine := Option.some.inj (hother.symm.trans hslot)
      exact ⟨slot, hslot, hsame ▸ hreference, hlater⟩
    · intro hfound
      rcases hfound with ⟨slot, hslot, hreference, hlater⟩
      exact ⟨slot, hslot, finds_iff.mpr ⟨⟨machine, hslot, hreference⟩, hlater⟩⟩
  · intro reference
    exact machine?_eq_none_iff
  · exact hlinked.numbered
  · intro machine hmachine group hgroup
    rcases hlinked.joined machine hmachine group hgroup with ⟨references, hreferences, hmember⟩
    exact ⟨references, (hlisted _ _).mp hreferences, hmember⟩

end Inventory

end CloudLift
