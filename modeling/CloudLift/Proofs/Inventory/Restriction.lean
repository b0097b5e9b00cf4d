import CloudLift.Inventory.Scan

/-!
# Attributes that are left out

An inventory can be restricted to the attributes with certain keys.  What a line does to
an inventory depends on the groups and on the slots, and not on the attributes that are
there already.  So a scan can be restricted at any point: what is left out before a line
is left out after it as well, and nothing else has changed.

The key `group` has to be kept, since an assignment of it is more than an attribute.
-/

namespace CloudLift

/-! ## Tables -/

namespace Table

variable {α : Type}

/-- The entries whose keys are to be kept. -/
def restrict (keep : String → Bool) (table : Table α) : Table α :=
  ⟨table.entries.filter fun entry => keep entry.1⟩

theorem restrict_restrict (keep : String → Bool) (table : Table α) :
    (table.restrict keep).restrict keep = table.restrict keep := by
  rw [restrict, restrict, List.filter_filter]
  simp only [Bool.and_self]

theorem findIn?_filter {keep : String → Bool} {key : String} (hkey : keep key = true)
    (entries : List (String × α)) :
    findIn? key (entries.filter fun entry => keep entry.1) = findIn? key entries := by
  induction entries with
  | nil => rfl
  | cons entry entries ih =>
    obtain ⟨name, value⟩ := entry
    by_cases hname : keep name = true
    · simp only [List.filter_cons, hname, if_true, findIn?, ih]
    · have hne : ¬ key = name := by
        intro heq
        exact hname (heq ▸ hkey)
      simp only [List.filter_cons, hname, if_false, findIn?, ih, if_neg hne,
        Bool.false_eq_true]

theorem find?_restrict {keep : String → Bool} {key : String} (hkey : keep key = true)
    (table : Table α) : (table.restrict keep).find? key = table.find? key :=
  findIn?_filter hkey table.entries

theorem filter_alterEntries (keep : String → Bool) (key : String) (f : Option α → α)
    (entries : List (String × α)) :
    (alterEntries key f entries).filter (fun entry => keep entry.1) =
      if keep key = true then
        alterEntries key f (entries.filter fun entry => keep entry.1)
      else
        entries.filter fun entry => keep entry.1 := by
  induction entries with
  | nil =>
    by_cases hkey : keep key = true
    · simp [alterEntries, hkey]
    · simp [alterEntries, hkey]
  | cons entry entries ih =>
    obtain ⟨name, value⟩ := entry
    rw [alterEntries]
    by_cases heq : key = name
    · subst heq
      by_cases hkey : keep key = true
      · simp [hkey, alterEntries]
      · simp [hkey]
    · rw [if_neg heq]
      by_cases hname : keep name = true
      · by_cases hkey : keep key = true
        · simp [ih, hname, hkey, alterEntries, heq]
        · simp [ih, hname, hkey]
      · simp [ih, hname]

theorem restrict_insert (keep : String → Bool) (table : Table α) (key : String)
    (value : α) :
    (table.insert key value).restrict keep =
      if keep key = true then (table.restrict keep).insert key value
      else table.restrict keep := by
  have hentries := filter_alterEntries keep key (fun _ => value) table.entries
  by_cases hkey : keep key = true
  · rw [if_pos hkey] at hentries ⊢
    exact congrArg Table.mk hentries
  · rw [if_neg hkey] at hentries ⊢
    exact congrArg Table.mk hentries

end Table

theorem map_modify_of_commute {α β : Type} {f : α → α} {g : β → β} {h : α → β}
    (hcommute : ∀ a, h (f a) = g (h a)) (items : List α) (i : Nat) :
    (items.modify i f).map h = (items.map h).modify i g := by
  apply List.ext_getElem?
  intro j
  simp only [List.getElem?_map, List.getElem?_modify]
  cases items[j]? with
  | none => rfl
  | some item =>
    by_cases hij : i = j
    · simp [hij, hcommute]
    · simp [hij]

/-- A change that shows under a condition only changes the list under that condition. -/
theorem map_modify_ite {α : Type} {f h : α → α} {p : Prop} [Decidable p]
    (hf : ∀ a, h (f a) = if p then f (h a) else h a) (items : List α) (i : Nat) :
    (items.modify i f).map h = if p then (items.map h).modify i f else items.map h := by
  by_cases hp : p
  · simp only [if_pos hp] at hf ⊢
    exact map_modify_of_commute hf items i
  · simp only [if_neg hp] at hf ⊢
    have hid : (items.modify i f).map h = (items.map h).modify i id :=
      map_modify_of_commute hf items i
    rw [hid, List.modify_id]

/-! ## Machines -/

def Adapter.restrict (keep : String → Bool) (adapter : Adapter) : Adapter :=
  { adapter with attributes := adapter.attributes.restrict keep }

namespace Machine

def restrict (keep : String → Bool) (machine : Machine) : Machine :=
  { machine with
    attributes := machine.attributes.restrict keep
    adapters := machine.adapters.map (Adapter.restrict keep) }

theorem restrict_restrict (keep : String → Bool) (machine : Machine) :
    (machine.restrict keep).restrict keep = machine.restrict keep := by
  have hadapter : Adapter.restrict keep ∘ Adapter.restrict keep = Adapter.restrict keep := by
    funext adapter
    simp [Adapter.restrict, Table.restrict_restrict]
  simp [restrict, Table.restrict_restrict, hadapter]

theorem restrict_setAttribute (keep : String → Bool) (machine : Machine)
    (key value : String) :
    (machine.setAttribute key value).restrict keep =
      if keep key = true then (machine.restrict keep).setAttribute key value
      else machine.restrict keep := by
  rw [setAttribute, restrict, Table.restrict_insert]
  by_cases hkey : keep key = true
  · rw [if_pos hkey, if_pos hkey]
    rfl
  · rw [if_neg hkey, if_neg hkey]
    rfl

theorem restrict_addAdapter (keep : String → Bool) (machine : Machine) :
    machine.addAdapter.restrict keep = (machine.restrict keep).addAdapter := by
  simp [addAdapter, restrict, Adapter.restrict, Table.restrict, Table.empty]

theorem restrict_setAdapterAttribute (keep : String → Bool) (machine : Machine)
    (key value : String) :
    (machine.setAdapterAttribute key value).restrict keep =
      if keep key = true then (machine.restrict keep).setAdapterAttribute key value
      else machine.restrict keep := by
  have hadapter (adapter : Adapter) :
      Adapter.restrict keep { adapter with attributes := adapter.attributes.insert key value } =
        if keep key = true then
          { adapter.restrict keep with
            attributes := (adapter.restrict keep).attributes.insert key value }
        else
          adapter.restrict keep := by
    rw [Adapter.restrict, Table.restrict_insert]
    by_cases hkey : keep key = true
    · rw [if_pos hkey, if_pos hkey]
      rfl
    · rw [if_neg hkey, if_neg hkey]
      rfl
  rw [setAdapterAttribute, restrict, map_modify_ite hadapter]
  by_cases hkey : keep key = true
  · rw [if_pos hkey, if_pos hkey]
    simp [setAdapterAttribute, restrict]
  · rw [if_neg hkey, if_neg hkey]
    rfl

end Machine

/-! ## Inventories -/

namespace Inventory

def restrict (keep : String → Bool) (inventory : Inventory) : Inventory :=
  { inventory with machines := inventory.machines.map (Machine.restrict keep) }

variable (keep : String → Bool) (inventory : Inventory)

theorem restrict_restrict :
    (inventory.restrict keep).restrict keep = inventory.restrict keep := by
  have hmachine : Machine.restrict keep ∘ Machine.restrict keep = Machine.restrict keep :=
    funext (Machine.restrict_restrict keep)
  simp [restrict, hmachine]

@[simp] theorem nextSlot_restrict :
    (inventory.restrict keep).nextSlot = inventory.nextSlot := by
  simp [restrict, nextSlot]

@[simp] theorem nextAdapter?_restrict (slot : Nat) :
    (inventory.restrict keep).nextAdapter? slot = inventory.nextAdapter? slot := by
  rw [nextAdapter?, nextAdapter?, restrict, List.getElem?_map, Option.map_map]
  congr 1
  funext machine
  simp [Machine.restrict]

theorem restrict_declare (reference : String) :
    (inventory.declare reference).restrict keep =
      (inventory.restrict keep).declare reference := by
  simp [restrict, declare, Machine.restrict, Machine.named, Table.restrict, Table.empty]

theorem restrict_addAdapter (slot : Nat) :
    (inventory.addAdapter slot).restrict keep = (inventory.restrict keep).addAdapter slot := by
  rw [addAdapter, restrict, map_modify_of_commute (Machine.restrict_addAdapter keep)]
  rfl

theorem restrict_setAdapterAttribute (slot : Nat) (key value : String) :
    (inventory.setAdapterAttribute slot key value).restrict keep =
      if keep key = true then (inventory.restrict keep).setAdapterAttribute slot key value
      else inventory.restrict keep := by
  rw [setAdapterAttribute, restrict, map_modify_ite fun machine =>
    machine.restrict_setAdapterAttribute keep key value]
  by_cases hkey : keep key = true
  · rw [if_pos hkey, if_pos hkey]
    rfl
  · rw [if_neg hkey, if_neg hkey]
    rfl

theorem restrict_setAttribute (hgroup : keep "group" = true) (slot : Nat)
    (key value : String) :
    (inventory.setAttribute slot key value).restrict keep =
      if keep key = true then (inventory.restrict keep).setAttribute slot key value
      else inventory.restrict keep := by
  have hslot : (inventory.restrict keep).machines[slot]? =
      inventory.machines[slot]?.map (Machine.restrict keep) := by
    rw [restrict, List.getElem?_map]
  have hmachines := map_modify_ite
    (fun machine => machine.restrict_setAttribute keep key value) inventory.machines slot
  rw [setAttribute, setAttribute, hslot]
  cases inventory.machines[slot]? with
  | none => simp
  | some machine =>
    dsimp only [Option.map_some]
    by_cases hkey : keep key = true
    · rw [if_pos hkey] at hmachines ⊢
      by_cases hname : key = "group"
      · rw [if_pos hname, if_pos hname, join, restrict, hmachines]
        rfl
      · rw [if_neg hname, if_neg hname, restrict, hmachines]
        rfl
    · have hname : ¬ key = "group" := by
        intro heq
        exact hkey (heq ▸ hgroup)
      rw [if_neg hkey] at hmachines ⊢
      rw [if_neg hname, restrict, hmachines]
      rfl

end Inventory

/-! ## Scans -/

namespace Scan

def restrict (keep : String → Bool) (scan : Scan) : Scan :=
  { scan with inventory := scan.inventory.restrict keep }

variable {keep : String → Bool} (hgroup : keep "group" = true)

theorem restrict_restrict (scan : Scan) :
    (scan.restrict keep).restrict keep = scan.restrict keep := by
  rw [restrict, restrict, Inventory.restrict_restrict]

theorem restrict_place (inventory : Inventory) (place : Place) :
    restrict keep ⟨inventory, place⟩ = restrict keep ⟨inventory.restrict keep, place⟩ :=
  (restrict_restrict ⟨inventory, place⟩).symm

theorem restrict_stepOutside (inventory : Inventory) (line : String) :
    (stepOutside inventory line).restrict keep =
      (stepOutside (inventory.restrict keep) line).restrict keep := by
  unfold stepOutside
  by_cases hassign : (Line.assignment? line).isSome = true
  · rw [if_pos hassign, if_pos hassign, restrict_place]
  rw [if_neg hassign, if_neg hassign]
  by_cases hmachine : Line.namesMachine line = true
  · rw [if_pos hmachine, if_pos hmachine]
    cases Line.reference? line with
    | none => exact restrict_place _ _
    | some reference =>
      simp [restrict, Inventory.restrict_declare, Inventory.restrict_restrict]
  rw [if_neg hmachine, if_neg hmachine]
  by_cases hadapter : Line.namesAdapter line = true
  · rw [if_pos hadapter, if_pos hadapter, restrict_place]
  · rw [if_neg hadapter, if_neg hadapter, restrict_place]

include hgroup

theorem restrict_stepMachine (inventory : Inventory) (slot depth : Nat) (line : String) :
    (stepMachine inventory slot depth line).restrict keep =
      (stepMachine (inventory.restrict keep) slot depth line).restrict keep := by
  unfold stepMachine
  by_cases hclose : Line.closesBlock line = true
  · rw [if_pos hclose, if_pos hclose]
    cases depth with
    | zero => exact restrict_place _ _
    | succ depth => exact restrict_place _ _
  rw [if_neg hclose, if_neg hclose]
  cases Line.assignment? line with
  | some pair =>
    dsimp only
    by_cases hopen : Line.opensBlock pair.2 = true
    · rw [if_pos hopen, if_pos hopen, restrict_place]
    rw [if_neg hopen, if_neg hopen]
    by_cases hdepth : depth = 0
    · rw [if_pos hdepth, if_pos hdepth]
      simp [restrict, Inventory.restrict_setAttribute keep _ hgroup,
        Inventory.restrict_restrict]
    · rw [if_neg hdepth, if_neg hdepth, restrict_place]
  | none =>
    dsimp only
    by_cases hadapter : Line.namesAdapter line = true
    · rw [if_pos hadapter, if_pos hadapter]
      simp [restrict, Inventory.restrict_addAdapter, Inventory.restrict_restrict]
    rw [if_neg hadapter, if_neg hadapter]
    by_cases hopen : Line.opensBlock line = true
    · rw [if_pos hopen, if_pos hopen, restrict_place]
    · rw [if_neg hopen, if_neg hopen, restrict_place]

omit hgroup in
theorem restrict_stepAdapter (inventory : Inventory) (slot? : Option Nat) (depth : Nat)
    (line : String) :
    (stepAdapter inventory slot? depth line).restrict keep =
      (stepAdapter (inventory.restrict keep) slot? depth line).restrict keep := by
  unfold stepAdapter
  by_cases hclose : Line.closesBlock line = true
  · rw [if_pos hclose, if_pos hclose]
    cases slot? with
    | none => exact restrict_place _ _
    | some slot => exact restrict_place _ _
  rw [if_neg hclose, if_neg hclose]
  cases slot? with
  | none => exact restrict_place _ _
  | some slot =>
    cases Line.assignment? line with
    | none => exact restrict_place _ _
    | some pair =>
      simp [restrict, Inventory.restrict_setAdapterAttribute, Inventory.restrict_restrict]

/-- What is left out before a line does not show after it. -/
theorem restrict_step (scan : Scan) (line : String) :
    (scan.step line).restrict keep = ((scan.restrict keep).step line).restrict keep := by
  obtain ⟨inventory, place⟩ := scan
  cases place with
  | outside => exact restrict_stepOutside inventory line
  | machine slot depth => exact restrict_stepMachine hgroup inventory slot depth line
  | adapter slot? depth => exact restrict_stepAdapter inventory slot? depth line

/-- Scans that differ in what is left out do so after any lines, and in nothing else. -/
theorem restrict_walk {scan other : Scan} (hrestrict : scan.restrict keep = other.restrict keep)
    (lines : List String) :
    (scan.walk lines).restrict keep = (other.walk lines).restrict keep := by
  induction lines generalizing scan other with
  | nil => exact hrestrict
  | cons line lines ih =>
    have hstep : (scan.step line).restrict keep = (other.step line).restrict keep := by
      rw [restrict_step hgroup scan, hrestrict, ← restrict_step hgroup other]
    exact ih hstep

end Scan

end CloudLift
