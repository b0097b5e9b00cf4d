import CloudLift.Proofs.Generate.Group
import CloudLift.Proofs.Inventory.Arena

/-!
# The members of a group

A group keeps references, and the machines are looked up when the group is converted.  In an
inventory that was made by edits no lookup fails, so every member has its machine and no
group is without machines.  A group whose members all have tags then has a tag to boot.
-/

namespace CloudLift.Generate

theorem map_some_members {inventory : Inventory} {references : List String}
    (hresolved : ∀ reference ∈ references,
      ∃ machine, inventory.machine? reference = some machine) :
    (members inventory references).map some = references.map inventory.machine? := by
  induction references with
  | nil => rfl
  | cons reference references ih =>
    rcases hresolved reference List.mem_cons_self with ⟨machine, hmachine⟩
    have hrest := ih fun other hother => hresolved other (List.mem_cons_of_mem _ hother)
    have hmembers : members inventory (reference :: references) =
        machine :: members inventory references :=
      List.filterMap_cons_some hmachine
    rw [hmembers, List.map_cons, List.map_cons, hrest, hmachine]

theorem reference_of_machine? {inventory : Inventory} {reference : String} {machine : Machine}
    (hmachine : inventory.machine? reference = some machine) :
    machine.reference = reference := by
  unfold Inventory.machine? at hmachine
  have hfound := List.find?_some hmachine
  exact eq_of_beq hfound

/-- Every member of a group has its machine at its own place, and if these have tags, the
group has one. -/
structure Populated (inventory : Inventory) (references : List String) : Prop where
  found : (members inventory references).map some = references.map inventory.machine?
  named : (members inventory references).map Machine.reference = references
  tagged : ∀ all, tags (members inventory references) = .ok all → distinctFrom [] all ≠ []

theorem populated_of_consistent {inventory : Inventory} (hconsistent : inventory.Consistent)
    {entry : String × List String} (hentry : entry ∈ inventory.groups.entries) :
    Populated inventory entry.2 := by
  have hresolved := hconsistent.resolved entry hentry
  have hfound := map_some_members hresolved
  have hnamed : (members inventory entry.2).map Machine.reference = entry.2 := by
    have hreferences : ((members inventory entry.2).map some).map
          (Option.map Machine.reference) = entry.2.map some := by
      rw [hfound, List.map_map]
      apply List.map_congr_left
      intro reference hreference
      rcases hresolved reference hreference with ⟨machine, hmachine⟩
      rw [Function.comp_apply, hmachine, Option.map_some, reference_of_machine? hmachine]
    rw [List.map_map] at hreferences
    apply (List.map_inj_right fun _ _ => Option.some.inj).mp
    rw [List.map_map, ← hreferences]
    rfl
  constructor
  · exact hfound
  · exact hnamed
  · intro all htags hempty
    have htagged := tags_eq_ok_iff.mp htags
    have hoptions : distinctFrom [] all = all.eraseDups := distinctFrom_eraseDups [] all
    cases hmembers : members inventory entry.2 with
    | nil =>
      rw [hmembers, List.map_nil] at hnamed
      exact hconsistent.populated entry hentry hnamed.symm
    | cons machine machines =>
      rw [hmembers] at htagged
      have htag := htagged.1 machine List.mem_cons_self
      rcases Option.isSome_iff_exists.mp htag with ⟨tag, htag⟩
      have hcons : tagsOf (machine :: machines) = tag :: tagsOf machines :=
        List.filterMap_cons_some htag
      rw [hoptions, htagged.2, hcons, List.eraseDups_cons] at hempty
      cases hempty

/-- Edits in any order make a consistent inventory, the one that is made with indexes too,
and every group of it is populated. -/
theorem edited_consistent (edits : List Edit) :
    (Inventory.edited edits).Consistent ∧
      ((Arena.edited edits).Represents (Inventory.edited edits) ∧
        (∀ reference, (Arena.edited edits).machine? reference =
          (Inventory.edited edits).machine? reference) ∧
        ∀ name, ((Arena.edited edits).group? name).map Group.entry =
          ((Inventory.edited edits).group? name).map fun members => (name, members)) ∧
      ∀ entry ∈ (Inventory.edited edits).groups.entries,
        Populated (Inventory.edited edits) entry.2 := by
  have hconsistent := (Inventory.linked_edited edits).consistent
  have hrepresents := Arena.represents_edited edits
  exact ⟨hconsistent, ⟨hrepresents, hrepresents.machine?_eq, hrepresents.group?_eq⟩,
    fun _ hentry => populated_of_consistent hconsistent hentry⟩

end CloudLift.Generate
