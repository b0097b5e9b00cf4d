import CloudLift.Operator.Scripted
import CloudLift.Proofs.Generate.Instance

/-!
# When an inventory is converted

The operator is only asked about groups, and all groups come before the first instance.
So the groups are settled first, in order, and whether the rest goes through does not
depend on the operator any more.
-/

namespace CloudLift.Generate

open Interaction

variable {σ : Type} {op : Operator σ} {s : σ} {inventory : Inventory}
  {catalog : Image.Catalog} {settings : Settings}

def sharedText (settings : Settings) : String :=
  requirements ++ provider settings.credentials ++ networkBlock settings.network ++
    subnetBlock settings

/-- The whole text for groups that are settled and machines without a group. -/
def configurationText (catalog : Image.Catalog) (settings : Settings)
    (settled : List SettledGroup) (machines : List Machine) : String :=
  sharedText settings ++ groupBlocks catalog settings settled ++
    instanceBlocks catalog settings [] machines

/-- The groups of an inventory, settled with an operator who is in state `s`. -/
def settledGroups (op : Operator σ) (settings : Settings) (inventory : Inventory) (s : σ) :
    List SettledGroup :=
  (settleAll op settings inventory inventory.groups.entries s).1

/-- Every group and every machine without a group can be converted. -/
structure Convertible (op : Operator σ) (settings : Settings) (inventory : Inventory)
    (catalog : Image.Catalog) (s : σ) : Prop where
  groups : ∀ group ∈ settledGroups op settings inventory s, group.Convertible catalog
  machines : ∀ machine ∈ inventory.standalone, machine.Convertible catalog

theorem writes_shared : Writes op s (shared settings) True () (sharedText settings) := by
  refine Writes.congr (writes_put.andThen fun _ => writes_put.andThen fun _ =>
    writes_log.andThen fun _ => writes_put.andThen fun _ => writes_log.andThen fun _ =>
    writes_put) ?_ ?_
  · simp
  · simp [sharedText, String.append_assoc]

theorem writes_standalone :
    Writes op s
      ((instances catalog settings [] inventory.standalone).andThen fun folders =>
        (log (.info
          (s!"Generated {inventory.groups.entries.length} instance groups, " ++
            s!"{inventory.standalone.length} instances and {folders.length} folders"))).andThen
          fun _ => done folders)
      (∀ machine ∈ inventory.standalone, machine.Convertible catalog)
      (foldersOf inventory.standalone)
      (instanceBlocks catalog settings [] inventory.standalone) := by
  have hnone : ∀ name ∈ foldersOf [], Name.isValid name = true := by
    simp [foldersOf]
  have hinstances : Writes op s (instances catalog settings [] inventory.standalone) _
      (foldersOf inventory.standalone) _ :=
    writes_instances hnone
  refine Writes.congr (hinstances.andThen fun _ => writes_log.andThen fun _ =>
    writes_done) ?_ ?_
  · simp
  · simp

theorem yields_configuration_iff {folders : List String} {text : String} {s' : σ} :
    Yields op s (configuration inventory catalog settings) folders text s' ↔
      Convertible op settings inventory catalog s ∧
        folders = foldersOf inventory.standalone ∧
        text = configurationText catalog settings (settledGroups op settings inventory s)
          inventory.standalone ∧
        s' = (settleAll op settings inventory inventory.groups.entries s).2 := by
  have htext : configurationText catalog settings (settledGroups op settings inventory s)
        inventory.standalone =
      sharedText settings ++
        (groupBlocks catalog settings (settledGroups op settings inventory s) ++
          instanceBlocks catalog settings [] inventory.standalone) := by
    rw [configurationText, String.append_assoc]
  rw [htext]
  unfold configuration
  simp only [bind_eq_andThen, pure_eq_done]
  constructor
  · intro hyields
    obtain ⟨_, _, _, _, hshared, hrest, rfl⟩ := yields_andThen_iff.mp hyields
    obtain ⟨-, -, rfl, rfl⟩ := (writes_shared _ _ _).mp hshared
    obtain ⟨_, _, _, _, hgroups, hlast, rfl⟩ := yields_andThen_iff.mp hrest
    obtain ⟨hgroups', rfl, rfl⟩ := yields_groups_iff.mp hgroups
    obtain ⟨hmachines, rfl, rfl, rfl⟩ := (writes_standalone _ _ _).mp hlast
    exact ⟨⟨hgroups', hmachines⟩, rfl, rfl, rfl⟩
  · rintro ⟨⟨hgroups, hmachines⟩, rfl, rfl, rfl⟩
    refine yields_andThen_iff.mpr ⟨(), _, _, _,
      (writes_shared _ _ _).mpr ⟨trivial, rfl, rfl, rfl⟩, ?_, rfl⟩
    refine yields_andThen_iff.mpr ⟨(), _, _, _,
      yields_groups_iff.mpr ⟨hgroups, rfl, rfl⟩, ?_, rfl⟩
    exact (writes_standalone _ _ _).mpr ⟨hmachines, rfl, rfl, rfl⟩

/-- A configuration is written without a fault exactly if the inventory is convertible,
and then this is the text and these are the folders. -/
theorem configuration_spec (op : Operator σ) (settings : Settings) (inventory : Inventory)
    (catalog : Image.Catalog) (s : σ) :
    ((∃ folders, ((configuration inventory catalog settings).run op none s).outcome =
        .ok folders) ↔
      Convertible op settings inventory catalog s) ∧
      (Convertible op settings inventory catalog s →
        ((configuration inventory catalog settings).run op none s).outcome =
            .ok (foldersOf inventory.standalone) ∧
          ((configuration inventory catalog settings).run op none s).text =
            configurationText catalog settings (settledGroups op settings inventory s)
              inventory.standalone) := by
  constructor
  · constructor
    · rintro ⟨folders, houtcome⟩
      obtain ⟨text, s', hyields⟩ := exists_yields_iff.mpr houtcome
      exact (yields_configuration_iff.mp hyields).1
    · intro hconvertible
      exact ⟨_, (yields_configuration_iff.mpr ⟨hconvertible, rfl, rfl, rfl⟩).outcome⟩
  · intro hconvertible
    have hyields := yields_configuration_iff.mpr ⟨hconvertible, rfl, rfl, rfl⟩
    exact ⟨hyields.outcome, hyields.text⟩

/-- A machine in a group and one without. -/
def pairOfMachines : Inventory :=
  let attributes := [("cpus", "3"), ("memory", "4096"), ("os_id", "\"Ubuntu_64\"")]
  { machines :=
      [⟨"\"a\"", ⟨attributes ++ [("group", "\"db\"")]⟩, []⟩,
        ⟨"\"b\"", ⟨attributes ++ [("basedir", "\"web\"")]⟩, []⟩]
    groups := ⟨[("\"db\"", ["\"a\""])]⟩ }

/-- Settings that leave the account of every group to the operator. -/
def settingsWithoutAccounts : Settings :=
  { credentials := ⟨"token", "cloud", "folder", "ru-central1-a"⟩
    network := ⟨"net", "subnet", "10.0.0.0/24"⟩
    serviceAccounts := .empty }

def oneImage : Image.Catalog :=
  ⟨[("ubuntu-22-04-lts", "fd8")]⟩

theorem pairOfMachines_configuration :
    Convertible Operator.scripted settingsWithoutAccounts pairOfMachines oneImage
        ["account"] ∧
      ((configuration pairOfMachines oneImage settingsWithoutAccounts).run
        Operator.scripted none ["account"]).text =
        configurationText oneImage settingsWithoutAccounts
          (settledGroups Operator.scripted settingsWithoutAccounts pairOfMachines
            ["account"])
          pairOfMachines.standalone := by
  have houtcome : ((configuration pairOfMachines oneImage settingsWithoutAccounts).run
      Operator.scripted none ["account"]).outcome = .ok ["web"] := by
    decide +kernel
  obtain ⟨hiff, htext⟩ := configuration_spec Operator.scripted settingsWithoutAccounts
    pairOfMachines oneImage ["account"]
  have hconvertible := hiff.mp ⟨["web"], houtcome⟩
  exact ⟨hconvertible, (htext hconvertible).2⟩

end CloudLift.Generate
