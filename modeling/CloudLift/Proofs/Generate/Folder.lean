import CloudLift.Operator.Scripted
import CloudLift.Proofs.Generate.Configuration
import CloudLift.Proofs.Generate.Opening

/-!
# Folders and the lines that refer to them

A folder is written before the first instance that stands in it, and never again.  So at
every point of a run the folders that were written are the first ones of all, and a line that
refers to a folder comes after the block of that folder.

`Grounded` follows the pieces in the order of their writing and keeps those that came before.
-/

namespace CloudLift.Generate

open Terraform

/-- The line that puts an instance into a folder. -/
def folderLine (name : String) : String :=
  (Item.attribute "folder_id" (idOf folderType name)).render 1

/-- A piece that is a line of its own with the id of a folder. -/
def NamesFolder (piece : String) : Prop :=
  "\tfolder_id".toList <+: piece.toList

/-- Each line with the id of a folder comes after the block of that folder. -/
def Grounded : List String → List String → Prop
  | _, [] => True
  | before, piece :: pieces =>
    (NamesFolder piece → ∃ name, piece = folderLine name ∧ folderBlock name ∈ before) ∧
      Grounded (before ++ [piece]) pieces

/-! ## Pieces after pieces -/

theorem grounded_append_iff {before pieces more : List String} :
    Grounded before (pieces ++ more) ↔
      Grounded before pieces ∧ Grounded (before ++ pieces) more := by
  induction pieces generalizing before with
  | nil => simp [Grounded]
  | cons piece pieces ih =>
    have hbefore : before ++ piece :: pieces = before ++ [piece] ++ pieces := by
      rw [List.append_assoc]
      rfl
    rw [List.cons_append, Grounded, Grounded, ih, and_assoc, hbefore]

theorem Grounded.front {before pieces front : List String}
    (h : Grounded before pieces) (hfront : front <+: pieces) : Grounded before front := by
  rcases hfront with ⟨rest, heq⟩
  rw [← heq, grounded_append_iff] at h
  exact h.1

theorem grounded_of_mem {before pieces : List String}
    (h : ∀ piece ∈ pieces, NamesFolder piece →
      ∃ name, piece = folderLine name ∧ folderBlock name ∈ before) :
    Grounded before pieces := by
  induction pieces generalizing before with
  | nil => trivial
  | cons piece pieces ih =>
    refine ⟨h piece List.mem_cons_self, ?_⟩
    apply ih
    intro other hother hnames
    rcases h other (List.mem_cons_of_mem _ hother) hnames with ⟨name, heq, hblock⟩
    exact ⟨name, heq, List.mem_append_left _ hblock⟩

/-! ## Pieces of a configuration -/

variable {inventory : Inventory} {catalog : Image.Catalog} {settings : Settings}
  {machine : Machine}

theorem not_namesFolder_of_head {piece : String} (hhead : piece.toList.head? ≠ some '\t') :
    ¬ NamesFolder piece := by
  intro hnames
  rcases hnames with ⟨rest, heq⟩
  rw [← heq] at hhead
  exact hhead rfl

theorem not_namesFolder_of_typeOf? {piece type : String} (htype : typeOf? piece = some type) :
    ¬ NamesFolder piece := by
  apply not_namesFolder_of_head
  unfold typeOf? at htype
  split at htype
  next hstart =>
    rcases List.isPrefixOf_iff_prefix.mp hstart with ⟨rest, heq⟩
    rw [← heq]
    simp
  next => cases htype

theorem not_namesFolder_of_mem_sharedPieces {piece : String}
    (hpiece : piece ∈ sharedPieces settings) : ¬ NamesFolder piece := by
  simp only [sharedPieces, List.mem_cons, List.not_mem_nil, or_false] at hpiece
  rcases hpiece with heq | heq | heq | heq
  · rw [heq]
    exact not_namesFolder_of_head (by decide)
  · rw [heq]
    exact not_namesFolder_of_head (by simp [provider, render, openLine, indent])
  · rw [heq]
    exact not_namesFolder_of_typeOf? (typeOf?_networkBlock _)
  · rw [heq]
    exact not_namesFolder_of_typeOf? typeOf?_subnetBlock

theorem eq_folderLine_of_mem_items {item : Item}
    (hitem : item ∈ instanceItems catalog settings machine) (hnames : NamesFolder (item.render 1)) :
    ∃ name, machine.folder? = some name ∧ item.render 1 = folderLine name := by
  simp only [instanceItems, optionalItems, List.mem_append, List.mem_map, Option.mem_toList,
    List.mem_cons, List.not_mem_nil, or_false] at hitem
  rcases hitem with ((⟨count, -, heq⟩ | ⟨name, -, heq⟩) | ⟨name, hname, heq⟩) | heq | heq | heq
  · rw [← heq] at hnames
    simp [NamesFolder, Item.render, indent] at hnames
  · rw [← heq] at hnames
    simp [NamesFolder, Item.render, indent] at hnames
  · exact ⟨name, hname, congrArg (Item.render 1) heq.symm⟩
  · rw [heq] at hnames
    simp [NamesFolder, bootDisk, Item.render, openLine, indent] at hnames
  · rw [heq] at hnames
    simp [NamesFolder, instanceInterface, Item.render, openLine, indent] at hnames
  · rw [heq] at hnames
    simp [NamesFolder, instanceResources, Item.render, openLine, indent] at hnames

theorem grounded_instancePieces {before : List String}
    (hfolder : ∀ name, machine.folder? = some name → folderBlock name ∈ before) :
    Grounded before (instancePieces catalog settings machine) := by
  apply grounded_of_mem
  intro piece hpiece hnames
  simp only [instancePieces, List.mem_cons, List.mem_append, List.mem_map, List.not_mem_nil,
    or_false] at hpiece
  rcases hpiece with heq | ⟨item, hitem, heq⟩ | heq
  · rw [heq] at hnames
    exact (not_namesFolder_of_typeOf? typeOf?_instanceHeader hnames).elim
  · rw [← heq] at hnames ⊢
    rcases eq_folderLine_of_mem_items hitem hnames with ⟨name, hname, hline⟩
    exact ⟨name, hline, hfolder name hname⟩
  · rw [heq] at hnames
    exact (not_namesFolder_of_head (by decide) hnames).elim

theorem grounded_standalonePieces {machines before : List Machine} {written : List String}
    (hbefore : ∀ name ∈ foldersOf before, folderBlock name ∈ written) :
    Grounded written (standalonePieces catalog settings before machines) := by
  induction machines generalizing before written with
  | nil => trivial
  | cons machine machines ih =>
    have hfolders : ∀ name ∈ foldersOf (before ++ [machine]),
        folderBlock name ∈ written ++ (newFolders before machine).map folderBlock := by
      intro name hname
      rw [foldersOf_concat, List.mem_append] at hname
      rcases hname with hold | hnew
      · exact List.mem_append_left _ (hbefore name hold)
      · exact List.mem_append_right _ (List.mem_map_of_mem hnew)
    have hown : ∀ name, machine.folder? = some name → name ∈ foldersOf (before ++ [machine]) := by
      intro name hname
      rw [mem_foldersOf_iff, List.filterMap_append, List.mem_append]
      exact .inr (by simp [hname])
    rw [standalonePieces, grounded_append_iff, grounded_append_iff, ← List.append_assoc]
    refine ⟨⟨?_, ?_⟩, ?_⟩
    · apply grounded_of_mem
      intro piece hpiece hnames
      rcases List.mem_map.mp hpiece with ⟨name, -, heq⟩
      rw [← heq] at hnames
      exact (not_namesFolder_of_typeOf? (typeOf?_folderBlock name) hnames).elim
    · exact grounded_instancePieces fun name hname => hfolders name (hown name hname)
    · apply ih
      intro name hname
      exact List.mem_append_left _ (hfolders name hname)

theorem grounded_of_stopsWith {pieces : List String}
    (h : StopsWith inventory catalog settings pieces) : Grounded [] pieces := by
  rcases h with ⟨front, done, plans, back, hfront, hdone, hplans, hback, hpieces⟩
  rw [hpieces, grounded_append_iff, grounded_append_iff]
  refine ⟨?_, ?_, ?_⟩
  · apply grounded_of_mem
    intro piece hpiece hnames
    exact (not_namesFolder_of_mem_sharedPieces (hfront.subset hpiece) hnames).elim
  · apply grounded_of_mem
    intro piece hpiece hnames
    rcases List.mem_map.mp hpiece with ⟨plan, -, heq⟩
    rw [← heq] at hnames
    exact (not_namesFolder_of_typeOf? (typeOf?_groupBlock plan) hnames).elim
  · have hnone : ∀ name ∈ foldersOf [], folderBlock name ∈ [] ++ front ++
        plans.map (GroupPlan.block settings) := by
      simp [foldersOf]
    exact (grounded_standalonePieces hnone).front hback

/-! ## Folders of a configuration -/

/-- However a run ends, the folders that it wrote are the first ones of the machines without a
group, each written once, and each line with the id of a folder comes after its block.  A run
that ends well gives all of these folders, and they have valid names. -/
theorem folders_once_before_use {σ : Type} (op : Operator σ) (room : Room) (s : σ)
    (inventory : Inventory) (catalog : Image.Catalog) (settings : Settings) :
    (∃ folders, folders.Nodup ∧ folders <+: foldersOf inventory.standalone ∧
      opening folderType ((configuration inventory catalog settings).run op room s).written =
        folders.map folderBlock) ∧
    (∀ before line after,
      ((configuration inventory catalog settings).run op room s).written =
        before ++ line :: after →
      NamesFolder line → ∃ name, line = folderLine name ∧ folderBlock name ∈ before) ∧
    ∀ folders, ((configuration inventory catalog settings).run op room s).outcome = .ok folders →
      folders = foldersOf inventory.standalone ∧ folders.Nodup ∧
      opening folderType ((configuration inventory catalog settings).run op room s).written =
        folders.map folderBlock ∧
      ∀ name ∈ folders, Name.isValid name = true ∧
        ∃ machine ∈ inventory.machines, machine.isGrouped = false ∧
          machine.folder? = some name := by
  have hnodup : (foldersOf inventory.standalone).Nodup := nodup_eraseDups _
  have hwritten := written_configuration op room s inventory catalog settings
  refine ⟨?_, ?_, ?_⟩
  · rcases opening_folder_of_stopsWith hwritten.1 with ⟨folders, hfolders, hopening⟩
    exact ⟨folders, hnodup.sublist hfolders.sublist, hfolders, hopening⟩
  · intro before line after hpieces hnames
    have hgrounded := grounded_of_stopsWith hwritten.1
    rw [hpieces, grounded_append_iff] at hgrounded
    exact hgrounded.2.1 hnames
  · intro folders houtcome
    have hends := hwritten.2 folders houtcome
    have hfolders : folders = foldersOf inventory.standalone := hends.2.2
    rw [hfolders]
    refine ⟨rfl, hnodup, opening_folder_of_endsWith hends, ?_⟩
    intro name hname
    rcases List.mem_filterMap.mp (mem_foldersOf_iff.mp hname) with ⟨machine, hmachine, hfolder⟩
    have hstandalone := List.mem_filter.mp hmachine
    have hungrouped : machine.isGrouped = false := by
      simpa using hstandalone.2
    exact ⟨(hends.2.1 machine hmachine).folder name hfolder, machine, hstandalone.1, hungrouped,
      hfolder⟩

/-- The machine without a group stands in the one folder. -/
theorem pairOfMachines_folders :
    ((configuration pairOfMachines oneImage settingsWithoutAccounts).run
        Operator.scripted none ["account"]).outcome = .ok ["web"] ∧
      opening folderType ((configuration pairOfMachines oneImage settingsWithoutAccounts).run
        Operator.scripted none ["account"]).written = [folderBlock "web"] := by
  have houtcome : ((configuration pairOfMachines oneImage settingsWithoutAccounts).run
      Operator.scripted none ["account"]).outcome = .ok ["web"] := by
    decide +kernel
  have hspec := folders_once_before_use Operator.scripted none ["account"] pairOfMachines
    oneImage settingsWithoutAccounts
  exact ⟨houtcome, (hspec.2.2 ["web"] houtcome).2.2.1⟩

end CloudLift.Generate
