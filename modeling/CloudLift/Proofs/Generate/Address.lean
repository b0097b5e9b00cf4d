import CloudLift.Proofs.Generate.Configuration
import CloudLift.Proofs.Generate.Opening
import CloudLift.Proofs.Inventory.Scanned
import CloudLift.Proofs.Name
import Mathlib.Data.List.Nodup

/-!
# Addresses of resources

A resource is addressed by its type and its label, and both stand in the first line of its
block.  There is one network and one subnet, a folder is not written again under a name that
it has already, and an instance has the reference of its machine.

A group is told from another by its name as written, but its label is the name without its
quotes.  So two groups share an address exactly if their names differ in quotes only.
-/

namespace CloudLift

theorem Name.newline_notMem_of_isValid {name : String} (hname : isValid name = true) :
    '\n' ∉ name.toList := by
  intro hmem
  have hclass := isNameChar_iff.mpr ((isValid_iff_obeys.mp hname).chars '\n' hmem)
  exact absurd hclass (by decide)

namespace Generate

open Terraform

def firstLine (piece : String) : String :=
  String.ofList (piece.toList.takeWhile (· ≠ '\n'))

/-- The first lines of the resources of a type. -/
def headers (type : String) (pieces : List String) : List String :=
  (opening type pieces).map firstLine

def header (type label : String) : String :=
  resource type label ++ " \x7b"

/-! ## First lines -/

theorem header_injective (type : String) : Function.Injective (header type) := by
  intro label other heq
  have hresource : resource type label = resource type other :=
    (String.append_left_inj _).mp heq
  exact (String.append_right_inj _).mp hresource

theorem quote_injective : Function.Injective quote := by
  intro name other heq
  have hopen : "\"" ++ name = "\"" ++ other := (String.append_left_inj _).mp heq
  exact (String.append_right_inj _).mp hopen

theorem firstLine_append {line : String} (hline : '\n' ∉ line.toList) (rest : String) :
    firstLine (line ++ "\n" ++ rest) = line := by
  have hall : ∀ c ∈ line.toList, decide (c ≠ '\n') = true := by
    intro c hc
    exact decide_eq_true fun heq => hline (heq ▸ hc)
  have hpiece : (line ++ "\n" ++ rest).toList = line.toList ++ '\n' :: rest.toList := by
    simp
  rw [firstLine, hpiece, List.takeWhile_append_of_pos hall,
    List.takeWhile_cons_of_neg (by simp), List.append_nil, String.ofList_toList]

theorem newline_notMem_header {type label : String} (htype : '\n' ∉ type.toList)
    (hlabel : '\n' ∉ label.toList) : '\n' ∉ (header type label).toList := by
  simp [header, resource, quote, htype, hlabel]

theorem newline_notMem_quote {name : String} (hname : '\n' ∉ name.toList) :
    '\n' ∉ (quote name).toList := by
  simp [quote, hname]

theorem firstLine_render {type label : String} (htype : '\n' ∉ type.toList)
    (hlabel : '\n' ∉ label.toList) (items : List Item) :
    firstLine (render (resource type label) items) = header type label := by
  have hpiece : render (resource type label) items =
      header type label ++ "\n" ++ (renderItems 1 items ++ topClose) := by
    simp [render, openLine, indent, header, String.append_assoc]
  rw [hpiece]
  exact firstLine_append (newline_notMem_header htype hlabel) _

theorem instanceHeader_eq (machine : Machine) :
    instanceHeader machine = header instanceType machine.reference ++ "\n" := by
  simp [instanceHeader, openLine, indent, header, String.append_assoc]

theorem firstLine_instanceHeader {machine : Machine} (hlabel : '\n' ∉ machine.reference.toList) :
    firstLine (instanceHeader machine) = header instanceType machine.reference := by
  have hline : '\n' ∉ (header instanceType machine.reference).toList :=
    newline_notMem_header (by decide) hlabel
  have hfirst := firstLine_append hline ""
  rw [String.append_empty] at hfirst
  rw [instanceHeader_eq, hfirst]

/-! ## Headers of a configuration -/

variable {inventory : Inventory} {catalog : Image.Catalog} {settings : Settings}
  {folders pieces : List String}

theorem headers_network (h : EndsWith inventory catalog settings folders pieces) :
    headers networkType pieces = [firstLine (networkBlock settings.network)] := by
  rw [headers, opening_shared_of_endsWith h (by decide) (by decide) (by decide),
    opening_sharedPieces]
  rfl

theorem headers_subnet (h : EndsWith inventory catalog settings folders pieces) :
    headers subnetType pieces = [firstLine (subnetBlock settings)] := by
  rw [headers, opening_shared_of_endsWith h (by decide) (by decide) (by decide),
    opening_sharedPieces]
  rfl

theorem headers_folder (h : EndsWith inventory catalog settings folders pieces) :
    headers folderType pieces = ((foldersOf inventory.standalone).map quote).map
      (header folderType) := by
  have hvalid : ∀ name ∈ foldersOf inventory.standalone, Name.isValid name = true := by
    intro name hname
    rcases List.mem_filterMap.mp (mem_foldersOf_iff.mp hname) with ⟨machine, hmachine, hfolder⟩
    exact (h.2.1 machine hmachine).folder name hfolder
  rw [headers, opening_folder_of_endsWith h, List.map_map, List.map_map]
  apply List.map_congr_left
  intro name hname
  have hlabel := newline_notMem_quote (Name.newline_notMem_of_isValid (hvalid name hname))
  exact firstLine_render (by decide) hlabel _

theorem headers_instance (h : EndsWith inventory catalog settings folders pieces)
    (hreferences : ∀ machine ∈ inventory.machines, '\n' ∉ machine.reference.toList) :
    headers instanceType pieces = (inventory.standalone.map Machine.reference).map
      (header instanceType) := by
  rw [headers, opening_instance_of_endsWith h, List.map_map, List.map_map]
  apply List.map_congr_left
  intro machine hmachine
  exact firstLine_instanceHeader (hreferences machine (List.mem_filter.mp hmachine).1)

theorem map_firstLine_blocks {entries : List (String × List String)} {plans : List GroupPlan}
    (hplans : List.Forall₂ (Planned inventory catalog) entries plans) :
    (plans.map (GroupPlan.block settings)).map firstLine =
      (((entries.map Prod.fst).map Name.unquote).map quote).map (header groupType) := by
  induction hplans with
  | nil => rfl
  | @cons entry plan entries plans hplan _ ih =>
    have hlabel := newline_notMem_quote (Name.newline_notMem_of_isValid hplan.valid)
    have hfirst : firstLine (plan.block settings) = header groupType (quote plan.name) :=
      firstLine_render (by decide) hlabel _
    rw [List.map_cons, List.map_cons, ih, hfirst, hplan.name]
    rfl

theorem headers_group (h : EndsWith inventory catalog settings folders pieces) :
    headers groupType pieces = ((inventory.groups.keys.map Name.unquote).map quote).map
      (header groupType) := by
  rcases opening_group_of_endsWith h with ⟨plans, hplans, hopening⟩
  rw [headers, hopening, map_firstLine_blocks hplans]
  rfl

/-- In the configuration of a source whose machines without a group have different references,
no two networks, subnets, folders or instances share an address, and no two groups do as
long as their names differ in more than quotes. -/
theorem headers_nodup_iff {σ : Type} {op : Operator σ} {room : Room} {s : σ}
    {source : List UInt8}
    (hread : ((Inventory.read source).run op room s).outcome = .ok inventory)
    (hreferences : (inventory.standalone.map Machine.reference).Nodup)
    (hdone : ((configuration inventory catalog settings).run op room s).outcome = .ok folders) :
    (∀ type ∈ [networkType, subnetType, folderType, instanceType],
      (headers type ((configuration inventory catalog settings).run op room s).written).Nodup) ∧
    ((headers groupType ((configuration inventory catalog settings).run op room s).written).Nodup ↔
      (inventory.groups.keys.map Name.unquote).Nodup) := by
  have hends := (written_configuration op room s inventory catalog settings).2 folders hdone
  have hlines : ∀ machine ∈ inventory.machines, '\n' ∉ machine.reference.toList := by
    intro machine hmachine
    rcases Inventory.exists_edits_of_read hread with ⟨edits, lines, -, hwords⟩
    rcases hwords _ (List.mem_map_of_mem hmachine) with ⟨line, -, hreference⟩
    exact Inventory.newline_notMem_of_reference? hreference
  constructor
  · intro type htype
    simp only [List.mem_cons, List.not_mem_nil, or_false] at htype
    rcases htype with heq | heq | heq | heq
    · rw [heq, headers_network hends]
      exact List.nodup_singleton _
    · rw [heq, headers_subnet hends]
      exact List.nodup_singleton _
    · have hfolders : (foldersOf inventory.standalone).Nodup := nodup_eraseDups _
      rw [heq, headers_folder hends]
      exact (hfolders.map quote_injective).map (header_injective folderType)
    · rw [heq, headers_instance hends hlines]
      exact hreferences.map (header_injective instanceType)
  · rw [headers_group hends, List.nodup_map_iff (header_injective groupType),
      List.nodup_map_iff quote_injective]

/-- Two machines that spell the name of their group with quotes and without. -/
def twoSpellings : String :=
  "resource \"virtualbox_server\" \"a\" \x7b\ncpus = 3\nmemory = 4096\nos_id = \"Ubuntu_64\"\n" ++
    "group = \"db\"\n\x7d\n" ++
    "resource \"virtualbox_server\" \"b\" \x7b\ncpus = 3\nmemory = 4096\nos_id = \"Ubuntu_64\"\n" ++
    "group = db\n\x7d\n"

def twoSpelledGroups : Inventory :=
  let attributes := [("cpus", "3"), ("memory", "4096"), ("os_id", "\"Ubuntu_64\"")]
  { machines :=
      [⟨"\"a\"", ⟨attributes ++ [("group", "\"db\"")]⟩, []⟩,
        ⟨"\"b\"", ⟨attributes ++ [("group", "db")]⟩, []⟩]
    groups := ⟨[("\"db\"", ["\"a\""]), ("db", ["\"b\""])]⟩ }

/-- The configuration has two groups with one address. -/
theorem twoSpellings_headers_repeat :
    ((Inventory.read (Text.Utf8.encode twoSpellings)).run Operator.scripted none
        ["first", "second"]).outcome = .ok twoSpelledGroups ∧
      (twoSpelledGroups.standalone.map Machine.reference).Nodup ∧
      ((configuration twoSpelledGroups oneImage settingsWithoutAccounts).run
        Operator.scripted none ["first", "second"]).outcome = .ok [] ∧
      ¬ (headers groupType ((configuration twoSpelledGroups oneImage settingsWithoutAccounts).run
        Operator.scripted none ["first", "second"]).written).Nodup := by
  have hread : ((Inventory.read (Text.Utf8.encode twoSpellings)).run Operator.scripted none
      ["first", "second"]).outcome = .ok twoSpelledGroups := by
    have hwalk : (Scan.start.walk (Text.lines twoSpellings)).inventory = twoSpelledGroups := by
      decide +kernel
    rw [Inventory.read, Scan.outcome_lines, Text.Utf8.mapM_decode?_lines_encode]
    exact congrArg Except.ok hwalk
  have hreferences : (twoSpelledGroups.standalone.map Machine.reference).Nodup := by
    decide
  have houtcome : ((configuration twoSpelledGroups oneImage settingsWithoutAccounts).run
      Operator.scripted none ["first", "second"]).outcome = .ok [] := by
    decide +kernel
  have hnames : ¬ (twoSpelledGroups.groups.keys.map Name.unquote).Nodup := by
    decide
  have hiff := (headers_nodup_iff hread hreferences houtcome).2
  exact ⟨hread, hreferences, houtcome, mt hiff.mp hnames⟩

end Generate

end CloudLift
