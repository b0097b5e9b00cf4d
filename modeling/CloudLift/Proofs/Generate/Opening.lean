import CloudLift.Proofs.Generate.Written

/-!
# The pieces that open a resource

A resource is opened at the start of a piece, and its type stands there in quotes.  Of the
pieces of a configuration only whole blocks and the first pieces of instances open one.
-/

namespace CloudLift.Generate

open Terraform

/-- The type of the resource that a piece opens. -/
def typeOf? (piece : String) : Option String :=
  if "resource \"".toList.isPrefixOf piece.toList then
    some (String.ofList ((piece.toList.drop "resource \"".toList.length).takeWhile (· ≠ '"')))
  else
    none

/-- The pieces that open a resource of the type. -/
def opening (type : String) (pieces : List String) : List String :=
  pieces.filter fun piece => typeOf? piece == some type

/-! ## Types -/

theorem typeOf?_resource {type : String} (htype : '"' ∉ type.toList) (rest : String) :
    typeOf? (resource type rest) = some type := by
  have hpiece : (resource type rest).toList =
      "resource \"".toList ++ (type.toList ++ '"' :: (" " ++ rest).toList) := by
    simp [resource, quote]
  have hall : ∀ c ∈ type.toList, decide (c ≠ '"') = true := by
    intro c hc
    exact decide_eq_true fun heq => htype (heq ▸ hc)
  have hstart : "resource \"".toList.isPrefixOf (resource type rest).toList = true := by
    rw [hpiece, List.isPrefixOf_iff_prefix]
    exact List.prefix_append _ _
  rw [typeOf?, if_pos hstart, hpiece, List.drop_left, List.takeWhile_append_of_pos hall,
    List.takeWhile_cons_of_neg (by simp), List.append_nil, String.ofList_toList]

theorem render_resource (type label : String) (items : List Item) :
    render (resource type label) items =
      resource type (label ++ " \x7b\n" ++ renderItems 1 items ++ topClose) := by
  simp [render, openLine, indent, resource, String.append_assoc]

theorem typeOf?_render {type : String} (htype : '"' ∉ type.toList) (label : String)
    (items : List Item) : typeOf? (render (resource type label) items) = some type := by
  rw [render_resource]
  exact typeOf?_resource htype _

theorem typeOf?_eq_none {piece : String} (hhead : piece.toList.head? ≠ some 'r') :
    typeOf? piece = none := by
  unfold typeOf?
  cases hpiece : piece.toList with
  | nil => rfl
  | cons c cs =>
    rw [hpiece] at hhead
    have hc : ('r' == c) = false := by
      apply beq_eq_false_iff_ne.mpr
      intro heq
      exact hhead (congrArg some heq.symm)
    simp [List.isPrefixOf, hc]

/-- An item of a block at the top is indented. -/
theorem typeOf?_item (item : Item) : typeOf? (item.render 1) = none := by
  apply typeOf?_eq_none
  match item with
  | .attribute key value => simp [Item.render, indent]
  | .block header items => simp [Item.render, openLine, indent]

/-! ## Pieces of a configuration -/

variable {catalog : Image.Catalog} {settings : Settings} {machine : Machine}

theorem typeOf?_networkBlock (network : Network) :
    typeOf? (networkBlock network) = some networkType :=
  typeOf?_render (by decide) _ _

theorem typeOf?_subnetBlock : typeOf? (subnetBlock settings) = some subnetType :=
  typeOf?_render (by decide) _ _

theorem typeOf?_groupBlock (plan : GroupPlan) :
    typeOf? (plan.block settings) = some groupType :=
  typeOf?_render (by decide) _ _

theorem typeOf?_folderBlock (name : String) :
    typeOf? (folderBlock name) = some folderType :=
  typeOf?_render (by decide) _ _

theorem typeOf?_instanceHeader : typeOf? (instanceHeader machine) = some instanceType := by
  have hheader : instanceHeader machine =
      resource instanceType (machine.reference ++ " \x7b\n") := by
    simp [instanceHeader, openLine, indent, resource, String.append_assoc]
  rw [hheader]
  exact typeOf?_resource (by decide) _

theorem opening_append (type : String) (pieces more : List String) :
    opening type (pieces ++ more) = opening type pieces ++ opening type more :=
  List.filter_append _ _

theorem opening_mono {front pieces : List String} (hfront : front <+: pieces)
    (type : String) : opening type front <+: opening type pieces :=
  hfront.filter _

theorem opening_map {α : Type} {f : α → String} {other : String}
    (hf : ∀ a, typeOf? (f a) = some other) (type : String) (items : List α) :
    opening type (items.map f) = if type = other then items.map f else [] := by
  unfold opening
  by_cases htype : type = other
  · rw [if_pos htype, List.filter_eq_self]
    intro piece hpiece
    rcases List.mem_map.mp hpiece with ⟨a, -, heq⟩
    rw [← heq, hf, htype]
    exact beq_self_eq_true _
  · rw [if_neg htype, List.filter_eq_nil_iff]
    intro piece hpiece hkept
    rcases List.mem_map.mp hpiece with ⟨a, -, heq⟩
    rw [← heq, hf] at hkept
    exact htype (Option.some.inj (eq_of_beq hkept)).symm

theorem opening_items (type : String) (items : List Item) :
    opening type (items.map (Item.render 1)) = [] := by
  unfold opening
  rw [List.filter_eq_nil_iff]
  intro piece hpiece hkept
  rcases List.mem_map.mp hpiece with ⟨item, -, heq⟩
  rw [← heq, typeOf?_item] at hkept
  cases hkept

theorem opening_sharedPieces (type : String) :
    opening type (sharedPieces settings) =
      (if type = networkType then [networkBlock settings.network] else []) ++
        if type = subnetType then [subnetBlock settings] else [] := by
  have hrequirements : typeOf? requirements = none :=
    typeOf?_eq_none (by decide)
  have hprovider : typeOf? (provider settings.credentials) = none :=
    typeOf?_eq_none (by simp [provider, render, openLine, indent])
  have hparts : sharedPieces settings =
      [requirements, provider settings.credentials] ++ ([settings.network].map networkBlock ++
        [settings].map subnetBlock) := rfl
  rw [hparts, opening_append, opening_append, opening_map typeOf?_networkBlock,
    opening_map fun _ => typeOf?_subnetBlock]
  simp [opening, hrequirements, hprovider]

theorem opening_instancePieces (type : String) :
    opening type (instancePieces catalog settings machine) =
      if type = instanceType then [instanceHeader machine] else [] := by
  have hclose : typeOf? topClose = none :=
    typeOf?_eq_none (by decide)
  have hparts : instancePieces catalog settings machine =
      [machine].map instanceHeader ++
        ((instanceItems catalog settings machine).map (Item.render 1) ++ [topClose]) := rfl
  rw [hparts, opening_append, opening_append, opening_map fun _ => typeOf?_instanceHeader,
    opening_items]
  simp [opening, hclose]

/-- Machines without a group open folders and instances only. -/
theorem opening_standalonePieces_of_ne {type : String} (hfolder : type ≠ folderType)
    (hinstance : type ≠ instanceType) (before machines : List Machine) :
    opening type (standalonePieces catalog settings before machines) = [] := by
  induction machines generalizing before with
  | nil => rfl
  | cons machine machines ih =>
    rw [standalonePieces, opening_append, opening_append, opening_map typeOf?_folderBlock,
      opening_instancePieces, if_neg hfolder, if_neg hinstance, ih]
    rfl

theorem opening_instance_standalonePieces (before machines : List Machine) :
    opening instanceType (standalonePieces catalog settings before machines) =
      machines.map instanceHeader := by
  have hne : ¬ instanceType = folderType := by decide
  induction machines generalizing before with
  | nil => rfl
  | cons machine machines ih =>
    rw [standalonePieces, opening_append, opening_append, opening_map typeOf?_folderBlock,
      opening_instancePieces, if_neg hne, if_pos rfl, ih]
    rfl

theorem opening_folder_standalonePieces (before machines : List Machine) :
    (foldersOf before).map folderBlock ++
        opening folderType (standalonePieces catalog settings before machines) =
      (foldersOf (before ++ machines)).map folderBlock := by
  have hne : ¬ folderType = instanceType := by decide
  induction machines generalizing before with
  | nil =>
    rw [List.append_nil]
    exact List.append_nil _
  | cons machine machines ih =>
    have happend : before ++ machine :: machines = before ++ [machine] ++ machines := by
      rw [List.append_assoc]
      rfl
    rw [standalonePieces, opening_append, opening_append, opening_map typeOf?_folderBlock,
      opening_instancePieces, if_pos rfl, if_neg hne, List.append_nil, ← List.append_assoc,
      ← List.map_append, ← foldersOf_concat, ih, happend]

/-! ## Whole runs -/

variable {inventory : Inventory} {front folders pieces : List String}

theorem opening_parts (type : String) (front : List String) (plans : List GroupPlan)
    (back : List String) :
    opening type (front ++ (plans.map (GroupPlan.block settings) ++ back)) =
      opening type front ++
        ((if type = groupType then plans.map (GroupPlan.block settings) else []) ++
          opening type back) := by
  rw [opening_append, opening_append, opening_map typeOf?_groupBlock]

theorem opening_front (hfront : front <+: sharedPieces settings) {type : String}
    (hnetwork : type ≠ networkType) (hsubnet : type ≠ subnetType) : opening type front = [] := by
  have hprefix := opening_mono hfront type
  rw [opening_sharedPieces, if_neg hnetwork, if_neg hsubnet] at hprefix
  exact List.prefix_nil.mp hprefix

theorem opening_group_of_stopsWith (h : StopsWith inventory catalog settings pieces) :
    ∃ done plans, done <+: inventory.groups.entries ∧
      List.Forall₂ (Planned inventory catalog) done plans ∧
      opening groupType pieces = plans.map (GroupPlan.block settings) := by
  rcases h with ⟨front, done, plans, back, hfront, hdone, hplans, hback, hpieces⟩
  have hstandalone : opening groupType back = [] := by
    have hprefix := opening_mono hback groupType
    rw [opening_standalonePieces_of_ne (by decide) (by decide)] at hprefix
    exact List.prefix_nil.mp hprefix
  refine ⟨done, plans, hdone, hplans, ?_⟩
  rw [hpieces, opening_parts, opening_front hfront (by decide) (by decide), if_pos rfl,
    hstandalone, List.nil_append, List.append_nil]

theorem opening_group_of_endsWith (h : EndsWith inventory catalog settings folders pieces) :
    ∃ plans, List.Forall₂ (Planned inventory catalog) inventory.groups.entries plans ∧
      opening groupType pieces = plans.map (GroupPlan.block settings) := by
  rcases h with ⟨⟨plans, hplans, hpieces⟩, -⟩
  refine ⟨plans, hplans, ?_⟩
  rw [hpieces, opening_parts, opening_front List.prefix_rfl (by decide) (by decide), if_pos rfl,
    opening_standalonePieces_of_ne (by decide) (by decide), List.nil_append, List.append_nil]

theorem opening_folder_of_stopsWith (h : StopsWith inventory catalog settings pieces) :
    ∃ folders, folders <+: foldersOf inventory.standalone ∧
      opening folderType pieces = folders.map folderBlock := by
  rcases h with ⟨front, done, plans, back, hfront, hdone, hplans, hback, hpieces⟩
  have hall : opening folderType (standalonePieces catalog settings [] inventory.standalone) =
      (foldersOf inventory.standalone).map folderBlock :=
    opening_folder_standalonePieces [] inventory.standalone
  have hstandalone := opening_mono hback folderType
  rw [hall, List.prefix_map_iff] at hstandalone
  rcases hstandalone with ⟨folders, hfolders, hopening⟩
  refine ⟨folders, hfolders, ?_⟩
  rw [hpieces, opening_parts, opening_front hfront (by decide) (by decide), if_neg (by decide),
    hopening]
  rfl

theorem opening_folder_of_endsWith (h : EndsWith inventory catalog settings folders pieces) :
    opening folderType pieces = (foldersOf inventory.standalone).map folderBlock := by
  rcases h with ⟨⟨plans, -, hpieces⟩, -⟩
  rw [hpieces, opening_parts, opening_front List.prefix_rfl (by decide) (by decide),
    if_neg (by decide)]
  exact opening_folder_standalonePieces [] inventory.standalone

theorem opening_instance_of_endsWith (h : EndsWith inventory catalog settings folders pieces) :
    opening instanceType pieces = inventory.standalone.map instanceHeader := by
  rcases h with ⟨⟨plans, -, hpieces⟩, -⟩
  rw [hpieces, opening_parts, opening_front List.prefix_rfl (by decide) (by decide),
    if_neg (by decide)]
  exact opening_instance_standalonePieces [] inventory.standalone

/-- The network and the subnet are opened by the shared part alone. -/
theorem opening_shared_of_endsWith (h : EndsWith inventory catalog settings folders pieces)
    {type : String} (hgroup : type ≠ groupType) (hfolder : type ≠ folderType)
    (hinstance : type ≠ instanceType) :
    opening type pieces = opening type (sharedPieces settings) := by
  rcases h with ⟨⟨plans, -, hpieces⟩, -⟩
  rw [hpieces, opening_parts, if_neg hgroup, opening_standalonePieces_of_ne hfolder hinstance]
  exact List.append_nil _

end CloudLift.Generate
