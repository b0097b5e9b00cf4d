import CloudLift.Proofs.Generate.Instance
import CloudLift.Proofs.History

/-!
# What has been written of a configuration

A group finds everything before it writes its one piece.  So wherever a run stops, some of
the groups from the front have their blocks, each with a plan that fits its members.

Nothing is found for the shared part and for the machines without a group that could change
their pieces.  Of these a run has written as many from the front as it came to.
-/

namespace CloudLift

/-! ## Single checks -/

namespace Interaction

theorem emits_requireName {name : String} :
    Emits (requireName name) [] fun _ => Name.isValid name = true := by
  unfold requireName Name.check
  by_cases hvalid : Name.isValid name = true
  · rw [if_pos hvalid]
    exact emits_done.congr rfl fun _ _ => hvalid
  · rw [if_neg hvalid]
    exact emits_fail.afterLog.congr rfl fun _ hfalse => hfalse.elim

theorem emits_resolve {catalog : Image.Catalog} {tag : String} :
    Emits (catalog.resolve tag) [] fun id => catalog.image? tag = some id := by
  unfold Image.Catalog.resolve Image.Catalog.image?
  cases catalog.match? tag with
  | none => exact emits_fail.congr rfl fun _ hfalse => hfalse.elim
  | some entry =>
    exact emits_done.afterLog.congr rfl fun id hid => congrArg some hid.symm

end Interaction

namespace Generate

open Terraform Interaction

variable {inventory : Inventory} {catalog : Image.Catalog} {settings : Settings}

/-! ## Groups -/

/-- What the plan of a group has from the members. -/
structure Planned (inventory : Inventory) (catalog : Image.Catalog)
    (entry : String × List String) (plan : GroupPlan) : Prop where
  name : plan.name = Name.unquote entry.1
  valid : Name.isValid plan.name = true
  sized : ∀ machine ∈ members inventory entry.2, machine.Sized
  size : plan.size = (Size.largest (members inventory entry.2)).rounded
  image : ∃ tag ∈ tagsOf (members inventory entry.2), catalog.image? tag = some plan.image
  nat : plan.nat = (members inventory entry.2).any Machine.usesNat
  scale : plan.scale = instanceCount (members inventory entry.2)

theorem emits_serviceAccount {group : String} :
    Emits (serviceAccount settings group) [] fun _ => True := by
  unfold serviceAccount
  cases settings.serviceAccounts.find? group with
  | some account => exact emits_done.congr rfl fun _ _ => trivial
  | none => exact emits_inquire

theorem emits_chooseTag {group : String} {options : List String} :
    Emits (chooseTag group options) [] fun tag => tag ∈ options := by
  match options with
  | [] => exact emits_fail.congr rfl fun _ hfalse => hfalse.elim
  | [only] => exact emits_done.congr rfl fun _ => List.mem_singleton.mpr
  | first :: second :: rest =>
    unfold chooseTag
    apply (emits_select.andThen (Q := fun _ tag => tag ∈ first :: second :: rest) _).congr rfl
    · intro tag htag
      rcases htag with ⟨_, _, hmem⟩
      exact hmem
    · intro choice _
      cases htag : (first :: second :: rest)[choice]? with
      | none => exact emits_fail.congr rfl fun _ hfalse => hfalse.elim
      | some tag =>
        apply emits_done.congr rfl
        intro other heq
        rw [heq]
        exact List.mem_of_getElem? htag

theorem emits_groupImage {group : String} {machines : List Machine} :
    Emits (groupImage catalog group machines) []
      fun id => ∃ tag ∈ tagsOf machines, catalog.image? tag = some id := by
  have hparts : Emits (groupImage catalog group machines) [] _ :=
    emits_ofExcept.andThen fun _ _ => emits_chooseTag.andThen fun _ _ => emits_resolve.afterLog
  apply hparts.congr rfl
  intro id hid
  rcases hid with ⟨all, hall, tag, htag, himage⟩
  have hoptions : distinctFrom [] all = all.eraseDups := distinctFrom_eraseDups [] all
  rw [hoptions, List.mem_eraseDups, (tags_eq_ok_iff.mp hall).2] at htag
  exact ⟨tag, htag, himage⟩

theorem emits_planGroup {entry : String × List String} :
    Emits (planGroup inventory catalog settings entry.1 entry.2) []
      (Planned inventory catalog entry) := by
  have hparts : Emits (planGroup inventory catalog settings entry.1 entry.2) [] _ :=
    emits_requireName.andThen fun _ _ => Emits.afterLog (
      emits_serviceAccount.andThen fun _ _ => emits_ofExcept.andThen fun _ _ =>
      emits_groupImage.andThen fun _ _ => emits_ofExcept.andThen fun _ _ => emits_done)
  apply hparts.congr rfl
  intro plan hplan
  rcases hplan with ⟨_, hvalid, account, _, size, hsize, image, himage, scale, hscale, heq⟩
  have hsized := Size.supOf_eq_ok_iff.mp hsize
  have hcounted := (totalCount_eq_ok_iff Text.wordBound_pos).mp hscale
  rw [Size.zero_sup] at hsized
  rw [Nat.zero_add] at hcounted
  rw [heq]
  constructor
  · rfl
  · exact hvalid
  · exact hsized.1
  · exact congrArg Size.rounded hsized.2
  · exact himage
  · rfl
  · exact hcounted.2.2

theorem maintains_groups {always : List String → Prop} {after : Unit → List String → Prop}
    {entries : List (String × List String)} {written : List String}
    (halways : ∀ done plans, done <+: entries →
      List.Forall₂ (Planned inventory catalog) done plans →
      always (written ++ plans.map (GroupPlan.block settings)))
    (hafter : ∀ plans, List.Forall₂ (Planned inventory catalog) entries plans →
      after () (written ++ plans.map (GroupPlan.block settings))) :
    (groups inventory catalog settings entries).Maintains always after written := by
  have hstop := halways [] [] List.nil_prefix .nil
  rw [List.map_nil, List.append_nil] at hstop
  induction entries generalizing written with
  | nil =>
    have hdone := hafter [] .nil
    rw [List.map_nil, List.append_nil] at hdone
    exact hdone
  | cons entry entries ih =>
    have hgroups : groups inventory catalog settings (entry :: entries) =
        (planGroup inventory catalog settings entry.1 entry.2).andThen fun plan =>
          (put (plan.block settings)).andThen fun _ =>
            groups inventory catalog settings entries :=
      andThen_assoc _ _ _
    rw [hgroups, maintains_andThen_iff]
    apply emits_nil_iff.mp emits_planGroup always _ written hstop
    intro plan hplan
    have hcons : ∀ plans : List GroupPlan,
        written ++ [plan.block settings] ++ plans.map (GroupPlan.block settings) =
          written ++ (plan :: plans).map (GroupPlan.block settings) := by
      intro plans
      rw [List.append_assoc]
      rfl
    refine ⟨hstop, ?_⟩
    apply ih
    · intro done plans hdone hplans
      rw [hcons]
      exact halways (entry :: done) (plan :: plans) (List.cons_prefix_cons.mpr ⟨rfl, hdone⟩)
        (.cons hplan hplans)
    · intro plans hplans
      rw [hcons]
      exact hafter (plan :: plans) (.cons hplan hplans)
    · have hfirst := halways [entry] [plan] (List.cons_prefix_cons.mpr ⟨rfl, List.nil_prefix⟩)
        (.cons hplan .nil)
      exact hfirst

/-! ## Machines without a group -/

variable {machine : Machine}

def instanceItems (catalog : Image.Catalog) (settings : Settings) (machine : Machine) :
    List Item :=
  optionalItems machine ++
    [bootDisk ((machine.image? catalog).getD ""), instanceInterface settings machine,
      instanceResources machine.size.rounded]

/-- The instance of a machine, as it is written when all goes well. -/
def instancePieces (catalog : Image.Catalog) (settings : Settings) (machine : Machine) :
    List String :=
  instanceHeader machine ::
    ((instanceItems catalog settings machine).map (Item.render 1) ++ [topClose])

/-- The name of a machine's folder, unless an earlier machine stands in it too. -/
def newFolders (before : List Machine) (machine : Machine) : List String :=
  machine.folder?.toList.filter fun name => decide (name ∉ foldersOf before)

def standalonePieces (catalog : Image.Catalog) (settings : Settings) :
    List Machine → List Machine → List String
  | _, [] => []
  | before, machine :: machines =>
    (newFolders before machine).map folderBlock ++ instancePieces catalog settings machine ++
      standalonePieces catalog settings (before ++ [machine]) machines

theorem foldersOf_concat (before : List Machine) (machine : Machine) :
    foldersOf (before ++ [machine]) = foldersOf before ++ newFolders before machine := by
  unfold newFolders
  cases hname : machine.folder? with
  | none =>
    rw [foldersOf_concat_of_none hname]
    exact (List.append_nil _).symm
  | some name =>
    have hiff : name ∈ foldersOf before ↔ name ∈ before.filterMap Machine.folder? :=
      mem_foldersOf_iff
    rw [foldersOf_concat_of_some hname]
    by_cases hmem : name ∈ foldersOf before
    · rw [if_pos (hiff.mp hmem)]
      simp [hmem]
    · rw [if_neg (mt hiff.mpr hmem)]
      simp [hmem]

theorem emits_machineImage :
    Emits (machineImage catalog machine) [] fun id =>
      (machine.image? catalog).isSome = true ∧ id = (machine.image? catalog).getD "" := by
  unfold machineImage Machine.image?
  cases machine.attribute? "os_id" with
  | none => exact emits_fail.congr rfl fun _ hfalse => hfalse.elim
  | some tag =>
    apply emits_resolve.congr rfl
    intro id hid
    rw [Option.bind_some, hid]
    exact ⟨rfl, rfl⟩

theorem emits_withAttribute {key : String} {body : String → Interaction Unit}
    {P : String → Prop} {item : String → Item}
    (hbody : ∀ value, Emits (body value) [(item value).render 1] fun _ => P value) :
    Emits (withAttribute machine key body)
      (((machine.attribute? key).toList.map item).map (Item.render 1))
      fun _ => ∀ value, machine.attribute? key = some value → P value := by
  unfold withAttribute
  cases machine.attribute? key with
  | none => exact emits_done.congr rfl fun _ _ _ hnone => nomatch hnone
  | some value =>
    apply (hbody value).congr rfl
    intro nothing hvalue other hother
    rw [← Option.some.inj hother]
    exact hvalue

theorem emits_optionalLines :
    Emits (optionalLines machine) ((optionalItems machine).map (Item.render 1))
      fun _ => ∀ name, machine.attribute? "name" = some name →
        Name.isValid (Name.unquote name) = true := by
  have hcount : Emits (withAttribute machine "count" fun count =>
      putItem (.attribute "count" count)) _ _ :=
    emits_withAttribute fun _ => emits_put
  have hname : Emits (withAttribute machine "name" fun name =>
      (requireName (Name.unquote name)).andThen fun _ => putItem (.attribute "name" name)) _ _ :=
    emits_withAttribute fun _ =>
      (emits_requireName.andThen fun _ _ => emits_put).congr rfl
        fun _ hvalid => hvalid.choose_spec.1
  have hfolder : Emits (withAttribute machine "basedir" fun directory =>
      putItem (.attribute "folder_id" (idOf folderType (Name.unquote directory)))) _ _ :=
    emits_withAttribute fun _ => emits_put
  have hitems : machine.folder?.toList.map
        (fun name => Item.attribute "folder_id" (idOf folderType name)) =
      (machine.attribute? "basedir").toList.map fun directory =>
        Item.attribute "folder_id" (idOf folderType (Name.unquote directory)) := by
    unfold Machine.folder?
    cases machine.attribute? "basedir" with
    | none => rfl
    | some directory => rfl
  apply (hcount.andThen fun _ _ => hname.andThen fun _ _ => hfolder).congr
  · rw [optionalItems, hitems, List.map_append, List.map_append, List.append_assoc]
  · intro nothing hparts
    rcases hparts with ⟨_, _, _, hvalid, _⟩
    exact hvalid

theorem emits_singleInstance :
    Emits (singleInstance catalog settings machine) (instancePieces catalog settings machine)
      fun _ => (∀ name, machine.attribute? "name" = some name →
        Name.isValid (Name.unquote name) = true) ∧
        (machine.image? catalog).isSome = true ∧ machine.Sized := by
  have hsize : Emits (ofExcept (Size.ofMachine machine)) []
      fun size => machine.Sized ∧ size = machine.size :=
    emits_ofExcept.congr rfl fun _ => Size.ofMachine_eq_ok_iff.mp
  have hparts : Emits (singleInstance catalog settings machine) _ _ :=
    Emits.afterLog (emits_put.andThen fun _ _ => emits_optionalLines.andThen fun _ _ =>
      emits_machineImage.andThenAt fun _ => emits_put.andThen fun _ _ =>
      emits_put.andThen fun _ _ => hsize.andThenAt fun _ => emits_put.andThen fun _ _ => emits_put)
  apply hparts.congr
  · simp [instancePieces, instanceItems]
  · intro nothing hall
    rcases hall with ⟨_, _, _, hname, himage, _, _, _, _, hsized, _⟩
    exact ⟨hname, himage, hsized⟩

theorem emits_folderOf {before : List Machine} :
    Emits (folderOf (foldersOf before) machine) ((newFolders before machine).map folderBlock)
      fun folders => (∀ name ∈ newFolders before machine, Name.isValid name = true) ∧
        folders = foldersOf (before ++ [machine]) := by
  rw [foldersOf_concat]
  unfold folderOf newFolders Machine.folder?
  cases machine.attribute? "basedir" with
  | none =>
    apply emits_done.congr rfl
    intro folders hfolders
    rw [hfolders]
    simp
  | some directory =>
    unfold folder
    by_cases hmem : Name.unquote directory ∈ foldersOf before
    · have hparts : Emits ((log (.debug s!"Folder {Name.unquote directory} already created"
          )).andThen fun _ => done (foldersOf before)) [] _ :=
        emits_done.afterLog
      simp only [if_pos hmem]
      apply hparts.congr
      · simp [hmem]
      · intro folders hfolders
        rw [hfolders]
        simp [hmem]
    · have hparts : Emits ((requireName (Name.unquote directory)).andThen fun _ =>
          (put (folderBlock (Name.unquote directory))).andThen fun _ =>
            done (foldersOf before ++ [Name.unquote directory])) _ _ :=
        emits_requireName.andThen fun _ _ => emits_put.andThen fun _ _ => emits_done
      simp only [if_neg hmem]
      apply hparts.congr
      · simp [hmem]
      · intro folders hfolders
        rcases hfolders with ⟨_, hvalid, _, _, heq⟩
        rw [heq]
        simp [hmem, hvalid]

/-- A folder that is not new has been checked before. -/
theorem isValid_folder_of_new {before : List Machine}
    (hbefore : ∀ name ∈ foldersOf before, Name.isValid name = true)
    (hnew : ∀ name ∈ newFolders before machine, Name.isValid name = true) :
    ∀ name, machine.folder? = some name → Name.isValid name = true := by
  intro name hname
  by_cases hmem : name ∈ foldersOf before
  · exact hbefore name hmem
  · apply hnew
    simp [newFolders, hname, hmem]

theorem emits_convertMachine {before : List Machine}
    (hbefore : ∀ name ∈ foldersOf before, Name.isValid name = true) :
    Emits (convertMachine catalog settings (foldersOf before) machine)
      ((newFolders before machine).map folderBlock ++ instancePieces catalog settings machine)
      fun folders => machine.Convertible catalog ∧
        folders = foldersOf (before ++ [machine]) := by
  have hparts : Emits (convertMachine catalog settings (foldersOf before) machine) _ _ :=
    emits_folderOf.andThenAt fun _ => emits_singleInstance.andThen fun _ _ => emits_done
  apply hparts.congr
  · rw [List.append_nil]
  · intro folders hfolders
    rcases hfolders with ⟨hnew, _, ⟨hname, himage, hsized⟩, heq⟩
    exact ⟨⟨isValid_folder_of_new hbefore hnew, hname, himage, hsized⟩, heq⟩

theorem emits_instances {before machines : List Machine}
    (hbefore : ∀ name ∈ foldersOf before, Name.isValid name = true) :
    Emits (instances catalog settings (foldersOf before) machines)
      (standalonePieces catalog settings before machines)
      fun folders => (∀ machine ∈ machines, machine.Convertible catalog) ∧
        folders = foldersOf (before ++ machines) := by
  induction machines generalizing before with
  | nil =>
    rw [instances, List.append_nil]
    exact emits_done.congr rfl fun _ heq => ⟨List.forall_mem_nil _, heq⟩
  | cons machine machines ih =>
    have happend : before ++ machine :: machines = before ++ [machine] ++ machines := by
      rw [List.append_assoc]
      rfl
    rw [happend, instances_cons]
    apply ((emits_convertMachine hbefore).andThenAt fun hmachine =>
      ih (isValid_foldersOf_concat hbefore hmachine)).congr rfl
    intro folders hfolders
    rcases hfolders with ⟨hmachine, hmachines, heq⟩
    exact ⟨List.forall_mem_cons.mpr ⟨hmachine, hmachines⟩, heq⟩

/-! ## The whole configuration -/

def sharedPieces (settings : Settings) : List String :=
  [requirements, provider settings.credentials, networkBlock settings.network,
    subnetBlock settings]

theorem emits_shared : Emits (shared settings) (sharedPieces settings) fun _ => True := by
  have hparts : Emits (shared settings) _ _ :=
    emits_put.andThen fun _ _ => emits_put.andThen fun _ _ => Emits.afterLog (
      emits_put.andThen fun _ _ => Emits.afterLog emits_put)
  exact hparts.congr rfl fun _ _ => trivial

/-- What can have been written where a run stops. -/
def StopsWith (inventory : Inventory) (catalog : Image.Catalog) (settings : Settings)
    (pieces : List String) : Prop :=
  ∃ front done plans back, front <+: sharedPieces settings ∧
    done <+: inventory.groups.entries ∧ List.Forall₂ (Planned inventory catalog) done plans ∧
    back <+: standalonePieces catalog settings [] inventory.standalone ∧
    pieces = front ++ (plans.map (GroupPlan.block settings) ++ back)

/-- What has been written, and what is known, where a run gives folders. -/
def EndsWith (inventory : Inventory) (catalog : Image.Catalog) (settings : Settings)
    (folders : List String) (pieces : List String) : Prop :=
  (∃ plans, List.Forall₂ (Planned inventory catalog) inventory.groups.entries plans ∧
    pieces = sharedPieces settings ++ (plans.map (GroupPlan.block settings) ++
      standalonePieces catalog settings [] inventory.standalone)) ∧
    (∀ machine ∈ inventory.standalone, machine.Convertible catalog) ∧
    folders = foldersOf inventory.standalone

theorem maintains_configuration :
    (configuration inventory catalog settings).Maintains
      (StopsWith inventory catalog settings) (EndsWith inventory catalog settings) [] := by
  have hnone : ∀ name ∈ foldersOf [], Name.isValid name = true := by
    simp [foldersOf]
  have hinstances : Emits (instances catalog settings [] inventory.standalone) _ _ :=
    emits_instances hnone
  unfold configuration
  simp only [bind_eq_andThen]
  rw [maintains_andThen_iff]
  apply emits_shared
  · intro front hfront
    exact ⟨front, [], [], [], hfront, List.nil_prefix, .nil, List.nil_prefix,
      (List.append_nil front).symm⟩
  intro nothing _
  rw [maintains_andThen_iff, List.nil_append]
  apply maintains_groups
  · intro done plans hdone hplans
    refine ⟨_, done, plans, [], List.prefix_rfl, hdone, hplans, List.nil_prefix, ?_⟩
    rw [List.append_nil]
  intro plans hplans
  rw [maintains_andThen_iff]
  apply hinstances
  · intro back hback
    rw [List.append_assoc]
    exact ⟨_, _, plans, back, List.prefix_rfl, List.prefix_rfl, hplans, hback, rfl⟩
  · intro folders hfolders
    have hends : EndsWith inventory catalog settings folders
        (sharedPieces settings ++ plans.map (GroupPlan.block settings) ++
          standalonePieces catalog settings [] inventory.standalone) :=
      ⟨⟨plans, hplans, List.append_assoc _ _ _⟩, hfolders⟩
    exact hends

/-- Wherever a run stops, this is what it has written. -/
theorem written_configuration {σ : Type} (op : Operator σ) (room : Room) (s : σ)
    (inventory : Inventory) (catalog : Image.Catalog) (settings : Settings) :
    StopsWith inventory catalog settings
        ((configuration inventory catalog settings).run op room s).written ∧
      ∀ folders, ((configuration inventory catalog settings).run op room s).outcome =
          .ok folders →
        EndsWith inventory catalog settings folders
          ((configuration inventory catalog settings).run op room s).written := by
  have hends : ∀ folders pieces, EndsWith inventory catalog settings folders pieces →
      StopsWith inventory catalog settings pieces := by
    intro folders pieces h
    rcases h with ⟨⟨plans, hplans, hpieces⟩, -⟩
    exact ⟨_, _, plans, _, List.prefix_rfl, List.prefix_rfl, hplans, List.prefix_rfl, hpieces⟩
  exact maintains_configuration.run hends op room s

end Generate

end CloudLift
