import CloudLift.Proofs.Generate.Group

/-!
# When a machine without a group is converted

An instance is written as its parts are checked, so each check stands between two pieces
of its text.  When all checks pass, the pieces together are one block.

The folders written so far are those of the machines that came before.  All of them are
valid names, since none is written before its check, and this is why a folder that is
already there needs no check of its own.
-/

namespace CloudLift

variable {σ : Type}

namespace Machine

/-- The name of the folder that the machine stands in. -/
def folder? (machine : Machine) : Option String :=
  (machine.attribute? "basedir").map Name.unquote

def image? (machine : Machine) (catalog : Image.Catalog) : Option String :=
  (machine.attribute? "os_id").bind catalog.image?

/-- Everything that the instance of the machine needs is there. -/
structure Convertible (machine : Machine) (catalog : Image.Catalog) : Prop where
  folder : ∀ name, machine.folder? = some name → Name.isValid name = true
  name : ∀ name, machine.attribute? "name" = some name →
    Name.isValid (Name.unquote name) = true
  image : (machine.image? catalog).isSome = true
  sized : machine.Sized

end Machine

namespace Generate

open Terraform Interaction

/-! ## The text of an instance -/

def optionalItems (machine : Machine) : List Item :=
  (machine.attribute? "count").toList.map (.attribute "count") ++
    (machine.attribute? "name").toList.map (.attribute "name") ++
    machine.folder?.toList.map fun name => .attribute "folder_id" (idOf folderType name)

def instanceBlock (catalog : Image.Catalog) (settings : Settings) (machine : Machine) :
    String :=
  render (resource instanceType machine.reference)
    (optionalItems machine ++
      [bootDisk ((machine.image? catalog).getD ""), instanceInterface settings machine,
        instanceResources machine.size.rounded])

/-- The folders of the machines in first-seen order. -/
def foldersOf (machines : List Machine) : List String :=
  (machines.filterMap Machine.folder?).eraseDups

/-- The block of a machine's folder, unless an earlier machine stands in it too. -/
def newFolder (before : List Machine) (machine : Machine) : String :=
  match machine.folder? with
  | some name => if name ∈ before.filterMap Machine.folder? then "" else folderBlock name
  | none => ""

/-- The blocks of machines that come after others. -/
def instanceBlocks (catalog : Image.Catalog) (settings : Settings) :
    List Machine → List Machine → String
  | _, [] => ""
  | before, machine :: machines =>
    newFolder before machine ++ instanceBlock catalog settings machine ++
      instanceBlocks catalog settings (before ++ [machine]) machines

/-! ## What is written for a machine -/

section Writes

variable {op : Operator σ} {s : σ} {machine : Machine} {catalog : Image.Catalog}
  {settings : Settings}

theorem writes_machineImage :
    Writes op s (machineImage catalog machine) ((machine.image? catalog).isSome = true)
      ((machine.image? catalog).getD "") "" := by
  intro id text s'
  unfold machineImage Machine.image?
  cases machine.attribute? "os_id" with
  | none => simp
  | some tag =>
    dsimp only
    rw [yields_resolve_iff, Option.bind_some]
    cases catalog.image? tag with
    | none => simp
    | some other => simp [eq_comm]

theorem writes_putItem {item : Item} :
    Writes op s (putItem item) True () (item.render 1) :=
  writes_put

/-- A line that a machine has only if it has the attribute, after a check of its value. -/
theorem writes_withAttribute {key : String} {body : String → Interaction Unit}
    {P : String → Prop} {item : String → Item}
    (hbody : ∀ value, Writes op s (body value) (P value) () ((item value).render 1)) :
    Writes op s (withAttribute machine key body)
      (∀ value, machine.attribute? key = some value → P value) ()
      (renderItems 1 ((machine.attribute? key).toList.map item)) := by
  unfold withAttribute
  cases machine.attribute? key with
  | none => exact writes_done.congr (by simp) rfl
  | some value => exact (hbody value).congr (by simp) (by simp [renderItems])

theorem writes_optionalLines :
    Writes op s (optionalLines machine)
      (∀ name, machine.attribute? "name" = some name →
        Name.isValid (Name.unquote name) = true) ()
      (renderItems 1 (optionalItems machine)) := by
  have hcount : Writes op s (withAttribute machine "count" fun count =>
      putItem (.attribute "count" count)) _ () _ :=
    writes_withAttribute fun _ => writes_putItem
  have hname : Writes op s (withAttribute machine "name" fun name =>
      (requireName (Name.unquote name)).andThen fun _ =>
        putItem (.attribute "name" name)) _ () _ :=
    writes_withAttribute fun _ =>
      (writes_requireName.andThen fun _ => writes_putItem).congr
        (iff_of_eq (and_true _)) String.empty_append
  have hfolder : Writes op s (withAttribute machine "basedir" fun directory =>
      putItem (.attribute "folder_id" (idOf folderType (Name.unquote directory)))) _ () _ :=
    writes_withAttribute fun _ => writes_putItem
  have hitems : machine.folder?.toList.map
        (fun name => Item.attribute "folder_id" (idOf folderType name)) =
      (machine.attribute? "basedir").toList.map fun directory =>
        Item.attribute "folder_id" (idOf folderType (Name.unquote directory)) := by
    unfold Machine.folder?
    cases machine.attribute? "basedir" <;> rfl
  refine (hcount.andThen fun _ => hname.andThen fun _ => hfolder).congr ?_ ?_
  · simp
  · rw [optionalItems, hitems, renderItems_append, renderItems_append, String.append_assoc]

theorem writes_singleInstance :
    Writes op s (singleInstance catalog settings machine)
      ((∀ name, machine.attribute? "name" = some name →
        Name.isValid (Name.unquote name) = true) ∧
        (machine.image? catalog).isSome = true ∧ machine.Sized) ()
      (instanceBlock catalog settings machine) := by
  have hsize : Writes op s (ofExcept (Size.ofMachine machine)) machine.Sized machine.size "" :=
    writes_ofExcept fun _ => Size.ofMachine_eq_ok_iff
  refine (writes_log.andThen fun _ => writes_put.andThen fun _ =>
    writes_optionalLines.andThen fun _ => writes_machineImage.andThen fun _ =>
    writes_putItem.andThen fun _ => writes_putItem.andThen fun _ =>
    hsize.andThen fun _ => writes_putItem.andThen fun _ => writes_put).congr ?_ ?_
  · simp
  · simp [instanceBlock, render, renderItems_append, renderItems, instanceHeader,
      String.append_assoc]

/-! ## Machines one after the other -/

theorem mem_foldersOf_iff {machines : List Machine} {name : String} :
    name ∈ foldersOf machines ↔ name ∈ machines.filterMap Machine.folder? :=
  List.mem_eraseDups

theorem foldersOf_concat_of_none {before : List Machine} (hname : machine.folder? = none) :
    foldersOf (before ++ [machine]) = foldersOf before := by
  unfold foldersOf
  rw [List.filterMap_append, List.filterMap_cons_none hname, List.filterMap_nil,
    List.append_nil]

theorem foldersOf_concat_of_some {before : List Machine} {name : String}
    (hname : machine.folder? = some name) :
    foldersOf (before ++ [machine]) =
      if name ∈ before.filterMap Machine.folder? then foldersOf before
      else foldersOf before ++ [name] := by
  unfold foldersOf
  rw [List.filterMap_append, List.filterMap_cons_some hname, List.filterMap_nil,
    eraseDups_concat]

theorem writes_folder {before : List Machine} {directory : String}
    (hbefore : ∀ name ∈ foldersOf before, Name.isValid name = true)
    (hdirectory : machine.attribute? "basedir" = some directory) :
    Writes op s (folder (foldersOf before) directory)
      (∀ name, machine.folder? = some name → Name.isValid name = true)
      (foldersOf (before ++ [machine])) (newFolder before machine) := by
  have hname : machine.folder? = some (Name.unquote directory) := by
    rw [Machine.folder?, hdirectory, Option.map_some]
  have hcondition : (∀ name, machine.folder? = some name → Name.isValid name = true) ↔
      Name.isValid (Name.unquote directory) = true := by
    simp [hname]
  rw [hcondition, foldersOf_concat_of_some hname]
  unfold folder newFolder
  simp only [hname, mem_foldersOf_iff]
  by_cases hmem : Name.unquote directory ∈ before.filterMap Machine.folder?
  · have hvalid := hbefore _ (mem_foldersOf_iff.mpr hmem)
    have hparts : Writes op s ((log (.debug s!"Folder {Name.unquote directory} already created"
        )).andThen fun _ => done (foldersOf before)) _ (foldersOf before) _ :=
      writes_log.andThen fun _ => writes_done
    rw [if_pos hmem, if_pos hmem, if_pos hmem]
    exact hparts.congr (by simp [hvalid]) String.empty_append
  · have hparts : Writes op s ((requireName (Name.unquote directory)).andThen fun _ =>
        (put (folderBlock (Name.unquote directory))).andThen fun _ =>
          done (foldersOf before ++ [Name.unquote directory])) _
        (foldersOf before ++ [Name.unquote directory]) _ :=
      writes_requireName.andThen fun _ => writes_put.andThen fun _ => writes_done
    rw [if_neg hmem, if_neg hmem, if_neg hmem]
    exact hparts.congr (by simp) (by simp)

def folderOf (folders : List String) (machine : Machine) : Interaction (List String) :=
  match machine.attribute? "basedir" with
  | some directory => folder folders directory
  | none => done folders

theorem writes_folderOf {before : List Machine}
    (hbefore : ∀ name ∈ foldersOf before, Name.isValid name = true) :
    Writes op s (folderOf (foldersOf before) machine)
      (∀ name, machine.folder? = some name → Name.isValid name = true)
      (foldersOf (before ++ [machine])) (newFolder before machine) := by
  unfold folderOf
  cases hdirectory : machine.attribute? "basedir" with
  | some directory => exact writes_folder hbefore hdirectory
  | none =>
    have hname : machine.folder? = none := by
      rw [Machine.folder?, hdirectory, Option.map_none]
    have htext : newFolder before machine = "" := by
      rw [newFolder, hname]
    rw [foldersOf_concat_of_none hname, htext, hname]
    exact writes_done.congr (by simp) rfl

/-- The folder and the instance of one machine. -/
def convertMachine (catalog : Image.Catalog) (settings : Settings) (folders : List String)
    (machine : Machine) : Interaction (List String) :=
  (folderOf folders machine).andThen fun folders =>
    (singleInstance catalog settings machine).andThen fun _ => done folders

theorem instances_cons (folders : List String) (machine : Machine)
    (machines : List Machine) :
    instances catalog settings folders (machine :: machines) =
      (convertMachine catalog settings folders machine).andThen fun folders =>
        instances catalog settings folders machines := by
  rw [instances, convertMachine, folderOf]
  simp only [andThen_assoc, pure_andThen]
  cases machine.attribute? "basedir" <;> rfl

theorem writes_convertMachine {before : List Machine}
    (hbefore : ∀ name ∈ foldersOf before, Name.isValid name = true) :
    Writes op s (convertMachine catalog settings (foldersOf before) machine)
      (machine.Convertible catalog) (foldersOf (before ++ [machine]))
      (newFolder before machine ++ instanceBlock catalog settings machine) := by
  refine Writes.congr ((writes_folderOf hbefore).andThen fun _ =>
    writes_singleInstance.andThen fun _ => writes_done) ?_ ?_
  · constructor
    · intro hparts
      obtain ⟨hfolder, ⟨hname, himage, hsized⟩, -⟩ := hparts
      exact ⟨hfolder, hname, himage, hsized⟩
    · intro hconvertible
      exact ⟨hconvertible.folder,
        ⟨hconvertible.name, hconvertible.image, hconvertible.sized⟩, trivial⟩
  · rw [String.append_empty]

theorem isValid_foldersOf_concat {before : List Machine}
    (hbefore : ∀ name ∈ foldersOf before, Name.isValid name = true)
    (hmachine : machine.Convertible catalog) :
    ∀ name ∈ foldersOf (before ++ [machine]), Name.isValid name = true := by
  intro name hname
  rw [mem_foldersOf_iff, List.filterMap_append, List.mem_append] at hname
  rcases hname with hname | hname
  · exact hbefore name (mem_foldersOf_iff.mpr hname)
  · exact hmachine.folder name (by simpa using hname)

theorem writes_instances {before machines : List Machine}
    (hbefore : ∀ name ∈ foldersOf before, Name.isValid name = true) :
    Writes op s (instances catalog settings (foldersOf before) machines)
      (∀ machine ∈ machines, machine.Convertible catalog) (foldersOf (before ++ machines))
      (instanceBlocks catalog settings before machines) := by
  induction machines generalizing before with
  | nil =>
    rw [instances, List.append_nil]
    exact writes_done.congr (by simp) rfl
  | cons machine machines ih =>
    have happend : before ++ machine :: machines = before ++ [machine] ++ machines := by
      rw [List.append_assoc]
      rfl
    rw [happend, instances_cons, instanceBlocks, List.forall_mem_cons]
    exact (writes_convertMachine hbefore).andThen fun hmachine =>
      ih (isValid_foldersOf_concat hbefore hmachine)

end Writes

end Generate

end CloudLift
