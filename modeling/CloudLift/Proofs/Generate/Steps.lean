import CloudLift.Proofs.Failure
import CloudLift.Proofs.Generate.Instance

/-!
# The checks of groups and instances

The two kinds of items differ in where their checks stand.  A group makes all of its checks
before it writes anything, and it makes each check for all members before the next one.  An
instance is written as it is checked.

The operator's answers to a group are those by which it is settled.  What is looked for here
is the fault, where an answer is none or cannot be used.
-/

namespace CloudLift

variable {σ : Type}

/-! ## Single checks -/

def nameFault? (name : String) : Option Fault :=
  if Name.isValid name then none else some (.invalidName name)

def Image.Catalog.imageFault? (catalog : Image.Catalog) (tag : String) : Option Fault :=
  if (catalog.image? tag).isSome then none
  else some (.unresolvedOsName tag (Image.imageKey tag))

namespace Machine

def quantityFault? (machine : Machine) (quantity : Quantity) (missing : String → Fault) :
    Option Fault :=
  match machine.attribute? quantity.key with
  | none => some (missing machine.reference)
  | some raw =>
    if (machine.number? quantity).isSome then none
    else some (.numericFormat quantity raw machine.reference)

def sizeChecks (machine : Machine) : List (Option Fault) :=
  [machine.quantityFault? .cpus .cpusNotDefined,
    machine.quantityFault? .memory .memoryNotDefined]

def tagFault? (machine : Machine) : Option Fault :=
  if (machine.attribute? "os_id").isSome then none
  else some (.osIdNotDefined machine.reference)

/-- The fault of a count that is no number, or that makes the sum too large. -/
def countFault (machine : Machine) : Fault :=
  .numericFormat .count ((machine.attribute? Quantity.count.key).getD "1") machine.reference

/-- The count must be a number, and the sum with the counts before it must fit in a word. -/
def countFault? (machine : Machine) (total : Nat) : Option Fault :=
  if machine.count?.any fun own => total + own < Text.wordBound then none
  else some machine.countFault

theorem quantity_eq_ok_of_none {machine : Machine} {quantity : Quantity}
    {missing : String → Fault} (hnone : machine.quantityFault? quantity missing = none) :
    machine.quantity quantity missing = .ok ((machine.number? quantity).getD 0) := by
  unfold quantityFault? at hnone
  rw [quantity_eq_ok_iff]
  cases hraw : machine.attribute? quantity.key with
  | none => simp [hraw] at hnone
  | some raw =>
    simp only [hraw, ite_eq_left_iff, reduceCtorEq, imp_false, not_not] at hnone
    obtain ⟨n, hn⟩ := Option.isSome_iff_exists.mp hnone
    rw [hn, Option.getD_some]

theorem quantity_eq_error_of_some {machine : Machine} {quantity : Quantity}
    {missing : String → Fault} {fault : Fault}
    (hsome : machine.quantityFault? quantity missing = some fault) :
    machine.quantity quantity missing = .error fault := by
  unfold quantityFault? at hsome
  unfold Machine.quantity
  cases hraw : machine.attribute? quantity.key with
  | none =>
    rw [hraw] at hsome
    exact congrArg Except.error (Option.some.inj hsome)
  | some raw =>
    have hnumber : machine.number? quantity =
        Text.numeralBelow? Text.wordBound (Text.trim (Name.unquote raw)) := by
      rw [number?, hraw, Option.bind_some]
    simp only [hraw, hnumber, Option.ite_none_left_eq_some, Option.some.injEq] at hsome
    exact readQuantity_eq_error_iff.mpr ⟨Option.not_isSome_iff_eq_none.mp hsome.1, hsome.2.symm⟩

theorem count_eq_error_of_none {machine : Machine} (hnone : machine.count? = none) :
    machine.count = .error machine.countFault := by
  unfold count? at hnone
  unfold count countFault
  cases hraw : machine.attribute? Quantity.count.key with
  | none => simp [hraw] at hnone
  | some raw =>
    have hnumber : Text.numeralBelow? Text.wordBound (Text.trim (Name.unquote raw)) = none := by
      simpa [hraw, number?] using hnone
    rw [Option.getD_some]
    exact readQuantity_eq_error_iff.mpr ⟨hnumber, rfl⟩

end Machine

/-- The counts of the machines, after others that count to the total. -/
def countChecks : Nat → List Machine → List (Option Fault)
  | _, [] => []
  | total, machine :: machines =>
    machine.countFault? total :: countChecks (total + machine.count?.getD 0) machines

namespace Interaction

variable {op : Operator σ} {s : σ} {machine : Machine} {machines : List Machine}
  {catalog : Image.Catalog}

theorem follows_requireName {name : String} :
    Follows op s (requireName name) (Step.checks [nameFault? name]) () s := by
  unfold nameFault?
  by_cases hvalid : Name.isValid name = true
  · have hyields : Yields op s (requireName name) () "" s :=
      yields_requireName_iff.mpr ⟨hvalid, rfl, rfl⟩
    rw [if_pos hvalid]
    exact hyields.follows rfl rfl
  · have hfails : Fails op s (requireName name) (.invalidName name) "" := by
      unfold requireName Name.check
      rw [if_neg hvalid]
      exact ⟨rfl, rfl⟩
    rw [if_neg hvalid]
    exact hfails.follows rfl rfl

theorem follows_resolve {tag : String} :
    Follows op s (catalog.resolve tag) (Step.checks [catalog.imageFault? tag])
      ((catalog.image? tag).getD "") s := by
  unfold Image.Catalog.imageFault?
  cases himage : catalog.image? tag with
  | none =>
    have hmatch : catalog.match? tag = none := Option.map_eq_none_iff.mp himage
    rw [Image.Catalog.resolve, hmatch]
    exact follows_fail
  | some id =>
    have hyields : Yields op s (catalog.resolve tag) id "" s :=
      yields_resolve_iff.mpr ⟨himage, rfl, rfl⟩
    exact hyields.follows rfl rfl

/-! ### Checks of one machine after the other -/

theorem follows_quantity {quantity : Quantity} {missing : String → Fault} :
    Follows op s (ofExcept (machine.quantity quantity missing))
      (Step.checks [machine.quantityFault? quantity missing])
      ((machine.number? quantity).getD 0) s :=
  follows_ofExcept (fun _ => Machine.quantity_eq_error_of_some) Machine.quantity_eq_ok_of_none

theorem follows_ofMachine :
    Follows op s (ofExcept (Size.ofMachine machine)) (Step.checks machine.sizeChecks)
      machine.size s := by
  unfold Size.ofMachine
  simp only [ofExcept_bind]
  exact follows_quantity.andThen fun _ => follows_quantity.andThen fun _ => follows_done

theorem follows_supOf {size : Size} :
    Follows op s (ofExcept (size.supOf machines))
      (Step.checks (machines.flatMap Machine.sizeChecks))
      (size.sup (Size.largest machines)) s := by
  induction machines generalizing size with
  | nil =>
    rw [Size.sup_largest_nil]
    exact follows_done
  | cons machine machines ih =>
    rw [Size.supOf, ofExcept_bind, Size.sup_largest_cons, List.flatMap_cons, Step.checks,
      List.map_append]
    exact follows_ofMachine.andThen fun _ => ih

theorem follows_tags :
    Follows op s (ofExcept (Generate.tags machines))
      (Step.checks (machines.map Machine.tagFault?)) (Generate.tagsOf machines) s := by
  induction machines with
  | nil => exact follows_done
  | cons machine machines ih =>
    unfold Generate.tags
    cases htag : machine.attribute? "os_id" with
    | none =>
      have hfault : machine.tagFault? = some (.osIdNotDefined machine.reference) := by
        simp [Machine.tagFault?, htag]
      rw [List.map_cons, hfault]
      exact follows_fail
    | some tag =>
      have hfault : machine.tagFault? = none := by
        simp [Machine.tagFault?, htag]
      have htags : Generate.tagsOf (machine :: machines) = tag :: Generate.tagsOf machines :=
        List.filterMap_cons_some htag
      have hrest : Follows op s
          (ofExcept (Generate.tags machines >>= fun rest => pure (tag :: rest)))
          (Step.checks (machines.map Machine.tagFault?) ++ [])
          (tag :: Generate.tagsOf machines) s := by
        rw [ofExcept_bind]
        exact ih.andThen fun _ => follows_done
      rw [List.append_nil] at hrest
      rw [List.map_cons, hfault, htags]
      exact hrest.passed

theorem follows_totalCount {total : Nat} :
    Follows op s (ofExcept (totalCount total machines))
      (Step.checks (countChecks total machines)) (total + instanceCount machines) s := by
  induction machines generalizing total with
  | nil => exact follows_done
  | cons machine machines ih =>
    rw [totalCount, countChecks]
    cases hcount : machine.count? with
    | none =>
      have hfault : machine.countFault? total = some machine.countFault := by
        rw [Machine.countFault?, hcount]
        rfl
      rw [Machine.count_eq_error_of_none hcount, hfault]
      exact follows_fail
    | some own =>
      have hsum : total + instanceCount (machine :: machines) =
          total + own + instanceCount machines := by
        simp [instanceCount, hcount, Nat.add_assoc]
      rw [Machine.count_eq_ok_iff.mpr hcount, ofExcept_bind, ofExcept, pure_andThen, hsum,
        Option.getD_some]
      by_cases hfits : total + own < Text.wordBound
      · have hfault : machine.countFault? total = none := by
          simp [Machine.countFault?, hcount, hfits]
        rw [if_pos hfits, hfault]
        exact ih.passed
      · have hfault : machine.countFault? total = some machine.countFault := by
          simp [Machine.countFault?, hcount, hfits]
        rw [if_neg hfits, hfault]
        exact follows_fail

end Interaction

namespace Generate

open Terraform Interaction

/-! ## Groups -/

def accountFault? (op : Operator σ) (settings : Settings) (group : String) (s : σ) :
    Option Fault :=
  match settings.serviceAccounts.find? group with
  | some _ => none
  | none =>
    match (op.ask (accountQuestion group) s).1 with
    | .ok _ => none
    | .error fault => some fault

def choiceFault? (op : Operator σ) (group : String) (options : List String) (s : σ) :
    Option Fault :=
  match options with
  | [] => some (.osIdNotDefined s!"group {group}")
  | [_] => none
  | options =>
    match (op.choose (systemQuestion group) options s).1 with
    | .ok choice =>
      if choice < options.length then none else some (.choiceOutOfRange choice group)
    | .error fault => some fault

/-- The checks of a group, given by its name as written and its references.  The operator
names the account before choosing among the tags. -/
def groupChecks (op : Operator σ) (settings : Settings) (inventory : Inventory)
    (catalog : Image.Catalog) (entry : String × List String) (s : σ) : List (Option Fault) :=
  let group := (settle op settings inventory entry s).1
  let asked := (accountFor op settings group.name s).2
  [nameFault? group.name, accountFault? op settings group.name s] ++
    group.machines.flatMap Machine.sizeChecks ++
    group.machines.map Machine.tagFault? ++
    [choiceFault? op group.name (tagsOf group.machines).eraseDups asked,
      group.tag?.bind catalog.imageFault?] ++
    countChecks 0 group.machines

section Group

variable {op : Operator σ} {s : σ} {settings : Settings} {inventory : Inventory}
  {catalog : Image.Catalog} {group : String} {machines : List Machine}

theorem follows_serviceAccount :
    Follows op s (serviceAccount settings group)
      (Step.checks [accountFault? op settings group s])
      ((accountFor op settings group s).1.getD "") (accountFor op settings group s).2 := by
  unfold serviceAccount accountFault? accountFor
  cases settings.serviceAccounts.find? group with
  | some known => exact follows_done.passed
  | none =>
    dsimp only
    cases hask : op.ask (accountQuestion group) s with
    | mk reply left =>
      cases reply with
      | error cause => exact (fails_inquire hask).follows rfl rfl
      | ok account =>
        have hyields : Yields op s (inquire (accountQuestion group)) account "" left :=
          yields_inquire_iff.mpr ⟨hask, rfl⟩
        exact hyields.follows rfl rfl

theorem follows_chooseTag {options : List String} :
    Follows op s (chooseTag group options) (Step.checks [choiceFault? op group options s])
      ((tagFor op group options s).1.getD "") (tagFor op group options s).2 := by
  match options with
  | [] => exact follows_fail
  | [only] => exact follows_done.passed
  | first :: second :: rest =>
    unfold chooseTag choiceFault? tagFor
    dsimp only
    rw [bind_eq_andThen]
    cases hchoose : op.choose (systemQuestion group) (first :: second :: rest) s with
    | mk reply left =>
      cases reply with
      | error cause => exact (fails_select hchoose).andThen.follows rfl rfl
      | ok choice =>
        have hyields : Yields op s (select (systemQuestion group) (first :: second :: rest))
            choice "" left :=
          yields_select_iff.mpr ⟨hchoose, rfl⟩
        have hselect : Follows op s (select (systemQuestion group) (first :: second :: rest))
            [] choice left :=
          hyields.follows rfl rfl
        refine hselect.andThen ?_
        intro _
        dsimp only
        cases htag : (first :: second :: rest)[choice]? with
        | none =>
          rw [if_neg (Nat.not_lt.mpr (List.getElem?_eq_none_iff.mp htag))]
          exact follows_fail
        | some tag =>
          rw [if_pos (List.getElem?_eq_some_iff.mp htag).1]
          exact follows_done.passed

theorem tagFor_eq_some {options : List String} (hnone : choiceFault? op group options s = none) :
    ∃ tag, (tagFor op group options s).1 = some tag := by
  have hfault : Step.firstFault (Step.checks [choiceFault? op group options s]) = none := by
    rw [Step.firstFault_checks, List.findSome?_singleton, id, hnone]
  have hyields : Yields op s (chooseTag group options) _ _ _ := follows_chooseTag.yields hfault
  have hsome := (yields_chooseTag_iff.mp hyields).1
  exact ⟨_, congrArg Prod.fst hsome⟩

theorem follows_chosenImage {options : List String} :
    Follows op s
      ((chooseTag group options).andThen fun tag =>
        (log (.debug s!"Group {group} boots {tag}")).andThen fun _ => catalog.resolve tag)
      (Step.checks [choiceFault? op group options s,
        (tagFor op group options s).1.bind catalog.imageFault?])
      (((tagFor op group options s).1.bind catalog.image?).getD "")
      (tagFor op group options s).2 := by
  -- The image is looked for only after a choice, and then there is a tag.
  refine Follows.andThen follows_chooseTag ?_
  intro hnone
  rw [Step.firstFault_checks, List.findSome?_singleton, id] at hnone
  obtain ⟨tag, htag⟩ := tagFor_eq_some hnone
  rw [htag, Option.getD_some, Option.bind_some, Option.bind_some]
  exact follows_log.andThen fun _ => follows_resolve

theorem follows_groupImage :
    Follows op s (groupImage catalog group machines)
      (Step.checks (machines.map Machine.tagFault? ++
        [choiceFault? op group (tagsOf machines).eraseDups s,
          (tagFor op group (tagsOf machines).eraseDups s).1.bind catalog.imageFault?]))
      (((tagFor op group (tagsOf machines).eraseDups s).1.bind catalog.image?).getD "")
      (tagFor op group (tagsOf machines).eraseDups s).2 := by
  have hoptions : distinctFrom [] (tagsOf machines) = (tagsOf machines).eraseDups :=
    distinctFrom_eraseDups [] (tagsOf machines)
  rw [Step.checks, List.map_append, ← hoptions]
  exact follows_tags.andThen fun _ => follows_chosenImage

theorem follows_planGroup {entry : String × List String} :
    Follows op s (planGroup inventory catalog settings entry.1 entry.2)
      (Step.checks (groupChecks op settings inventory catalog entry s))
      ((settle op settings inventory entry s).1.plan catalog)
      (settle op settings inventory entry s).2 := by
  have hsize : ∀ left, Follows op left
      (ofExcept (Size.zero.supOf (members inventory entry.2)))
      (Step.checks ((members inventory entry.2).flatMap Machine.sizeChecks))
      (Size.largest (members inventory entry.2)) left := by
    intro left
    rw [← Size.zero_sup (Size.largest (members inventory entry.2))]
    exact follows_supOf
  have hscale : ∀ left, Follows op left
      (ofExcept (totalCount 0 (members inventory entry.2)))
      (Step.checks (countChecks 0 (members inventory entry.2)))
      (instanceCount (members inventory entry.2)) left := by
    intro left
    rw [← Nat.zero_add (instanceCount (members inventory entry.2))]
    exact follows_totalCount
  refine Follows.congr (follows_requireName.andThen fun _ => follows_log.andThen fun _ =>
    follows_serviceAccount.andThen fun _ => (hsize _).andThen fun _ =>
      follows_groupImage.andThen fun _ => (hscale _).andThen fun _ => follows_done) ?_ ?_
  · simp [groupChecks, Step.checks, settle]
  · simp [groupChecks, Step.checks, settle]

theorem fails_group_iff {entry : String × List String} {fault : Fault} {text : String} :
    Fails op s (Generate.group inventory catalog settings entry.1 entry.2) fault text ↔
      (groupChecks op settings inventory catalog entry s).findSome? id = some fault ∧
        text = "" := by
  have hgroup : Follows op s (Generate.group inventory catalog settings entry.1 entry.2)
      (Step.checks (groupChecks op settings inventory catalog entry s) ++ [.write
        (((settle op settings inventory entry s).1.plan catalog).block settings)])
      () (settle op settings inventory entry s).2 :=
    follows_planGroup.andThen fun _ => follows_put
  have hwritten : Step.firstFault [.write
      (((settle op settings inventory entry s).1.plan catalog).block settings)] = none := rfl
  rw [hgroup.fails_iff, Step.firstFault_append, hwritten, Option.or_none,
    Step.textBefore_append, Step.firstFault_checks, Step.textBefore_checks]
  apply and_congr_right
  intro hfault
  rw [hfault, if_neg (Option.some_ne_none fault), String.append_empty]

end Group

/-! ## Instances -/

/-- A folder needs a check only when it is written. -/
def folderFault? (before : List Machine) (machine : Machine) : Option Fault :=
  machine.folder?.bind fun name =>
    if name ∈ before.filterMap Machine.folder? then none else nameFault? name

/-- The lines for an attribute, if the machine has it. -/
def attributeText (machine : Machine) (key : String) (item : String → Item) : String :=
  renderItems 1 ((machine.attribute? key).toList.map item)

def folderSteps (before : List Machine) (machine : Machine) : List Step :=
  [.require (folderFault? before machine), .write (newFolder before machine)]

def instanceSteps (catalog : Image.Catalog) (settings : Settings) (machine : Machine) :
    List Step :=
  [.write (instanceHeader machine),
    .write (attributeText machine "count" (.attribute "count")),
    .require ((machine.attribute? "name").bind fun name => nameFault? (Name.unquote name)),
    .write (attributeText machine "name" (.attribute "name")),
    .write (attributeText machine "basedir" fun directory =>
      .attribute "folder_id" (idOf folderType (Name.unquote directory))),
    .require machine.tagFault?,
    .require ((machine.attribute? "os_id").bind catalog.imageFault?),
    .write ((bootDisk ((machine.image? catalog).getD "")).render 1),
    .write ((instanceInterface settings machine).render 1),
    .require (machine.quantityFault? .cpus .cpusNotDefined),
    .require (machine.quantityFault? .memory .memoryNotDefined),
    .write ((instanceResources machine.size.rounded).render 1),
    .write topClose]

/-- What is checked and written for a machine that comes after others. -/
def machineSteps (catalog : Image.Catalog) (settings : Settings) (before : List Machine)
    (machine : Machine) : List Step :=
  folderSteps before machine ++ instanceSteps catalog settings machine

section Instance

variable {op : Operator σ} {s : σ} {settings : Settings} {catalog : Image.Catalog}
  {machine : Machine} {before : List Machine}

theorem follows_machineImage :
    Follows op s (machineImage catalog machine)
      (Step.checks [machine.tagFault?,
        (machine.attribute? "os_id").bind catalog.imageFault?])
      ((machine.image? catalog).getD "") s := by
  unfold machineImage Machine.tagFault? Machine.image?
  cases machine.attribute? "os_id" with
  | none => exact follows_fail
  | some tag => exact follows_resolve.passed

/-- The lines of an attribute, after steps that depend on its value. -/
theorem follows_withAttribute {key : String} {body : String → Interaction Unit}
    (steps : Option String → List Step) (hnone : Step.firstFault (steps none) = none)
    (hempty : Step.textBefore (steps none) = "")
    (hbody : ∀ value, Follows op s (body value) (steps (some value)) () s) :
    Follows op s (withAttribute machine key body) (steps (machine.attribute? key)) () s := by
  unfold withAttribute
  cases machine.attribute? key with
  | none => exact follows_done.congr hnone.symm hempty.symm
  | some value => exact hbody value

theorem follows_putItem {item : Item} :
    Follows op s (putItem item) [.write (renderItems 1 [item])] () s := by
  rw [renderItems, renderItems, String.append_empty]
  exact follows_put

theorem follows_attributeText {key : String} {item : String → Item} :
    Follows op s (withAttribute machine key fun value => putItem (item value))
      [.write (attributeText machine key item)] () s := by
  refine follows_withAttribute
    (fun value? => [.write (renderItems 1 (value?.toList.map item))]) rfl rfl ?_
  intro value
  exact follows_putItem

theorem follows_optionalLines :
    Follows op s (optionalLines machine)
      [.write (attributeText machine "count" (.attribute "count")),
        .require ((machine.attribute? "name").bind fun name => nameFault? (Name.unquote name)),
        .write (attributeText machine "name" (.attribute "name")),
        .write (attributeText machine "basedir" fun directory =>
          .attribute "folder_id" (idOf folderType (Name.unquote directory)))] () s := by
  have hname : Follows op s (withAttribute machine "name" fun name =>
      (requireName (Name.unquote name)).andThen fun _ => putItem (.attribute "name" name))
      [.require ((machine.attribute? "name").bind fun name => nameFault? (Name.unquote name)),
        .write (attributeText machine "name" (.attribute "name"))] () s := by
    refine follows_withAttribute
      (fun value? => [.require (value?.bind fun name => nameFault? (Name.unquote name)),
        .write (renderItems 1 (value?.toList.map (.attribute "name")))]) rfl rfl ?_
    intro name
    exact follows_requireName.andThen fun _ => follows_putItem
  exact follows_attributeText.andThen fun _ => hname.andThen fun _ => follows_attributeText

theorem follows_singleInstance :
    Follows op s (singleInstance catalog settings machine)
      (instanceSteps catalog settings machine) () s := by
  have hitem : ∀ item, Follows op s (putItem item) [.write (item.render 1)] () s := by
    intro item
    exact follows_put
  exact follows_log.andThen fun _ => follows_put.andThen fun _ =>
    follows_optionalLines.andThen fun _ => follows_machineImage.andThen fun _ =>
    (hitem _).andThen fun _ => (hitem _).andThen fun _ => follows_ofMachine.andThen fun _ =>
    (hitem _).andThen fun _ => follows_put

theorem follows_folderOf :
    Follows op s (folderOf (foldersOf before) machine) (folderSteps before machine)
      (foldersOf (before ++ [machine])) s := by
  unfold folderOf folderSteps folderFault? newFolder
  cases hdirectory : machine.attribute? "basedir" with
  | none =>
    have hname : machine.folder? = none := by
      rw [Machine.folder?, hdirectory, Option.map_none]
    rw [foldersOf_concat_of_none hname, hname]
    exact follows_done.congr rfl rfl
  | some directory =>
    have hname : machine.folder? = some (Name.unquote directory) := by
      rw [Machine.folder?, hdirectory, Option.map_some]
    rw [foldersOf_concat_of_some hname, hname, Option.bind_some]
    dsimp only [folder]
    simp only [mem_foldersOf_iff]
    by_cases hmem : Name.unquote directory ∈ before.filterMap Machine.folder?
    · rw [if_pos hmem, if_pos hmem, if_pos hmem, if_pos hmem]
      exact Follows.congr (follows_log.andThen fun _ => follows_done) rfl rfl
    · rw [if_neg hmem, if_neg hmem, if_neg hmem, if_neg hmem]
      exact follows_requireName.andThen fun _ => follows_put.andThen fun _ => follows_done

theorem follows_convertMachine :
    Follows op s (convertMachine catalog settings (foldersOf before) machine)
      (machineSteps catalog settings before machine) (foldersOf (before ++ [machine])) s := by
  have hinstance : Follows op s ((singleInstance catalog settings machine).andThen fun _ =>
      done (foldersOf (before ++ [machine]))) (instanceSteps catalog settings machine ++ [])
      (foldersOf (before ++ [machine])) s :=
    follows_singleInstance.andThen fun _ => follows_done
  rw [List.append_nil] at hinstance
  exact follows_folderOf.andThen fun _ => hinstance

end Instance

end Generate

end CloudLift
