import CloudLift.Proofs.Generate.FirstFault
import CloudLift.Proofs.Generate.Written
import CloudLift.Proofs.Transcript

/-!
# Questions about groups

Only groups raise questions: who the account is, if the settings do not say, and which tag to
boot, if the members disagree.  The account is asked for first.  A question is put when all
checks before it have passed, so a run that fails has put the first ones of all the questions
that the inventory raises.

What the operator replies goes into the plan from which the block of that group is written.
-/

namespace CloudLift

namespace Interaction

variable {σ α β : Type} {op : Operator σ} {s s' : σ} {first : Interaction α}
  {next : α → Interaction β} {value : α} {steps : List Step}

theorem Follows.transcript_andThen (h : Follows op s first steps value s') :
    (first.andThen next).transcript op s =
      first.transcript op s ++
        if Step.firstFault steps = none then (next value).transcript op s' else [] := by
  cases hfault : Step.firstFault steps with
  | none => rw [(h.yields hfault).transcript_andThen, if_pos rfl]
  | some fault =>
    rw [(h.fails fault hfault).transcript_andThen, if_neg (Option.some_ne_none fault),
      List.append_nil]

theorem quiet_resolve (catalog : Image.Catalog) (tag : String) :
    (catalog.resolve tag).Quiet := by
  unfold Image.Catalog.resolve
  cases catalog.match? tag with
  | none => trivial
  | some entry => trivial

theorem transcript_ofExcept (check : Except Fault α) : (ofExcept check).transcript op s = [] := by
  cases check <;> rfl

theorem transcript_requireName (name : String) : (requireName name).transcript op s = [] := by
  unfold requireName
  cases Name.check name with
  | ok nothing => rfl
  | error fault => rfl

theorem transcript_resolve (catalog : Image.Catalog) (tag : String) :
    (catalog.resolve tag).transcript op s = [] := by
  unfold Image.Catalog.resolve
  cases catalog.match? tag with
  | none => rfl
  | some entry => rfl

end Interaction

namespace Generate

open Interaction

variable {σ : Type} {op : Operator σ} {s : σ} {inventory : Inventory}
  {catalog : Image.Catalog} {settings : Settings} {entry : String × List String}

/-! ## The questions that an inventory raises -/

def accountCalls (settings : Settings) (group : String) : List Call :=
  if settings.serviceAccounts.contains group then [] else [.ask (accountQuestion group)]

def tagCalls (group : String) (options : List String) : List Call :=
  if 2 ≤ options.length then [.choose (systemQuestion group) options] else []

/-- The questions about a group, given by its name as written and its references. -/
def groupCalls (settings : Settings) (inventory : Inventory) (entry : String × List String) :
    List Call :=
  accountCalls settings (Name.unquote entry.1) ++
    tagCalls (Name.unquote entry.1) (tagsOf (members inventory entry.2)).eraseDups

def configurationCalls (settings : Settings) (inventory : Inventory) : List Call :=
  inventory.groups.entries.flatMap (groupCalls settings inventory)

/-! ## What is said about a group -/

def accountTalk (op : Operator σ) (settings : Settings) (group : String) (s : σ) : List Act :=
  if settings.serviceAccounts.contains group then []
  else [.asked (accountQuestion group) (op.ask (accountQuestion group) s).1]

def tagTalk (op : Operator σ) (group : String) (options : List String) (s : σ) : List Act :=
  if 2 ≤ options.length then
    [.chose (systemQuestion group) options (op.choose (systemQuestion group) options s).1]
  else []

/-- The checks of a group that come before the choice among its tags. -/
def checksBeforeChoice (op : Operator σ) (settings : Settings) (inventory : Inventory)
    (entry : String × List String) (s : σ) : List (Option Fault) :=
  nameFault? (Name.unquote entry.1) :: accountFault? op settings (Name.unquote entry.1) s ::
    ((members inventory entry.2).flatMap Machine.sizeChecks ++
      (members inventory entry.2).map Machine.tagFault?)

/-- What is said about a group before its first fault. -/
def groupTalk (op : Operator σ) (settings : Settings) (inventory : Inventory)
    (entry : String × List String) (s : σ) : List Act :=
  let name := Name.unquote entry.1
  (if nameFault? name = none then accountTalk op settings name s else []) ++
    if (checksBeforeChoice op settings inventory entry s).findSome? id = none then
      tagTalk op name (tagsOf (members inventory entry.2)).eraseDups
        (accountFor op settings name s).2
    else []

theorem calls_accountTalk (group : String) :
    Act.calls (accountTalk op settings group s) = accountCalls settings group := by
  unfold accountTalk accountCalls
  split <;> rfl

theorem calls_tagTalk (group : String) (options : List String) :
    Act.calls (tagTalk op group options s) = tagCalls group options := by
  unfold tagTalk tagCalls
  split <;> rfl

theorem transcript_serviceAccount (group : String) :
    (serviceAccount settings group).transcript op s = accountTalk op settings group s := by
  unfold serviceAccount accountTalk Table.contains
  cases settings.serviceAccounts.find? group with
  | some account => rfl
  | none =>
    simp only [inquire, transcript, Option.isSome_none, Bool.false_eq_true, if_false]
    cases op.ask (accountQuestion group) s with
    | mk reply left =>
      cases reply with
      | error fault => rfl
      | ok answer => rfl

theorem transcript_chooseTag (group : String) (options : List String) :
    (chooseTag group options).transcript op s = tagTalk op group options s := by
  match options with
  | [] => rfl
  | [only] => rfl
  | first :: second :: rest =>
    have hmany : 2 ≤ (first :: second :: rest).length := by simp
    unfold chooseTag tagTalk
    rw [if_pos hmany]
    simp only [bind_eq_andThen, select, andThen, transcript]
    cases op.choose (systemQuestion group) (first :: second :: rest) s with
    | mk reply left =>
      cases reply with
      | error fault => rfl
      | ok choice =>
        dsimp only
        cases (first :: second :: rest)[choice]? with
        | none => rfl
        | some tag => rfl

theorem transcript_groupImage (group : String) (machines : List Machine) :
    (groupImage catalog group machines).transcript op s =
      if (machines.map Machine.tagFault?).findSome? id = none then
        tagTalk op group (tagsOf machines).eraseDups s
      else [] := by
  have hoptions : distinctFrom [] (tagsOf machines) = (tagsOf machines).eraseDups :=
    distinctFrom_eraseDups [] (tagsOf machines)
  have hchosen : ∀ options, ((chooseTag group options).andThen fun tag =>
        (log (.debug s!"Group {group} boots {tag}")).andThen fun _ =>
          catalog.resolve tag).transcript op s = tagTalk op group options s := by
    intro options
    rw [← transcript_chooseTag]
    apply transcript_andThen_of_nil
    intro tag left
    exact transcript_resolve catalog tag
  unfold groupImage
  simp only [bind_eq_andThen]
  rw [follows_tags.transcript_andThen, transcript_ofExcept, List.nil_append, hoptions, hchosen,
    Step.firstFault_checks]

theorem checksBeforeChoice_pass_iff :
    (checksBeforeChoice op settings inventory entry s).findSome? id = none ↔
      nameFault? (Name.unquote entry.1) = none ∧
        accountFault? op settings (Name.unquote entry.1) s = none ∧
        ((members inventory entry.2).flatMap Machine.sizeChecks).findSome? id = none ∧
        ((members inventory entry.2).map Machine.tagFault?).findSome? id = none := by
  simp only [checksBeforeChoice, List.findSome?_eq_none_iff, List.forall_mem_append,
    List.forall_mem_cons, id]

theorem transcript_planGroup :
    (planGroup inventory catalog settings entry.1 entry.2).transcript op s =
      groupTalk op settings inventory entry s := by
  unfold planGroup
  simp only [bind_eq_andThen, pure_eq_done]
  rw [follows_requireName.transcript_andThen, transcript_requireName,
    follows_log.transcript_andThen, follows_serviceAccount.transcript_andThen,
    transcript_serviceAccount, follows_supOf.transcript_andThen, transcript_ofExcept,
    transcript_andThen_of_nil, transcript_groupImage]
  · -- The choice stands under four conditions in turn, which are the checks before it.
    simp only [groupTalk, checksBeforeChoice_pass_iff, Step.firstFault_checks,
      List.findSome?_singleton, id, List.nil_append]
    by_cases hname : nameFault? (Name.unquote entry.1) = none
    · simp only [hname, if_true, true_and, ite_and]
      rfl
    · simp only [hname, if_false, false_and]
      rfl
  · intro image left
    rw [transcript_andThen_of_nil, transcript_ofExcept]
    intro scale left
    rfl

/-! ## Groups that are converted -/

/-- What is said about a group, and the plan that comes of it. -/
structure Arrangement where
  talk : List Act
  plan : GroupPlan

def Arrangement.acts (settings : Settings) (arrangement : Arrangement) : List Act :=
  arrangement.talk ++ [.wrote (arrangement.plan.block settings)]

/-- The questions about a group were put, and the plan is made from the replies. -/
structure Arranged (settings : Settings) (inventory : Inventory) (catalog : Image.Catalog)
    (entry : String × List String) (arrangement : Arrangement) : Prop where
  planned : Planned inventory catalog entry arrangement.plan
  calls : Act.calls arrangement.talk = groupCalls settings inventory entry
  account : ∀ question reply, Act.asked question reply ∈ arrangement.talk →
    reply = .ok arrangement.plan.serviceAccount
  image : ∀ question options reply, Act.chose question options reply ∈ arrangement.talk →
    ∃ choice tag, reply = .ok choice ∧ options[choice]? = some tag ∧
      catalog.image? tag = some arrangement.plan.image

def arrangement (op : Operator σ) (settings : Settings) (inventory : Inventory)
    (catalog : Image.Catalog) (entry : String × List String) (s : σ) : Arrangement :=
  { talk := groupTalk op settings inventory entry s
    plan := (settle op settings inventory entry s).1.plan catalog }

theorem checksBeforeChoice_prefix :
    checksBeforeChoice op settings inventory entry s <+:
      groupChecks op settings inventory catalog entry s := by
  have hchecks : groupChecks op settings inventory catalog entry s =
      checksBeforeChoice op settings inventory entry s ++ _ :=
    List.append_assoc _ _ _
  rw [hchecks]
  exact List.prefix_append _ _

theorem groupTalk_of_convertible
    (hconvertible : (settle op settings inventory entry s).1.Convertible catalog) :
    groupTalk op settings inventory entry s =
      accountTalk op settings (Name.unquote entry.1) s ++
        tagTalk op (Name.unquote entry.1) (tagsOf (members inventory entry.2)).eraseDups
          (accountFor op settings (Name.unquote entry.1) s).2 := by
  have hyields : Yields op s (planGroup inventory catalog settings entry.1 entry.2) _ _ _ :=
    yields_planGroup_iff.mpr ⟨⟨hconvertible, rfl, rfl⟩, rfl⟩
  have hpass : (checksBeforeChoice op settings inventory entry s).findSome? id = none := by
    have hall : (groupChecks op settings inventory catalog entry s).findSome? id = none := by
      rw [← Step.firstFault_checks]
      cases hfault : Step.firstFault
          (Step.checks (groupChecks op settings inventory catalog entry s)) with
      | none => rfl
      | some fault => exact absurd (follows_planGroup.fails fault hfault) hyields.not_fails
    rcases checksBeforeChoice_prefix with ⟨rest, hrest⟩
    rw [← hrest, List.findSome?_append, Option.or_eq_none_iff] at hall
    exact hall.1
  rw [groupTalk, if_pos hpass, if_pos (checksBeforeChoice_pass_iff.mp hpass).1]

theorem reply_of_mem_accountTalk {group account question : String}
    {reply : Except Fault String}
    (haccount : (accountFor op settings group s).1 = some account)
    (hmem : Act.asked question reply ∈ accountTalk op settings group s) :
    reply = .ok account := by
  unfold accountTalk Table.contains at hmem
  unfold accountFor at haccount
  cases hknown : settings.serviceAccounts.find? group with
  | some known => simp [hknown] at hmem
  | none =>
    simp only [hknown, Option.isSome_none, Bool.false_eq_true, if_false, List.mem_singleton,
      Act.asked.injEq] at hmem
    rw [hmem.2]
    simp only [hknown] at haccount
    cases hask : op.ask (accountQuestion group) s with
    | mk reply left =>
      cases reply with
      | error fault => simp [hask] at haccount
      | ok answer =>
        simp only [hask, Option.some.injEq] at haccount
        rw [haccount]

theorem reply_of_mem_tagTalk {group tag question : String} {options options' : List String}
    {reply : Except Fault Nat} (htag : (tagFor op group options s).1 = some tag)
    (hmem : Act.chose question options' reply ∈ tagTalk op group options s) :
    ∃ choice, reply = .ok choice ∧ options'[choice]? = some tag := by
  unfold tagTalk at hmem
  match options with
  | [] => simp at hmem
  | [only] => simp at hmem
  | first :: second :: rest =>
    unfold tagFor at htag
    simp only [List.length_cons, Nat.le_add_left, if_true, List.mem_singleton,
      Act.chose.injEq] at hmem
    rcases hmem with ⟨-, rfl, rfl⟩
    cases hchoose : op.choose (systemQuestion group) (first :: second :: rest) s with
    | mk reply left =>
      cases reply with
      | error fault => simp [hchoose] at htag
      | ok choice =>
        simp only [hchoose] at htag
        exact ⟨choice, rfl, htag⟩

theorem arranged_of_convertible
    (hconvertible : (settle op settings inventory entry s).1.Convertible catalog) :
    Arranged settings inventory catalog entry
      (arrangement op settings inventory catalog entry s) := by
  have hyields : Yields op s (planGroup inventory catalog settings entry.1 entry.2) _ _ _ :=
    yields_planGroup_iff.mpr ⟨⟨hconvertible, rfl, rfl⟩, rfl⟩
  have htalk := groupTalk_of_convertible hconvertible
  constructor
  case planned => exact (emits_planGroup.after_run op none s hyields.outcome).2
  case calls =>
    rw [arrangement, htalk, Act.calls_append, calls_accountTalk, calls_tagTalk]
    rfl
  case account =>
    intro question reply hmem
    rcases Option.isSome_iff_exists.mp hconvertible.account with ⟨account, haccount⟩
    have hplan : (arrangement op settings inventory catalog entry s).plan.serviceAccount =
        account := by
      rw [arrangement, SettledGroup.plan, haccount, Option.getD_some]
    rw [arrangement, htalk, List.mem_append] at hmem
    rw [hplan]
    rcases hmem with hmem | hmem
    · exact reply_of_mem_accountTalk haccount hmem
    · unfold tagTalk at hmem
      split at hmem <;> simp at hmem
  case image =>
    intro question options reply hmem
    rcases Option.isSome_iff_exists.mp hconvertible.image with ⟨image, himage⟩
    have hplan : (arrangement op settings inventory catalog entry s).plan.image = image := by
      rw [arrangement, SettledGroup.plan, himage, Option.getD_some]
    rcases Option.bind_eq_some_iff.mp himage with ⟨tag, htag, hresolved⟩
    rw [arrangement, htalk, List.mem_append] at hmem
    rcases hmem with hmem | hmem
    · unfold accountTalk at hmem
      split at hmem <;> simp at hmem
    · rcases reply_of_mem_tagTalk htag hmem with ⟨choice, hreply, hchoice⟩
      rw [hplan]
      exact ⟨choice, tag, hreply, hchoice, hresolved⟩

theorem transcript_group_of_convertible
    (hconvertible : (settle op settings inventory entry s).1.Convertible catalog) :
    (group inventory catalog settings entry.1 entry.2).transcript op s =
      (arrangement op settings inventory catalog entry s).acts settings := by
  have hyields : Yields op s (planGroup inventory catalog settings entry.1 entry.2) _ _ _ :=
    yields_planGroup_iff.mpr ⟨⟨hconvertible, rfl, rfl⟩, rfl⟩
  unfold group
  rw [bind_eq_andThen, hyields.transcript_andThen, transcript_planGroup]
  rfl

theorem calls_flatMap_acts {entries : List (String × List String)}
    {arranged : List Arrangement}
    (harranged : List.Forall₂ (Arranged settings inventory catalog) entries arranged) :
    Act.calls (arranged.flatMap (Arrangement.acts settings)) =
      entries.flatMap (groupCalls settings inventory) := by
  induction harranged with
  | nil => rfl
  | cons hgroup _ ih =>
    rw [List.flatMap_cons, List.flatMap_cons, Act.calls_append, Arrangement.acts,
      Act.calls_append, hgroup.calls, ih]
    exact congrArg (· ++ _) (List.append_nil _)

theorem groups_cons (entry : String × List String) (entries : List (String × List String)) :
    groups inventory catalog settings (entry :: entries) =
      (group inventory catalog settings entry.1 entry.2).andThen fun _ =>
        groups inventory catalog settings entries :=
  rfl

theorem groups_append (before entries : List (String × List String)) :
    groups inventory catalog settings (before ++ entries) =
      (groups inventory catalog settings before).andThen fun _ =>
        groups inventory catalog settings entries := by
  induction before with
  | nil => rfl
  | cons entry before ih => rw [List.cons_append, groups_cons, ih, groups_cons, andThen_assoc]

theorem transcript_groups {entries : List (String × List String)}
    (hconvertible : ∀ group ∈ (settleAll op settings inventory entries s).1,
      group.Convertible catalog) :
    ∃ arranged, List.Forall₂ (Arranged settings inventory catalog) entries arranged ∧
      (groups inventory catalog settings entries).transcript op s =
        arranged.flatMap (Arrangement.acts settings) := by
  induction entries generalizing s with
  | nil => exact ⟨[], .nil, rfl⟩
  | cons entry entries ih =>
    rw [settleAll, List.forall_mem_cons] at hconvertible
    rcases hconvertible with ⟨hentry, hentries⟩
    rcases ih hentries with ⟨arranged, harranged, htranscript⟩
    have hyields : Yields op s (group inventory catalog settings entry.1 entry.2) () _ _ :=
      yields_group_iff.mpr ⟨hentry, rfl, rfl⟩
    refine ⟨_ :: arranged, .cons (arranged_of_convertible hentry) harranged, ?_⟩
    rw [groups_cons, hyields.transcript_andThen, transcript_group_of_convertible hentry,
      htranscript, List.flatMap_cons]

/-! ## Machines without a group -/

theorem quiet_putItem (item : Terraform.Item) : (putItem item).Quiet :=
  trivial

theorem quiet_withAttribute {machine : Machine} {key : String} {body : String → Interaction Unit}
    (hbody : ∀ value, (body value).Quiet) : (withAttribute machine key body).Quiet := by
  unfold withAttribute
  cases machine.attribute? key with
  | none => trivial
  | some value => exact hbody value

theorem quiet_optionalLines (machine : Machine) : (optionalLines machine).Quiet := by
  apply (quiet_withAttribute fun _ => quiet_putItem _).andThen
  intro _
  apply Quiet.andThen
  · exact quiet_withAttribute fun _ => (quiet_requireName _).andThen fun _ => quiet_putItem _
  · intro _
    exact quiet_withAttribute fun _ => quiet_putItem _

theorem quiet_machineImage (machine : Machine) : (machineImage catalog machine).Quiet := by
  unfold machineImage
  cases machine.attribute? "os_id" with
  | none => trivial
  | some tag => exact quiet_resolve catalog tag

theorem quiet_singleInstance (machine : Machine) :
    (singleInstance catalog settings machine).Quiet := by
  apply (quiet_optionalLines machine).andThen
  intro _
  apply (quiet_machineImage machine).andThen
  intro image
  apply (quiet_ofExcept (Size.ofMachine machine)).andThen
  intro size
  trivial

theorem quiet_folderOf (folders : List String) (machine : Machine) :
    (folderOf folders machine).Quiet := by
  unfold folderOf
  cases machine.attribute? "basedir" with
  | none => trivial
  | some directory =>
    dsimp only [folder]
    split
    · trivial
    · apply (quiet_requireName _).andThen
      intro _
      trivial

theorem quiet_instances (folders : List String) (machines : List Machine) :
    (instances catalog settings folders machines).Quiet := by
  induction machines generalizing folders with
  | nil => trivial
  | cons machine machines ih =>
    rw [instances_cons]
    apply Quiet.andThen
    · apply (quiet_folderOf folders machine).andThen
      intro folders
      apply (quiet_singleInstance machine).andThen
      intro _
      trivial
    · exact ih

theorem transcript_shared :
    (shared settings).transcript op s = (sharedPieces settings).map Act.wrote :=
  rfl

/-! ## The whole configuration -/

/-- How far the questions of a configuration that is not written come. -/
inductive AskedUntil (op : Operator σ) (settings : Settings) (inventory : Inventory)
    (catalog : Image.Catalog) (s : σ) (fault : Fault) : List Call → Prop
  | group (before : List (String × List String)) (entry : String × List String)
      (after : List (String × List String))
      (hentries : inventory.groups.entries = before ++ entry :: after)
      (hfails : FailsAtGroup op settings inventory catalog s before entry fault) :
      AskedUntil op settings inventory catalog s fault
        (before.flatMap (groupCalls settings inventory) ++
          Act.calls (groupTalk op settings inventory entry
            (settleAll op settings inventory before s).2))
  | machine (before : List Machine) (machine : Machine) (after : List Machine)
      (hmachines : inventory.standalone = before ++ machine :: after)
      (hfails : FailsAtMachine catalog settings before machine fault) :
      AskedUntil op settings inventory catalog s fault (configurationCalls settings inventory)

theorem transcript_configuration :
    (configuration inventory catalog settings).transcript op s =
      (sharedPieces settings).map Act.wrote ++
        ((groups inventory catalog settings inventory.groups.entries).andThen fun _ =>
          instances catalog settings [] inventory.standalone).transcript op s := by
  have hshared : Yields op s (shared settings) () (sharedText settings) s :=
    (writes_shared _ _ _).mpr ⟨trivial, rfl, rfl, rfl⟩
  have hsummary : configuration inventory catalog settings =
      (shared settings).andThen fun _ =>
        ((groups inventory catalog settings inventory.groups.entries).andThen fun _ =>
          instances catalog settings [] inventory.standalone).andThen fun folders =>
            (log (.info
              (s!"Generated {inventory.groups.entries.length} instance groups, " ++
                s!"{inventory.standalone.length} instances and {folders.length} folders"))).andThen
              fun _ => done folders := by
    simp only [andThen_assoc]
    rfl
  rw [hsummary, hshared.transcript_andThen, transcript_shared, transcript_andThen_of_nil]
  intro folders left
  rfl

theorem calls_groupTalk_prefix :
    Act.calls (groupTalk op settings inventory entry s) <+:
      groupCalls settings inventory entry := by
  unfold groupTalk groupCalls
  by_cases hpass : (checksBeforeChoice op settings inventory entry s).findSome? id = none
  · have hname := (checksBeforeChoice_pass_iff.mp hpass).1
    simp only [hname, hpass, if_true, Act.calls_append, calls_accountTalk, calls_tagTalk]
    exact List.prefix_rfl
  · simp only [hpass, if_false, List.append_nil]
    split
    · rw [calls_accountTalk]
      exact List.prefix_append _ _
    · exact List.nil_prefix

theorem AskedUntil.front {fault : Fault} {calls : List Call}
    (h : AskedUntil op settings inventory catalog s fault calls) :
    calls <+: configurationCalls settings inventory := by
  cases h with
  | group before entry after hentries hfails =>
    rw [configurationCalls, hentries, List.flatMap_append, List.flatMap_cons,
      List.prefix_append_right_inj]
    exact calls_groupTalk_prefix.trans (List.prefix_append _ _)
  | machine before machine after hmachines hfails => exact List.prefix_rfl

theorem transcript_group_of_fails {fault : Fault}
    (hfault : (groupChecks op settings inventory catalog entry s).findSome? id = some fault) :
    (group inventory catalog settings entry.1 entry.2).transcript op s =
      groupTalk op settings inventory entry s := by
  rw [← Step.firstFault_checks] at hfault
  have hplan := follows_planGroup.fails fault hfault
  unfold group
  rw [bind_eq_andThen, hplan.transcript_andThen, transcript_planGroup]

/-- A group that fails ends the questions with the first ones about it. -/
theorem transcript_groups_of_failsAtGroup {before : List (String × List String)}
    {fault : Fault}
    (hfails : FailsAtGroup op settings inventory catalog s before entry fault)
    (after : List (String × List String)) :
    ∃ arranged, List.Forall₂ (Arranged settings inventory catalog) before arranged ∧
      (groups inventory catalog settings (before ++ entry :: after)).transcript op s =
        arranged.flatMap (Arrangement.acts settings) ++
          groupTalk op settings inventory entry
            (settleAll op settings inventory before s).2 := by
  rcases transcript_groups hfails.earlier with ⟨arranged, harranged, htranscript⟩
  have hbefore : Yields op s (groups inventory catalog settings before) () _ _ :=
    yields_groups_iff.mpr ⟨hfails.earlier, rfl, rfl⟩
  have hgroup : Fails op (settleAll op settings inventory before s).2
      (group inventory catalog settings entry.1 entry.2) fault "" :=
    fails_group_iff.mpr ⟨hfails.fault, rfl⟩
  refine ⟨arranged, harranged, ?_⟩
  rw [groups_append, hbefore.transcript_andThen, htranscript, groups_cons,
    hgroup.transcript_andThen, transcript_group_of_fails hfails.fault]

theorem askedUntil_of_fails {fault : Fault} {text : String}
    (hfails : Fails op s (configuration inventory catalog settings) fault text) :
    AskedUntil op settings inventory catalog s fault
      ((configuration inventory catalog settings).run op none s).calls := by
  rw [calls_run, transcript_configuration, Act.calls_append, Act.calls_map_wrote,
    List.nil_append]
  cases fails_configuration_iff.mp hfails with
  | group before entry after hentries hgroup =>
    have hgroups : Fails op s (groups inventory catalog settings inventory.groups.entries)
        fault _ :=
      fails_groups_iff.mpr ⟨before, entry, after, hentries, hgroup, rfl⟩
    rcases transcript_groups_of_failsAtGroup hgroup after with
      ⟨arranged, harranged, htranscript⟩
    rw [hgroups.transcript_andThen, hentries, htranscript, Act.calls_append,
      calls_flatMap_acts harranged]
    exact .group before entry after hentries hgroup
  | machine before machine after hconvertible hmachines hmachine =>
    have hgroups : Yields op s (groups inventory catalog settings inventory.groups.entries) ()
        _ _ :=
      yields_groups_iff.mpr ⟨hconvertible, rfl, rfl⟩
    rcases transcript_groups hconvertible with ⟨arranged, harranged, htranscript⟩
    rw [hgroups.transcript_andThen, htranscript, Act.calls_append, calls_flatMap_acts harranged,
      (quiet_instances [] inventory.standalone).transcript_eq, Act.calls_map_wrote,
      List.append_nil]
    exact .machine before machine after hmachines hmachine

theorem transcript_of_convertible (hconvertible : Convertible op settings inventory catalog s) :
    ∃ arranged,
      List.Forall₂ (Arranged settings inventory catalog) inventory.groups.entries arranged ∧
      (configuration inventory catalog settings).transcript op s =
        (sharedPieces settings).map Act.wrote ++
          (arranged.flatMap (Arrangement.acts settings) ++
            (standalonePieces catalog settings [] inventory.standalone).map Act.wrote) := by
  have hnone : ∀ name ∈ foldersOf [], Name.isValid name = true := by
    simp [foldersOf]
  have hgroups : Yields op s (groups inventory catalog settings inventory.groups.entries) ()
      _ _ :=
    yields_groups_iff.mpr ⟨hconvertible.groups, rfl, rfl⟩
  have hinstances : Yields op (settleAll op settings inventory inventory.groups.entries s).2
      (instances catalog settings [] inventory.standalone) (foldersOf inventory.standalone) _ _ :=
    (writes_instances hnone _ _ _).mpr ⟨hconvertible.machines, rfl, rfl, rfl⟩
  have hemits : Emits (instances catalog settings [] inventory.standalone) _ _ :=
    emits_instances hnone
  rcases transcript_groups hconvertible.groups with ⟨arranged, harranged, htranscript⟩
  refine ⟨arranged, harranged, ?_⟩
  rw [transcript_configuration, hgroups.transcript_andThen, htranscript,
    (quiet_instances [] inventory.standalone).transcript_eq,
    (hemits.after_run op none _ hinstances.outcome).1]

/-- A configuration that is written has put all the questions that the inventory raises, and
the plan of each group is made from the replies about that group.  One that fails has put the
first ones of them, up to the fault. -/
theorem configuration_questions (op : Operator σ) (settings : Settings)
    (inventory : Inventory) (catalog : Image.Catalog) (s : σ) :
    (((configuration inventory catalog settings).run op none s).calls =
        Act.calls ((configuration inventory catalog settings).transcript op s) ∧
      ((configuration inventory catalog settings).run op none s).written =
        Act.texts ((configuration inventory catalog settings).transcript op s)) ∧
    ((configuration inventory catalog settings).run op none s).calls <+:
      configurationCalls settings inventory ∧
    match ((configuration inventory catalog settings).run op none s).outcome with
    | .ok _ =>
      ((configuration inventory catalog settings).run op none s).calls =
          configurationCalls settings inventory ∧
        ∃ arranged,
          List.Forall₂ (Arranged settings inventory catalog) inventory.groups.entries arranged ∧
          (configuration inventory catalog settings).transcript op s =
            (sharedPieces settings).map Act.wrote ++
              (arranged.flatMap (Arrangement.acts settings) ++
                (standalonePieces catalog settings [] inventory.standalone).map Act.wrote)
    | .error fault =>
      AskedUntil op settings inventory catalog s fault
        ((configuration inventory catalog settings).run op none s).calls := by
  refine ⟨⟨calls_run op s _, written_run op s _⟩, ?_⟩
  cases houtcome : ((configuration inventory catalog settings).run op none s).outcome with
  | ok folders =>
    rcases exists_yields_iff.mpr houtcome with ⟨text, s', hyields⟩
    have hconvertible := (yields_configuration_iff.mp hyields).1
    rcases transcript_of_convertible hconvertible with ⟨arranged, harranged, htranscript⟩
    have hcalls : ((configuration inventory catalog settings).run op none s).calls =
        configurationCalls settings inventory := by
      rw [calls_run, htranscript, Act.calls_append, Act.calls_append, Act.calls_map_wrote,
        Act.calls_map_wrote, calls_flatMap_acts harranged, List.nil_append, List.append_nil]
      rfl
    rw [hcalls]
    exact ⟨List.prefix_rfl, rfl, arranged, harranged, htranscript⟩
  | error fault =>
    have hasked := askedUntil_of_fails ⟨houtcome, rfl⟩
    exact ⟨hasked.front, hasked⟩

/-! ## Limited room -/

end Generate

end CloudLift
