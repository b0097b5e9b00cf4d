import CloudLift.Proofs.Generate.Configuration
import CloudLift.Proofs.Generate.Steps

/-!
# When an inventory is not converted

Groups and machines are converted in turn and nothing is taken back, so a failure is that
of the first item that cannot be converted, and all items before it are there in full.  A
group adds nothing to the text then.  A machine adds what its steps write before the check
that fails.

A later item can have faults too, and the operator's answers to it are never asked for.
The checks of a group are those with the operator as the groups before have left it.
-/

namespace CloudLift.Generate

open Interaction

variable {σ : Type} {op : Operator σ} {s : σ} {inventory : Inventory}
  {catalog : Image.Catalog} {settings : Settings} {fault : Fault} {text : String}

/-! ## The first group that fails -/

/-- The entry is the first one that cannot be converted, and comes to the fault. -/
structure FailsAtGroup (op : Operator σ) (settings : Settings) (inventory : Inventory)
    (catalog : Image.Catalog) (s : σ) (before : List (String × List String))
    (entry : String × List String) (fault : Fault) : Prop where
  earlier : ∀ group ∈ (settleAll op settings inventory before s).1, group.Convertible catalog
  fault : (groupChecks op settings inventory catalog entry
    (settleAll op settings inventory before s).2).findSome? id = some fault

theorem fails_groups_iff {entries : List (String × List String)} :
    Fails op s (groups inventory catalog settings entries) fault text ↔
      ∃ before entry after, entries = before ++ entry :: after ∧
        FailsAtGroup op settings inventory catalog s before entry fault ∧
        text = groupBlocks catalog settings (settleAll op settings inventory before s).1 := by
  induction entries generalizing s text with
  | nil =>
    constructor
    · intro hfails
      exact absurd hfails not_fails_done
    · intro hsplit
      obtain ⟨before, entry, after, hentries, -⟩ := hsplit
      simp at hentries
  | cons entry entries ih =>
    have hgroups : groups inventory catalog settings (entry :: entries) =
        (group inventory catalog settings entry.1 entry.2).andThen fun _ =>
          groups inventory catalog settings entries := rfl
    have hblocks : ∀ before, groupBlocks catalog settings
          (settleAll op settings inventory (entry :: before) s).1 =
        ((settle op settings inventory entry s).1.plan catalog).block settings ++
          groupBlocks catalog settings (settleAll op settings inventory before
            (settle op settings inventory entry s).2).1 := by
      intro before
      rw [settleAll, groupBlocks, List.map_cons, String.join_cons, groupBlocks]
    rw [hgroups, fails_andThen_iff]
    constructor
    · intro hfails
      rcases hfails with hfirst | ⟨_, written, left, later, hyields, hrest, htext⟩
      · obtain ⟨hfault, htext⟩ := fails_group_iff.mp hfirst
        refine ⟨[], entry, entries, rfl, ⟨?_, hfault⟩, htext⟩
        intro group hgroup
        cases hgroup
      · obtain ⟨hconvertible, hwritten, hleft⟩ := yields_group_iff.mp hyields
        rw [hleft] at hrest
        obtain ⟨before, faulty, after, hentries, hfaulty, hlater⟩ := ih.mp hrest
        refine ⟨entry :: before, faulty, after, ?_, ⟨?_, hfaulty.fault⟩, ?_⟩
        · rw [hentries, List.cons_append]
        · exact List.forall_mem_cons.mpr ⟨hconvertible, hfaulty.earlier⟩
        · rw [htext, hwritten, hlater, hblocks]
    · intro hsplit
      obtain ⟨before, faulty, after, hentries, hfaulty, htext⟩ := hsplit
      cases before with
      | nil =>
        cases hentries
        exact .inl (fails_group_iff.mpr ⟨hfaulty.fault, htext⟩)
      | cons first before =>
        cases hentries
        obtain ⟨hconvertible, hearlier⟩ := List.forall_mem_cons.mp hfaulty.earlier
        refine .inr ⟨(), _, _, _, yields_group_iff.mpr ⟨hconvertible, rfl, rfl⟩,
          ih.mpr ⟨before, faulty, after, rfl, ⟨hearlier, hfaulty.fault⟩, rfl⟩, ?_⟩
        rw [htext, hblocks]

/-! ## The first machine that fails -/

/-- The machine is the first one that cannot be converted, and comes to the fault. -/
structure FailsAtMachine (catalog : Image.Catalog) (settings : Settings)
    (before : List Machine) (machine : Machine) (fault : Fault) : Prop where
  earlier : ∀ other ∈ before, other.Convertible catalog
  fault : Step.firstFault (machineSteps catalog settings before machine) = some fault

/-- The machines of `start` come before those that are converted here. -/
theorem fails_instances_iff {start machines : List Machine}
    (hstart : ∀ name ∈ foldersOf start, Name.isValid name = true) :
    Fails op s (instances catalog settings (foldersOf start) machines) fault text ↔
      ∃ before machine after, machines = before ++ machine :: after ∧
        (∀ other ∈ before, other.Convertible catalog) ∧
        Step.firstFault (machineSteps catalog settings (start ++ before) machine) =
          some fault ∧
        text = instanceBlocks catalog settings start before ++
          Step.textBefore (machineSteps catalog settings (start ++ before) machine) := by
  induction machines generalizing start text with
  | nil =>
    constructor
    · intro hfails
      exact absurd hfails not_fails_done
    · intro hsplit
      obtain ⟨before, machine, after, hmachines, -⟩ := hsplit
      simp at hmachines
  | cons machine machines ih =>
    have hitem : Writes op s (convertMachine catalog settings (foldersOf start) machine)
        (machine.Convertible catalog) (foldersOf (start ++ [machine]))
        (newFolder start machine ++ instanceBlock catalog settings machine) :=
      writes_convertMachine hstart
    rw [instances_cons, fails_andThen_iff]
    constructor
    · intro hfails
      rcases hfails with hfirst | ⟨folders, written, left, later, hyields, hrest, htext⟩
      · obtain ⟨hfault, htext⟩ := follows_convertMachine.fails_iff.mp hfirst
        refine ⟨[], machine, machines, rfl, ?_, ?_, ?_⟩
        · simp
        · rw [List.append_nil]
          exact hfault
        · rw [List.append_nil, instanceBlocks, String.empty_append]
          exact htext
      · obtain ⟨hmachine, hfolders, hwritten, hleft⟩ := (hitem _ _ _).mp hyields
        rw [hfolders, hleft] at hrest
        obtain ⟨before, faulty, after, hmachines, hearlier, hfault, hlater⟩ :=
          (ih (isValid_foldersOf_concat hstart hmachine)).mp hrest
        rw [List.append_assoc, List.singleton_append] at hfault hlater
        refine ⟨machine :: before, faulty, after, ?_, ?_, hfault, ?_⟩
        · rw [hmachines, List.cons_append]
        · exact List.forall_mem_cons.mpr ⟨hmachine, hearlier⟩
        · rw [htext, hwritten, hlater, instanceBlocks]
          simp only [String.append_assoc]
    · intro hsplit
      obtain ⟨before, faulty, after, hmachines, hearlier, hfault, htext⟩ := hsplit
      cases before with
      | nil =>
        cases hmachines
        rw [List.append_nil] at hfault htext
        rw [instanceBlocks, String.empty_append] at htext
        exact .inl (follows_convertMachine.fails_iff.mpr ⟨hfault, htext⟩)
      | cons first before =>
        cases hmachines
        obtain ⟨hmachine, hearlier⟩ := List.forall_mem_cons.mp hearlier
        have hrest := (ih (isValid_foldersOf_concat hstart hmachine)).mpr
          ⟨before, faulty, after, rfl, hearlier, by simpa using hfault, rfl⟩
        refine .inr ⟨_, _, _, _, (hitem _ _ _).mpr ⟨hmachine, rfl, rfl, rfl⟩, hrest, ?_⟩
        rw [htext, instanceBlocks, List.append_assoc, List.singleton_append]
        simp only [String.append_assoc]

/-! ## The whole configuration -/

/-- The fault and the text that an inventory comes to at its first faulty item. -/
inductive FirstFault (op : Operator σ) (settings : Settings) (inventory : Inventory)
    (catalog : Image.Catalog) (s : σ) (fault : Fault) : String → Prop
  | group (before : List (String × List String)) (entry : String × List String)
      (after : List (String × List String))
      (hentries : inventory.groups.entries = before ++ entry :: after)
      (hfails : FailsAtGroup op settings inventory catalog s before entry fault) :
      FirstFault op settings inventory catalog s fault
        (sharedText settings ++
          groupBlocks catalog settings (settleAll op settings inventory before s).1)
  | machine (before : List Machine) (machine : Machine) (after : List Machine)
      (hgroups : ∀ group ∈ settledGroups op settings inventory s, group.Convertible catalog)
      (hmachines : inventory.standalone = before ++ machine :: after)
      (hfails : FailsAtMachine catalog settings before machine fault) :
      FirstFault op settings inventory catalog s fault
        (configurationText catalog settings (settledGroups op settings inventory s) before ++
          Step.textBefore (machineSteps catalog settings before machine))

theorem fails_standalone_iff :
    Fails op s
      ((instances catalog settings [] inventory.standalone).andThen fun folders =>
        (log (.info
          (s!"Generated {inventory.groups.entries.length} instance groups, " ++
            s!"{inventory.standalone.length} instances and {folders.length} folders"))).andThen
          fun _ => done folders) fault text ↔
      ∃ before machine after, inventory.standalone = before ++ machine :: after ∧
        FailsAtMachine catalog settings before machine fault ∧
        text = instanceBlocks catalog settings [] before ++
          Step.textBefore (machineSteps catalog settings before machine) := by
  have hnone : ∀ name ∈ foldersOf [], Name.isValid name = true := by
    simp [foldersOf]
  rw [fails_andThen_iff]
  constructor
  · intro hfails
    rcases hfails with hfirst | ⟨folders, _, left, _, _, hsummary, _⟩
    · obtain ⟨before, machine, after, hmachines, hearlier, hfault, htext⟩ :=
        (fails_instances_iff hnone).mp hfirst
      exact ⟨before, machine, after, hmachines, ⟨hearlier, hfault⟩, htext⟩
    · have houtcome := hsummary.outcome
      simp [log, andThen, run] at houtcome
  · intro hsplit
    obtain ⟨before, machine, after, hmachines, hfails, htext⟩ := hsplit
    exact .inl ((fails_instances_iff hnone).mpr
      ⟨before, machine, after, hmachines, hfails.earlier, hfails.fault, htext⟩)

theorem fails_configuration_iff :
    Fails op s (configuration inventory catalog settings) fault text ↔
      FirstFault op settings inventory catalog s fault text := by
  have hshared : Yields op s (shared settings) () (sharedText settings) s :=
    (writes_shared _ _ _).mpr ⟨trivial, rfl, rfl, rfl⟩
  unfold configuration
  simp only [bind_eq_andThen, pure_eq_done]
  rw [hshared.fails_andThen_iff]
  constructor
  · intro hfails
    obtain ⟨rest, hrest, htext⟩ := hfails
    rcases fails_andThen_iff.mp hrest with hgroup | hmachine
    · obtain ⟨before, entry, after, hentries, hfails, hwritten⟩ := fails_groups_iff.mp hgroup
      rw [htext, hwritten]
      exact .group before entry after hentries hfails
    · obtain ⟨_, written, left, later, hgroups, hlast, hrest⟩ := hmachine
      obtain ⟨hconvertible, hwritten, _⟩ := yields_groups_iff.mp hgroups
      obtain ⟨before, machine, after, hmachines, hfails, hlater⟩ :=
        fails_standalone_iff.mp hlast
      have hall : text = configurationText catalog settings
            (settledGroups op settings inventory s) before ++
          Step.textBefore (machineSteps catalog settings before machine) := by
        rw [htext, hrest, hwritten, hlater, configurationText, settledGroups]
        simp only [String.append_assoc]
      rw [hall]
      exact .machine before machine after hconvertible hmachines hfails
  · intro hfirst
    cases hfirst with
    | group before entry after hentries hfails =>
      have hgroups : Fails op s (groups inventory catalog settings inventory.groups.entries)
          fault _ :=
        fails_groups_iff.mpr ⟨before, entry, after, hentries, hfails, rfl⟩
      exact ⟨_, hgroups.andThen, rfl⟩
    | machine before machine after hconvertible hmachines hfails =>
      have hgroups : Yields op s (groups inventory catalog settings inventory.groups.entries)
          () _ _ :=
        yields_groups_iff.mpr ⟨hconvertible, rfl, rfl⟩
      refine ⟨_, hgroups.fails_andThen_iff.mpr ⟨_, fails_standalone_iff.mpr
        ⟨before, machine, after, hmachines, hfails, rfl⟩, rfl⟩, ?_⟩
      rw [configurationText, settledGroups]
      simp only [String.append_assoc]

/-- A configuration that is not written ends with the fault of the first item that cannot be
converted.  What is there by then is the text of all items before it and, if it is a machine,
of its steps before the check that fails. -/
theorem configuration_fails_iff (op : Operator σ) (settings : Settings)
    (inventory : Inventory) (catalog : Image.Catalog) (s : σ) (fault : Fault)
    (text : String) :
    ((configuration inventory catalog settings).run op none s).outcome = .error fault ∧
        ((configuration inventory catalog settings).run op none s).text = text ↔
      FirstFault op settings inventory catalog s fault text := by
  rw [← fails_configuration_iff]
  constructor
  · intro hrun
    exact ⟨hrun.1, hrun.2⟩
  · intro hfails
    exact ⟨hfails.outcome, hfails.text⟩

end CloudLift.Generate
