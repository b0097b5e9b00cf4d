import CloudLift.Operator.Scripted
import CloudLift.Proofs.Inventory.Reading
import Mathlib.Data.List.Nodup

/-!
# Machines that are converted exactly once

A machine without a group is converted alone, and a machine with a group by way of the
references that the groups hold.  A group holds a reference for every line that names the
group, and a reference stands for the last machine that has it.  So the references that
stand for a machine come from all lines of all machines with its reference, if it is the
last of these, and there are none if it is not.

From this it follows for which sources every machine is converted exactly once.
-/

namespace CloudLift

namespace Inventory

/-! ## What stands for a machine -/

/-- Looking the reference up finds the machine at the slot. -/
def Finds (inventory : Inventory) (reference : String) (slot : Nat) : Prop :=
  inventory.machines[slot]?.map Machine.reference = some reference ∧
    reference ∉ (inventory.machines.drop (slot + 1)).map Machine.reference

instance (inventory : Inventory) (reference : String) (slot : Nat) :
    Decidable (inventory.Finds reference slot) :=
  inferInstanceAs (Decidable (_ ∧ _))

/-- What looking a reference up gives, and from which slot. -/
theorem machine?_eq_some_iff {inventory : Inventory} {reference : String}
    {machine : Machine} :
    inventory.machine? reference = some machine ↔
      ∃ slot, inventory.machines[slot]? = some machine ∧ inventory.Finds reference slot := by
  rw [machine?, List.find?_eq_some_iff_append]
  constructor
  · rintro ⟨hreference, later, earlier, hsplit, hlater⟩
    have hmachines : inventory.machines = earlier.reverse ++ machine :: later.reverse := by
      have hreversed := congrArg List.reverse hsplit
      simpa using hreversed
    have hslot : inventory.machines[earlier.reverse.length]? = some machine := by
      rw [hmachines, List.getElem?_append_right (Nat.le_refl _), Nat.sub_self]
      rfl
    refine ⟨earlier.reverse.length, hslot, ?_, ?_⟩
    · rw [hslot, Option.map_some, eq_of_beq hreference]
    · rw [hmachines, List.drop_length_add_append]
      intro hmem
      obtain ⟨other, hother, heq⟩ := List.mem_map.mp hmem
      have hdiffers := hlater other (List.mem_reverse.mp hother)
      simp [heq] at hdiffers
  · rintro ⟨slot, hslot, hreference, hlater⟩
    obtain ⟨hlt, hget⟩ := List.getElem?_eq_some_iff.mp hslot
    have hsplit : inventory.machines =
        inventory.machines.take slot ++ machine :: inventory.machines.drop (slot + 1) := by
      rw [← hget, List.getElem_cons_drop, List.take_append_drop]
    rw [hslot, Option.map_some, Option.some.injEq] at hreference
    refine ⟨beq_of_eq hreference, (inventory.machines.drop (slot + 1)).reverse,
      (inventory.machines.take slot).reverse, ?_, ?_⟩
    · have hreversed := congrArg List.reverse hsplit
      simpa using hreversed
    · intro other hother
      have hmem : other.reference ∈
          (inventory.machines.drop (slot + 1)).map Machine.reference :=
        List.mem_map_of_mem (List.mem_reverse.mp hother)
      rw [Bool.not_eq_true', beq_eq_false_iff_ne]
      rintro rfl
      exact hlater hmem

/-- The slots of the machines that are converted alone. -/
def standaloneSlots (inventory : Inventory) : List Nat :=
  (List.range inventory.machines.length).filter fun slot =>
    inventory.machines[slot]?.any fun machine => !machine.isGrouped

theorem filterMap_getElem?_range {α : Type} (l : List α) :
    (List.range l.length).filterMap (fun i => l[i]?) = l := by
  induction l using List.reverseRecOn with
  | nil => rfl
  | append_singleton l a ih =>
    have hfront : (List.range l.length).filterMap (fun i => (l ++ [a])[i]?) = l := by
      refine Eq.trans (List.filterMap_congr ?_) ih
      intro i hi
      exact List.getElem?_append_left (List.mem_range.mp hi)
    rw [List.length_append, List.length_singleton, List.range_succ, List.filterMap_append,
      hfront]
    simp

theorem standalone_eq (inventory : Inventory) :
    inventory.standalone =
      inventory.standaloneSlots.filterMap fun slot => inventory.machines[slot]? := by
  rw [standalone, standaloneSlots, List.filterMap_filter]
  have hall := congrArg (List.filter fun machine => !machine.isGrouped)
    (filterMap_getElem?_range inventory.machines)
  rw [List.filter_filterMap] at hall
  rw [← hall]
  apply List.filterMap_congr
  intro slot hslot
  cases inventory.machines[slot]? with
  | none => simp
  | some machine => simp [Option.filter]

/-- The positions in groups whose reference stands for the machine at the slot. -/
def positionsOf (inventory : Inventory) (slot : Nat) : List (String × String) :=
  inventory.groups.positions.filter fun position => inventory.Finds position.2 slot

/-- The machine at the slot is converted alone, if it has no group, or else by way of one
position, which is in the group that its attribute names. -/
def AccountedOnce (inventory : Inventory) (slot : Nat) (machine : Machine) : Prop :=
  match machine.attribute? "group" with
  | none => inventory.standaloneSlots.count slot = 1 ∧ inventory.positionsOf slot = []
  | some group =>
    slot ∉ inventory.standaloneSlots ∧
      inventory.positionsOf slot = [(group, machine.reference)]

instance (inventory : Inventory) (slot : Nat) (machine : Machine) :
    Decidable (inventory.AccountedOnce slot machine) := by
  unfold AccountedOnce
  split <;> infer_instance

/-- Every machine is converted exactly once. -/
structure AllAccounted (inventory : Inventory) : Prop where
  each : ∀ slot, (hslot : slot < inventory.machines.length) →
    inventory.AccountedOnce slot inventory.machines[slot]

instance (inventory : Inventory) : Decidable inventory.AllAccounted :=
  decidable_of_iff (∀ slot, (hslot : slot < inventory.machines.length) →
    inventory.AccountedOnce slot inventory.machines[slot]) ⟨AllAccounted.mk, AllAccounted.each⟩

theorem count_standaloneSlots {inventory : Inventory} {slot : Nat} {machine : Machine}
    (hslot : inventory.machines[slot]? = some machine) :
    inventory.standaloneSlots.count slot =
      if (machine.attribute? "group").isSome then 0 else 1 := by
  have hlt : slot < inventory.machines.length :=
    (List.getElem?_eq_some_iff.mp hslot).1
  have hnodup : inventory.standaloneSlots.Nodup := List.nodup_range.filter _
  have hmem : slot ∈ inventory.standaloneSlots ↔
      (machine.attribute? "group").isSome = false := by
    rw [standaloneSlots, List.mem_filter, List.mem_range, hslot]
    simp [hlt, Machine.isGrouped, Table.contains, Machine.attribute?]
  by_cases hgroup : (machine.attribute? "group").isSome = true
  · rw [if_pos hgroup, List.count_eq_zero, hmem]
    simp [hgroup]
  · rw [if_neg hgroup]
    exact List.count_eq_one_of_mem hnodup (hmem.mpr (Bool.not_eq_true _ ▸ hgroup))

end Inventory

/-! ## The groups that the sections name -/

namespace BodyItem

def groups (items : List BodyItem) : List String :=
  ((assignments items).filter fun pair => pair.1 == "group").map Prod.snd

theorem memberships_eq_map (reference : String) (items : List BodyItem) :
    memberships reference items = (groups items).map fun group => (group, reference) := by
  rw [memberships, groups, List.map_map]
  rfl

theorem attribute?_ofItems (reference : String) (items : List BodyItem) :
    (Machine.ofItems reference items).attribute? "group" = (groups items).getLast? := by
  rw [Machine.attribute?, Machine.ofItems, Table.find?_ofList, groups, List.getLast?_map]

end BodyItem

namespace Section

def row? : Section → Option (String × List String)
  | .machine reference items => some (reference, BodyItem.groups items)
  | _ => none

def rows (sections : List Section) : List (String × List String) :=
  sections.filterMap row?

/-- A machine with a group names it once and is the last one with its reference. -/
structure GroupedOnce (sections : List Section) : Prop where
  once : ∀ row ∈ rows sections, row.2.length ≤ 1
  last : (rows sections).Pairwise fun row later => row.2 ≠ [] → later.1 ≠ row.1

def enrolled (rows : List (String × List String)) : List (String × String) :=
  rows.flatMap fun row => row.2.map fun group => (group, row.1)

theorem flatMap_memberships (sections : List Section) :
    sections.flatMap memberships = enrolled (rows sections) := by
  induction sections with
  | nil => rfl
  | cons first sections ih =>
    rw [List.flatMap_cons, ih]
    cases first with
    | machine reference items =>
      rw [memberships, BodyItem.memberships_eq_map]
      rfl
    | orphan lines => rfl
    | filler => rfl

theorem machines_ofOutline (sections : List Section) :
    (Inventory.ofOutline sections).machines.map
        (fun machine => (machine.reference, machine.attribute? "group")) =
      (rows sections).map fun row => (row.1, row.2.getLast?) := by
  rw [Inventory.ofOutline, rows, List.map_filterMap, List.map_filterMap]
  apply List.filterMap_congr
  intro first hfirst
  cases first with
  | machine reference items =>
    simp only [machine?, row?, Option.map_some, BodyItem.attribute?_ofItems]
    rfl
  | orphan lines => rfl
  | filler => rfl

/-! ## One machine among the others -/

section Split

variable {sections : List Section} {before after : List (String × List String)}
  {row : String × List String}

theorem finds_ofOutline_iff (hrows : rows sections = before ++ row :: after)
    (reference : String) :
    (Inventory.ofOutline sections).Finds reference before.length ↔
      reference = row.1 ∧ row.1 ∉ after.map Prod.fst := by
  have hreferences : (Inventory.ofOutline sections).machines.map Machine.reference =
      before.map Prod.fst ++ row.1 :: after.map Prod.fst := by
    have hmachines := congrArg (List.map Prod.fst) (machines_ofOutline sections)
    rw [List.map_map, List.map_map, hrows, List.map_append, List.map_cons] at hmachines
    exact hmachines
  have hlength : before.length = (before.map Prod.fst).length := by simp
  have hslot : (before.map Prod.fst ++ row.1 :: after.map Prod.fst)[before.length]? =
      some row.1 := by
    rw [hlength, List.getElem?_append_right (Nat.le_refl _), Nat.sub_self]
    rfl
  have hlater : (before.map Prod.fst ++ row.1 :: after.map Prod.fst).drop
      (before.length + 1) = after.map Prod.fst := by
    rw [hlength, List.drop_length_add_append]
    rfl
  rw [Inventory.Finds, ← List.getElem?_map, List.map_drop, hreferences, hslot, hlater,
    Option.some.injEq]
  constructor
  · rintro ⟨rfl, hnot⟩
    exact ⟨rfl, hnot⟩
  · rintro ⟨rfl, hnot⟩
    exact ⟨rfl, hnot⟩

/-- The positions that stand for a machine come from its own lines and from those of
earlier machines with its reference. -/
theorem positionsOf_perm (hrows : rows sections = before ++ row :: after) :
    ((Inventory.ofOutline sections).positionsOf before.length).Perm
      (if row.1 ∈ after.map Prod.fst then
        []
      else
        ((enrolled before).filter fun position => position.2 == row.1) ++
          row.2.map fun group => (group, row.1)) := by
  have hall : (Inventory.ofOutline sections).groups.positions.Perm
      (enrolled before ++ ((row.2.map fun group => (group, row.1)) ++ enrolled after)) := by
    have hperm := Table.positions_collect_perm (sections.flatMap memberships)
    rw [flatMap_memberships, hrows, enrolled, List.flatMap_append, List.flatMap_cons] at hperm
    rw [Inventory.ofOutline, flatMap_memberships, hrows, enrolled, List.flatMap_append,
      List.flatMap_cons]
    exact hperm
  refine (hall.filter _).trans (List.Perm.of_eq ?_)
  simp only [finds_ofOutline_iff hrows]
  by_cases hlater : row.1 ∈ after.map Prod.fst
  · simp [hlater]
  · have hown : (row.2.map fun group => (group, row.1)).filter
        (fun position => position.2 == row.1) = row.2.map fun group => (group, row.1) := by
      rw [List.filter_eq_self]
      simp
    -- What a later machine enrolled is under another reference.
    have hnone : (enrolled after).filter (fun position => position.2 == row.1) = [] := by
      rw [List.filter_eq_nil_iff]
      intro position hposition heq
      obtain ⟨other, hother, hgroup⟩ := List.mem_flatMap.mp hposition
      obtain ⟨group, -, rfl⟩ := List.mem_map.mp hgroup
      exact hlater (eq_of_beq heq ▸ List.mem_map_of_mem hother)
    have hfinds : (fun position : String × String =>
          decide (position.2 = row.1 ∧ row.1 ∉ after.map Prod.fst)) =
        fun position => position.2 == row.1 := by
      funext position
      simp [hlater, beq_eq_decide]
    rw [if_neg hlater, hfinds, List.filter_append, List.filter_append, hown, hnone, List.append_nil]

theorem accountedOnce_iff (hrows : rows sections = before ++ row :: after)
    {machine : Machine}
    (hslot : (Inventory.ofOutline sections).machines[before.length]? = some machine) :
    (Inventory.ofOutline sections).AccountedOnce before.length machine ↔
      if row.2 = [] then
        row.1 ∈ after.map Prod.fst ∨
          ((enrolled before).filter fun position => position.2 == row.1) = []
      else
        row.1 ∉ after.map Prod.fst ∧
          ((enrolled before).filter fun position => position.2 == row.1) = [] ∧
          row.2.length = 1 := by
  have hmachine : (machine.reference, machine.attribute? "group") =
      (row.1, row.2.getLast?) := by
    have hmachines := congrArg (fun l => l[before.length]?) (machines_ofOutline sections)
    simp only [List.getElem?_map, hslot, hrows] at hmachines
    simpa using hmachines
  obtain ⟨hreference, hgroup⟩ := Prod.mk.inj hmachine
  have hperm := positionsOf_perm hrows
  have hcount := Inventory.count_standaloneSlots hslot
  rw [Inventory.AccountedOnce, hgroup, hreference]
  rw [hgroup] at hcount
  by_cases hnone : row.2 = []
  · rw [hnone, List.map_nil, List.append_nil] at hperm
    rw [hnone, List.getLast?_nil] at hcount ⊢
    rw [if_pos rfl]
    constructor
    · rintro ⟨-, hpositions⟩
      rw [hpositions, List.nil_perm] at hperm
      by_cases hlater : row.1 ∈ after.map Prod.fst
      · exact Or.inl hlater
      · rw [if_neg hlater] at hperm
        exact Or.inr hperm
    · intro hno
      refine ⟨hcount, ?_⟩
      rcases hno with hlater | hearlier
      · rw [if_pos hlater, List.perm_nil] at hperm
        exact hperm
      · rw [hearlier, ite_self, List.perm_nil] at hperm
        exact hperm
  · obtain ⟨group, hlast⟩ := Option.isSome_iff_exists.mp (List.getLast?_isSome.mpr hnone)
    rw [hlast] at hcount ⊢
    rw [if_neg hnone]
    have halone : before.length ∉ (Inventory.ofOutline sections).standaloneSlots :=
      List.count_eq_zero.mp hcount
    constructor
    · rintro ⟨-, hpositions⟩
      rw [hpositions, List.singleton_perm] at hperm
      by_cases hlater : row.1 ∈ after.map Prod.fst
      · rw [if_pos hlater] at hperm
        cases hperm
      · rw [if_neg hlater] at hperm
        rcases List.append_eq_singleton_iff.mp hperm.symm with ⟨hearlier, hown⟩ | ⟨-, hown⟩
        · refine ⟨hlater, hearlier, ?_⟩
          rw [← List.length_map, hown]
          rfl
        · exact absurd (List.map_eq_nil_iff.mp hown) hnone
    · rintro ⟨hlater, hearlier, hlength⟩
      obtain ⟨only, honly⟩ := List.length_eq_one_iff.mp hlength
      rw [honly, List.getLast?_singleton, Option.some.injEq] at hlast
      subst hlast
      rw [if_neg hlater, hearlier, honly, List.nil_append, List.map_singleton,
        List.perm_singleton] at hperm
      exact ⟨halone, hperm⟩

end Split

theorem pairwise_iff_split {α : Type} {R : α → α → Prop} {l : List α} :
    l.Pairwise R ↔
      ∀ before a after, l = before ++ a :: after → ∀ b ∈ after, R a b := by
  constructor
  · rintro hl before a after rfl
    exact (List.pairwise_cons.mp (List.pairwise_append.mp hl).2.1).1
  · intro hsplit
    induction l with
    | nil => exact List.Pairwise.nil
    | cons a l ih =>
      refine List.pairwise_cons.mpr ⟨hsplit [] a l rfl, ih ?_⟩
      rintro before b after rfl
      exact hsplit (a :: before) b after rfl

/-- Every machine is converted once exactly if each one with a group names it once and is
the last one with its reference. -/
theorem allAccounted_ofOutline_iff (sections : List Section) :
    (Inventory.ofOutline sections).AllAccounted ↔ GroupedOnce sections := by
  constructor
  · intro hall
    have hrow : ∀ before row after, rows sections = before ++ row :: after → row.2 ≠ [] →
        row.1 ∉ after.map Prod.fst ∧ row.2.length = 1 := by
      intro before row after hrows hgroups
      have hlength := congrArg List.length (machines_ofOutline sections)
      rw [List.length_map, List.length_map, hrows, List.length_append,
        List.length_cons] at hlength
      have hlt : before.length < (Inventory.ofOutline sections).machines.length := by
        omega
      have hslot := List.getElem?_eq_getElem hlt
      have haccounted := (accountedOnce_iff hrows hslot).mp (hall.each _ hlt)
      rw [if_neg hgroups] at haccounted
      exact ⟨haccounted.1, haccounted.2.2⟩
    constructor
    · intro row hmem
      obtain ⟨before, after, hrows⟩ := List.append_of_mem hmem
      by_cases hgroups : row.2 = []
      · rw [hgroups]
        exact Nat.zero_le 1
      · exact Nat.le_of_eq (hrow before row after hrows hgroups).2
    · rw [pairwise_iff_split]
      intro before row after hrows later hlater hgroups heq
      exact (hrow before row after hrows hgroups).1 (heq ▸ List.mem_map_of_mem hlater)
  · rintro ⟨honce, hlast⟩
    constructor
    intro slot hslot
    have hlength := congrArg List.length (machines_ofOutline sections)
    rw [List.length_map, List.length_map] at hlength
    have hlt : slot < (rows sections).length := hlength ▸ hslot
    obtain ⟨before, row, after, hrows, rfl⟩ : ∃ before row after,
        rows sections = before ++ row :: after ∧ before.length = slot := by
      refine ⟨(rows sections).take slot, (rows sections)[slot],
        (rows sections).drop (slot + 1), ?_, ?_⟩
      · rw [List.getElem_cons_drop, List.take_append_drop]
      · rw [List.length_take, Nat.min_eq_left (Nat.le_of_lt hlt)]
    rw [hrows, List.pairwise_append] at hlast
    obtain ⟨-, hown, hbefore⟩ := hlast
    -- An earlier machine that names a group would have to be the last with its reference.
    have hearlier :
        ((enrolled before).filter fun position => position.2 == row.1) = [] := by
      rw [List.filter_eq_nil_iff]
      intro position hposition heq
      obtain ⟨other, hother, hgroup⟩ := List.mem_flatMap.mp hposition
      obtain ⟨group, hmem, rfl⟩ := List.mem_map.mp hgroup
      exact hbefore other hother row List.mem_cons_self (List.ne_nil_of_mem hmem)
        (eq_of_beq heq).symm
    rw [accountedOnce_iff hrows (List.getElem?_eq_getElem hslot)]
    by_cases hgroups : row.2 = []
    · rw [if_pos hgroups]
      exact Or.inr hearlier
    · rw [if_neg hgroups]
      refine ⟨?_, hearlier, ?_⟩
      · intro hlater
        obtain ⟨later, hmem, heq⟩ := List.mem_map.mp hlater
        exact (List.pairwise_cons.mp hown).1 later hmem hgroups heq
      · have hle := honce row (hrows ▸ List.mem_append_right _ List.mem_cons_self)
        have hpos := List.length_pos_iff.mpr hgroups
        omega

end Section

/-! ## Sources -/

namespace Inventory

variable {σ : Type}

theorem outcome_read_encode (op : Operator σ) (room : Room) (s : σ) (text : String) :
    ((Inventory.read (Text.Utf8.encode text)).run op room s).outcome =
      .ok (Scan.start.walk (Text.lines text)).inventory := by
  rw [Inventory.read, Scan.outcome_lines, Text.Utf8.mapM_decode?_lines_encode]

def threeMachines : String :=
  "resource \"virtualbox_server\" \"a\" \x7b\ngroup = \"db\"\n\x7d\n" ++
    "resource \"virtualbox_server\" \"b\" \x7b\n\x7d\n" ++
    "resource \"virtualbox_server\" \"c\" \x7b\ngroup = \"db\"\n\x7d\n"

def repeatedGroup : String :=
  "resource \"virtualbox_server\" \"a\" \x7b\ngroup = \"db\"\ngroup = \"db\"\n\x7d\n"

/-- A machine in a group, and then one without a group that has its reference. -/
def repeatedReference : String :=
  "resource \"virtualbox_server\" \"a\" \x7b\ngroup = \"db\"\n\x7d\n" ++
    "resource \"virtualbox_server\" \"a\" \x7b\n\x7d\n"

end Inventory

end CloudLift
