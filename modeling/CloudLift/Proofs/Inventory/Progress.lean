import CloudLift.Proofs.Inventory.Transition

/-!
# What is settled while a source is read

In the block of a machine the scan is at the machine that was declared last, and in the block of
an adapter at the last adapter of that machine.  So no call of the scan misses what it is meant
for (`Edit.Lands`), and it changes no machine but the last one.  Groups are only appended to.

What the scan has behind it is said by the lines: a block that is open begins at one of them, and
no later one closes it.  The invariant is carried from each list of lines to the list with one
line more, and what follows is carried over the rest.
-/

namespace CloudLift

/-! ## Calls that take effect -/

/-- The call finds what it changes, and the change can be found afterwards. -/
def Edit.Lands (inventory : Inventory) : Edit → Prop
  | .declare reference =>
    (inventory.declare reference).machines[inventory.nextSlot]? = some (Machine.named reference)
  | .addAdapter slot => ∃ machine, inventory.machines[slot]? = some machine ∧
    inventory.nextAdapter? slot = some machine.adapters.length ∧
    (inventory.addAdapter slot).machines[slot]? = some machine.addAdapter
  | .setAttribute slot key value => ∃ machine, inventory.machines[slot]? = some machine ∧
    (inventory.setAttribute slot key value).machines[slot]? =
      some (machine.setAttribute key value) ∧
    (key = "group" → (inventory.setAttribute slot key value).group? value =
      some ((inventory.group? value).getD [] ++ [machine.reference]))
  | .setAdapterAttribute slot key value => ∃ machine front adapter,
    inventory.machines[slot]? = some machine ∧ machine.adapters = front ++ [adapter] ∧
    (inventory.setAdapterAttribute slot key value).machines[slot]? =
      some { machine with
        adapters := front ++ [⟨adapter.index, adapter.attributes.insert key value⟩] }

namespace Inventory

variable {inventory : Inventory} {slot : Nat} {machine : Machine}

theorem lands_declare (reference : String) : (Edit.declare reference).Lands inventory :=
  List.getElem?_concat_length

theorem lands_addAdapter (hmachine : inventory.machines[slot]? = some machine) :
    (Edit.addAdapter slot).Lands inventory := by
  refine ⟨machine, hmachine, ?_, ?_⟩
  · rw [nextAdapter?, hmachine]
    rfl
  · rw [addAdapter, List.getElem?_modify_eq, hmachine]
    rfl

theorem lands_setAttribute (hmachine : inventory.machines[slot]? = some machine)
    (key value : String) : (Edit.setAttribute slot key value).Lands inventory := by
  refine ⟨machine, hmachine, ?_, ?_⟩
  · rw [machines_setAttribute, List.getElem?_modify_eq, hmachine]
    rfl
  · intro hkey
    rw [setAttribute, hmachine]
    dsimp only
    rw [if_pos hkey, group?_join, if_pos rfl]
    rfl

theorem lands_setAdapterAttribute (hmachine : inventory.machines[slot]? = some machine)
    (hadapters : machine.adapters ≠ []) (key value : String) :
    (Edit.setAdapterAttribute slot key value).Lands inventory := by
  rcases List.eq_nil_or_concat machine.adapters with hnil | ⟨front, adapter, hconcat⟩
  · exact absurd hnil hadapters
  rw [List.concat_eq_append] at hconcat
  refine ⟨machine, front, adapter, hmachine, hconcat, ?_⟩
  have hlast : machine.adapters.length - 1 = front.length := by
    rw [hconcat, List.length_append]
    rfl
  rw [setAdapterAttribute, List.getElem?_modify_eq, hmachine, Option.map_eq_map,
    Option.map_some, Machine.setAdapterAttribute, hlast, hconcat, modify_concat]

/-! ## Later inventories -/

/-- Each group has its members first among those that it has in the later inventory. -/
def GroupsGrow (inventory later : Inventory) : Prop :=
  ∀ name members, inventory.group? name = some members →
    ∃ all, later.group? name = some all ∧ members <+: all

/-- Besides, all machines except the last one are the same in the later inventory. -/
structure SettledIn (inventory later : Inventory) : Prop where
  machines : inventory.machines.dropLast <+: later.machines
  groups : inventory.GroupsGrow later

theorem GroupsGrow.refl (inventory : Inventory) : inventory.GroupsGrow inventory :=
  fun _ members hmembers => ⟨members, hmembers, List.prefix_rfl⟩

theorem GroupsGrow.trans {later last : Inventory} (hfirst : inventory.GroupsGrow later)
    (hsecond : later.GroupsGrow last) : inventory.GroupsGrow last := by
  intro name members hmembers
  rcases hfirst name members hmembers with ⟨more, hmore, hprefix⟩
  rcases hsecond name more hmore with ⟨all, hall, hprefix'⟩
  exact ⟨all, hall, hprefix.trans hprefix'⟩

theorem groupsGrow_join (inventory : Inventory) (group reference : String) :
    inventory.GroupsGrow (inventory.join group reference) := by
  intro name members hmembers
  rw [group?_join]
  by_cases hname : name = group
  · rw [if_pos hname, ← hname, hmembers]
    exact ⟨_, rfl, List.prefix_append members _⟩
  · rw [if_neg hname]
    exact ⟨members, hmembers, List.prefix_rfl⟩

theorem groupsGrow_edit (inventory : Inventory) (call : Edit) :
    inventory.GroupsGrow (inventory.edit call) := by
  cases call with
  | declare reference => exact GroupsGrow.refl inventory
  | addAdapter slot => exact GroupsGrow.refl inventory
  | setAdapterAttribute slot key value => exact GroupsGrow.refl inventory
  | setAttribute slot key value =>
    rw [edit, setAttribute]
    cases inventory.machines[slot]? with
    | none => exact GroupsGrow.refl inventory
    | some machine =>
      dsimp only
      by_cases hkey : key = "group"
      · rw [if_pos hkey]
        exact groupsGrow_join inventory value machine.reference
      · rw [if_neg hkey]
        exact GroupsGrow.refl inventory

theorem dropLast_modify_last {α : Type} {items : List α} {i : Nat}
    (hlast : items.length = i + 1) (f : α → α) : (items.modify i f).dropLast = items.dropLast := by
  rcases List.eq_nil_or_concat items with hnil | ⟨front, item, hconcat⟩
  · rw [hnil] at hlast
    cases hlast
  · rw [List.concat_eq_append] at hconcat
    rw [hconcat, List.length_append] at hlast
    have hi : i = front.length := (Nat.succ.inj hlast).symm
    rw [hconcat, hi, modify_concat, List.dropLast_concat, List.dropLast_concat]

theorem exists_reading_of_nextSlot (hlast : inventory.nextSlot = slot + 1) :
    ∃ front machine, front.length = slot ∧
      inventory = reading front inventory.groups machine := by
  rcases inventory with ⟨machines, groups⟩
  rcases List.eq_nil_or_concat machines with rfl | ⟨front, machine, rfl⟩
  · cases hlast
  · rw [nextSlot, List.length_concat] at hlast
    refine ⟨front, machine, Nat.succ.inj hlast, ?_⟩
    rw [List.concat_eq_append]
    rfl

end Inventory

namespace Scan

/-- What every line keeps is kept by all lines. -/
theorem walk_preserves {motive : Scan → Prop} {scan : Scan} (hscan : motive scan)
    (hstep : ∀ next line, motive next → motive (next.step line)) (lines : List String) :
    motive (scan.walk lines) :=
  List.foldlRecOn lines step hscan fun next hnext line _ => hstep next line hnext

/-! ## The last machine -/

/-- The machine in whose block the scan stands is the one that was declared last. -/
def AtLast (scan : Scan) : Prop :=
  ∀ slot, scan.place.slot? = some slot → scan.inventory.nextSlot = slot + 1

theorem atLast_start : start.AtLast :=
  nofun

namespace AtLast

variable {scan : Scan}

theorem step (hlast : scan.AtLast) (line : String) : (scan.step line).AtLast := by
  intro slot hslot
  rcases (transition_step scan line).slot?_cases hslot with ⟨-, -, -, hnext⟩ | ⟨hslot, hnext⟩
  · exact hnext
  · rw [hnext, hlast slot hslot]

theorem walk (hlast : scan.AtLast) (lines : List String) : (scan.walk lines).AtLast :=
  walk_preserves hlast (fun _ line hnext => hnext.step line) lines

theorem exists_machine (hlast : scan.AtLast) {slot : Nat} (hslot : scan.place.slot? = some slot) :
    ∃ machine, scan.inventory.machines[slot]? = some machine := by
  have hlength : scan.inventory.machines.length = slot + 1 := hlast slot hslot
  exact ⟨_, List.getElem?_eq_getElem (by omega)⟩

theorem dropLast_step (hlast : scan.AtLast) (line : String) :
    scan.inventory.machines.dropLast <+: (scan.step line).inventory.machines.dropLast := by
  have hmodify : ∀ (slot : Nat) (f : Machine → Machine), scan.place.slot? = some slot →
      scan.inventory.machines.dropLast <+: (scan.inventory.machines.modify slot f).dropLast := by
    intro slot f hslot
    have hsame := Inventory.dropLast_modify_last (hlast slot hslot) f
    exact hsame.symm ▸ List.prefix_rfl
  rcases edits_or_stays scan line with ⟨call, hmakes, hedit⟩ | ⟨-, hsame⟩
  · rw [hedit]
    rcases scan with ⟨inventory, place⟩
    cases hmakes with
    | declare hline =>
      rw [Inventory.edit, Inventory.declare, List.dropLast_concat]
      exact List.dropLast_prefix _
    | setAttribute hline =>
      rw [Inventory.edit, Inventory.machines_setAttribute]
      exact hmodify _ _ rfl
    | addAdapter hline => exact hmodify _ _ rfl
    | setAdapterAttribute hclose hassign => exact hmodify _ _ rfl
  · exact hsame.symm ▸ List.prefix_rfl

theorem dropLast_walk (hlast : scan.AtLast) (lines : List String) :
    scan.inventory.machines.dropLast <+: (scan.walk lines).inventory.machines.dropLast := by
  have hwalk := walk_preserves
    (motive := fun next => next.AtLast ∧
      scan.inventory.machines.dropLast <+: next.inventory.machines.dropLast)
    ⟨hlast, List.prefix_rfl⟩
    (fun _ line hnext => ⟨hnext.1.step line, hnext.2.trans (hnext.1.dropLast_step line)⟩) lines
  exact hwalk.2

end AtLast

theorem groupsGrow_step (scan : Scan) (line : String) :
    scan.inventory.GroupsGrow (scan.step line).inventory := by
  rcases edits_or_stays scan line with ⟨call, -, hedit⟩ | ⟨-, hsame⟩
  · rw [hedit]
    exact Inventory.groupsGrow_edit scan.inventory call
  · rw [hsame]
    exact Inventory.GroupsGrow.refl scan.inventory

theorem groupsGrow_walk (scan : Scan) (lines : List String) :
    scan.inventory.GroupsGrow (scan.walk lines).inventory :=
  walk_preserves (motive := fun next => scan.inventory.GroupsGrow next.inventory)
    (Inventory.GroupsGrow.refl scan.inventory)
    (fun next line hnext => hnext.trans (groupsGrow_step next line)) lines

theorem AtLast.settledIn_walk {scan : Scan} (hlast : scan.AtLast) (lines : List String) :
    scan.inventory.SettledIn (scan.walk lines).inventory := by
  constructor
  · exact (hlast.dropLast_walk lines).trans (List.dropLast_prefix _)
  · exact groupsGrow_walk scan lines

/-! ## Blocks that are open -/

theorem walk_concat (scan : Scan) (lines : List String) (line : String) :
    scan.walk (lines ++ [line]) = (scan.walk lines).step line :=
  walk_append scan lines [line]

/-- The line declares the machine at the slot outside of every block, and since then the scan
has not left the machine. -/
structure OpenMachine (before : List String) (opener : String) (inside : List String)
    (slot : Nat) : Prop where
  outside : (start.walk before).place = .outside
  declares : ∃ reference, Line.Declares opener reference
  slot_eq : slot = slotAfter before
  stays : ∀ front, front <+: inside →
    (start.walk (before ++ opener :: front)).place.slot? = some slot

/-- The line opens an adapter in the machine at the slot, and since then no line closes a block.
The adapter follows those that the machine had, and has what stands inside. -/
structure OpenAdapter (before : List String) (opener : String) (inside : List String)
    (slot depth : Nat) : Prop where
  body : (start.walk before).place = .machine slot depth
  opens : Line.OpensAdapter opener
  unclosed : ∀ line ∈ inside, Line.closesBlock line = false
  stored : ∃ front groups machine, front.length = slot ∧
    (start.walk before).inventory = Inventory.reading front groups machine ∧
    (start.walk (before ++ opener :: inside)).inventory =
      Inventory.reading front groups (machine.attach [inside])

/-- The line opens an adapter outside of every block, and since then no line closes a block. -/
structure OpenOrphan (before : List String) (opener : String) (inside : List String) : Prop where
  outside : (start.walk before).place = .outside
  opens : Line.OpensOrphan opener
  unclosed : ∀ line ∈ inside, Line.closesBlock line = false

section Open

variable {lines : List String} {line : String} {slot depth : Nat}

theorem OpenMachine.concat {before inside : List String} {opener : String}
    (hopen : OpenMachine before opener inside slot)
    (hslot : (start.walk (before ++ opener :: (inside ++ [line]))).place.slot? = some slot) :
    OpenMachine before opener (inside ++ [line]) slot := by
  refine ⟨hopen.outside, hopen.declares, hopen.slot_eq, ?_⟩
  intro front hfront
  rcases List.prefix_concat_iff.mp hfront with heq | hshorter
  · rw [heq]
    exact hslot
  · exact hopen.stays front hshorter

theorem exists_openMachine (hslot : (start.walk lines).place.slot? = some slot) :
    ∃ before opener inside, lines = before ++ opener :: inside ∧
      OpenMachine before opener inside slot := by
  induction lines using List.reverseRecOn with
  | nil => cases hslot
  | append_singleton lines line ih =>
    have hstep := hslot
    rw [walk_concat] at hstep
    rcases (transition_step _ line).slot?_cases hstep with
      ⟨houtside, hdeclares, hnext, -⟩ | ⟨hbefore, -⟩
    · refine ⟨lines, line, [], rfl, houtside, hdeclares, hnext, ?_⟩
      intro front hfront
      rw [List.prefix_nil.mp hfront]
      exact hslot
    · rcases ih hbefore with ⟨before, opener, inside, rfl, hopen⟩
      refine ⟨before, opener, inside ++ [line], List.append_assoc _ _ _, hopen.concat ?_⟩
      rw [List.append_assoc] at hslot
      exact hslot

theorem OpenAdapter.concat {before inside : List String} {opener : String}
    (hopen : OpenAdapter before opener inside slot depth)
    (hclose : Line.closesBlock line = false)
    (hnext : (start.walk (before ++ opener :: (inside ++ [line]))).inventory =
      (start.walk (before ++ opener :: inside)).inventory.adapterLine slot line) :
    OpenAdapter before opener (inside ++ [line]) slot depth := by
  have hunclosed : ∀ other ∈ inside ++ [line], Line.closesBlock other = false :=
    List.forall_mem_append.mpr ⟨hopen.unclosed, List.forall_mem_singleton.mpr hclose⟩
  refine ⟨hopen.body, hopen.opens, hunclosed, ?_⟩
  rcases hopen.stored with ⟨front, groups, machine, hslot, hbefore, hinside⟩
  refine ⟨front, groups, machine, hslot, hbefore, ?_⟩
  rw [hnext, hinside, ← hslot, Inventory.adapterLine_reading]

theorem exists_openAdapter (hplace : (start.walk lines).place = .adapter (some slot) depth) :
    ∃ before opener inside, lines = before ++ opener :: inside ∧
      OpenAdapter before opener inside slot depth := by
  induction lines using List.reverseRecOn with
  | nil => cases hplace
  | append_singleton lines line ih =>
    have hstep := hplace
    rw [walk_concat] at hstep
    rcases (transition_step _ line).adapter_cases hstep with
      ⟨hbody, hopens, hnext⟩ | ⟨hbefore, hclose, hnext⟩
    · have hlast : (start.walk lines).inventory.nextSlot = slot + 1 := by
        apply atLast_start.walk lines
        rw [hbody]
        rfl
      rcases Inventory.exists_reading_of_nextSlot hlast with ⟨front, machine, hslot, hreading⟩
      refine ⟨lines, line, [], rfl, hbody, hopens, List.forall_mem_nil _, front, _, machine, hslot,
        hreading, ?_⟩
      rw [walk_concat, hnext, hreading, ← hslot, Inventory.addAdapter_reading]
      rfl
    · rcases ih hbefore with ⟨before, opener, inside, rfl, hopen⟩
      refine ⟨before, opener, inside ++ [line], List.append_assoc _ _ _, hopen.concat hclose ?_⟩
      rw [← hnext, ← walk_concat, List.append_assoc]
      rfl

theorem exists_openOrphan (hplace : (start.walk lines).place = .adapter none depth) :
    ∃ before opener inside, lines = before ++ opener :: inside ∧
      OpenOrphan before opener inside := by
  induction lines using List.reverseRecOn with
  | nil => cases hplace
  | append_singleton lines line ih =>
    rw [walk_concat] at hplace
    rcases (transition_step _ line).orphan_cases hplace with
      ⟨houtside, hopens⟩ | ⟨hbefore, hclose⟩ | ⟨slot, hbody, hnone⟩
    · exact ⟨lines, line, [], rfl, houtside, hopens, List.forall_mem_nil _⟩
    · rcases ih hbefore with ⟨before, opener, inside, rfl, hopen⟩
      have hunclosed : ∀ other ∈ inside ++ [line], Line.closesBlock other = false :=
        List.forall_mem_append.mpr ⟨hopen.unclosed, List.forall_mem_singleton.mpr hclose⟩
      exact ⟨before, opener, inside ++ [line], List.append_assoc _ _ _, hopen.outside, hopen.opens,
        hunclosed⟩
    · -- The machine whose block is read is there.
      have hslot : (start.walk lines).place.slot? = some slot := by
        rw [hbody]
        rfl
      rcases (atLast_start.walk lines).exists_machine hslot with ⟨machine, hmachine⟩
      rw [Inventory.nextAdapter?, hmachine] at hnone
      cases hnone

end Open

/-! ## The invariant -/

theorem AtLast.lands {scan : Scan} (hlast : scan.AtLast) {line : String} {call : Edit}
    (hadapters : ∀ slot depth machine, scan.place = .adapter (some slot) depth →
      scan.inventory.machines[slot]? = some machine → machine.adapters ≠ [])
    (hmakes : Makes scan.place line call) : call.Lands scan.inventory := by
  rcases scan with ⟨inventory, place⟩
  cases hmakes with
  | declare hline => exact Inventory.lands_declare _
  | setAttribute hline =>
    rcases hlast.exists_machine rfl with ⟨machine, hmachine⟩
    exact Inventory.lands_setAttribute hmachine _ _
  | addAdapter hline =>
    rcases hlast.exists_machine rfl with ⟨machine, hmachine⟩
    exact Inventory.lands_addAdapter hmachine
  | setAdapterAttribute hclose hassign =>
    rcases hlast.exists_machine rfl with ⟨machine, hmachine⟩
    exact Inventory.lands_setAdapterAttribute hmachine (hadapters _ _ machine rfl hmachine) _ _

theorem adapters_ne_nil {lines : List String} {slot depth : Nat} {machine : Machine}
    (hplace : (start.walk lines).place = .adapter (some slot) depth)
    (hmachine : (start.walk lines).inventory.machines[slot]? = some machine) :
    machine.adapters ≠ [] := by
  rcases exists_openAdapter hplace with ⟨before, opener, inside, rfl, hopen⟩
  rcases hopen.stored with ⟨front, groups, old, rfl, -, hinside⟩
  rw [hinside, Inventory.reading, List.getElem?_concat_length, Option.some.injEq] at hmachine
  rw [← hmachine, Machine.attach]
  exact List.append_ne_nil_of_right_ne_nil _ (List.cons_ne_nil _ _)

/-- What is known of the scan after some lines, and of every line that can follow. -/
structure Sound (lines : List String) : Prop where
  last : ∀ slot, (start.walk lines).place.slot? = some slot →
    slot + 1 = (start.walk lines).inventory.machines.length ∧
    ∃ before opener inside, lines = before ++ opener :: inside ∧
      OpenMachine before opener inside slot
  adapter : ∀ slot depth, (start.walk lines).place = .adapter (some slot) depth →
    (∃ machine, (start.walk lines).inventory.machines[slot]? = some machine ∧
      machine.adapters ≠ []) ∧
    ∃ before opener inside, lines = before ++ opener :: inside ∧
      OpenAdapter before opener inside slot depth
  orphan : ∀ depth, (start.walk lines).place = .adapter none depth →
    ∃ before opener inside, lines = before ++ opener :: inside ∧
      OpenOrphan before opener inside
  opens : ∀ slot depth line, (start.walk lines).place = .machine slot depth →
    Line.OpensAdapter line →
    ((start.walk lines).inventory.nextAdapter? slot).isSome ∧
      ((start.walk lines).step line).place = .adapter (some slot) depth
  lands : ∀ line call, Makes (start.walk lines).place line call →
    call.Lands (start.walk lines).inventory ∧
      ((start.walk lines).step line).inventory = (start.walk lines).inventory.edit call
  quiet : ∀ line, (∀ call, ¬ Makes (start.walk lines).place line call) →
    ((start.walk lines).step line).inventory = (start.walk lines).inventory
  settled : ∀ more,
    (start.walk lines).inventory.SettledIn (start.walk (lines ++ more)).inventory

theorem sound (lines : List String) : Sound lines := by
  have hlast : (start.walk lines).AtLast := atLast_start.walk lines
  constructor
  · intro slot hslot
    exact ⟨(hlast slot hslot).symm, exists_openMachine hslot⟩
  · intro slot depth hplace
    have hslot : (start.walk lines).place.slot? = some slot := by
      rw [hplace]
      rfl
    rcases hlast.exists_machine hslot with ⟨machine, hmachine⟩
    exact ⟨⟨machine, hmachine, adapters_ne_nil hplace hmachine⟩, exists_openAdapter hplace⟩
  · intro depth hplace
    exact exists_openOrphan hplace
  · intro slot depth line hplace hopens
    have hslot : (start.walk lines).place.slot? = some slot := by
      rw [hplace]
      rfl
    rcases hlast.exists_machine hslot with ⟨machine, hmachine⟩
    have hindex : (start.walk lines).inventory.nextAdapter? slot =
        some machine.adapters.length := by
      rw [Inventory.nextAdapter?, hmachine]
      rfl
    have hscan : start.walk lines = ⟨(start.walk lines).inventory, .machine slot depth⟩ := by
      rw [← hplace]
    refine ⟨by rw [hindex]; rfl, ?_⟩
    rw [hscan, step_opensAdapter hopens, hindex]
    rfl
  · intro line call hmakes
    exact ⟨hlast.lands (fun _ _ _ => adapters_ne_nil) hmakes, hmakes.inventory_step⟩
  · intro line hnone
    exact (transition_step _ line).inventory_of_not_makes hnone
  · intro more
    rw [walk_append]
    exact hlast.settledIn_walk more

/-- After all lines that a scan can have behind it the invariant holds, and what is settled then
is so in the inventory that is read from any text that begins with these lines. -/
theorem sound_and_settled {σ : Type} (op : Operator σ) (room : Room) (s : σ)
    (lines : List String) :
    Sound lines ∧ ∀ text more, Text.lines text = lines ++ more →
      ∃ inventory,
        ((Inventory.read (Text.Utf8.encode text)).run op room s).outcome = .ok inventory ∧
        (start.walk lines).inventory.SettledIn inventory := by
  refine ⟨sound lines, ?_⟩
  intro text more htext
  refine ⟨_, Inventory.outcome_read_encode op room s text, ?_⟩
  rw [htext]
  exact (sound lines).settled more

/-- The lines up to an attribute of an adapter, which stands in a block of its machine. -/
def adapterFront : List String :=
  ["network_adapter", "\x7d", machineOpener, "group = \"db\"", "labels = \x7b",
    "network_adapter \x7b", "network_mode = \"nat\""]

def adapterText : String :=
  "network_adapter\n\x7d\nresource \"virtualbox_server\" \"vm\" \x7b\ngroup = \"db\"\n" ++
    "labels = \x7b\nnetwork_adapter \x7b\nnetwork_mode = \"nat\"\n\x7d\n\x7d\n\x7d\n"

theorem adapterFront_settled :
    Text.lines adapterText = adapterFront ++ ["\x7d", "\x7d", "\x7d"] ∧
      (start.walk adapterFront).place = .adapter (some 0) 1 ∧ Sound adapterFront ∧
      ∃ inventory,
        ((Inventory.read (Text.Utf8.encode adapterText)).run Operator.scripted none
          []).outcome = .ok inventory ∧
        (start.walk adapterFront).inventory.SettledIn inventory := by
  have htext : Text.lines adapterText = adapterFront ++ ["\x7d", "\x7d", "\x7d"] := by
    decide +kernel
  have hplace : (start.walk adapterFront).place = .adapter (some 0) 1 := by
    decide +kernel
  have hfront := sound_and_settled Operator.scripted none [] adapterFront
  exact ⟨htext, hplace, hfront.1, hfront.2 adapterText _ htext⟩

end Scan

end CloudLift
