import CloudLift.Inventory.Scan
import CloudLift.Proofs.Interaction
import CloudLift.Proofs.Inventory.Outline
import CloudLift.Proofs.Table
import CloudLift.Proofs.Text.Lines

/-!
# The scan reads the outline

The inventory of an outline has a machine for each of its machine sections.  The
attributes are the assignments at the body's own level, the adapters are those of the
body and of all blocks in it, and every `group` assignment makes the machine a member of
that group once more.

The scan keeps no stack: in a body it has the slot of the machine and the number of
blocks that are open.  So a body is read from a place with a depth, and leaves the scan
where the closing brace of that depth leads to.  An adapter's block leaves the depth as it
was.  Only the inventory is compared, because a body that the end of the source cuts off
leaves the scan inside of it.
-/

namespace CloudLift

/-! ## The inventory of an outline -/

namespace BodyItem

def assignment? : BodyItem → Option (String × String)
  | .assignment key value => some (key, value)
  | _ => none

def assignments (items : List BodyItem) : List (String × String) :=
  items.filterMap assignment?

/-- The groups that the items name, each with the reference of the machine. -/
def memberships (reference : String) (items : List BodyItem) : List (String × String) :=
  ((assignments items).filter fun pair => pair.1 == "group").map fun pair =>
    (pair.2, reference)

mutual

/-- The lines of the adapters in an item, at any depth. -/
def adapters : BodyItem → List (List String)
  | .adapter lines => [lines]
  | .nested items => adaptersIn items
  | _ => []

def adaptersIn : List BodyItem → List (List String)
  | [] => []
  | item :: items => adapters item ++ adaptersIn items

end

theorem foldl_memberships_cons (groups : Table (List String))
    (reference key value : String) (items : List BodyItem) :
    (memberships reference (.assignment key value :: items)).foldl Table.push groups =
      (memberships reference items).foldl Table.push
        (if key = "group" then groups.push (value, reference) else groups) := by
  have hassignments : assignments (.assignment key value :: items) =
      (key, value) :: assignments items := rfl
  rw [memberships, hassignments, memberships]
  by_cases hkey : key = "group"
  · simp [hkey]
  · simp [hkey]

end BodyItem

def Adapter.ofLines (index : Nat) (lines : List String) : Adapter :=
  ⟨index, Table.ofList (lines.filterMap Line.assignment?)⟩

def Machine.ofItems (reference : String) (items : List BodyItem) : Machine :=
  { reference := reference
    attributes := Table.ofList (BodyItem.assignments items)
    adapters := (BodyItem.adaptersIn items).mapIdx Adapter.ofLines }

namespace Section

def machine? : Section → Option Machine
  | .machine reference items => some (Machine.ofItems reference items)
  | _ => none

def memberships : Section → List (String × String)
  | .machine reference items => BodyItem.memberships reference items
  | _ => []

end Section

def Inventory.ofOutline (sections : List Section) : Inventory :=
  { machines := sections.filterMap Section.machine?
    groups := Table.collect (sections.flatMap Section.memberships) }

/-! ## What a body adds to the last machine -/

theorem modify_concat {α : Type} (front : List α) (last : α) (f : α → α) :
    (front ++ [last]).modify front.length f = front ++ [f last] := by
  induction front with
  | nil => rfl
  | cons a front ih => simp [ih]

namespace Machine

def assign (machine : Machine) (pairs : List (String × String)) : Machine :=
  { machine with
    attributes :=
      pairs.foldl (fun table pair => table.insert pair.1 pair.2) machine.attributes }

def attach (machine : Machine) (blocks : List (List String)) : Machine :=
  { machine with
    adapters := machine.adapters ++
      blocks.mapIdx fun i lines => Adapter.ofLines (machine.adapters.length + i) lines }

@[simp] theorem attach_nil (machine : Machine) : machine.attach [] = machine := by
  simp [attach]

theorem attach_append (machine : Machine) (blocks more : List (List String)) :
    machine.attach (blocks ++ more) = (machine.attach blocks).attach more := by
  simp [attach, List.mapIdx_append, Nat.add_assoc, Nat.add_comm blocks.length]

theorem assign_attach (machine : Machine) (pairs : List (String × String))
    (blocks : List (List String)) :
    (machine.attach blocks).assign pairs = (machine.assign pairs).attach blocks :=
  rfl

theorem named_assign_attach (reference : String) (items : List BodyItem) :
    ((named reference).assign (BodyItem.assignments items)).attach (BodyItem.adaptersIn items) =
      ofItems reference items := by
  simp [attach, assign, named, ofItems, Table.ofList]

theorem addAdapter_eq_attach (machine : Machine) :
    machine.addAdapter = machine.attach [[]] :=
  rfl

theorem setAttribute_eq_assign (machine : Machine) (key value : String) :
    machine.setAttribute key value = machine.assign [(key, value)] :=
  rfl

/-- An assignment in the block of the adapter that was attached last. -/
theorem setAdapterAttribute_attach (machine : Machine) (lines : List String)
    {line key value : String} (hline : Line.assignment? line = some (key, value)) :
    (machine.attach [lines]).setAdapterAttribute key value =
      machine.attach [lines ++ [line]] := by
  have hlast : (machine.adapters ++ [Adapter.ofLines machine.adapters.length lines]).length - 1 =
      machine.adapters.length := by
    simp
  rw [setAdapterAttribute, attach, attach]
  simp only [List.mapIdx_singleton, Nat.add_zero, hlast]
  congr 1
  rw [modify_concat]
  simp [Adapter.ofLines, hline, Table.ofList]

end Machine

namespace Inventory

def reading (front : List Machine) (groups : Table (List String)) (machine : Machine) :
    Inventory :=
  ⟨front ++ [machine], groups⟩

variable {front : List Machine} {groups : Table (List String)} {machine : Machine}

theorem addAdapter_reading :
    (reading front groups machine).addAdapter front.length =
      reading front groups (machine.attach [[]]) := by
  rw [reading, addAdapter, modify_concat, Machine.addAdapter_eq_attach]
  rfl

theorem nextAdapter?_reading :
    ((reading front groups machine).nextAdapter? front.length).map
      (fun _ => front.length) = some front.length := by
  simp [reading, nextAdapter?]

theorem setAdapterAttribute_reading {lines : List String} {line key value : String}
    (hline : Line.assignment? line = some (key, value)) :
    (reading front groups (machine.attach [lines])).setAdapterAttribute front.length key
        value =
      reading front groups (machine.attach [lines ++ [line]]) := by
  rw [reading, setAdapterAttribute, modify_concat,
    Machine.setAdapterAttribute_attach machine lines hline]
  rfl

theorem setAttribute_reading {key value : String} :
    (reading front groups machine).setAttribute front.length key value =
      reading front (if key = "group" then groups.push (value, machine.reference) else groups)
        (machine.assign [(key, value)]) := by
  have hslot : (reading front groups machine).machines[front.length]? = some machine := by
    simp [reading]
  rw [setAttribute, hslot]
  simp only [reading, modify_concat, Machine.setAttribute_eq_assign]
  by_cases hkey : key = "group"
  · rw [if_pos hkey, if_pos hkey]
    rfl
  · rw [if_neg hkey, if_neg hkey]

end Inventory

/-! ## What a line does -/

namespace Scan

section Step

variable {inventory : Inventory} {slot depth : Nat} {line : String}

theorem step_close_nested (hline : Line.closesBlock line = true) :
    step ⟨inventory, .machine slot (depth + 1)⟩ line = ⟨inventory, .machine slot depth⟩ := by
  unfold step stepMachine
  exact if_pos hline

theorem step_close_own (hline : Line.closesBlock line = true) :
    step ⟨inventory, .machine slot 0⟩ line = ⟨inventory, .outside⟩ := by
  unfold step stepMachine
  exact if_pos hline

theorem step_assigns {key value : String} (hline : Line.Assigns line key value) :
    step ⟨inventory, .machine slot depth⟩ line =
      if depth = 0 then
        ⟨inventory.setAttribute slot key value, .machine slot depth⟩
      else
        ⟨inventory, .machine slot depth⟩ := by
  have hclose : ¬ Line.closesBlock line = true := by
    intro hclose
    exact Line.not_assigns_of_closesBlock hclose hline
  obtain ⟨hassign, hopen⟩ := hline
  change stepMachine inventory slot depth line = _
  unfold stepMachine
  rw [if_neg hclose]
  simp only [hassign, hopen, Bool.false_eq_true, if_false]

theorem step_opensAdapter (hline : Line.OpensAdapter line) :
    step ⟨inventory, .machine slot depth⟩ line =
      ⟨inventory.addAdapter slot,
        .adapter ((inventory.nextAdapter? slot).map fun _ => slot) depth⟩ := by
  have hclose : ¬ Line.closesBlock line = true := by
    intro hclose
    exact Line.not_opensAdapter_of_closesBlock hclose hline
  obtain ⟨hassign, hname⟩ := hline
  change stepMachine inventory slot depth line = _
  unfold stepMachine
  rw [if_neg hclose]
  simp only [hassign, hname, if_true]

theorem step_opensNested (hline : Line.OpensNested line) :
    step ⟨inventory, .machine slot depth⟩ line =
      ⟨inventory, .machine slot (depth + 1)⟩ := by
  have hclose : ¬ Line.closesBlock line = true := by
    intro hclose
    exact Line.not_opensNested_of_closesBlock hclose hline
  change stepMachine inventory slot depth line = _
  unfold stepMachine
  rw [if_neg hclose]
  rw [Line.OpensNested] at hline
  cases hassign : Line.assignment? line with
  | some pair =>
    rw [hassign] at hline
    simp only [hline, if_true]
  | none =>
    rw [hassign] at hline
    simp only [hline.1, hline.2, Bool.false_eq_true, if_false, if_true]

theorem step_filler (hclose : Line.closesBlock line = false)
    (hassigns : ∀ key value, ¬ Line.Assigns line key value)
    (hadapter : ¬ Line.OpensAdapter line) (hnested : ¬ Line.OpensNested line) :
    step ⟨inventory, .machine slot depth⟩ line = ⟨inventory, .machine slot depth⟩ := by
  change stepMachine inventory slot depth line = _
  unfold stepMachine
  rw [if_neg (Bool.not_eq_true _ ▸ hclose)]
  rw [Line.OpensNested] at hnested
  cases hassign : Line.assignment? line with
  | some pair =>
    rw [hassign] at hnested
    exact absurd ⟨hassign, Bool.not_eq_true _ ▸ hnested⟩ (hassigns pair.1 pair.2)
  | none =>
    rw [hassign] at hnested
    have hname : ¬ Line.namesAdapter line = true := fun hname => hadapter ⟨hassign, hname⟩
    have hopen : ¬ Line.opensBlock line = true := by
      intro hopen
      exact hnested ⟨Bool.not_eq_true _ ▸ hname, hopen⟩
    rw [if_neg hname, if_neg hopen]

theorem step_declares {reference : String} (hline : Line.Declares line reference) :
    step ⟨inventory, .outside⟩ line =
      ⟨inventory.declare reference, .machine inventory.nextSlot 0⟩ := by
  obtain ⟨hassign, hname, hreference⟩ := hline
  rw [step, stepOutside]
  simp only [hassign, hname, hreference, Option.isSome_none, Bool.false_eq_true, if_false,
    if_true]

theorem step_opensOrphan (hline : Line.OpensOrphan line) :
    step ⟨inventory, .outside⟩ line = ⟨inventory, .adapter none 0⟩ := by
  obtain ⟨hassign, hmachine, hadapter⟩ := hline
  rw [step, stepOutside]
  simp only [hassign, hmachine, hadapter, Option.isSome_none, Bool.false_eq_true, if_false,
    if_true]

theorem step_outside_filler (hmachine : ∀ reference, ¬ Line.Declares line reference)
    (horphan : ¬ Line.OpensOrphan line) :
    step ⟨inventory, .outside⟩ line = ⟨inventory, .outside⟩ := by
  rw [step, stepOutside]
  cases hassign : Line.assignment? line with
  | some pair => rw [Option.isSome_some, if_pos rfl]
  | none =>
    rw [Option.isSome_none, if_neg Bool.false_ne_true]
    by_cases hname : Line.namesMachine line = true
    · rw [if_pos hname]
      cases hreference : Line.reference? line with
      | some reference => exact absurd ⟨hassign, hname, hreference⟩ (hmachine reference)
      | none => rfl
    · have hadapter : ¬ Line.namesAdapter line = true := by
        intro hadapter
        exact horphan ⟨hassign, Bool.not_eq_true _ ▸ hname, hadapter⟩
      rw [if_neg hname, if_neg hadapter]

theorem step_close_adapter (hline : Line.closesBlock line = true) :
    step ⟨inventory, .adapter (some slot) depth⟩ line = ⟨inventory, .machine slot depth⟩ := by
  change stepAdapter inventory (some slot) depth line = _
  unfold stepAdapter
  exact if_pos hline

theorem step_close_orphan (hline : Line.closesBlock line = true) :
    step ⟨inventory, .adapter none depth⟩ line = ⟨inventory, .outside⟩ := by
  change stepAdapter inventory none depth line = _
  unfold stepAdapter
  exact if_pos hline

theorem step_adapter (hclose : Line.closesBlock line = false) :
    step ⟨inventory, .adapter (some slot) depth⟩ line =
      match Line.assignment? line with
      | some (key, value) =>
        ⟨inventory.setAdapterAttribute slot key value, .adapter (some slot) depth⟩
      | none => ⟨inventory, .adapter (some slot) depth⟩ := by
  change stepAdapter inventory (some slot) depth line = _
  unfold stepAdapter
  rw [if_neg (Bool.not_eq_true _ ▸ hclose)]
  cases Line.assignment? line <;> rfl

theorem step_orphan (hclose : Line.closesBlock line = false) :
    step ⟨inventory, .adapter none depth⟩ line = ⟨inventory, .adapter none depth⟩ := by
  change stepAdapter inventory none depth line = _
  unfold stepAdapter
  rw [if_neg (Bool.not_eq_true _ ▸ hclose)]

end Step

/-! ## What a block does -/

@[simp] theorem walk_nil (scan : Scan) : scan.walk [] = scan :=
  rfl

theorem walk_cons (scan : Scan) (line : String) (lines : List String) :
    scan.walk (line :: lines) = (scan.step line).walk lines :=
  rfl

theorem walk_orphan (inventory : Inventory) (depth : Nat) (lines : List String) :
    (walk ⟨inventory, .adapter none depth⟩ lines).inventory =
      (walk ⟨inventory, .outside⟩ (afterBlock lines)).inventory := by
  induction lines with
  | nil => rfl
  | cons line lines ih =>
    cases hclose : Line.closesBlock line with
    | true => rw [walk_cons, step_close_orphan hclose, afterBlock_of_closes lines hclose]
    | false =>
      rw [walk_cons, step_orphan hclose, afterBlock_cons lines hclose]
      exact ih

section Walk

open Inventory (reading)

variable {front : List Machine} {groups : Table (List String)}

theorem walk_adapter (machine : Machine) (depth : Nat) (before lines : List String) :
    (walk ⟨reading front groups (machine.attach [before]),
        .adapter (some front.length) depth⟩ lines).inventory =
      (walk ⟨reading front groups (machine.attach [before ++ blockLines lines]),
        .machine front.length depth⟩ (afterBlock lines)).inventory := by
  induction lines generalizing before with
  | nil => simp [blockLines, afterBlock]
  | cons line lines ih =>
    cases hclose : Line.closesBlock line with
    | true =>
      rw [walk_cons, step_close_adapter hclose, blockLines_of_closes lines hclose,
        afterBlock_of_closes lines hclose, List.append_nil]
    | false =>
      rw [walk_cons, step_adapter hclose, blockLines_cons lines hclose,
        afterBlock_cons lines hclose]
      cases hassign : Line.assignment? line with
      | some pair =>
        simp only [Inventory.setAdapterAttribute_reading hassign]
        rw [ih, List.append_assoc]
        rfl
      | none =>
        -- A line without an equals sign adds nothing to the adapter.
        have hskip : machine.attach [before ++ line :: blockLines lines] =
            machine.attach [before ++ blockLines lines] := by
          simp [Machine.attach, Adapter.ofLines, hassign]
        rw [hskip]
        exact ih before

/-- A block in a body leaves the scan one level up.  It adds its adapters to the machine
and nothing else. -/
theorem walk_nested {lines rest : List String} {items : List BodyItem}
    (hbody : Body lines items rest) (machine : Machine) (depth : Nat) :
    (walk ⟨reading front groups machine, .machine front.length (depth + 1)⟩
        lines).inventory =
      (walk ⟨reading front groups (machine.attach (BodyItem.adaptersIn items)),
        .machine front.length depth⟩ rest).inventory := by
  -- The machine is general, because blocks further in add adapters before those after them.
  induction hbody generalizing machine depth with
  | cutOff => simp [BodyItem.adaptersIn]
  | close hline =>
    rw [walk_cons, step_close_nested hline, BodyItem.adaptersIn, Machine.attach_nil]
  | assignment hline hbody ih =>
    rw [walk_cons, step_assigns hline, if_neg (Nat.succ_ne_zero depth), ih]
    rfl
  | adapter hline hbody ih =>
    rw [walk_cons, step_opensAdapter hline, Inventory.nextAdapter?_reading,
      Inventory.addAdapter_reading, walk_adapter, ih, List.nil_append,
      ← Machine.attach_append]
    rfl
  | nested hline hinner hbody ihinner ih =>
    rw [walk_cons, step_opensNested hline, ihinner, ih, ← Machine.attach_append]
    rfl
  | filler hclose hassigns hadapter hnested hbody ih =>
    rw [walk_cons, step_filler hclose hassigns hadapter hnested, ih]
    rfl

theorem walk_body {lines rest : List String} {items : List BodyItem}
    (hbody : Body lines items rest) (machine : Machine) (groups : Table (List String)) :
    (walk ⟨reading front groups machine, .machine front.length 0⟩ lines).inventory =
      (walk ⟨reading front
          ((BodyItem.memberships machine.reference items).foldl Table.push groups)
          ((machine.assign (BodyItem.assignments items)).attach (BodyItem.adaptersIn items)),
        .outside⟩ rest).inventory := by
  induction hbody generalizing machine groups with
  | cutOff => simp [BodyItem.adaptersIn, BodyItem.memberships, BodyItem.assignments, Machine.assign]
  | close hline =>
    rw [walk_cons, step_close_own hline, BodyItem.adaptersIn, Machine.attach_nil]
    rfl
  | assignment hline hbody ih =>
    rw [walk_cons, step_assigns hline, if_pos rfl, Inventory.setAttribute_reading, ih,
      BodyItem.foldl_memberships_cons]
    rfl
  | adapter hline hbody ih =>
    rw [walk_cons, step_opensAdapter hline, Inventory.nextAdapter?_reading,
      Inventory.addAdapter_reading, walk_adapter, ih, List.nil_append,
      Machine.assign_attach, ← Machine.attach_append]
    rfl
  | nested hline hinner hbody ihinner ih =>
    rw [walk_cons, step_opensNested hline, walk_nested hinner, ih, Machine.assign_attach,
      ← Machine.attach_append]
    rfl
  | filler hclose hassigns hadapter hnested hbody ih =>
    rw [walk_cons, step_filler hclose hassigns hadapter hnested, ih]
    rfl

/-- From outside of every block the machines and the memberships of the outline are added
to what is there. -/
theorem walk_outside {lines : List String} {sections : List Section}
    (hreads : Reads lines sections) (machines : List Machine)
    (groups : Table (List String)) :
    (walk ⟨⟨machines, groups⟩, .outside⟩ lines).inventory =
      { machines := machines ++ sections.filterMap Section.machine?
        groups := (sections.flatMap Section.memberships).foldl Table.push groups } := by
  induction hreads generalizing machines groups with
  | nil => simp
  | @machine line reference lines rest items sections hline hbody hrest ih =>
    have hdeclare : (⟨machines, groups⟩ : Inventory).declare reference =
        reading machines groups (Machine.named reference) := rfl
    have hslot : (⟨machines, groups⟩ : Inventory).nextSlot = machines.length := rfl
    rw [walk_cons, step_declares hline, hdeclare, hslot, walk_body hbody,
      Machine.named_assign_attach, reading, ih, List.flatMap_cons, List.foldl_append,
      List.append_assoc]
    rfl
  | orphan hline hrest ih =>
    rw [walk_cons, step_opensOrphan hline, walk_orphan, ih]
    rfl
  | filler hmachine horphan hrest ih =>
    rw [walk_cons, step_outside_filler hmachine horphan, ih]
    rfl

end Walk

theorem walk_reads {lines : List String} {sections : List Section}
    (hreads : Reads lines sections) :
    (start.walk lines).inventory = Inventory.ofOutline sections := by
  have hwalk := walk_outside hreads [] .empty
  rw [Table.foldl_push, List.nil_append] at hwalk
  exact hwalk

/-! ## Sources as bytes -/

variable {σ : Type}

theorem outcome_lines (op : Operator σ) (room : Room) (s : σ) (scan : Scan) (number : Nat)
    (source : List (List UInt8)) :
    ((scan.lines number source).run op room s).outcome =
      match source.mapM Text.Utf8.decode? with
      | some lines => .ok (scan.walk lines).inventory
      | none => .error (.read .invalidUtf8) := by
  induction source generalizing scan number with
  | nil => exact (Interaction.sameButEvents_each_log op room s _ _).outcome
  | cons bytes source ih =>
    rw [lines, List.mapM_cons]
    cases hdecode : Text.Utf8.decode? bytes with
    | none => rfl
    | some line =>
      have hlog := Interaction.sameButEvents_each_log op room s
        (scan.remark? (number + 1) line).toList fun _ =>
          (scan.step line).lines (number + 1) source
      refine hlog.outcome.trans ((ih _ _).trans ?_)
      cases source.mapM Text.Utf8.decode? <;> rfl

/-- What comes after reading a source goes as it would with the inventory at hand. -/
theorem sameButEvents_lines {α : Type} (op : Operator σ) (room : Room) (s : σ)
    (next : Inventory → Interaction α) (scan : Scan) (number : Nat)
    {source : List (List UInt8)} {texts : List String}
    (htexts : source.mapM Text.Utf8.decode? = some texts) :
    (((scan.lines number source).andThen next).run op room s).SameButEvents
      ((next (scan.walk texts).inventory).run op room s) := by
  induction source generalizing scan number texts with
  | nil =>
    obtain rfl : texts = [] := (Option.some.inj htexts).symm
    rw [lines, Interaction.bind_eq_andThen, Interaction.andThen_assoc]
    exact Interaction.sameButEvents_each_log op room s _ _
  | cons bytes source ih =>
    rw [List.mapM_cons] at htexts
    obtain ⟨line, hline, hrest⟩ := Option.bind_eq_some_iff.mp htexts
    obtain ⟨rest, hmap, hcons⟩ := Option.bind_eq_some_iff.mp hrest
    obtain rfl : line :: rest = texts := Option.some.inj hcons
    rw [lines, hline]
    simp only [Interaction.bind_eq_andThen, Interaction.andThen_assoc]
    exact (Interaction.sameButEvents_each_log op room s _ _).trans (ih _ _ hmap)

end Scan

/-- Reading a text succeeds, and the inventory is the one of the text's outline.  The
text has no other outline. -/
theorem Inventory.read_outline {σ : Type} (text : String) (op : Operator σ) (room : Room)
    (s : σ) :
    ∃ sections, Reads (Text.lines text) sections ∧
      (∀ other, Reads (Text.lines text) other → other = sections) ∧
      ((Inventory.read (Text.Utf8.encode text)).run op room s).outcome =
        .ok (Inventory.ofOutline sections) := by
  have hreads := Outline.sections_spec (Text.lines text)
  refine ⟨Outline.sections (Text.lines text), hreads, fun other => hreads.unique, ?_⟩
  rw [Inventory.read, Scan.outcome_lines, Text.Utf8.mapM_decode?_lines_encode]
  exact congrArg Except.ok (Scan.walk_reads hreads)

end CloudLift
