import CloudLift.Proofs.Inventory.Account

/-!
# Sources that follow one another

When the lines of one source are followed by those of another, and the first ones leave
no block open, the scan finds the two inventories one after the other.  The machines of
the second source keep their order behind those of the first, and what the second source
puts into a group comes after what the first one put there.

The outline of the second source is read from outside of every block, whatever the
inventory holds by then, so only the memberships have to be brought together.  They are
pairs that a table collects, and a table that collects two lists is the merge of the
tables that collect each.
-/

namespace CloudLift

namespace Inventory

/-- The machines of two inventories one after the other, in the groups of both. -/
def merge (inventory more : Inventory) : Inventory :=
  { machines := inventory.machines ++ more.machines
    groups := inventory.groups.merge more.groups }

/-- A machine of the second inventory hides those of the first one with its reference. -/
theorem machine?_merge (inventory more : Inventory) (reference : String) :
    (inventory.merge more).machine? reference =
      (more.machine? reference).or (inventory.machine? reference) := by
  rw [machine?, merge, List.reverse_append, List.find?_append]
  rfl

theorem ofOutline_append (sections more : List Section) :
    ofOutline (sections ++ more) = (ofOutline sections).merge (ofOutline more) := by
  rw [ofOutline, List.filterMap_append, List.flatMap_append, Table.collect_append]
  rfl

end Inventory

namespace Scan

theorem walk_append (scan : Scan) (lines more : List String) :
    scan.walk (lines ++ more) = (scan.walk lines).walk more :=
  List.foldl_append

theorem walk_append_ofOutline {lines : List String}
    (houtside : (start.walk lines).place = .outside) (more : List String) :
    (start.walk (lines ++ more)).inventory =
      Inventory.ofOutline (Outline.sections lines ++ Outline.sections more) := by
  have hfirst := walk_reads (Outline.sections_spec lines)
  have hscan : start.walk lines =
      ⟨Inventory.ofOutline (Outline.sections lines), .outside⟩ := by
    rw [← hfirst, ← houtside]
  rw [walk_append, hscan, Inventory.ofOutline, walk_outside (Outline.sections_spec more),
    ← Table.foldl_push, ← List.foldl_append, ← List.flatMap_append, Table.foldl_push,
    ← List.filterMap_append]
  rfl

end Scan

variable {σ : Type}

/-- When the first lines leave no block open, the inventory of all lines is the merge of
the inventories of both parts, and so is what is read from a text with these lines. -/
theorem Inventory.read_append (op : Operator σ) (room : Room) (s : σ)
    {lines more : List String} (houtside : (Scan.start.walk lines).place = .outside) :
    (Scan.start.walk (lines ++ more)).inventory =
        (Scan.start.walk lines).inventory.merge (Scan.start.walk more).inventory ∧
      (∀ reference,
        (Scan.start.walk (lines ++ more)).inventory.machine? reference =
          ((Scan.start.walk more).inventory.machine? reference).or
            ((Scan.start.walk lines).inventory.machine? reference)) ∧
      ∀ text, Text.lines text = lines ++ more →
        ((Inventory.read (Text.Utf8.encode text)).run op room s).outcome =
          .ok ((Scan.start.walk lines).inventory.merge
            (Scan.start.walk more).inventory) := by
  have hmerge : (Scan.start.walk (lines ++ more)).inventory =
      (Scan.start.walk lines).inventory.merge (Scan.start.walk more).inventory := by
    rw [Scan.walk_append_ofOutline houtside, ofOutline_append,
      Scan.walk_reads (Outline.sections_spec lines),
      Scan.walk_reads (Outline.sections_spec more)]
  refine ⟨hmerge, ?_, ?_⟩
  · intro reference
    rw [hmerge, machine?_merge]
  · intro text htext
    rw [outcome_read_encode, htext, hmerge]

/-- A machine in a group. -/
def oneMachine : List String :=
  ["resource \"virtualbox_server\" \"a\" \x7b", "group = \"db\"", "\x7d"]

/-- The same machine once more, and another one in a group of its own. -/
def twoMachines : List String :=
  ["resource \"virtualbox_server\" \"a\" \x7b", "cpus = 2", "group = \"db\"", "\x7d",
    "resource \"virtualbox_server\" \"b\" \x7b", "group = \"web\"", "\x7d"]

theorem oneMachine_append_twoMachines :
    (Scan.start.walk oneMachine).place = .outside ∧
      (Scan.start.walk (oneMachine ++ twoMachines)).inventory =
        (Scan.start.walk oneMachine).inventory.merge
          (Scan.start.walk twoMachines).inventory ∧
      (Scan.start.walk (oneMachine ++ twoMachines)).inventory.groups.entries =
        [("\"db\"", ["\"a\"", "\"a\""]), ("\"web\"", ["\"b\""])] := by
  have houtside : (Scan.start.walk oneMachine).place = .outside := by
    decide +kernel
  have hmerge : (Scan.start.walk (oneMachine ++ twoMachines)).inventory =
      (Scan.start.walk oneMachine).inventory.merge (Scan.start.walk twoMachines).inventory :=
    (Inventory.read_append Operator.scripted none [] houtside).1
  refine ⟨houtside, hmerge, ?_⟩
  rw [hmerge]
  decide +kernel

end CloudLift
