import CloudLift.Proofs.Inventory.Edit

/-!
# Inventories of sources

A line edits the inventory once or not at all.  So the inventory of a source is made by edits,
and the references of its machines are words of its lines.
-/

namespace CloudLift

/-- The reference of the machine that an edit declares. -/
def Edit.declared? : Edit → Option String
  | .declare reference => some reference
  | _ => none

namespace Inventory

theorem references_edit (inventory : Inventory) (change : Edit) :
    (inventory.edit change).machines.map Machine.reference =
      inventory.machines.map Machine.reference ++ change.declared?.toList := by
  have hmodify : ∀ (f : Machine → Machine) (slot : Nat),
      (∀ machine, (f machine).reference = machine.reference) →
      (inventory.machines.modify slot f).map Machine.reference =
        inventory.machines.map Machine.reference ++ [] := by
    intro f slot hkeeps
    rw [List.append_nil]
    exact map_modify_of_keeps hkeeps _ _
  cases change with
  | declare reference => exact List.map_append
  | addAdapter slot => exact hmodify Machine.addAdapter slot fun _ => rfl
  | setAttribute slot key value =>
    rw [edit, machines_setAttribute]
    exact hmodify (fun machine => machine.setAttribute key value) slot fun _ => rfl
  | setAdapterAttribute slot key value =>
    exact hmodify (fun machine => machine.setAdapterAttribute key value) slot fun _ => rfl

theorem references_foldl_edit (edits : List Edit) (inventory : Inventory) :
    (edits.foldl edit inventory).machines.map Machine.reference =
      inventory.machines.map Machine.reference ++ edits.filterMap Edit.declared? := by
  induction edits generalizing inventory with
  | nil => exact (List.append_nil _).symm
  | cons change edits ih =>
    rw [List.foldl_cons, ih, references_edit, List.append_assoc]
    cases hdeclared : change.declared? with
    | none => rw [List.filterMap_cons_none hdeclared]; rfl
    | some reference => rw [List.filterMap_cons_some hdeclared]; rfl

end Inventory

namespace Scan

open Inventory (edit)

/-! ## Lines as edits -/

/-- The inventory is edited as long as the line declares what the edit does. -/
def EditedBy (inventory : Inventory) (line : String) (result : Inventory) : Prop :=
  result = inventory ∨ ∃ change, result = inventory.edit change ∧
    ∀ reference, change.declared? = some reference → Line.reference? line = some reference

theorem editedBy_stepOutside (inventory : Inventory) (line : String) :
    EditedBy inventory line (stepOutside inventory line).inventory := by
  unfold stepOutside
  split
  · exact .inl rfl
  split
  · cases hreference : Line.reference? line with
    | none => exact .inl rfl
    | some reference =>
      refine .inr ⟨.declare reference, rfl, ?_⟩
      intro other hother
      rw [hreference]
      exact hother
  split
  · exact .inl rfl
  · exact .inl rfl

theorem editedBy_stepMachine (inventory : Inventory) (slot depth : Nat) (line : String) :
    EditedBy inventory line (stepMachine inventory slot depth line).inventory := by
  unfold stepMachine
  split
  · cases depth with
    | zero => exact .inl rfl
    | succ depth => exact .inl rfl
  cases Line.assignment? line with
  | some pair =>
    dsimp only
    split
    · exact .inl rfl
    split
    · exact .inr ⟨.setAttribute slot pair.1 pair.2, rfl, nofun⟩
    · exact .inl rfl
  | none =>
    dsimp only
    split
    · exact .inr ⟨.addAdapter slot, rfl, nofun⟩
    split
    · exact .inl rfl
    · exact .inl rfl

theorem editedBy_stepAdapter (inventory : Inventory) (slot? : Option Nat) (depth : Nat)
    (line : String) :
    EditedBy inventory line (stepAdapter inventory slot? depth line).inventory := by
  unfold stepAdapter
  split
  · cases slot? with
    | none => exact .inl rfl
    | some slot => exact .inl rfl
  cases slot? with
  | none => exact .inl rfl
  | some slot =>
    cases Line.assignment? line with
    | none => exact .inl rfl
    | some pair => exact .inr ⟨.setAdapterAttribute slot pair.1 pair.2, rfl, nofun⟩

theorem editedBy_step (scan : Scan) (line : String) :
    EditedBy scan.inventory line (scan.step line).inventory := by
  unfold step
  cases scan.place with
  | outside => exact editedBy_stepOutside _ _
  | machine slot depth => exact editedBy_stepMachine _ _ _ _
  | adapter slot? depth => exact editedBy_stepAdapter _ _ _ _

theorem exists_edits_walk (scan : Scan) (lines : List String) :
    ∃ edits : List Edit, (scan.walk lines).inventory = edits.foldl edit scan.inventory ∧
      ∀ reference ∈ edits.filterMap Edit.declared?,
        ∃ line ∈ lines, Line.reference? line = some reference := by
  induction lines generalizing scan with
  | nil => exact ⟨[], rfl, List.forall_mem_nil _⟩
  | cons line lines ih =>
    rcases ih (scan.step line) with ⟨edits, hedits, hlater⟩
    have hrest : ∀ reference ∈ edits.filterMap Edit.declared?,
        ∃ other ∈ line :: lines, Line.reference? other = some reference := by
      intro reference hreference
      rcases hlater reference hreference with ⟨other, hother, hdeclares⟩
      exact ⟨other, List.mem_cons_of_mem _ hother, hdeclares⟩
    rcases editedBy_step scan line with hsame | ⟨change, hchange, hdeclared⟩
    · rw [hsame] at hedits
      exact ⟨edits, hedits, hrest⟩
    · refine ⟨change :: edits, ?_, ?_⟩
      · rw [List.foldl_cons, ← hchange]
        exact hedits
      · intro reference hreference
        rcases List.mem_filterMap.mp hreference with ⟨other, hother, hreference'⟩
        rcases List.mem_cons.mp hother with heq | hmem
        · rw [heq] at hreference'
          exact ⟨line, List.mem_cons_self, hdeclared reference hreference'⟩
        · exact hrest reference (List.mem_filterMap.mpr ⟨other, hmem, hreference'⟩)

end Scan

/-! ## Sources -/

namespace Inventory

variable {σ : Type}

theorem exists_edits_of_read {op : Operator σ} {room : Room} {s : σ} {source : List UInt8}
    {inventory : Inventory}
    (hread : ((Inventory.read source).run op room s).outcome = .ok inventory) :
    ∃ (edits : List Edit) (lines : List String), inventory = edited edits ∧
      ∀ reference ∈ inventory.machines.map Machine.reference,
        ∃ line ∈ lines, Line.reference? line = some reference := by
  rw [Inventory.read, Scan.outcome_lines] at hread
  cases hlines : (Text.Utf8.lines source).mapM Text.Utf8.decode? with
  | none =>
    rw [hlines] at hread
    cases hread
  | some lines =>
    rw [hlines] at hread
    rcases Scan.exists_edits_walk Scan.start lines with ⟨edits, hedits, hdeclared⟩
    have hinventory : inventory = edited edits := (Except.ok.inj hread).symm.trans hedits
    refine ⟨edits, lines, hinventory, ?_⟩
    rw [hinventory, edited, references_foldl_edit]
    exact hdeclared

/-- The inventory of a source can be relied on. -/
theorem consistent_of_read {op : Operator σ} {room : Room} {s : σ} {source : List UInt8}
    {inventory : Inventory}
    (hread : ((Inventory.read source).run op room s).outcome = .ok inventory) :
    inventory.Consistent := by
  rcases exists_edits_of_read hread with ⟨edits, lines, hinventory, -⟩
  rw [hinventory]
  exact (linked_edited edits).consistent

theorem newline_notMem_of_reference? {line reference : String}
    (hreference : Line.reference? line = some reference) : '\n' ∉ reference.toList := by
  have hword := List.mem_of_getElem? hreference
  rcases List.mem_map.mp hword with ⟨word, hmem, heq⟩
  rw [← heq, String.toList_ofList]
  intro hnewline
  have hblank := (Text.Chars.not_isBlank_of_mem_words hmem).2 '\n' hnewline
  exact absurd hblank (by decide)

end Inventory

end CloudLift
