import CloudLift.Proofs.Inventory.Enclosure

/-!
# What one line can do

A line of a source calls at most one operation of the inventory, and where the next line stands
depends on the line and on the place.  `Scan.Makes` has the calls, one clause for each operation,
and `Scan.Transition` has all that can happen at a line.  What is to be shown for every step of a
scan is shown for each of its clauses.
-/

namespace CloudLift

namespace Inventory

variable (inventory : Inventory) (slot : Nat)

@[simp] theorem nextSlot_declare (reference : String) :
    (inventory.declare reference).nextSlot = inventory.nextSlot + 1 :=
  List.length_append

@[simp] theorem nextSlot_addAdapter : (inventory.addAdapter slot).nextSlot = inventory.nextSlot :=
  List.length_modify ..

@[simp] theorem nextSlot_setAttribute (key value : String) :
    (inventory.setAttribute slot key value).nextSlot = inventory.nextSlot := by
  rw [nextSlot, machines_setAttribute]
  exact List.length_modify ..

@[simp] theorem nextSlot_setAdapterAttribute (key value : String) :
    (inventory.setAdapterAttribute slot key value).nextSlot = inventory.nextSlot :=
  List.length_modify ..

/-- What a line in the block of an adapter, other than a closing one, does to the inventory. -/
def adapterLine (line : String) : Inventory :=
  match Line.assignment? line with
  | some (key, value) => inventory.setAdapterAttribute slot key value
  | none => inventory

/-- The line is one more of those that stand in the block of the last adapter. -/
theorem adapterLine_reading {front : List Machine} {groups : Table (List String)}
    (machine : Machine) (inside : List String) (line : String) :
    (reading front groups (machine.attach [inside])).adapterLine front.length line =
      reading front groups (machine.attach [inside ++ [line]]) := by
  unfold adapterLine
  cases hassign : Line.assignment? line with
  | some pair => exact setAdapterAttribute_reading hassign
  | none => simp [Machine.attach, Adapter.ofLines, hassign]

end Inventory

namespace Scan

/-- The call to the inventory that a line makes at a place. -/
inductive Makes : Place → String → Edit → Prop where
  | declare {line reference : String} (hline : Line.Declares line reference) :
      Makes .outside line (.declare reference)
  | setAttribute {slot : Nat} {line key value : String} (hline : Line.Assigns line key value) :
      Makes (.machine slot 0) line (.setAttribute slot key value)
  | addAdapter {slot depth : Nat} {line : String} (hline : Line.OpensAdapter line) :
      Makes (.machine slot depth) line (.addAdapter slot)
  | setAdapterAttribute {slot depth : Nat} {line key value : String}
      (hclose : Line.closesBlock line = false)
      (hassign : Line.assignment? line = some (key, value)) :
      Makes (.adapter (some slot) depth) line (.setAdapterAttribute slot key value)

inductive Transition : Scan → String → Scan → Prop where
  | declares {inventory : Inventory} {line reference : String}
      (hline : Line.Declares line reference) :
      Transition ⟨inventory, .outside⟩ line
        ⟨inventory.declare reference, .machine inventory.nextSlot 0⟩
  | opensOrphan {inventory : Inventory} {line : String} (hline : Line.OpensOrphan line) :
      Transition ⟨inventory, .outside⟩ line ⟨inventory, .adapter none 0⟩
  | passes {inventory : Inventory} {line : String}
      (hdeclares : ∀ reference, ¬ Line.Declares line reference)
      (horphan : ¬ Line.OpensOrphan line) :
      Transition ⟨inventory, .outside⟩ line ⟨inventory, .outside⟩
  | closesOwn {inventory : Inventory} {slot : Nat} {line : String}
      (hclose : Line.closesBlock line = true) :
      Transition ⟨inventory, .machine slot 0⟩ line ⟨inventory, .outside⟩
  | closesNested {inventory : Inventory} {slot depth : Nat} {line : String}
      (hclose : Line.closesBlock line = true) :
      Transition ⟨inventory, .machine slot (depth + 1)⟩ line ⟨inventory, .machine slot depth⟩
  | assigns {inventory : Inventory} {slot : Nat} {line key value : String}
      (hline : Line.Assigns line key value) :
      Transition ⟨inventory, .machine slot 0⟩ line
        ⟨inventory.setAttribute slot key value, .machine slot 0⟩
  | opensAdapter {inventory : Inventory} {slot depth : Nat} {line : String}
      (hline : Line.OpensAdapter line) :
      Transition ⟨inventory, .machine slot depth⟩ line
        ⟨inventory.addAdapter slot,
          .adapter ((inventory.nextAdapter? slot).map fun _ => slot) depth⟩
  | opensNested {inventory : Inventory} {slot depth : Nat} {line : String}
      (hline : Line.OpensNested line) :
      Transition ⟨inventory, .machine slot depth⟩ line ⟨inventory, .machine slot (depth + 1)⟩
  | stays {inventory : Inventory} {slot depth : Nat} {line : String}
      (hclose : Line.closesBlock line = false)
      (hassigns : depth = 0 → ∀ key value, ¬ Line.Assigns line key value)
      (hadapter : ¬ Line.OpensAdapter line) (hnested : ¬ Line.OpensNested line) :
      Transition ⟨inventory, .machine slot depth⟩ line ⟨inventory, .machine slot depth⟩
  | closesAdapter {inventory : Inventory} {slot depth : Nat} {line : String}
      (hclose : Line.closesBlock line = true) :
      Transition ⟨inventory, .adapter (some slot) depth⟩ line ⟨inventory, .machine slot depth⟩
  | closesOrphan {inventory : Inventory} {depth : Nat} {line : String}
      (hclose : Line.closesBlock line = true) :
      Transition ⟨inventory, .adapter none depth⟩ line ⟨inventory, .outside⟩
  | assignsAdapter {inventory : Inventory} {slot depth : Nat} {line key value : String}
      (hclose : Line.closesBlock line = false)
      (hassign : Line.assignment? line = some (key, value)) :
      Transition ⟨inventory, .adapter (some slot) depth⟩ line
        ⟨inventory.setAdapterAttribute slot key value, .adapter (some slot) depth⟩
  | staysInAdapter {inventory : Inventory} {slot depth : Nat} {line : String}
      (hclose : Line.closesBlock line = false) (hassign : Line.assignment? line = none) :
      Transition ⟨inventory, .adapter (some slot) depth⟩ line
        ⟨inventory, .adapter (some slot) depth⟩
  | staysInOrphan {inventory : Inventory} {depth : Nat} {line : String}
      (hclose : Line.closesBlock line = false) :
      Transition ⟨inventory, .adapter none depth⟩ line ⟨inventory, .adapter none depth⟩

theorem transition_outside (inventory : Inventory) (line : String) :
    Transition ⟨inventory, .outside⟩ line (step ⟨inventory, .outside⟩ line) := by
  by_cases hdeclares : ∃ reference, Line.Declares line reference
  · rcases hdeclares with ⟨reference, hline⟩
    rw [step_declares hline]
    exact .declares hline
  rw [not_exists] at hdeclares
  by_cases horphan : Line.OpensOrphan line
  · rw [step_opensOrphan horphan]
    exact .opensOrphan horphan
  · rw [step_outside_filler hdeclares horphan]
    exact .passes hdeclares horphan

theorem transition_machine (inventory : Inventory) (slot depth : Nat) (line : String) :
    Transition ⟨inventory, .machine slot depth⟩ line
      (step ⟨inventory, .machine slot depth⟩ line) := by
  cases hclose : Line.closesBlock line with
  | true =>
    cases depth with
    | zero =>
      rw [step_close_own hclose]
      exact .closesOwn hclose
    | succ depth =>
      rw [step_close_nested hclose]
      exact .closesNested hclose
  | false =>
    by_cases hassigns : ∃ key value, Line.Assigns line key value
    · rcases hassigns with ⟨key, value, hline⟩
      rw [step_assigns hline]
      by_cases hdepth : depth = 0
      · rw [if_pos hdepth, hdepth]
        exact .assigns hline
      · rw [if_neg hdepth]
        exact .stays hclose (fun hzero => absurd hzero hdepth) hline.not_opensAdapter
          hline.not_opensNested
    by_cases hadapter : Line.OpensAdapter line
    · rw [step_opensAdapter hadapter]
      exact .opensAdapter hadapter
    by_cases hnested : Line.OpensNested line
    · rw [step_opensNested hnested]
      exact .opensNested hnested
    · have hfiller : ∀ key value, ¬ Line.Assigns line key value :=
        fun key value hline => hassigns ⟨key, value, hline⟩
      rw [step_filler hclose hfiller hadapter hnested]
      exact .stays hclose (fun _ => hfiller) hadapter hnested

theorem transition_adapter (inventory : Inventory) (slot? : Option Nat) (depth : Nat)
    (line : String) :
    Transition ⟨inventory, .adapter slot? depth⟩ line
      (step ⟨inventory, .adapter slot? depth⟩ line) := by
  cases slot? with
  | none =>
    cases hclose : Line.closesBlock line with
    | true =>
      rw [step_close_orphan hclose]
      exact .closesOrphan hclose
    | false =>
      rw [step_orphan hclose]
      exact .staysInOrphan hclose
  | some slot =>
    cases hclose : Line.closesBlock line with
    | true =>
      rw [step_close_adapter hclose]
      exact .closesAdapter hclose
    | false =>
      rw [step_adapter hclose]
      cases hassign : Line.assignment? line with
      | none => exact .staysInAdapter hclose hassign
      | some pair => exact .assignsAdapter hclose hassign

theorem transition_step (scan : Scan) (line : String) : Transition scan line (scan.step line) := by
  rcases scan with ⟨inventory, place⟩
  cases place with
  | outside => exact transition_outside inventory line
  | machine slot depth => exact transition_machine inventory slot depth line
  | adapter slot? depth => exact transition_adapter inventory slot? depth line

/-! ## Calls -/

theorem Makes.inventory_step {scan : Scan} {line : String} {call : Edit}
    (hmakes : Makes scan.place line call) :
    (scan.step line).inventory = scan.inventory.edit call := by
  rcases scan with ⟨inventory, place⟩
  cases hmakes with
  | declare hline => rw [step_declares hline]; rfl
  | setAttribute hline => rw [step_assigns hline, if_pos rfl]; rfl
  | addAdapter hline => rw [step_opensAdapter hline]; rfl
  | setAdapterAttribute hclose hassign => rw [step_adapter hclose, hassign]; rfl

theorem Transition.inventory_of_not_makes {scan next : Scan} {line : String}
    (htransition : Transition scan line next) (hnone : ∀ call, ¬ Makes scan.place line call) :
    next.inventory = scan.inventory := by
  cases htransition with
  | declares hline => exact absurd (.declare hline) (hnone _)
  | assigns hline => exact absurd (.setAttribute hline) (hnone _)
  | opensAdapter hline => exact absurd (.addAdapter hline) (hnone _)
  | assignsAdapter hclose hassign => exact absurd (.setAdapterAttribute hclose hassign) (hnone _)
  | _ => rfl

/-- A line makes one call or none, and the inventory changes by this call. -/
theorem edits_or_stays (scan : Scan) (line : String) :
    (∃ call, Makes scan.place line call ∧
      (scan.step line).inventory = scan.inventory.edit call) ∨
    ((∀ call, ¬ Makes scan.place line call) ∧ (scan.step line).inventory = scan.inventory) := by
  by_cases hmakes : ∃ call, Makes scan.place line call
  · rcases hmakes with ⟨call, hcall⟩
    exact .inl ⟨call, hcall, hcall.inventory_step⟩
  · rw [not_exists] at hmakes
    exact .inr ⟨hmakes, (transition_step scan line).inventory_of_not_makes hmakes⟩

/-! ## Places -/

section Places

variable {scan next : Scan} {line : String} {slot depth : Nat}

/-- The scan is at a machine from the line that declares it, or was there before. -/
theorem Transition.slot?_cases (htransition : Transition scan line next)
    (hslot : next.place.slot? = some slot) :
    (scan.place = .outside ∧ (∃ reference, Line.Declares line reference) ∧
      slot = scan.inventory.nextSlot ∧ next.inventory.nextSlot = slot + 1) ∨
    (scan.place.slot? = some slot ∧ next.inventory.nextSlot = scan.inventory.nextSlot) := by
  cases htransition with
  | declares hline =>
    have heq := Option.some.inj hslot
    exact .inl ⟨rfl, ⟨_, hline⟩, heq.symm, by rw [← heq, Inventory.nextSlot_declare]⟩
  | opensOrphan hline => cases hslot
  | passes hdeclares horphan => cases hslot
  | closesOwn hclose => cases hslot
  | closesOrphan hclose => cases hslot
  | staysInOrphan hclose => cases hslot
  | opensAdapter hline =>
    rcases Option.map_eq_some_iff.mp hslot with ⟨index, -, heq⟩
    exact .inr ⟨congrArg some heq, Inventory.nextSlot_addAdapter _ _⟩
  | closesNested hclose => exact .inr ⟨hslot, rfl⟩
  | assigns hline => exact .inr ⟨hslot, Inventory.nextSlot_setAttribute _ _ _ _⟩
  | opensNested hline => exact .inr ⟨hslot, rfl⟩
  | stays hclose hassigns hadapter hnested => exact .inr ⟨hslot, rfl⟩
  | closesAdapter hclose => exact .inr ⟨hslot, rfl⟩
  | assignsAdapter hclose hassign =>
    exact .inr ⟨hslot, Inventory.nextSlot_setAdapterAttribute _ _ _ _⟩
  | staysInAdapter hclose hassign => exact .inr ⟨hslot, rfl⟩

/-- The scan is in an adapter of a machine from the line that opens it, or was there before. -/
theorem Transition.adapter_cases (htransition : Transition scan line next)
    (hplace : next.place = .adapter (some slot) depth) :
    (scan.place = .machine slot depth ∧ Line.OpensAdapter line ∧
      next.inventory = scan.inventory.addAdapter slot) ∨
    (scan.place = .adapter (some slot) depth ∧ Line.closesBlock line = false ∧
      next.inventory = scan.inventory.adapterLine slot line) := by
  cases htransition with
  | opensAdapter hline =>
    obtain ⟨hslot, rfl⟩ := Place.adapter.inj hplace
    rcases Option.map_eq_some_iff.mp hslot with ⟨index, -, rfl⟩
    exact .inl ⟨rfl, hline, rfl⟩
  | assignsAdapter hclose hassign =>
    cases hplace
    exact .inr ⟨rfl, hclose, by rw [Inventory.adapterLine, hassign]⟩
  | staysInAdapter hclose hassign =>
    cases hplace
    exact .inr ⟨rfl, hclose, by rw [Inventory.adapterLine, hassign]⟩
  | _ => cases hplace

/-- The scan is in an adapter of no machine from the line that opens it, or was there before,
unless an adapter was to be added to a machine that is not there. -/
theorem Transition.orphan_cases (htransition : Transition scan line next)
    (hplace : next.place = .adapter none depth) :
    (scan.place = .outside ∧ Line.OpensOrphan line) ∨
    (scan.place = .adapter none depth ∧ Line.closesBlock line = false) ∨
    (∃ slot, scan.place = .machine slot depth ∧ scan.inventory.nextAdapter? slot = none) := by
  cases htransition with
  | opensOrphan hline => exact .inl ⟨rfl, hline⟩
  | staysInOrphan hclose =>
    cases hplace
    exact .inr (.inl ⟨rfl, hclose⟩)
  | opensAdapter hline =>
    obtain ⟨hslot, rfl⟩ := Place.adapter.inj hplace
    exact .inr (.inr ⟨_, rfl, Option.map_eq_none_iff.mp hslot⟩)
  | _ => cases hplace

end Places

end Scan

end CloudLift
