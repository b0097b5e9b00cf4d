import CloudLift.Operator.Scripted
import CloudLift.Proofs.Inventory.Arena
import CloudLift.Proofs.Inventory.Transition
import CloudLift.Proofs.Text.Decoding

/-!
# Reading with checked indexes and counters

The scan counts lines and open blocks, and an arena looks up groups by their slots.  On a machine
a counter can leave the range of a word, and a slot can lie past the end of a list.  Here each of
these steps is checked, and reading has no result at all where one of them fails.

None of them does.  The slots that an arena finds are in range because it represents an
inventory, a block is closed only where one is open, and no counter passes the number of lines.
So reading a source gives an inventory if the bytes are valid UTF-8, and a read fault otherwise.
-/

namespace CloudLift

/-! ## Checked steps -/

/-- The next number, if it fits in a word. -/
def succ? (bound n : Nat) : Option Nat :=
  if n + 1 < bound then some (n + 1) else none

def pred? : Nat → Option Nat
  | 0 => none
  | n + 1 => some n

def modify? {α : Type} (items : List α) (i : Nat) (f : α → α) : Option (List α) :=
  if i < items.length then some (items.modify i f) else none

theorem succ?_of_lt {bound n : Nat} (hn : n + 1 < bound) : succ? bound n = some (n + 1) :=
  if_pos hn

theorem modify?_of_lt {α : Type} {items : List α} {i : Nat} (hi : i < items.length)
    (f : α → α) : modify? items i f = some (items.modify i f) :=
  if_pos hi

namespace Arena

/-- The slot of a group; a group that is new is the last one in the list. -/
def openGroup? (arena : Arena) (name : String) : Option (Arena × Nat) :=
  match arena.groupSlots.find? name with
  | some slot => some (arena, slot)
  | none => do
    let groups := arena.groups ++ [⟨name, []⟩]
    let slot ← pred? groups.length
    some ({ arena with groups := groups, groupSlots := arena.groupSlots.insert name slot }, slot)

def join? (arena : Arena) (name reference : String) : Option Arena := do
  let (opened, slot) ← arena.openGroup? name
  let groups ← modify? opened.groups slot fun group => group.add reference
  some { opened with groups := groups }

def setAttribute? (arena : Arena) (slot : Nat) (key value : String) : Option Arena :=
  match arena.machines[slot]? with
  | none => some arena
  | some machine =>
    let changed := arena.modifyMachine slot fun m => m.setAttribute key value
    if key = "group" then changed.join? value machine.reference else some changed

def stepOutside (arena : Arena) (line : String) : Arena × Place :=
  if (Line.assignment? line).isSome then
    (arena, .outside)
  else if Line.namesMachine line then
    match Line.reference? line with
    | some reference => (arena.declare reference, .machine arena.machines.length 0)
    | none => (arena, .outside)
  else if Line.namesAdapter line then
    (arena, .adapter none 0)
  else
    (arena, .outside)

def stepMachine? (bound : Nat) (arena : Arena) (slot depth : Nat) (line : String) :
    Option (Arena × Place) :=
  if Line.closesBlock line then
    if depth = 0 then
      some (arena, .outside)
    else
      (pred? depth).map fun depth => (arena, .machine slot depth)
  else
    match Line.assignment? line with
    | some (key, value) =>
      if Line.opensBlock value then
        (succ? bound depth).map fun depth => (arena, .machine slot depth)
      else if depth = 0 then
        (arena.setAttribute? slot key value).map fun arena => (arena, .machine slot depth)
      else
        some (arena, .machine slot depth)
    | none =>
      if Line.namesAdapter line then
        some (arena.modifyMachine slot Machine.addAdapter,
          .adapter (arena.machines[slot]?.map fun _ => slot) depth)
      else if Line.opensBlock line then
        (succ? bound depth).map fun depth => (arena, .machine slot depth)
      else
        some (arena, .machine slot depth)

def stepAdapter (arena : Arena) (slot? : Option Nat) (depth : Nat) (line : String) :
    Arena × Place :=
  if Line.closesBlock line then
    match slot? with
    | some slot => (arena, .machine slot depth)
    | none => (arena, .outside)
  else
    match slot?, Line.assignment? line with
    | some slot, some (key, value) =>
      (arena.modifyMachine slot fun m => m.setAdapterAttribute key value, .adapter slot? depth)
    | _, _ => (arena, .adapter slot? depth)

/-- What a line does to the arena, and where the next line stands. -/
def step? (bound : Nat) (arena : Arena) (place : Place) (line : String) :
    Option (Arena × Place) :=
  match place with
  | .outside => some (arena.stepOutside line)
  | .machine slot depth => arena.stepMachine? bound slot depth line
  | .adapter slot? depth => some (arena.stepAdapter slot? depth line)

/-- Goes over the lines that follow line `number`, with counters below the bound. -/
def lines? (bound : Nat) (arena : Arena) (place : Place) (number : Nat) :
    List (List UInt8) → Option (Except Fault Arena)
  | [] => some (.ok arena)
  | bytes :: rest =>
    match Text.Utf8.decode? bytes with
    | none => some (.error (.read .invalidUtf8))
    | some line => do
      let next ← succ? bound number
      let (arena, place) ← arena.step? bound place line
      lines? bound arena place next rest

def read? (bound : Nat) (source : List UInt8) : Option (Except Fault Arena) :=
  empty.lines? bound .outside 0 (Text.Utf8.lines source)

/-! ## Slots in range -/

theorem openGroup?_eq (arena : Arena) (name : String) :
    arena.openGroup? name = some (arena.openGroup name) := by
  unfold openGroup? openGroup
  cases arena.groupSlots.find? name with
  | some slot => rfl
  | none =>
    have hlast : pred? (arena.groups ++ [Group.mk name []]).length =
        some arena.groups.length := by
      rw [List.length_append]
      rfl
    dsimp only
    rw [hlast]
    rfl

namespace Represents

variable {arena : Arena} {inventory : Inventory}

theorem groupSlot_lt (h : arena.Represents inventory) {name : String} {slot : Nat}
    (hslot : arena.groupSlots.find? name = some slot) : slot < arena.groups.length := by
  rcases Option.map_eq_some_iff.mp ((h.groupSlots name slot).mp hslot) with ⟨group, hgroup, -⟩
  exact (List.getElem?_eq_some_iff.mp hgroup).1

theorem openGroup_slot_lt (h : arena.Represents inventory) (name : String) :
    (arena.openGroup name).2 < (arena.openGroup name).1.groups.length := by
  unfold openGroup
  cases hslot : arena.groupSlots.find? name with
  | some slot => exact h.groupSlot_lt hslot
  | none =>
    dsimp only
    rw [List.length_append]
    exact Nat.lt_succ_self _

theorem join?_eq (h : arena.Represents inventory) (name reference : String) :
    arena.join? name reference = some (arena.join name reference) := by
  unfold join?
  rw [openGroup?_eq, Option.bind_eq_bind, Option.bind_some]
  dsimp only
  rw [modify?_of_lt (h.openGroup_slot_lt name)]
  rfl

theorem setAttribute?_eq (h : arena.Represents inventory) (slot : Nat) (key value : String) :
    arena.setAttribute? slot key value = some (arena.setAttribute slot key value) := by
  unfold setAttribute? Arena.setAttribute
  cases arena.machines[slot]? with
  | none => rfl
  | some machine =>
    dsimp only
    have hchanged := h.modifyMachine (f := fun m => m.setAttribute key value) (fun _ => rfl) slot
    by_cases hkey : key = "group"
    · rw [if_pos hkey, if_pos hkey]
      exact hchanged.join?_eq value machine.reference
    · rw [if_neg hkey, if_neg hkey]

end Represents

/-! ## One line -/

/-- An arena and a place are as good as a scan. -/
structure Follows (state : Arena × Place) (scan : Scan) : Prop where
  represents : state.1.Represents scan.inventory
  place : state.2 = scan.place

section Line

variable {arena : Arena} {inventory : Inventory}

theorem follows_stepOutside (h : arena.Represents inventory) (line : String) :
    Follows (arena.stepOutside line) (Scan.stepOutside inventory line) := by
  unfold stepOutside Scan.stepOutside
  split
  · exact ⟨h, rfl⟩
  split
  · cases Line.reference? line with
    | none => exact ⟨h, rfl⟩
    | some reference =>
      exact ⟨h.declare reference, congrArg (fun machines => Place.machine machines.length 0)
        h.machines⟩
  split
  · exact ⟨h, rfl⟩
  · exact ⟨h, rfl⟩

theorem follows_stepMachine (h : arena.Represents inventory) {bound depth : Nat}
    (hdepth : depth + 1 < bound) (slot : Nat) (line : String) :
    ∃ state, arena.stepMachine? bound slot depth line = some state ∧
      Follows state (Scan.stepMachine inventory slot depth line) := by
  unfold stepMachine? Scan.stepMachine
  rw [succ?_of_lt hdepth]
  split
  case isTrue hclose =>
    cases depth with
    | zero => exact ⟨_, rfl, h, rfl⟩
    | succ depth => exact ⟨_, rfl, h, rfl⟩
  case isFalse hclose =>
    cases Line.assignment? line with
    | some pair =>
      dsimp only
      split
      · exact ⟨_, rfl, h, rfl⟩
      split
      · rw [h.setAttribute?_eq]
        exact ⟨_, rfl, h.setAttribute slot pair.1 pair.2, rfl⟩
      · exact ⟨_, rfl, h, rfl⟩
    | none =>
      dsimp only
      split
      · refine ⟨_, rfl, h.edit (.addAdapter slot), ?_⟩
        rw [h.machines]
        dsimp only
        rw [Inventory.nextAdapter?, Option.map_map]
        rfl
      split
      · exact ⟨_, rfl, h, rfl⟩
      · exact ⟨_, rfl, h, rfl⟩

theorem follows_stepAdapter (h : arena.Represents inventory) (slot? : Option Nat) (depth : Nat)
    (line : String) :
    Follows (arena.stepAdapter slot? depth line)
      (Scan.stepAdapter inventory slot? depth line) := by
  unfold stepAdapter Scan.stepAdapter
  split
  · cases slot? with
    | none => exact ⟨h, rfl⟩
    | some slot => exact ⟨h, rfl⟩
  cases slot? with
  | none => exact ⟨h, rfl⟩
  | some slot =>
    cases Line.assignment? line with
    | none => exact ⟨h, rfl⟩
    | some pair => exact ⟨h.edit (.setAdapterAttribute slot pair.1 pair.2), rfl⟩

end Line

end Arena

/-- The blocks that are open in the body of a machine, besides the adapter. -/
def Place.depth : Place → Nat
  | .outside => 0
  | .machine _ depth => depth
  | .adapter _ depth => depth

namespace Arena

theorem follows_step {arena : Arena} {scan : Scan} (h : arena.Represents scan.inventory)
    {bound : Nat} (hdepth : scan.place.depth + 1 < bound) (line : String) :
    ∃ state, arena.step? bound scan.place line = some state ∧
      Follows state (scan.step line) := by
  unfold step? Scan.step
  cases hplace : scan.place with
  | outside => exact ⟨_, rfl, follows_stepOutside h line⟩
  | machine slot depth =>
    rw [hplace] at hdepth
    exact follows_stepMachine h hdepth slot line
  | adapter slot? depth => exact ⟨_, rfl, follows_stepAdapter h slot? depth line⟩

end Arena

/-- A line opens one block at most. -/
theorem Scan.Transition.depth_le {scan next : Scan} {line : String}
    (htransition : Scan.Transition scan line next) :
    next.place.depth ≤ scan.place.depth + 1 := by
  cases htransition with
  | opensNested hline => exact Nat.le_refl _
  | closesNested hclose => exact Nat.le_add_right _ 2
  | closesOrphan hclose => exact Nat.zero_le _
  | _ => exact Nat.le_succ _

/-! ## All lines -/

namespace Arena

/-- Both readings give the same inventory or the same fault. -/
inductive Agrees : Except Fault Arena → Except Fault Inventory → Prop where
  | ok {arena : Arena} {inventory : Inventory} (h : arena.Represents inventory) :
      Agrees (.ok arena) (.ok inventory)
  | error (fault : Fault) : Agrees (.error fault) (.error fault)

variable {σ : Type}

/-- The number of open blocks is at most the number of lines before, and so both counters stay
in range. -/
theorem agrees_lines (op : Operator σ) (room : Room) (s : σ) {bound : Nat}
    {source : List (List UInt8)} {arena : Arena} {scan : Scan} {number : Nat}
    (h : arena.Represents scan.inventory) (hdepth : scan.place.depth ≤ number)
    (hroom : number + source.length < bound) :
    ∃ result, arena.lines? bound scan.place number source = some result ∧
      Agrees result ((scan.lines number source).run op room s).outcome := by
  rw [Scan.outcome_lines]
  induction source generalizing arena scan number with
  | nil => exact ⟨_, rfl, .ok h⟩
  | cons bytes source ih =>
    rw [List.length_cons] at hroom
    rw [lines?, List.mapM_cons]
    cases hdecode : Text.Utf8.decode? bytes with
    | none => exact ⟨_, rfl, .error _⟩
    | some line =>
      have hfits : scan.place.depth + 1 < bound := by omega
      rcases follows_step h hfits line with ⟨state, hstep, hfollows⟩
      have hdeeper : (scan.step line).place.depth ≤ number + 1 :=
        Nat.le_trans (Scan.transition_step scan line).depth_le (Nat.succ_le_succ hdepth)
      have hrest : number + 1 + source.length < bound := by omega
      rcases ih hfollows.represents hdeeper hrest with ⟨result, hresult, hagrees⟩
      refine ⟨result, ?_, ?_⟩
      · dsimp only
        rw [succ?_of_lt (by omega), hstep]
        rw [← hfollows.place] at hresult
        exact hresult
      · cases htexts : source.mapM Text.Utf8.decode? with
        | none =>
          rw [htexts] at hagrees
          exact hagrees
        | some texts =>
          rw [htexts] at hagrees
          exact hagrees

theorem agrees_read (op : Operator σ) (room : Room) (s : σ) {bound : Nat} {source : List UInt8}
    (hroom : source.length < bound) :
    ∃ result, read? bound source = some result ∧
      Agrees result ((Inventory.read source).run op room s).outcome := by
  have hlines : 0 + (Text.Utf8.lines source).length < bound := by
    rw [Nat.zero_add]
    exact Nat.lt_of_le_of_lt (Text.Utf8.length_lines_le source) hroom
  have hstart : empty.Represents Scan.start.inventory := represents_empty
  exact agrees_lines op room s hstart (Nat.le_refl 0) hlines

end Arena

/-! ## Sources -/

namespace Scan

variable {σ : Type}

theorem outcome_lines_of_valid (op : Operator σ) (room : Room) (s : σ) (scan : Scan)
    (number : Nat) {source : List UInt8} (hvalid : source.toByteArray.IsValidUTF8) :
    ∃ inventory,
      ((scan.lines number (Text.Utf8.lines source)).run op room s).outcome = .ok inventory := by
  rw [outcome_lines]
  rcases Option.isSome_iff_exists.mp (Text.Utf8.isValidUTF8_toByteArray_iff_lines.mp hvalid) with
    ⟨texts, htexts⟩
  rw [htexts]
  exact ⟨_, rfl⟩

theorem outcome_lines_of_invalid (op : Operator σ) (room : Room) (s : σ) (scan : Scan)
    (number : Nat) {source : List UInt8} (hinvalid : ¬ source.toByteArray.IsValidUTF8) :
    ((scan.lines number (Text.Utf8.lines source)).run op room s).outcome =
      .error (.read .invalidUtf8) := by
  rw [Text.Utf8.isValidUTF8_toByteArray_iff_lines, Option.not_isSome_iff_eq_none] at hinvalid
  rw [outcome_lines, hinvalid]

end Scan

/-- From every scan, the lines of a source fail to be read exactly if the source as a whole is
not valid UTF-8, and a valid source gives an inventory.  With checked indexes, and with counters
that can hold the length of the source, reading always has a result, which is the same one. -/
theorem Inventory.read_fails_iff_invalid {σ : Type} (op : Operator σ) (room : Room) (s : σ)
    (source : List UInt8) :
    (∀ (scan : Scan) (number : Nat),
      ((∃ cause, ((scan.lines number (Text.Utf8.lines source)).run op room s).outcome =
          .error (.read cause)) ↔ ¬ source.toByteArray.IsValidUTF8) ∧
      (source.toByteArray.IsValidUTF8 → ∃ inventory,
        ((scan.lines number (Text.Utf8.lines source)).run op room s).outcome =
          .ok inventory)) ∧
    ((∃ cause, ((Inventory.read source).run op room s).outcome = .error (.read cause)) ↔
      ¬ source.toByteArray.IsValidUTF8) ∧
    ∀ bound, source.length < bound →
      (source.toByteArray.IsValidUTF8 → ∃ arena inventory,
        Arena.read? bound source = some (.ok arena) ∧
        ((Inventory.read source).run op room s).outcome = .ok inventory ∧
        arena.Represents inventory) ∧
      (¬ source.toByteArray.IsValidUTF8 →
        Arena.read? bound source = some (.error (.read .invalidUtf8))) := by
  have hfails : ∀ (scan : Scan) (number : Nat),
      (∃ cause, ((scan.lines number (Text.Utf8.lines source)).run op room s).outcome =
        .error (.read cause)) ↔ ¬ source.toByteArray.IsValidUTF8 := by
    intro scan number
    constructor
    · rintro ⟨cause, hcause⟩ hvalid
      rcases Scan.outcome_lines_of_valid op room s scan number hvalid with ⟨inventory, hok⟩
      rw [hok] at hcause
      cases hcause
    · intro hinvalid
      exact ⟨.invalidUtf8, Scan.outcome_lines_of_invalid op room s scan number hinvalid⟩
  refine ⟨?_, hfails Scan.start 0, ?_⟩
  · intro scan number
    exact ⟨hfails scan number, Scan.outcome_lines_of_valid op room s scan number⟩
  intro bound hroom
  rcases Arena.agrees_read op room s hroom with ⟨result, hresult, hagrees⟩
  constructor
  · intro hvalid
    rcases Scan.outcome_lines_of_valid op room s Scan.start 0 hvalid with ⟨inventory, hok⟩
    rw [Inventory.read, hok] at hagrees
    cases hagrees with
    | ok hrepresents => exact ⟨_, inventory, hresult, hok, hrepresents⟩
  · intro hinvalid
    rw [Inventory.read, Scan.outcome_lines_of_invalid op room s Scan.start 0 hinvalid] at hagrees
    cases hagrees with
    | error => exact hresult

/-- A closing line too many, and blocks that are never closed. -/
def unmatchedText : String :=
  "\x7d\nresource \"virtualbox_server\" \"vm\" \x7b\nlabels = \x7b\nnetwork_adapter\n"

/-- It is read, unless a byte that is no text follows. -/
theorem unmatchedText_read :
    ((Text.Utf8.encode unmatchedText).length < Text.wordBound ∧
      (Text.Utf8.encode unmatchedText).toByteArray.IsValidUTF8 ∧
      ∃ arena inventory,
        Arena.read? Text.wordBound (Text.Utf8.encode unmatchedText) = some (.ok arena) ∧
        ((Inventory.read (Text.Utf8.encode unmatchedText)).run Operator.scripted none
          []).outcome = .ok inventory ∧
        arena.Represents inventory) ∧
    (Text.Utf8.encode unmatchedText ++ [0xFF]).length < Text.wordBound ∧
      ¬ (Text.Utf8.encode unmatchedText ++ [0xFF]).toByteArray.IsValidUTF8 ∧
      Arena.read? Text.wordBound (Text.Utf8.encode unmatchedText ++ [0xFF]) =
        some (.error (.read .invalidUtf8)) := by
  have hlength : (Text.Utf8.encode unmatchedText).length < Text.wordBound := by
    decide +kernel
  have hvalid : (Text.Utf8.encode unmatchedText).toByteArray.IsValidUTF8 :=
    Text.Utf8.isValidUTF8_toByteArray_iff.mpr ⟨_, rfl⟩
  have hlonger : (Text.Utf8.encode unmatchedText ++ [0xFF]).length < Text.wordBound := by
    decide +kernel
  have hinvalid : ¬ (Text.Utf8.encode unmatchedText ++ [0xFF]).toByteArray.IsValidUTF8 := by
    decide +kernel
  have hread := Inventory.read_fails_iff_invalid Operator.scripted none []
    (Text.Utf8.encode unmatchedText)
  have hbroken := Inventory.read_fails_iff_invalid Operator.scripted none []
    (Text.Utf8.encode unmatchedText ++ [0xFF])
  exact ⟨⟨hlength, hvalid, (hread.2.2 _ hlength).1 hvalid⟩, hlonger, hinvalid,
    (hbroken.2.2 _ hlonger).2 hinvalid⟩

end CloudLift
