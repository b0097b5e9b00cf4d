import CloudLift.Proofs.Inventory.Edit
import CloudLift.Proofs.Inventory.Matching
import CloudLift.Proofs.Inventory.Merge

/-!
# Where the block of a machine ends

The scan keeps no stack.  It counts the blocks in a body, but in the block of an adapter it
counts nothing, and the next closing line is the adapter's.  So the count follows the
matching of the lines if the adapters are flat.  Then the scan is in the block of a machine
from the opening line up to the line that matches it (`Scan.Encloses`).

What is carried through the lines is `Scan.Within`: the scan does not leave the machine, and
what it stores at the level of the machine's own block is known.  Blocks further in store
nothing there, and adapters are left out of the account.
-/

namespace CloudLift

/-! ## The machine whose block is read -/

/-- The slot of the machine in whose block the next line stands. -/
def Place.slot? : Place → Option Nat
  | .outside => none
  | .machine slot _ => some slot
  | .adapter slot? _ => slot?

namespace Machine

theorem assign_append (machine : Machine) (pairs more : List (String × String)) :
    machine.assign (pairs ++ more) = (machine.assign pairs).assign more := by
  simp [assign]

theorem map_assign_append (machine? : Option Machine) (pairs more : List (String × String)) :
    (machine?.map fun machine => machine.assign (pairs ++ more)) =
      (machine?.map fun machine => machine.assign pairs).map fun machine =>
        machine.assign more := by
  cases machine? with
  | none => rfl
  | some machine => exact congrArg some (machine.assign_append pairs more)

def withoutAdapters (machine : Machine) : Machine :=
  { machine with adapters := [] }

end Machine

namespace Inventory

variable (inventory : Inventory) (slot : Nat)

/-- The machine at a slot without its adapters. -/
def bare? : Option Machine :=
  inventory.machines[slot]?.map Machine.withoutAdapters

theorem bare?_modify {f g : Machine → Machine}
    (hf : ∀ machine, (f machine).withoutAdapters = g machine.withoutAdapters) :
    (inventory.machines.modify slot f)[slot]?.map Machine.withoutAdapters =
      (inventory.bare? slot).map g := by
  rw [List.getElem?_modify_eq, bare?, Option.map_map]
  cases inventory.machines[slot]? with
  | none => rfl
  | some machine => exact congrArg some (hf machine)

theorem bare?_modify_of_keeps {f : Machine → Machine}
    (hf : ∀ machine, (f machine).withoutAdapters = machine.withoutAdapters) :
    (inventory.machines.modify slot f)[slot]?.map Machine.withoutAdapters =
      inventory.bare? slot := by
  have hmodify := inventory.bare?_modify slot (g := id) hf
  rw [Option.map_id] at hmodify
  exact hmodify

theorem bare?_addAdapter : (inventory.addAdapter slot).bare? slot = inventory.bare? slot :=
  inventory.bare?_modify_of_keeps slot fun _ => rfl

theorem bare?_setAdapterAttribute (key value : String) :
    (inventory.setAdapterAttribute slot key value).bare? slot = inventory.bare? slot :=
  inventory.bare?_modify_of_keeps slot fun _ => rfl

theorem bare?_setAttribute (key value : String) :
    (inventory.setAttribute slot key value).bare? slot =
      (inventory.bare? slot).map fun machine => machine.assign [(key, value)] := by
  rw [bare?, machines_setAttribute]
  exact inventory.bare?_modify slot fun _ => rfl

theorem nextAdapter?_of_bare? (hbare : (inventory.bare? slot).isSome) :
    ((inventory.nextAdapter? slot).map fun _ => slot) = some slot := by
  rw [bare?, Option.isSome_map] at hbare
  rcases Option.isSome_iff_exists.mp hbare with ⟨machine, hmachine⟩
  rw [nextAdapter?, hmachine]
  rfl

end Inventory

namespace Scan

/-- Over the lines the scan stays in the block of the machine at a slot, and it ends at a
place.  What it stores at the level of the block is the pairs. -/
structure Within (slot : Nat) (scan : Scan) (lines : List String) (last : Place)
    (own : List (String × String)) : Prop where
  stays : ∀ front, front <+: lines → (scan.walk front).place.slot? = some slot
  place : (scan.walk lines).place = last
  stored : (scan.walk lines).inventory.bare? slot =
    (scan.inventory.bare? slot).map fun machine => machine.assign own

namespace Within

variable {slot : Nat} {scan : Scan} {lines more : List String} {last : Place}
  {own pairs : List (String × String)}

theorem nil (hplace : scan.place = last) (hslot : last.slot? = some slot) :
    Within slot scan [] last [] := by
  constructor
  · intro front hfront
    rw [List.prefix_nil.mp hfront, walk_nil, hplace, hslot]
  · exact hplace
  · exact Option.map_id'.symm

theorem cons {line : String} (hslot : scan.place.slot? = some slot)
    (hstored : (scan.step line).inventory.bare? slot =
      (scan.inventory.bare? slot).map fun machine => machine.assign pairs)
    (hrest : Within slot (scan.step line) lines last own) :
    Within slot scan (line :: lines) last (pairs ++ own) := by
  constructor
  · intro front hfront
    rcases List.prefix_cons_iff.mp hfront with heq | ⟨front, heq, hfront⟩
    · rw [heq, walk_nil, hslot]
    · rw [heq, walk_cons]
      exact hrest.stays front hfront
  · exact hrest.place
  · rw [walk_cons, hrest.stored, hstored, Machine.map_assign_append]

/-- A line at which nothing is stored at the level of the block. -/
theorem cons_of_eq {line : String} (hslot : scan.place.slot? = some slot)
    (hsame : (scan.step line).inventory.bare? slot = scan.inventory.bare? slot)
    (hrest : Within slot (scan.step line) lines last own) :
    Within slot scan (line :: lines) last own := by
  have hstored : (scan.step line).inventory.bare? slot =
      (scan.inventory.bare? slot).map fun machine => machine.assign [] := by
    rw [hsame]
    exact Option.map_id'.symm
  exact cons hslot hstored hrest

theorem append {middle : Place} (hlines : Within slot scan lines middle pairs)
    (hmore : Within slot (scan.walk lines) more last own) :
    Within slot scan (lines ++ more) last (pairs ++ own) := by
  constructor
  · intro front hfront
    rcases List.prefix_or_prefix_of_prefix hfront (List.prefix_append lines more) with
      hin | ⟨rest, heq⟩
    · exact hlines.stays front hin
    · rw [← heq] at hfront ⊢
      rw [walk_append]
      exact hmore.stays rest ((List.prefix_append_right_inj lines).mp hfront)
  · rw [walk_append]
    exact hmore.place
  · rw [walk_append, hmore.stored, hlines.stored, Machine.map_assign_append]

theorem isSome (hwithin : Within slot scan lines last own)
    (hbare : (scan.inventory.bare? slot).isSome) :
    ((scan.walk lines).inventory.bare? slot).isSome := by
  rw [hwithin.stored, Option.isSome_map]
  exact hbare

/-- A block inside of the machine's block, after which the scan is back where it was. -/
theorem block {opener closer : String} {inner : List String} {middle back : Place}
    (hslot : scan.place.slot? = some slot) (hbare : (scan.inventory.bare? slot).isSome)
    (hopener : (scan.step opener).inventory.bare? slot = scan.inventory.bare? slot)
    (hinner : Within slot (scan.step opener) inner middle [])
    (hmiddle : middle.slot? = some slot)
    (hcloser : ∀ inventory, step ⟨inventory, middle⟩ closer = ⟨inventory, back⟩)
    (hrest : ∀ next : Scan, next.place = back → (next.inventory.bare? slot).isSome →
      Within slot next lines last own) :
    Within slot scan (opener :: (inner ++ closer :: lines)) last own := by
  have hclosed : ((scan.step opener).walk inner).step closer =
      ⟨((scan.step opener).walk inner).inventory, back⟩ := by
    have hcloser' := hcloser ((scan.step opener).walk inner).inventory
    rw [← hinner.place] at hcloser'
    exact hcloser'
  have hbare' : (((scan.step opener).walk inner).inventory.bare? slot).isSome := by
    apply hinner.isSome
    rw [hopener]
    exact hbare
  have hafter : Within slot ((scan.step opener).walk inner) (closer :: lines) last own := by
    apply cons_of_eq
    · rw [hinner.place, hmiddle]
    · rw [hclosed]
    · rw [hclosed]
      exact hrest _ rfl hbare'
  exact cons_of_eq hslot hopener (hinner.append hafter)

end Within

/-! ## The lines of a block -/

section Block

variable {slot depth : Nat} {scan : Scan}

/-- A line in a body that neither opens nor closes anything. -/
theorem step_plain {line : String} (hplace : scan.place = .machine slot depth)
    (hopen : Line.opensBlock line = false) (hclose : Line.closesBlock line = false)
    (hadapter : ¬ Line.OpensAdapter line) :
    (scan.step line).place = .machine slot depth ∧
      (scan.step line).inventory.bare? slot = (scan.inventory.bare? slot).map fun machine =>
        machine.assign (if depth = 0 then (Line.assignment? line).toList else []) := by
  rcases scan with ⟨inventory, place⟩
  subst hplace
  cases hassign : Line.assignment? line with
  | some pair =>
    have hassigns : Line.Assigns line pair.1 pair.2 :=
      ⟨hassign, (Line.opensBlock_of_assignment? hassign).trans hopen⟩
    rw [step_assigns hassigns]
    by_cases hdepth : depth = 0
    · rw [if_pos hdepth, if_pos hdepth]
      exact ⟨rfl, inventory.bare?_setAttribute slot pair.1 pair.2⟩
    · rw [if_neg hdepth, if_neg hdepth]
      exact ⟨rfl, Option.map_id'.symm⟩
  | none =>
    have hassigns : ∀ key value, ¬ Line.Assigns line key value := by
      intro key value hline
      exact absurd (hline.1.symm.trans hassign) (by simp)
    rw [step_filler hclose hassigns hadapter (Line.not_opensNested_of_opensBlock hopen),
      Option.toList_none, ite_self]
    exact ⟨rfl, Option.map_id'.symm⟩

theorem step_in_adapter {line : String} (hplace : scan.place = .adapter (some slot) depth)
    (hclose : Line.closesBlock line = false) :
    (scan.step line).place = .adapter (some slot) depth ∧
      (scan.step line).inventory.bare? slot = scan.inventory.bare? slot := by
  rcases scan with ⟨inventory, place⟩
  subst hplace
  rw [step_adapter hclose]
  cases Line.assignment? line with
  | some pair => exact ⟨rfl, inventory.bare?_setAdapterAttribute slot pair.1 pair.2⟩
  | none => exact ⟨rfl, rfl⟩

theorem within_adapter {lines : List String}
    (hplain : ∀ line ∈ lines, Line.closesBlock line = false)
    (hplace : scan.place = .adapter (some slot) depth) :
    Within slot scan lines (.adapter (some slot) depth) [] := by
  induction lines generalizing scan with
  | nil => exact Within.nil hplace rfl
  | cons line lines ih =>
    have hstep := step_in_adapter hplace (hplain line List.mem_cons_self)
    apply Within.cons_of_eq
    · rw [hplace]
      rfl
    · exact hstep.2
    · exact ih (fun other hother => hplain other (List.mem_cons_of_mem _ hother)) hstep.1

/-- Matched lines bring the scan back to the depth where they begin.  The assignments
outside of their blocks are stored if that is the level of the machine's own block. -/
theorem within_matched {lines more : List String} {own : List (String × String)}
    (hmatched : Matched lines own) (hflat : FlatAdapters (lines ++ more))
    (hplace : scan.place = .machine slot depth)
    (hbare : (scan.inventory.bare? slot).isSome) :
    Within slot scan lines (.machine slot depth) (if depth = 0 then own else []) := by
  have hslot : scan.place.slot? = some slot := by
    rw [hplace]
    rfl
  -- The lines after those of a block are flat by themselves, so what follows is general.
  induction hmatched generalizing more scan depth with
  | nil =>
    rw [ite_self]
    exact Within.nil hplace rfl
  | @line line rest own hopen hclose hrest ih =>
    have hadapter : ¬ Line.OpensAdapter line := by
      intro hadapter
      cases hflat with
      | adapter _ hother => exact absurd (hother.symm.trans hopen) (by decide)
      | other hother => exact hother hadapter
    have hstep := step_plain hplace hopen hclose hadapter
    have hbare' : ((scan.step line).inventory.bare? slot).isSome := by
      rw [hstep.2, Option.isSome_map]
      exact hbare
    have hslot' : (scan.step line).place.slot? = some slot := by
      rw [hstep.1]
      rfl
    have hwithin := Within.cons hslot hstep.2 (ih (hflat.tail hadapter) hstep.1 hbare' hslot')
    by_cases hdepth : depth = 0
    · rw [if_pos hdepth, if_pos hdepth] at hwithin
      rw [if_pos hdepth]
      exact hwithin
    · rw [if_neg hdepth, if_neg hdepth] at hwithin
      rw [if_neg hdepth]
      exact hwithin
  | @block opener closer inner rest inside own hopen hinner hclose hrest ihinner ihrest =>
    rw [List.cons_append, List.append_assoc, List.cons_append] at hflat
    rcases scan with ⟨inventory, place⟩
    subst hplace
    by_cases hadapter : Line.OpensAdapter opener
    · cases hflat with
      | other hother => exact absurd hadapter hother
      | adapter _ _ hinside hafter =>
        have hlines := hinner.blockLines_eq hclose hinside
        rw [hlines.2] at hafter
        have hplain : ∀ line ∈ inner, Line.closesBlock line = false := by
          intro line hline
          rw [← hlines.1] at hline
          exact closesBlock_of_mem_blockLines hline
        have hopener : step ⟨inventory, .machine slot depth⟩ opener =
            ⟨inventory.addAdapter slot, .adapter (some slot) depth⟩ := by
          rw [step_opensAdapter hadapter, inventory.nextAdapter?_of_bare? slot hbare]
        have hinside : Within slot (step ⟨inventory, .machine slot depth⟩ opener) inner
            (.adapter (some slot) depth) [] := by
          rw [hopener]
          exact within_adapter hplain rfl
        apply Within.block hslot hbare _ hinside rfl (fun _ => step_close_adapter hclose)
        · intro next hnext hbare'
          exact ihrest hafter hnext hbare' (hnext ▸ rfl)
        · rw [hopener]
          exact inventory.bare?_addAdapter slot
    · have hopener : step ⟨inventory, .machine slot depth⟩ opener =
          ⟨inventory, .machine slot (depth + 1)⟩ :=
        step_opensNested (Line.opensNested_of_opensBlock hopen hadapter)
      have hbody := hflat.tail hadapter
      have hafter := hinner.flatAdapters_of_append hbody
      have hinside : Within slot (step ⟨inventory, .machine slot depth⟩ opener) inner
          (.machine slot (depth + 1)) [] := by
        rw [hopener]
        exact ihinner hbody rfl hbare rfl
      apply Within.block hslot hbare _ hinside rfl (fun _ => step_close_nested hclose)
      · intro next hnext hbare'
        exact ihrest (hafter.tail (Line.not_opensAdapter_of_closesBlock hclose)) hnext hbare'
          (hnext ▸ rfl)
      · rw [hopener]

end Block

/-! ## The block of a machine -/

/-- The slot of a machine that is declared after the lines. -/
def slotAfter (before : List String) : Nat :=
  (start.walk before).inventory.nextSlot

/-- The scan after the line that declares a machine. -/
def opened (before : List String) (reference : String) : Scan :=
  ⟨(start.walk before).inventory.declare reference, .machine (slotAfter before) 0⟩

/-- The scan is in the block of a machine from the line that declares it up to the closing
line.  By then the machine has the pairs as its attributes, and no later line changes it. -/
structure Encloses (before : List String) (opener reference : String) (body : List String)
    (closer : String) (own : List (String × String)) : Prop where
  inside : ∀ front, front <+: body →
    (start.walk (before ++ opener :: front)).place.slot? = some (slotAfter before)
  outside : (start.walk (before ++ opener :: (body ++ [closer]))).place = .outside
  stored : ∃ machine : Machine,
    machine.reference = reference ∧ machine.attributes = Table.ofList own ∧
      ∀ rest, (start.walk (before ++ opener :: (body ++ closer :: rest))).inventory.machines[
        slotAfter before]? = some machine

theorem walk_opener {before : List String} {opener reference : String}
    (houtside : (start.walk before).place = .outside)
    (hopener : Line.Declares opener reference) (lines : List String) :
    start.walk (before ++ opener :: lines) = (opened before reference).walk lines := by
  have hbefore : start.walk before = ⟨(start.walk before).inventory, .outside⟩ := by
    rw [← houtside]
  have hstep : (start.walk before).step opener = opened before reference := by
    rw [hbefore]
    exact step_declares hopener
  rw [walk_append, walk_cons, hstep]

theorem bare?_opened (before : List String) (reference : String) :
    (opened before reference).inventory.bare? (slotAfter before) =
      some (Machine.named reference) := by
  rw [opened, Inventory.bare?, Inventory.declare, slotAfter, Inventory.nextSlot,
    List.getElem?_concat_length]
  rfl

/-- From outside of every block a machine that is there stays as it is. -/
theorem getElem?_walk_outside {inventory : Inventory} {slot : Nat} {machine : Machine}
    (hmachine : inventory.machines[slot]? = some machine) (lines : List String) :
    (walk ⟨inventory, .outside⟩ lines).inventory.machines[slot]? = some machine := by
  have hslot := (List.getElem?_eq_some_iff.mp hmachine).1
  rw [walk_outside (Outline.sections_spec lines) inventory.machines inventory.groups,
    List.getElem?_append_left hslot, hmachine]

theorem encloses {before body : List String} {opener reference closer : String}
    {own : List (String × String)} (houtside : (start.walk before).place = .outside)
    (hopener : Line.Declares opener reference) (hmatched : Matched body own)
    (hclose : Line.closesBlock closer = true) (hflat : FlatAdapters body) :
    Encloses before opener reference body closer own := by
  have hbare : ((opened before reference).inventory.bare? (slotAfter before)).isSome := by
    rw [bare?_opened]
    rfl
  have hwithin : Within (slotAfter before) (opened before reference) body
      (.machine (slotAfter before) 0) own := by
    rw [← List.append_nil body] at hflat
    exact within_matched hmatched hflat rfl hbare
  have hclosed : ∀ rest, (opened before reference).walk (body ++ closer :: rest) =
      walk ⟨((opened before reference).walk body).inventory, .outside⟩ rest := by
    intro rest
    have hstep : ((opened before reference).walk body).step closer =
        ⟨((opened before reference).walk body).inventory, .outside⟩ := by
      have hown : step ⟨((opened before reference).walk body).inventory,
          .machine (slotAfter before) 0⟩ closer =
          ⟨((opened before reference).walk body).inventory, .outside⟩ :=
        step_close_own hclose
      rw [← hwithin.place] at hown
      exact hown
    rw [walk_append, walk_cons, hstep]
  have hstored : ((opened before reference).walk body).inventory.bare? (slotAfter before) =
      some ((Machine.named reference).assign own) := by
    rw [hwithin.stored, bare?_opened]
    rfl
  rcases Option.map_eq_some_iff.mp hstored with ⟨machine, hmachine, hsame⟩
  constructor
  · intro front hfront
    rw [walk_opener houtside hopener]
    exact hwithin.stays front hfront
  · rw [walk_opener houtside hopener, hclosed]
    rfl
  · refine ⟨machine, congrArg Machine.reference hsame, congrArg Machine.attributes hsame, ?_⟩
    intro rest
    rw [walk_opener houtside hopener, hclosed]
    exact getElem?_walk_outside hmachine rest

end Scan

variable {σ : Type}

/-- In a text with matched lines each opening line has one matching line.  If the line
declares a machine whose adapters are flat, the scan leaves the machine at the matching
line, and what is read from the text has the assignments of the machine's own level. -/
theorem Inventory.read_encloses (op : Operator σ) (room : Room) (s : σ) {text : String}
    {before lines : List String} {opener reference : String} {all : List (String × String)}
    (htext : Text.lines text = before ++ opener :: lines)
    (hmatched : Matched (Text.lines text) all)
    (houtside : (Scan.start.walk before).place = .outside)
    (hopener : Line.Declares opener reference) (hopen : Line.opensBlock opener = true) :
    ∃ body closer rest own,
      ClosedBy lines body closer rest own ∧
      (∀ body' closer' rest' own', ClosedBy lines body' closer' rest' own' →
        body' = body ∧ closer' = closer ∧ rest' = rest ∧ own' = own) ∧
      (FlatAdapters body →
        Scan.Encloses before opener reference body closer own ∧
        ∃ inventory machine,
          ((Inventory.read (Text.Utf8.encode text)).run op room s).outcome = .ok inventory ∧
          inventory.machines[Scan.slotAfter before]? = some machine ∧
          machine.reference = reference ∧ machine.attributes = Table.ofList own) := by
  rw [htext] at hmatched
  rcases hmatched.exists_closedBy hopen with ⟨body, closer, rest, own, hclosed⟩
  refine ⟨body, closer, rest, own, hclosed, ?_, ?_⟩
  · intro body' closer' rest' own' hclosed'
    have hlines := hclosed.split.symm.trans hclosed'.split
    exact hclosed.matched.unique hclosed'.matched hclosed.closes hclosed'.closes hlines
  · intro hflat
    have hencloses := Scan.encloses houtside hopener hclosed.matched hclosed.closes hflat
    rcases hencloses.stored with ⟨machine, hreference, hattributes, hmachine⟩
    refine ⟨hencloses, _, machine, outcome_read_encode op room s text, ?_, hreference,
      hattributes⟩
    rw [htext, hclosed.split]
    exact hmachine rest

/-! ## Sources with matched lines -/

def machineOpener : String :=
  "resource \"virtualbox_server\" \"vm\" \x7b"

theorem declares_machineOpener : Line.Declares machineOpener "\"vm\"" :=
  ⟨by decide +kernel, by decide +kernel, by decide +kernel⟩

theorem opensBlock_machineOpener : Line.opensBlock machineOpener = true := by
  decide +kernel

theorem closesBlock_brace : Line.closesBlock "\x7d" = true := by
  decide +kernel

/-- A body with a block and a flat adapter in it. -/
def nestedBody : List String :=
  "lifecycle \x7b" :: (["name = \"inner\""] ++ "\x7d" :: ("network_adapter \x7b" ::
    (["network_mode = \"nat\""] ++ "\x7d" :: ["memory = 2048"])))

def nestedText : String :=
  "resource \"virtualbox_server\" \"vm\" \x7b\nlifecycle \x7b\nname = \"inner\"\n\x7d\n" ++
    "network_adapter \x7b\nnetwork_mode = \"nat\"\n\x7d\nmemory = 2048\n\x7d\nmemory = 1\n"

theorem matched_nestedBody : Matched nestedBody [("memory", "2048")] := by
  have hname : Matched ["name = \"inner\""] [("name", "\"inner\"")] :=
    .assignment (by decide +kernel) (by decide +kernel) .nil
  have hmode : Matched ["network_mode = \"nat\""] [("network_mode", "\"nat\"")] :=
    .assignment (by decide +kernel) (by decide +kernel) .nil
  have hmemory : Matched ["memory = 2048"] [("memory", "2048")] :=
    .assignment (by decide +kernel) (by decide +kernel) .nil
  have hadapter : Matched ("network_adapter \x7b" ::
      (["network_mode = \"nat\""] ++ "\x7d" :: ["memory = 2048"])) [("memory", "2048")] :=
    .block (by decide +kernel) hmode (by decide +kernel) hmemory
  exact .block (by decide +kernel) hname (by decide +kernel) hadapter

theorem flatAdapters_nestedBody : FlatAdapters nestedBody := by
  have hafter : afterBlock ["network_mode = \"nat\"", "\x7d", "memory = 2048"] =
      ["memory = 2048"] := by
    decide +kernel
  have hmemory : FlatAdapters (afterBlock ["network_mode = \"nat\"", "\x7d",
      "memory = 2048"]) := by
    rw [hafter]
    exact .other (by decide +kernel) .nil
  have hadapter : FlatAdapters ["network_adapter \x7b", "network_mode = \"nat\"", "\x7d",
      "memory = 2048"] :=
    .adapter (by decide +kernel) (by decide +kernel) (by decide +kernel) hmemory
  exact .other (by decide +kernel) (.other (by decide +kernel)
    (.other (by decide +kernel) hadapter))

theorem nestedText_encloses :
    Text.lines nestedText = [] ++ machineOpener :: (nestedBody ++ ["\x7d", "memory = 1"]) ∧
      Matched (Text.lines nestedText) [("memory", "1")] ∧
      (Scan.start.walk []).place = .outside ∧
      Line.Declares machineOpener "\"vm\"" ∧ Line.opensBlock machineOpener = true ∧
      FlatAdapters nestedBody ∧
      Scan.Encloses [] machineOpener "\"vm\"" nestedBody "\x7d" [("memory", "2048")] := by
  have htext : Text.lines nestedText =
      [] ++ machineOpener :: (nestedBody ++ "\x7d" :: ["memory = 1"]) := by
    decide +kernel
  have hrest : Matched ["memory = 1"] [("memory", "1")] :=
    .assignment (by decide +kernel) (by decide +kernel) .nil
  have hmatched : Matched (Text.lines nestedText) [("memory", "1")] := by
    rw [htext]
    exact .block opensBlock_machineOpener matched_nestedBody closesBlock_brace hrest
  rcases Inventory.read_encloses Operator.scripted none [] htext hmatched rfl
    declares_machineOpener opensBlock_machineOpener with
    ⟨body, closer, rest, own, -, hunique, hflat⟩
  have hsame := hunique nestedBody "\x7d" ["memory = 1"] [("memory", "2048")]
    ⟨rfl, matched_nestedBody, closesBlock_brace⟩
  rcases hsame with ⟨rfl, rfl, rfl, rfl⟩
  exact ⟨htext, hmatched, rfl, declares_machineOpener, opensBlock_machineOpener,
    flatAdapters_nestedBody, (hflat flatAdapters_nestedBody).1⟩

/-- The scan leaves each machine of the source at the line that matches its opening line. -/
def Scan.FollowsMatching (source : List String) : Prop :=
  ∀ before opener lines reference body closer rest own,
    source = before ++ opener :: lines → (start.walk before).place = .outside →
    Line.Declares opener reference → Line.opensBlock opener = true →
    ClosedBy lines body closer rest own → Encloses before opener reference body closer own

theorem not_followsMatching {body : List String} {own : List (String × String)}
    (hmatched : Matched body own)
    (hlost : (Scan.start.walk (machineOpener :: (body ++ ["\x7d"]))).inventory.machines[0]?.map
      Machine.attributes ≠ some (Table.ofList own)) :
    ¬ Scan.FollowsMatching (machineOpener :: (body ++ ["\x7d"])) := by
  intro hfollows
  have hencloses := hfollows [] machineOpener (body ++ ["\x7d"]) "\"vm\"" body "\x7d" [] own
    rfl rfl declares_machineOpener opensBlock_machineOpener
    ⟨rfl, hmatched, closesBlock_brace⟩
  rcases hencloses.stored with ⟨machine, -, hattributes, hmachine⟩
  have hslot : (Scan.start.walk (machineOpener :: (body ++ ["\x7d"]))).inventory.machines[0]? =
      some machine := hmachine []
  apply hlost
  rw [hslot, ← hattributes]
  rfl

/-- The body of a machine with a block in its adapter. -/
def blockInAdapter : List String :=
  "network_adapter \x7b" :: (("options \x7b" :: ([] ++ "\x7d" :: [])) ++
    "\x7d" :: ["memory = 2048"])

/-- The body of a machine with a comment that starts an adapter. -/
def adapterInComment : List String :=
  ["# network_adapter", "memory = 2048"]

/-- Each brace opens a block at the end of a line or is a closing line. -/
def BracesAlone (source : List String) : Prop :=
  ∀ line ∈ source, Line.opensBlock line = true ∨ Line.closesBlock line = true ∨
    ('{' ∉ line.toList ∧ '}' ∉ line.toList)

instance (source : List String) : Decidable (BracesAlone source) :=
  inferInstanceAs (Decidable (∀ _ ∈ _, _))

/-- Matched lines are not enough: the closing line of a block in an adapter ends the
adapter, and an adapter without a block ends at the closing line of the machine. -/
theorem adapters_not_followed :
    (Matched (machineOpener :: (blockInAdapter ++ ["\x7d"])) [] ∧
      BracesAlone (machineOpener :: (blockInAdapter ++ ["\x7d"])) ∧
      ¬ Scan.FollowsMatching (machineOpener :: (blockInAdapter ++ ["\x7d"]))) ∧
    Matched (machineOpener :: (adapterInComment ++ ["\x7d"])) [] ∧
      BracesAlone (machineOpener :: (adapterInComment ++ ["\x7d"])) ∧
      ¬ Scan.FollowsMatching (machineOpener :: (adapterInComment ++ ["\x7d"])) := by
  have hmemory : Matched ["memory = 2048"] [("memory", "2048")] :=
    .assignment (by decide +kernel) (by decide +kernel) .nil
  have hblock : Matched blockInAdapter [("memory", "2048")] :=
    .block (by decide +kernel) (.block (by decide +kernel) .nil closesBlock_brace .nil)
      closesBlock_brace hmemory
  have hcomment : Matched adapterInComment [("memory", "2048")] :=
    .filler (by decide +kernel) (by decide +kernel) (by decide +kernel) hmemory
  constructor
  · exact ⟨.block opensBlock_machineOpener hblock closesBlock_brace .nil, by decide +kernel,
      not_followsMatching hblock (by decide +kernel)⟩
  · exact ⟨.block opensBlock_machineOpener hcomment closesBlock_brace .nil, by decide +kernel,
      not_followsMatching hcomment (by decide +kernel)⟩

end CloudLift
