import CloudLift.Inventory.Basic
import CloudLift.Proofs.Inventory.Line

/-!
# The outline of a source

A source has an outline: it is a list of sections, a machine's section has a body, and a
body is a list of items, among them further bodies.  `Reads` says when a list of lines
has an outline, one clause for each kind of section and item.  A body that the end of the
source cuts off ends there.

`Outline.sections` reads by recursive descent, with one function for bodies that calls
itself for the blocks in them.  It gives the one outline that the lines have.
-/

namespace CloudLift

/-- What stands in the body of a machine or of a block in it. -/
inductive BodyItem where
  | assignment (key value : String)
  | adapter (lines : List String)
  | nested (items : List BodyItem)
  | filler

/-- What stands outside of every other block. -/
inductive Section where
  | machine (reference : String) (items : List BodyItem)
  /-- The block of an adapter that belongs to no machine. -/
  | orphan (lines : List String)
  | filler

/-! ## What a line can be -/

namespace Line

/-- Outside of every block the line starts the declaration of a machine. -/
def Declares (line reference : String) : Prop :=
  assignment? line = none ∧ namesMachine line = true ∧ reference? line = some reference

/-- Outside of every block the line starts the block of an adapter. -/
def OpensOrphan (line : String) : Prop :=
  assignment? line = none ∧ namesMachine line = false ∧ namesAdapter line = true

def Assigns (line key value : String) : Prop :=
  assignment? line = some (key, value) ∧ opensBlock value = false

/-- In a body the line starts the block of an adapter. -/
def OpensAdapter (line : String) : Prop :=
  assignment? line = none ∧ namesAdapter line = true

/-- In a body the line starts another block. -/
def OpensNested (line : String) : Prop :=
  match assignment? line with
  | some (_, value) => opensBlock value = true
  | none => namesAdapter line = false ∧ opensBlock line = true

instance (line : String) : Decidable (OpensOrphan line) :=
  inferInstanceAs (Decidable (_ ∧ _ ∧ _))

instance (line : String) : Decidable (OpensAdapter line) :=
  inferInstanceAs (Decidable (_ ∧ _))

instance (line : String) : Decidable (OpensNested line) := by
  unfold OpensNested
  split <;> infer_instance

end Line

/-- The lines up to the next closing line. -/
def blockLines (lines : List String) : List String :=
  lines.takeWhile fun line => !Line.closesBlock line

/-- The lines after the next closing line. -/
def afterBlock (lines : List String) : List String :=
  (lines.dropWhile fun line => !Line.closesBlock line).tail

theorem blockLines_of_closes {line : String} (lines : List String)
    (hclose : Line.closesBlock line = true) : blockLines (line :: lines) = [] := by
  simp [blockLines, hclose]

theorem blockLines_cons {line : String} (lines : List String)
    (hclose : Line.closesBlock line = false) :
    blockLines (line :: lines) = line :: blockLines lines := by
  simp [blockLines, hclose]

theorem afterBlock_of_closes {line : String} (lines : List String)
    (hclose : Line.closesBlock line = true) : afterBlock (line :: lines) = lines := by
  simp [afterBlock, hclose]

theorem afterBlock_cons {line : String} (lines : List String)
    (hclose : Line.closesBlock line = false) :
    afterBlock (line :: lines) = afterBlock lines := by
  simp [afterBlock, hclose]

/-! ## Outlines of lines -/

/-- The lines begin with a body that holds the items, and the rest comes after it. -/
inductive Body : List String → List BodyItem → List String → Prop
  | cutOff : Body [] [] []
  | close {line : String} {rest : List String}
      (hline : Line.closesBlock line = true) : Body (line :: rest) [] rest
  | assignment {line key value : String} {lines rest : List String} {items : List BodyItem}
      (hline : Line.Assigns line key value) (hbody : Body lines items rest) :
      Body (line :: lines) (.assignment key value :: items) rest
  | adapter {line : String} {lines rest : List String} {items : List BodyItem}
      (hline : Line.OpensAdapter line) (hbody : Body (afterBlock lines) items rest) :
      Body (line :: lines) (.adapter (blockLines lines) :: items) rest
  | nested {line : String} {lines after rest : List String} {inner items : List BodyItem}
      (hline : Line.OpensNested line) (hinner : Body lines inner after)
      (hbody : Body after items rest) :
      Body (line :: lines) (.nested inner :: items) rest
  | filler {line : String} {lines rest : List String} {items : List BodyItem}
      (hclose : Line.closesBlock line = false)
      (hassigns : ∀ key value, ¬ Line.Assigns line key value)
      (hadapter : ¬ Line.OpensAdapter line) (hnested : ¬ Line.OpensNested line)
      (hbody : Body lines items rest) : Body (line :: lines) (.filler :: items) rest

inductive Reads : List String → List Section → Prop
  | nil : Reads [] []
  | machine {line reference : String} {lines rest : List String} {items : List BodyItem}
      {sections : List Section} (hline : Line.Declares line reference)
      (hbody : Body lines items rest) (hrest : Reads rest sections) :
      Reads (line :: lines) (.machine reference items :: sections)
  | orphan {line : String} {lines : List String} {sections : List Section}
      (hline : Line.OpensOrphan line) (hrest : Reads (afterBlock lines) sections) :
      Reads (line :: lines) (.orphan (blockLines lines) :: sections)
  | filler {line : String} {lines : List String} {sections : List Section}
      (hmachine : ∀ reference, ¬ Line.Declares line reference)
      (horphan : ¬ Line.OpensOrphan line) (hrest : Reads lines sections) :
      Reads (line :: lines) (.filler :: sections)

/-! ## No line is of two kinds -/

namespace Line

theorem not_assigns_of_closesBlock {line key value : String}
    (hclose : closesBlock line = true) : ¬ Assigns line key value := by
  rintro ⟨hassign, -⟩
  rw [assignment?_of_closesBlock hclose] at hassign
  cases hassign

theorem not_opensAdapter_of_closesBlock {line : String}
    (hclose : closesBlock line = true) : ¬ OpensAdapter line := by
  rintro ⟨-, hname⟩
  rw [namesAdapter_of_closesBlock hclose] at hname
  cases hname

theorem not_opensNested_of_closesBlock {line : String}
    (hclose : closesBlock line = true) : ¬ OpensNested line := by
  intro hnested
  rw [OpensNested, assignment?_of_closesBlock hclose] at hnested
  rw [opensBlock_of_closesBlock hclose] at hnested
  exact absurd hnested.2 (by decide)

theorem Assigns.unique {line key value key' value' : String}
    (h : Assigns line key value) (h' : Assigns line key' value') :
    key' = key ∧ value' = value := by
  simpa using h'.1.symm.trans h.1

theorem Assigns.not_opensAdapter {line key value : String} (h : Assigns line key value) :
    ¬ OpensAdapter line := by
  rintro ⟨hnone, -⟩
  cases hnone.symm.trans h.1

theorem Assigns.not_opensNested {line key value : String} (h : Assigns line key value) :
    ¬ OpensNested line := by
  intro hnested
  rw [OpensNested, h.1] at hnested
  exact absurd (hnested.symm.trans h.2) (by decide)

theorem OpensAdapter.not_opensNested {line : String} (h : OpensAdapter line) :
    ¬ OpensNested line := by
  intro hnested
  rw [OpensNested, h.1] at hnested
  exact absurd (hnested.1.symm.trans h.2) (by decide)

theorem Declares.not_opensOrphan {line reference : String}
    (h : Declares line reference) : ¬ OpensOrphan line := by
  rintro ⟨-, hname, -⟩
  exact absurd (hname.symm.trans h.2.1) (by decide)

theorem Declares.unique {line reference other : String} (h : Declares line reference)
    (h' : Declares line other) : other = reference := by
  simpa using h'.2.2.symm.trans h.2.2

end Line

theorem Body.unique {lines rest rest' : List String} {items items' : List BodyItem}
    (h : Body lines items rest) (h' : Body lines items' rest') :
    items' = items ∧ rest' = rest := by
  induction h generalizing items' rest' with
  | cutOff =>
    cases h'
    exact ⟨rfl, rfl⟩
  | close hline =>
    cases h' with
    | close => exact ⟨rfl, rfl⟩
    | assignment hother => exact absurd hother (Line.not_assigns_of_closesBlock hline)
    | adapter hother => exact absurd hother (Line.not_opensAdapter_of_closesBlock hline)
    | nested hother => exact absurd hother (Line.not_opensNested_of_closesBlock hline)
    | filler hclose => exact absurd (hclose.symm.trans hline) (by decide)
  | assignment hline hbody ih =>
    cases h' with
    | close hother => exact absurd hline (Line.not_assigns_of_closesBlock hother)
    | assignment hother hbody' =>
      obtain ⟨rfl, rfl⟩ := hline.unique hother
      obtain ⟨rfl, rfl⟩ := ih hbody'
      exact ⟨rfl, rfl⟩
    | adapter hother => exact absurd hother hline.not_opensAdapter
    | nested hother => exact absurd hother hline.not_opensNested
    | filler hclose hassign => exact absurd hline (hassign _ _)
  | adapter hline hbody ih =>
    cases h' with
    | close hother => exact absurd hline (Line.not_opensAdapter_of_closesBlock hother)
    | assignment hother => exact absurd hline hother.not_opensAdapter
    | adapter hother hbody' =>
      obtain ⟨rfl, rfl⟩ := ih hbody'
      exact ⟨rfl, rfl⟩
    | nested hother => exact absurd hother hline.not_opensNested
    | filler hclose hassign hadapter => exact absurd hline hadapter
  | nested hline hinner hbody ihinner ihbody =>
    cases h' with
    | close hother => exact absurd hline (Line.not_opensNested_of_closesBlock hother)
    | assignment hother => exact absurd hline hother.not_opensNested
    | adapter hother => exact absurd hline hother.not_opensNested
    | nested hother hinner' hbody' =>
      obtain ⟨rfl, rfl⟩ := ihinner hinner'
      obtain ⟨rfl, rfl⟩ := ihbody hbody'
      exact ⟨rfl, rfl⟩
    | filler hclose hassign hadapter hnested => exact absurd hline hnested
  | filler hclose hassign hadapter hnested hbody ih =>
    cases h' with
    | close hother => exact absurd (hclose.symm.trans hother) (by decide)
    | assignment hother => exact absurd hother (hassign _ _)
    | adapter hother => exact absurd hother hadapter
    | nested hother => exact absurd hother hnested
    | filler _ _ _ _ hbody' =>
      obtain ⟨rfl, rfl⟩ := ih hbody'
      exact ⟨rfl, rfl⟩

theorem Reads.unique {lines : List String} {sections sections' : List Section}
    (h : Reads lines sections) (h' : Reads lines sections') : sections' = sections := by
  induction h generalizing sections' with
  | nil =>
    cases h'
    rfl
  | machine hline hbody hrest ih =>
    cases h' with
    | machine hother hbody' hrest' =>
      obtain rfl := hline.unique hother
      obtain ⟨rfl, rfl⟩ := hbody.unique hbody'
      rw [ih hrest']
    | orphan hother => exact absurd hother hline.not_opensOrphan
    | filler hmachine => exact absurd hline (hmachine _)
  | orphan hline hrest ih =>
    cases h' with
    | machine hother => exact absurd hline hother.not_opensOrphan
    | orphan hother hrest' => rw [ih hrest']
    | filler hmachine horphan => exact absurd hline horphan
  | filler hmachine horphan hrest ih =>
    cases h' with
    | machine hother => exact absurd hother (hmachine _)
    | orphan hother => exact absurd hother horphan
    | filler _ _ hrest' => rw [ih hrest']

/-! ## Reading by recursive descent -/

theorem length_afterBlock_le (lines : List String) :
    (afterBlock lines).length ≤ lines.length := by
  rw [afterBlock, List.length_tail]
  exact Nat.le_trans (Nat.sub_le _ _) (List.dropWhile_sublist _).length_le

namespace Outline

/-- The body in front of the lines, and the lines after it. -/
def body (lines : List String) :
    { read : List BodyItem × List String // read.2.length ≤ lines.length } :=
  match lines with
  | [] => ⟨([], []), Nat.le_refl _⟩
  | line :: lines =>
    if Line.closesBlock line then
      ⟨([], lines), Nat.le_succ _⟩
    else if Line.OpensNested line then
      let ⟨(inner, after), hafter⟩ := body lines
      let ⟨(items, rest), hrest⟩ := body after
      ⟨(.nested inner :: items, rest), Nat.le_succ_of_le (Nat.le_trans hrest hafter)⟩
    else if Line.OpensAdapter line then
      let ⟨(items, rest), hrest⟩ := body (afterBlock lines)
      ⟨(.adapter (blockLines lines) :: items, rest),
        Nat.le_succ_of_le (Nat.le_trans hrest (length_afterBlock_le lines))⟩
    else
      let ⟨(items, rest), hrest⟩ := body lines
      match Line.assignment? line with
      | some (key, value) =>
        ⟨(.assignment key value :: items, rest), Nat.le_succ_of_le hrest⟩
      | none => ⟨(.filler :: items, rest), Nat.le_succ_of_le hrest⟩
  termination_by lines.length
  decreasing_by
    · exact Nat.lt_succ_self _
    · exact Nat.lt_succ_of_le hafter
    · exact Nat.lt_succ_of_le (length_afterBlock_le lines)
    · exact Nat.lt_succ_self _

def declared? (line : String) : Option String :=
  if Line.assignment? line = none ∧ Line.namesMachine line = true then
    Line.reference? line
  else
    none

def sections (lines : List String) : List Section :=
  match lines with
  | [] => []
  | line :: lines =>
    match declared? line with
    | some reference =>
      .machine reference (body lines).1.1 :: sections (body lines).1.2
    | none =>
      if Line.OpensOrphan line then
        .orphan (blockLines lines) :: sections (afterBlock lines)
      else
        .filler :: sections lines
  termination_by lines.length
  decreasing_by
    · exact Nat.lt_succ_of_le (body lines).2
    · exact Nat.lt_succ_of_le (length_afterBlock_le lines)
    · exact Nat.lt_succ_self _

theorem declared?_eq_some_iff {line reference : String} :
    declared? line = some reference ↔ Line.Declares line reference := by
  unfold declared? Line.Declares
  split
  · rename_i h
    exact ⟨fun hreference => ⟨h.1, h.2, hreference⟩, fun hdeclares => hdeclares.2.2⟩
  · rename_i h
    constructor
    · intro hnone
      cases hnone
    · intro hdeclares
      exact absurd ⟨hdeclares.1, hdeclares.2.1⟩ h

theorem body_spec (lines : List String) :
    Body lines (body lines).1.1 (body lines).1.2 := by
  induction lines using body.induct with
  | case1 =>
    rw [body]
    exact .cutOff
  | case2 line lines hclose =>
    rw [body, if_pos hclose]
    exact .close hclose
  | case3 line lines hclose hnested inner after hafter hinner items rest hrest hitems ihinner
      ihitems =>
    rw [hinner] at ihinner
    rw [hitems] at ihitems
    rw [body, if_neg hclose, if_pos hnested, hinner]
    simp only [hitems]
    exact .nested hnested ihinner ihitems
  | case4 line lines hclose hnested hadapter items rest hrest hitems ih =>
    rw [hitems] at ih
    rw [body, if_neg hclose, if_neg hnested, if_pos hadapter, hitems]
    exact .adapter hadapter ih
  | case5 line lines hclose hnested hadapter items rest hrest hitems key value hassign ih =>
    rw [hitems] at ih
    rw [body, if_neg hclose, if_neg hnested, if_neg hadapter, hitems, hassign]
    rw [Line.OpensNested, hassign, Bool.not_eq_true] at hnested
    exact .assignment ⟨hassign, hnested⟩ ih
  | case6 line lines hclose hnested hadapter items rest hrest hitems hassign ih =>
    rw [hitems] at ih
    rw [body, if_neg hclose, if_neg hnested, if_neg hadapter, hitems, hassign]
    refine .filler (Bool.not_eq_true _ ▸ hclose) ?_ hadapter hnested ih
    rintro key value ⟨hassign', -⟩
    cases hassign.symm.trans hassign'

/-- Every list of lines has an outline, which the descent finds. -/
theorem sections_spec (lines : List String) : Reads lines (sections lines) := by
  induction lines using sections.induct with
  | case1 =>
    rw [sections]
    exact .nil
  | case2 line lines reference hdeclared ih =>
    rw [sections, hdeclared]
    exact .machine (declared?_eq_some_iff.mp hdeclared) (body_spec lines) ih
  | case3 line lines hdeclared horphan ih =>
    rw [sections, hdeclared, if_pos horphan]
    exact .orphan horphan ih
  | case4 line lines hdeclared horphan ih =>
    rw [sections, hdeclared, if_neg horphan]
    refine .filler ?_ horphan ih
    intro reference hdeclares
    cases hdeclared.symm.trans (declared?_eq_some_iff.mpr hdeclares)

end Outline

end CloudLift
