import CloudLift.Proofs.Inventory.Outline

/-!
# Matching lines

A line that opens a block is matched by a later closing line, in the nested way.  This is
said of the lines alone by `Matched`, which knows nothing of machines or adapters.  Every
opening line of a matched source has one matching line.

The outline of a source reads an adapter up to the next closing line, whatever stands
before it.  That line is the matching one if the adapter has a block of its own and no block
in that block (`FlatAdapters`).
-/

namespace CloudLift

/-! ## Lines that open blocks -/

namespace Line

variable {line other : String}

theorem ne_of_opensBlock (hopen : opensBlock line = true) (hother : opensBlock other = false) :
    line ≠ other := by
  intro heq
  rw [← heq, hopen] at hother
  cases hother

theorem ne_of_closesBlock (hclose : closesBlock line = true)
    (hother : closesBlock other = false) : line ≠ other := by
  intro heq
  rw [← heq, hclose] at hother
  cases hother

theorem closesBlock_of_opensBlock (hopen : opensBlock line = true) :
    closesBlock line = false := by
  rw [← Bool.not_eq_true]
  intro hclose
  exact absurd (hopen.symm.trans (opensBlock_of_closesBlock hclose)) (by decide)

theorem opensNested_of_opensBlock (hopen : opensBlock line = true)
    (hadapter : ¬ OpensAdapter line) : OpensNested line := by
  rw [OpensNested]
  cases hassign : assignment? line with
  | some pair => exact (opensBlock_of_assignment? hassign).trans hopen
  | none =>
    have hname : ¬ namesAdapter line = true := fun hname => hadapter ⟨hassign, hname⟩
    exact ⟨Bool.not_eq_true _ ▸ hname, hopen⟩

theorem not_opensNested_of_opensBlock (hopen : opensBlock line = false) :
    ¬ OpensNested line := by
  intro hnested
  rw [OpensNested] at hnested
  cases hassign : assignment? line with
  | some pair =>
    rw [hassign] at hnested
    have hvalue : opensBlock pair.2 = opensBlock line := opensBlock_of_assignment? hassign
    exact absurd (hnested.symm.trans (hvalue.trans hopen)) (by decide)
  | none =>
    rw [hassign] at hnested
    exact absurd (hnested.2.symm.trans hopen) (by decide)

end Line

/-! ## Matching lines -/

/-- Every line that opens a block is matched by a later closing line.  The pairs are the
assignments outside of these blocks. -/
inductive Matched : List String → List (String × String) → Prop
  | nil : Matched [] []
  | line {line : String} {rest : List String} {own : List (String × String)}
      (hopen : Line.opensBlock line = false) (hclose : Line.closesBlock line = false)
      (hrest : Matched rest own) :
      Matched (line :: rest) ((Line.assignment? line).toList ++ own)
  | block {opener closer : String} {inner rest : List String}
      {within own : List (String × String)}
      (hopen : Line.opensBlock opener = true) (hinner : Matched inner within)
      (hclose : Line.closesBlock closer = true) (hrest : Matched rest own) :
      Matched (opener :: (inner ++ closer :: rest)) own

/-- The lines begin with the body of a block that was opened before them, and the closing
line after it is the one that matches. -/
structure ClosedBy (lines body : List String) (closer : String) (rest : List String)
    (own : List (String × String)) : Prop where
  split : lines = body ++ closer :: rest
  matched : Matched body own
  closes : Line.closesBlock closer = true

theorem ClosedBy.append {lines body rest : List String} {closer : String}
    {own : List (String × String)} (hclosed : ClosedBy lines body closer rest own)
    (more : List String) : ClosedBy (lines ++ more) body closer (rest ++ more) own where
  split := by rw [hclosed.split, List.append_assoc, List.cons_append]
  matched := hclosed.matched
  closes := hclosed.closes

namespace Matched

variable {line : String} {rest : List String} {own : List (String × String)}

theorem assignment {key value : String} (hassign : Line.assignment? line = some (key, value))
    (hopen : Line.opensBlock line = false) (hrest : Matched rest own) :
    Matched (line :: rest) ((key, value) :: own) := by
  have hclose : Line.closesBlock line = false := by
    rw [← Bool.not_eq_true]
    intro hclose
    exact absurd (hassign.symm.trans (Line.assignment?_of_closesBlock hclose)) (by simp)
  have hmatched := Matched.line hopen hclose hrest
  rw [hassign] at hmatched
  exact hmatched

theorem filler (hassign : Line.assignment? line = none) (hopen : Line.opensBlock line = false)
    (hclose : Line.closesBlock line = false) (hrest : Matched rest own) :
    Matched (line :: rest) own := by
  have hmatched := Matched.line hopen hclose hrest
  rw [hassign] at hmatched
  exact hmatched

end Matched

/-- In a matched source every opening line has its closing line. -/
theorem Matched.exists_closedBy {before lines : List String} {opener : String}
    {all : List (String × String)} (hmatched : Matched (before ++ opener :: lines) all)
    (hopen : Line.opensBlock opener = true) :
    ∃ body closer rest own, ClosedBy lines body closer rest own := by
  generalize hsource : before ++ opener :: lines = source at hmatched
  induction hmatched generalizing before lines with
  | nil => simp at hsource
  | line hplain hclose hrest ih =>
    rcases List.append_eq_cons_iff.mp hsource with ⟨-, heq⟩ | ⟨front, -, htail⟩
    · exact absurd (List.cons.inj heq).1 (Line.ne_of_opensBlock hopen hplain)
    · exact ih htail.symm
  | @block first closer inner rest within own hfirst hinner hclose hrest ihinner ihrest =>
    rcases List.append_eq_cons_iff.mp hsource with ⟨-, heq⟩ | ⟨front, -, htail⟩
    · have hlines := (List.cons.inj heq).2
      exact ⟨inner, closer, rest, within, hlines, hinner, hclose⟩
    · -- The opening line stands after the first block or in the body of it.
      have hcloser := Line.opensBlock_of_closesBlock hclose
      rcases List.append_eq_append_iff.mp htail with ⟨more, -, hafter⟩ | ⟨more, hbody, hwithin⟩
      · rcases List.cons_eq_append_iff.mp hafter with ⟨-, heq⟩ | ⟨more, -, hrest'⟩
        · exact absurd (List.cons.inj heq).1 (Line.ne_of_opensBlock hopen hcloser)
        · exact ihrest hrest'.symm
      · rcases List.cons_eq_append_iff.mp hwithin with ⟨-, heq⟩ | ⟨more, hmore, hlines⟩
        · exact absurd (List.cons.inj heq).1.symm (Line.ne_of_opensBlock hopen hcloser)
        · rw [hmore] at hbody
          rcases ihinner hbody.symm with ⟨body, last, after, own, hclosed⟩
          rw [hlines]
          exact ⟨body, last, _, own, hclosed.append (closer :: rest)⟩

/-- A body that is followed by a closing line ends in one way only. -/
theorem Matched.unique {body body' rest rest' : List String} {closer closer' : String}
    {own own' : List (String × String)} (hmatched : Matched body own)
    (hmatched' : Matched body' own') (hclose : Line.closesBlock closer = true)
    (hclose' : Line.closesBlock closer' = true)
    (hlines : body ++ closer :: rest = body' ++ closer' :: rest') :
    body' = body ∧ closer' = closer ∧ rest' = rest ∧ own' = own := by
  induction hmatched generalizing body' closer' rest' own' closer rest with
  | nil =>
    cases hmatched' with
    | nil =>
      have heq := List.cons.inj hlines
      exact ⟨rfl, heq.1.symm, heq.2.symm, rfl⟩
    | line _ hplain =>
      exact absurd (List.cons.inj hlines).1 (Line.ne_of_closesBlock hclose hplain)
    | block hopen =>
      have hplain := Line.closesBlock_of_opensBlock hopen
      exact absurd (List.cons.inj hlines).1 (Line.ne_of_closesBlock hclose hplain)
  | @line line body own hopen hplain hbody ih =>
    cases hmatched' with
    | nil =>
      exact absurd (List.cons.inj hlines).1.symm (Line.ne_of_closesBlock hclose' hplain)
    | line hopen' hplain' hbody' =>
      have heq := List.cons.inj hlines
      rcases ih hbody' hclose hclose' heq.2 with ⟨rfl, rfl, rfl, rfl⟩
      rw [heq.1]
      exact ⟨rfl, rfl, rfl, rfl⟩
    | block hopen' =>
      exact absurd (List.cons.inj hlines).1.symm (Line.ne_of_opensBlock hopen' hopen)
  | @block opener last inner body within own hopen hinner hlast hbody ihinner ihbody =>
    cases hmatched' with
    | nil =>
      have hplain := Line.closesBlock_of_opensBlock hopen
      exact absurd (List.cons.inj hlines).1.symm (Line.ne_of_closesBlock hclose' hplain)
    | line hopen' =>
      exact absurd (List.cons.inj hlines).1 (Line.ne_of_opensBlock hopen hopen')
    | @block opener' last' inner' body' within' own' hopen' hinner' hlast' hbody' =>
      simp only [List.cons_append, List.append_assoc] at hlines
      have heq := List.cons.inj hlines
      rcases ihinner hinner' hlast hlast' heq.2 with ⟨rfl, rfl, hrest, -⟩
      rcases ihbody hbody' hclose hclose' hrest.symm with ⟨rfl, rfl, rfl, rfl⟩
      rw [heq.1]
      exact ⟨rfl, rfl, rfl, rfl⟩

/-! ## Adapters without blocks in them -/

/-- A line that starts an adapter opens a block, and no line opens a block up to the next
closing line. -/
inductive FlatAdapters : List String → Prop
  | nil : FlatAdapters []
  | adapter {line : String} {lines : List String} (hline : Line.OpensAdapter line)
      (hopen : Line.opensBlock line = true)
      (hflat : ∀ inner ∈ blockLines lines, Line.opensBlock inner = false)
      (hrest : FlatAdapters (afterBlock lines)) : FlatAdapters (line :: lines)
  | other {line : String} {lines : List String} (hline : ¬ Line.OpensAdapter line)
      (hrest : FlatAdapters lines) : FlatAdapters (line :: lines)

theorem FlatAdapters.tail {line : String} {lines : List String}
    (hflat : FlatAdapters (line :: lines)) (hline : ¬ Line.OpensAdapter line) :
    FlatAdapters lines := by
  cases hflat with
  | adapter hadapter => exact absurd hadapter hline
  | other _ hrest => exact hrest

theorem closesBlock_of_mem_blockLines {line : String} {lines : List String}
    (hline : line ∈ blockLines lines) : Line.closesBlock line = false := by
  have hnot := List.mem_takeWhile_imp hline
  rw [Bool.not_eq_true'] at hnot
  exact hnot

/-- A body in which no line opens a block reaches up to the next closing line. -/
theorem Matched.blockLines_eq {body more : List String} {closer : String}
    {own : List (String × String)} (hmatched : Matched body own)
    (hclose : Line.closesBlock closer = true)
    (hflat : ∀ line ∈ blockLines (body ++ closer :: more), Line.opensBlock line = false) :
    blockLines (body ++ closer :: more) = body ∧
      afterBlock (body ++ closer :: more) = more := by
  induction hmatched with
  | nil => exact ⟨blockLines_of_closes more hclose, afterBlock_of_closes more hclose⟩
  | line hopen hplain hbody ih =>
    rw [List.cons_append, blockLines_cons _ hplain] at hflat
    have hrest := ih fun line hline => hflat line (List.mem_cons_of_mem _ hline)
    rw [List.cons_append, blockLines_cons _ hplain, afterBlock_cons _ hplain, hrest.1]
    exact ⟨rfl, hrest.2⟩
  | block hopen =>
    rw [List.cons_append, blockLines_cons _ (Line.closesBlock_of_opensBlock hopen)] at hflat
    exact absurd (hopen.symm.trans (hflat _ List.mem_cons_self)) (by decide)

/-- What comes after matched lines is flat by itself. -/
theorem Matched.flatAdapters_of_append {lines more : List String}
    {own : List (String × String)} (hmatched : Matched lines own)
    (hflat : FlatAdapters (lines ++ more)) : FlatAdapters more := by
  induction hmatched generalizing more with
  | nil => exact hflat
  | line hopen hplain hrest ih =>
    cases hflat with
    | adapter hadapter hother => exact absurd (hother.symm.trans hopen) (by decide)
    | other hadapter hflat => exact ih hflat
  | @block opener closer inner rest within own hopen hinner hclose hrest ihinner ihrest =>
    rw [List.cons_append, List.append_assoc, List.cons_append] at hflat
    cases hflat with
    | adapter hadapter hother hinside hflat =>
      rw [(hinner.blockLines_eq hclose hinside).2] at hflat
      exact ihrest hflat
    | other hadapter hflat =>
      have hafter := ihinner hflat
      exact ihrest (hafter.tail (Line.not_opensAdapter_of_closesBlock hclose))

end CloudLift
