import CloudLift.Proofs.Inventory.Reading
import CloudLift.Proofs.Inventory.Restriction

/-!
# Comments in a source

A line that looks like a comment is a line like any other: the scan knows no comments.
If it opens no block where it stands, all it can do is to set an attribute, and then the
key of the attribute starts with the comment mark, because the mark comes before the first
equals sign.  No other key of a source that means anything looks like that.  So such a
line leaves the place of the scan as it is, and the inventory too, apart from keys that
look like comments.
-/

namespace CloudLift

namespace Text.Chars

theorem prefix_trimStart {mark cs : List Char} (hmark : ∀ c ∈ mark, isBlank c = false)
    (hcs : mark <+: cs) : mark <+: trimStart cs := by
  obtain ⟨rest, rfl⟩ := hcs
  cases mark with
  | nil => exact List.nil_prefix
  | cons c mark =>
    have hc : ¬ isBlank c = true := by
      simp [hmark c List.mem_cons_self]
    rw [trimStart, List.cons_append, List.dropWhile_cons_of_neg hc, ← List.cons_append]
    exact List.prefix_append _ _

theorem prefix_trimEnd {mark cs : List Char} (hmark : ∀ c ∈ mark, isBlank c = false)
    (hcs : mark <+: cs) : mark <+: trimEnd cs := by
  obtain ⟨rest, rfl⟩ := hcs
  have hstays : mark.reverse.dropWhile isBlank = mark.reverse := by
    cases hreverse : mark.reverse with
    | nil => rfl
    | cons c front =>
      have hmem : c ∈ mark := by
        rw [← List.mem_reverse, hreverse]
        exact List.mem_cons_self
      exact List.dropWhile_cons_of_neg (by simp [hmark c hmem])
  rw [trimEnd, List.reverse_append, List.dropWhile_append]
  by_cases hrest : (rest.reverse.dropWhile isBlank).isEmpty = true
  · rw [if_pos hrest, hstays]
    exact ⟨[], by rw [List.append_nil, List.reverse_reverse]⟩
  · rw [if_neg hrest, List.reverse_append, List.reverse_reverse]
    exact List.prefix_append _ _

/-- What stands before a character that the mark lacks has the mark already. -/
theorem prefix_of_prefix_append {mark front rest : List Char} {c : Char} (hc : c ∉ mark)
    (hmark : mark <+: front ++ c :: rest) : mark <+: front := by
  rcases List.prefix_or_prefix_of_prefix hmark (List.prefix_append front _) with h | h
  · exact h
  · obtain ⟨more, rfl⟩ := h
    rw [List.prefix_append_right_inj] at hmark
    cases more with
    | nil => exact ⟨[], by rw [List.append_nil, List.append_nil]⟩
    | cons d more =>
      obtain ⟨rfl, -⟩ := List.cons_prefix_cons.mp hmark
      simp at hc

end Text.Chars

namespace Line

/-- What a comment starts with. -/
def commentMarks : List (List Char) :=
  [['#'], ['/', '/']]

/-- The first characters that are not blank are a comment mark. -/
def IsComment (text : String) : Prop :=
  ∃ mark ∈ commentMarks, mark <+: Text.Chars.trimStart text.toList

instance (text : String) : Decidable (IsComment text) :=
  inferInstanceAs (Decidable (∃ mark ∈ commentMarks, _))

theorem commentMarks_spec : ∀ mark ∈ commentMarks,
    mark ≠ [] ∧ '=' ∉ mark ∧ '}' ∉ mark ∧ ∀ c ∈ mark, Text.isBlank c = false := by
  have hblank : commentMarks.all (fun mark => mark.all fun c => !Text.isBlank c) = true := by
    decide
  intro mark hmark
  have hall := List.all_eq_true.mp hblank mark hmark
  simp only [commentMarks, List.mem_cons, List.not_mem_nil, or_false] at hmark
  refine ⟨?_, ?_, ?_, ?_⟩
  · rcases hmark with rfl | rfl <;> decide
  · rcases hmark with rfl | rfl <;> decide
  · rcases hmark with rfl | rfl <;> decide
  · intro c hc
    simpa using List.all_eq_true.mp hall c hc

variable {line : String}

theorem closesBlock_of_isComment (hcomment : IsComment line) : closesBlock line = false := by
  obtain ⟨mark, hmem, hmark⟩ := hcomment
  obtain ⟨hne, -, hbrace, hblank⟩ := commentMarks_spec mark hmem
  obtain ⟨c, hc⟩ := List.exists_mem_of_ne_nil mark hne
  have hline : c ∈ line.toList := (List.dropWhile_sublist _).subset (hmark.subset hc)
  rw [← Bool.not_eq_true]
  intro hclose
  rcases isBlank_or_eq_of_closesBlock hclose hline with h | rfl
  · exact absurd (h.symm.trans (hblank c hc)) (by decide)
  · exact hbrace hc

/-- The mark comes before the equals sign, so the key of the assignment has it. -/
theorem isComment_key (hcomment : IsComment line) {key value : String}
    (hassign : assignment? line = some (key, value)) : IsComment key := by
  obtain ⟨mark, hmem, hmark⟩ := hcomment
  obtain ⟨hne, hequals, -, hblank⟩ := commentMarks_spec mark hmem
  obtain ⟨⟨before, after⟩, hcut, hpair⟩ := Option.map_eq_some_iff.mp hassign
  obtain ⟨⟨front, rest⟩, hchars, hfront⟩ := Option.map_eq_some_iff.mp hcut
  obtain ⟨rfl, rfl⟩ := Prod.mk.inj hfront
  obtain ⟨rfl, -⟩ := Prod.mk.inj hpair
  have hline := (Text.Chars.eq_of_cutAt? hchars).1
  rw [hline, Text.Chars.trimStart, List.dropWhile_append] at hmark
  by_cases hempty : (front.dropWhile Text.isBlank).isEmpty = true
  · -- the line would start with the equals sign
    have hsign : ('=' :: rest).dropWhile Text.isBlank = [] ++ '=' :: rest := rfl
    rw [if_pos hempty, hsign] at hmark
    exact absurd (List.prefix_nil.mp (Text.Chars.prefix_of_prefix_append hequals hmark)) hne
  · rw [if_neg hempty] at hmark
    have htrim : mark <+: Text.Chars.trim front :=
      Text.Chars.prefix_trimEnd hblank
        (Text.Chars.prefix_of_prefix_append hequals hmark)
    refine ⟨mark, hmem, Text.Chars.prefix_trimStart hblank ?_⟩
    rw [Text.toList_trim, String.toList_ofList]
    exact htrim

end Line

instance (line : String) : Decidable (∃ reference, Line.Declares line reference) :=
  decidable_of_iff ((Outline.declared? line).isSome = true) (by
    simp only [Option.isSome_iff_exists, Outline.declared?_eq_some_iff])

/-- The line opens a block where it stands. -/
def Place.Opens (place : Place) (line : String) : Prop :=
  match place with
  | .outside => (∃ reference, Line.Declares line reference) ∨ Line.OpensOrphan line
  | .machine _ _ => Line.OpensAdapter line ∨ Line.OpensNested line
  | .adapter _ _ => False

instance (place : Place) (line : String) : Decidable (place.Opens line) :=
  match place with
  | .outside =>
    inferInstanceAs (Decidable ((∃ reference, Line.Declares line reference) ∨
      Line.OpensOrphan line))
  | .machine _ _ => inferInstanceAs (Decidable (Line.OpensAdapter line ∨ Line.OpensNested line))
  | .adapter _ _ => inferInstanceAs (Decidable False)

namespace Scan

/-- Keys that do not look like comments. -/
def plainKey (key : String) : Bool :=
  !decide (Line.IsComment key)

theorem plainKey_group : plainKey "group" = true := by
  decide

theorem restrict_setAttribute_comment {inventory : Inventory} {slot : Nat}
    {key value : String} (hkey : Line.IsComment key) :
    (inventory.setAttribute slot key value).restrict plainKey =
      inventory.restrict plainKey := by
  rw [Inventory.restrict_setAttribute _ _ plainKey_group, if_neg]
  simp [plainKey, hkey]

theorem restrict_setAdapterAttribute_comment {inventory : Inventory} {slot : Nat}
    {key value : String} (hkey : Line.IsComment key) :
    (inventory.setAdapterAttribute slot key value).restrict plainKey =
      inventory.restrict plainKey := by
  rw [Inventory.restrict_setAdapterAttribute, if_neg]
  simp [plainKey, hkey]

variable {line : String}

/-- A comment that opens no block changes no more than what comments set. -/
theorem restrict_step_comment (scan : Scan) (hcomment : Line.IsComment line)
    (hopens : ¬ scan.place.Opens line) :
    (scan.step line).restrict plainKey = scan.restrict plainKey := by
  have hclose := Line.closesBlock_of_isComment hcomment
  obtain ⟨inventory, place⟩ := scan
  cases place with
  | outside =>
    have hmachine : ∀ reference, ¬ Line.Declares line reference :=
      fun reference hdeclares => hopens (Or.inl ⟨reference, hdeclares⟩)
    have horphan : ¬ Line.OpensOrphan line := fun horphan => hopens (Or.inr horphan)
    rw [step_outside_filler hmachine horphan]
  | machine slot depth =>
    have hadapter : ¬ Line.OpensAdapter line := fun hadapter => hopens (Or.inl hadapter)
    have hnested : ¬ Line.OpensNested line := fun hnested => hopens (Or.inr hnested)
    cases hassign : Line.assignment? line with
    | some pair =>
      obtain ⟨key, value⟩ := pair
      have hassigns : Line.Assigns line key value := by
        refine ⟨hassign, ?_⟩
        rw [Line.OpensNested, hassign] at hnested
        exact Bool.not_eq_true _ ▸ hnested
      rw [step_assigns hassigns]
      by_cases hdepth : depth = 0
      · rw [if_pos hdepth, restrict, restrict_setAttribute_comment
          (Line.isComment_key hcomment hassign)]
        rfl
      · rw [if_neg hdepth]
    | none =>
      have hassigns : ∀ key value, ¬ Line.Assigns line key value := by
        intro key value hassigns
        cases hassign.symm.trans hassigns.1
      rw [step_filler hclose hassigns hadapter hnested]
  | adapter slot? depth =>
    cases slot? with
    | none => rw [step_orphan hclose]
    | some slot =>
      rw [step_adapter hclose]
      cases hassign : Line.assignment? line with
      | none => rfl
      | some pair =>
        dsimp only
        rw [restrict, restrict_setAdapterAttribute_comment
          (Line.isComment_key hcomment hassign)]
        rfl

/-- With a comment among the lines the scan finds the same inventory, apart from what
comments set. -/
theorem restrict_walk_comment {before after : List String} (hcomment : Line.IsComment line)
    (hopens : ¬ (start.walk before).place.Opens line) :
    (start.walk (before ++ line :: after)).restrict plainKey =
      (start.walk (before ++ after)).restrict plainKey := by
  have hstep := restrict_step_comment (start.walk before) hcomment hopens
  have hwalk := restrict_walk plainKey_group hstep after
  rw [walk, walk, List.foldl_append, List.foldl_append, List.foldl_cons]
  exact hwalk

end Scan

end CloudLift
