import Mathlib.Data.List.DropRight
import Mathlib.Data.List.TakeWhile
import CloudLift.Inventory.Line

/-!
# What a closing line is not

Trimming removes blanks and nothing else, so in a line that is a closing brace when it is
trimmed every character is a blank or that brace.  Such a line has no equals sign, it
does not name an adapter and it opens no block: the tests that a scan makes on a line
exclude each other, in whatever order they are made.

Whether a text opens a block depends on its last character that is no blank.  The value of
an assignment ends where its line ends, so it opens a block exactly if the line does.
-/

namespace CloudLift

namespace Text.Chars

theorem mem_dropWhile_or {p : Char → Bool} {c : Char} {cs : List Char} (hmem : c ∈ cs) :
    p c = true ∨ c ∈ cs.dropWhile p := by
  rw [← List.takeWhile_append_dropWhile (p := p) (l := cs), List.mem_append] at hmem
  rcases hmem with hmem | hmem
  · exact Or.inl (List.all_eq_true.mp List.all_takeWhile c hmem)
  · exact Or.inr hmem

theorem isBlank_or_mem_trimEnd {c : Char} {cs : List Char} (hmem : c ∈ cs) :
    isBlank c = true ∨ c ∈ trimEnd cs := by
  rw [trimEnd, List.mem_reverse]
  exact mem_dropWhile_or (List.mem_reverse.mpr hmem)

theorem isBlank_or_mem_trim {c : Char} {cs : List Char} (hmem : c ∈ cs) :
    isBlank c = true ∨ c ∈ trim cs := by
  rcases mem_dropWhile_or (p := isBlank) hmem with hblank | hmem
  · exact Or.inl hblank
  · exact isBlank_or_mem_trimEnd hmem

theorem mem_of_mem_trimEnd {c : Char} {cs : List Char} (hmem : c ∈ trimEnd cs) :
    c ∈ cs := by
  rw [trimEnd, List.mem_reverse] at hmem
  exact List.mem_reverse.mp ((List.dropWhile_sublist _).subset hmem)

/-- The last character that is no blank. -/
theorem getLast?_trimEnd (cs : List Char) :
    (trimEnd cs).getLast? = cs.reverse.find? fun c => !isBlank c := by
  rw [trimEnd, List.getLast?_reverse, List.find?_not_eq_head?_dropWhile]

theorem find?_reverse_trimStart (cs : List Char) :
    ((trimStart cs).reverse.find? fun c => !isBlank c) =
      cs.reverse.find? fun c => !isBlank c := by
  have hblanks : ((cs.takeWhile isBlank).reverse.find? fun c => !isBlank c) = none := by
    rw [List.find?_eq_none]
    intro c hc
    have hblank := List.mem_takeWhile_imp (List.mem_reverse.mp hc)
    simp [hblank]
  have hsplit : cs.reverse = (trimStart cs).reverse ++ (cs.takeWhile isBlank).reverse := by
    rw [← List.reverse_append, trimStart, List.takeWhile_append_dropWhile]
  rw [hsplit, List.find?_append, hblanks, Option.or_none]

theorem getLast?_trimEnd_trim (cs : List Char) :
    (trimEnd (trim cs)).getLast? = (trimEnd cs).getLast? := by
  have hend : (trim cs).reverse = (trimStart cs).reverse.dropWhile isBlank := by
    rw [trim, trimEnd, List.reverse_reverse]
  rw [getLast?_trimEnd, getLast?_trimEnd, ← find?_reverse_trimStart cs, hend,
    List.find?_not_eq_head?_dropWhile, List.find?_not_eq_head?_dropWhile,
    List.dropWhile_idempotent]

end Text.Chars

namespace Line

theorem assignment?_eq_none_iff {line : String} :
    assignment? line = none ↔ '=' ∉ line.toList := by
  rw [assignment?, Option.map_eq_none_iff, Text.cutAt?, Option.map_eq_none_iff,
    Text.Chars.cutAt?_eq_none_iff]

theorem opensBlock_of_assignment? {line key value : String}
    (hassign : assignment? line = some (key, value)) : opensBlock value = opensBlock line := by
  obtain ⟨⟨front, back⟩, hcut, hpair⟩ := Option.map_eq_some_iff.mp hassign
  obtain ⟨⟨before, after⟩, hchars, hback⟩ := Option.map_eq_some_iff.mp hcut
  obtain ⟨-, rfl⟩ := Prod.mk.inj hpair
  obtain ⟨-, rfl⟩ := Prod.mk.inj hback
  obtain ⟨hline, -⟩ := Text.Chars.eq_of_cutAt? hchars
  have hvalue : (Text.Chars.trimEnd (Text.trim (String.ofList after)).toList).getLast? =
      after.reverse.find? fun c => !Text.isBlank c := by
    rw [Text.toList_trim, String.toList_ofList, Text.Chars.getLast?_trimEnd_trim,
      Text.Chars.getLast?_trimEnd]
  have hwhole : (Text.Chars.trimEnd line.toList).getLast? =
      (after.reverse.find? fun c => !Text.isBlank c).or (some '=') := by
    rw [Text.Chars.getLast?_trimEnd, hline, List.reverse_append, List.reverse_cons,
      List.find?_append, List.find?_append]
    cases after.reverse.find? fun c => !Text.isBlank c with
    | none => rfl
    | some c => rfl
  rw [opensBlock, opensBlock, hvalue, hwhole]
  cases after.reverse.find? fun c => !Text.isBlank c with
  | none => rfl
  | some c => rfl

/-- A closing line holds nothing but blanks and a brace. -/
theorem isBlank_or_eq_of_closesBlock {line : String} (hclose : closesBlock line = true)
    {c : Char} (hmem : c ∈ line.toList) : Text.isBlank c = true ∨ c = '}' := by
  have htrim : Text.Chars.trim line.toList = ['}'] := by
    rw [← Text.toList_trim, eq_of_beq hclose]
    rfl
  rcases Text.Chars.isBlank_or_mem_trim hmem with hblank | hmem
  · exact Or.inl hblank
  · rw [htrim, List.mem_singleton] at hmem
    exact Or.inr hmem

theorem assignment?_of_closesBlock {line : String} (hclose : closesBlock line = true) :
    assignment? line = none := by
  rw [assignment?_eq_none_iff]
  intro hmem
  rcases isBlank_or_eq_of_closesBlock hclose hmem with h | h
  · exact absurd h (by decide)
  · exact absurd h (by decide)

theorem namesAdapter_of_closesBlock {line : String} (hclose : closesBlock line = true) :
    namesAdapter line = false := by
  rw [← Bool.not_eq_true]
  intro hname
  have hinfix := Text.Chars.holds_iff_infix.mp hname
  have hmem : 'n' ∈ line.toList := hinfix.subset (by decide)
  rcases isBlank_or_eq_of_closesBlock hclose hmem with h | h
  · exact absurd h (by decide)
  · exact absurd h (by decide)

theorem opensBlock_of_closesBlock {line : String} (hclose : closesBlock line = true) :
    opensBlock line = false := by
  rw [← Bool.not_eq_true]
  intro hopen
  have hlast := List.mem_of_getLast? (eq_of_beq hopen)
  rcases isBlank_or_eq_of_closesBlock hclose (Text.Chars.mem_of_mem_trimEnd hlast) with h | h
  · exact absurd h (by decide)
  · exact absurd h (by decide)

end Line

end CloudLift
