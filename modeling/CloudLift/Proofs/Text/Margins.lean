import CloudLift.Proofs.Text.Cut
import CloudLift.Proofs.Text.Lines
import CloudLift.Text.Blank
import Mathlib.Data.List.Forall2
import Mathlib.Data.List.Induction
import Mathlib.Data.List.TakeWhile

/-!
# Blanks at the margins of lines

A question about a text that has the same answer with one more blank at either end is a
question about the trimmed text.  That is so for the words of a text, for what stands around
a mark that is no blank, and for the search of a text that begins and ends with no blank.

Two texts are the same but for their margins if each line of the one has, between blanks,
what the line of the other has.  A carriage return is a blank, so texts that differ in how
their lines end are the same in this sense.
-/

namespace CloudLift.Text

namespace Chars

/-! ## Trimmed texts -/

theorem trim_cons_of_isBlank {c : Char} (hc : isBlank c = true) (cs : List Char) :
    trim (c :: cs) = trim cs := by
  rw [trim, trimStart, List.dropWhile_cons_of_pos hc]
  rfl

theorem trimEnd_concat_of_isBlank {c : Char} (hc : isBlank c = true) (cs : List Char) :
    trimEnd (cs ++ [c]) = trimEnd cs := by
  rw [trimEnd, List.reverse_append, List.reverse_singleton, List.singleton_append,
    List.dropWhile_cons_of_pos hc]
  rfl

theorem trim_concat_of_isBlank {c : Char} (hc : isBlank c = true) (cs : List Char) :
    trim (cs ++ [c]) = trim cs := by
  rw [trim, trimStart, List.dropWhile_append]
  by_cases hblank : (cs.dropWhile isBlank).isEmpty = true
  · rw [if_pos hblank, List.dropWhile_cons_of_pos hc, trim, trimStart,
      List.isEmpty_iff.mp hblank]
    rfl
  · rw [if_neg hblank, trimEnd_concat_of_isBlank hc]
    rfl

/-- What no blank at either end changes is found from the trimmed text. -/
theorem eq_of_trim {α : Type} {f : List Char → α}
    (hstart : ∀ c cs, isBlank c = true → f (c :: cs) = f cs)
    (hend : ∀ c cs, isBlank c = true → f (cs ++ [c]) = f cs) (cs : List Char) :
    f (trim cs) = f cs := by
  have htrimStart : ∀ cs, f (trimStart cs) = f cs := by
    intro cs
    induction cs with
    | nil => rfl
    | cons c cs ih =>
      by_cases hc : isBlank c = true
      · rw [hstart c cs hc, ← ih, trimStart, List.dropWhile_cons_of_pos hc]
        rfl
      · rw [trimStart, List.dropWhile_cons_of_neg hc]
  have htrimEnd : ∀ cs, f (trimEnd cs) = f cs := by
    intro cs
    induction cs using List.reverseRecOn with
    | nil => rfl
    | append_singleton cs c ih =>
      by_cases hc : isBlank c = true
      · rw [hend c cs hc, ← ih, trimEnd_concat_of_isBlank hc]
      · rw [trimEnd, List.reverse_append, List.reverse_singleton, List.singleton_append,
          List.dropWhile_cons_of_neg hc, List.reverse_cons, List.reverse_reverse]
  rw [trim, htrimEnd, htrimStart]

theorem trim_trim (cs : List Char) : trim (trim cs) = trim cs :=
  eq_of_trim (f := trim) (fun _ cs hc => trim_cons_of_isBlank hc cs)
    (fun _ cs hc => trim_concat_of_isBlank hc cs) cs

theorem trim_append_of_isBlank {left right : List Char} (hleft : ∀ c ∈ left, isBlank c = true)
    (hright : ∀ c ∈ right, isBlank c = true) (core : List Char) :
    trim (left ++ (core ++ right)) = trim core := by
  have hend : trim (core ++ right) = trim core := by
    induction right using List.reverseRecOn with
    | nil => rw [List.append_nil]
    | append_singleton right c ih =>
      have hc : isBlank c = true := hright c List.mem_concat_self
      rw [← List.append_assoc, trim_concat_of_isBlank hc,
        ih fun d hd => hright d (List.mem_append_left [c] hd)]
  rw [← hend]
  induction left with
  | nil => rfl
  | cons c left ih =>
    rw [List.cons_append, trim_cons_of_isBlank (hleft c List.mem_cons_self),
      ih fun d hd => hleft d (List.mem_cons_of_mem c hd)]

theorem exists_eq_append_trim (cs : List Char) :
    ∃ left right, cs = left ++ (trim cs ++ right) ∧ ∀ c ∈ left ++ right, isBlank c = true := by
  refine ⟨cs.takeWhile isBlank, ((trimStart cs).reverse.takeWhile isBlank).reverse, ?_, ?_⟩
  · rw [trim, trimEnd, ← List.reverse_append, List.takeWhile_append_dropWhile,
      List.reverse_reverse, trimStart, List.takeWhile_append_dropWhile]
  · intro c hc
    rw [List.mem_append, List.mem_reverse] at hc
    rcases hc with hc | hc
    · exact List.mem_takeWhile_imp hc
    · exact List.mem_takeWhile_imp hc

theorem length_trim_le (cs : List Char) : (trim cs).length ≤ cs.length := by
  obtain ⟨left, right, hcs, -⟩ := exists_eq_append_trim cs
  have hlength := congrArg List.length hcs
  simp only [List.length_append] at hlength
  omega

theorem dropWhile_isBlank_of_head? {cs : List Char}
    (hfirst : ∀ c, cs.head? = some c → isBlank c = false) : cs.dropWhile isBlank = cs := by
  cases cs with
  | nil => rfl
  | cons c cs =>
    rw [List.dropWhile_cons_of_neg]
    rw [hfirst c rfl]
    exact Bool.false_ne_true

/-- The core stands between blanks in the text, and it neither begins nor ends with one. -/
structure Trimmed (cs core : List Char) : Prop where
  between : ∃ left right, cs = left ++ (core ++ right) ∧ ∀ c ∈ left ++ right, isBlank c = true
  first : ∀ c, core.head? = some c → isBlank c = false
  last : ∀ c, core.getLast? = some c → isBlank c = false

theorem trimmed_iff {cs core : List Char} : Trimmed cs core ↔ trim cs = core := by
  constructor
  · rintro ⟨⟨left, right, rfl, hblank⟩, hfirst, hlast⟩
    rw [List.forall_mem_append] at hblank
    have hstart : trimStart core = core := dropWhile_isBlank_of_head? hfirst
    have hend : core.reverse.dropWhile isBlank = core.reverse := by
      apply dropWhile_isBlank_of_head?
      intro c hc
      rw [List.head?_reverse] at hc
      exact hlast c hc
    rw [trim_append_of_isBlank hblank.1 hblank.2, trim, hstart, trimEnd, hend,
      List.reverse_reverse]
  · rintro rfl
    -- A blank at either end would be trimmed too, and then the text would be shorter.
    refine ⟨exists_eq_append_trim cs, ?_, ?_⟩
    · intro c hc
      obtain ⟨rest, hrest⟩ := List.head?_eq_some_iff.mp hc
      by_contra hblank
      rw [Bool.not_eq_false] at hblank
      have hshort := length_trim_le rest
      rw [← trim_cons_of_isBlank hblank, ← hrest, trim_trim, hrest, List.length_cons] at hshort
      omega
    · intro c hc
      obtain ⟨rest, hrest⟩ := List.getLast?_eq_some_iff.mp hc
      by_contra hblank
      rw [Bool.not_eq_false] at hblank
      have hshort := length_trim_le rest
      rw [← trim_concat_of_isBlank hblank, ← hrest, trim_trim, hrest, List.length_append,
        List.length_singleton] at hshort
      omega

/-! ## Words -/

/-- A blank separates the words before it from those after it. -/
theorem words_append_blank {c : Char} (hc : isBlank c = true) (front back : List Char) :
    words (front ++ c :: back) = words front ++ words back := by
  fun_induction words front with
  | case1 => rw [List.nil_append, words_cons_of_isBlank _ hc, List.nil_append]
  | case2 d front hd ih => rw [List.cons_append, words_cons_of_isBlank _ hd, ih]
  | case3 d front hd ih =>
    have htake : (front ++ c :: back).takeWhile (fun x => !isBlank x) =
        front.takeWhile fun x => !isBlank x := by
      rw [List.takeWhile_append]
      split
      case isTrue hlength =>
        rw [(List.takeWhile_prefix _).eq_of_length hlength]
        simp [hc]
      case isFalse => rfl
    have hdrop : (front ++ c :: back).dropWhile (fun x => !isBlank x) =
        (front.dropWhile fun x => !isBlank x) ++ c :: back := by
      rw [List.dropWhile_append]
      split
      case isTrue hempty =>
        rw [List.isEmpty_iff.mp hempty]
        simp [hc]
      case isFalse => rfl
    rw [List.cons_append, words_cons_of_not_isBlank _ hd, htake, hdrop, ih, List.cons_append]

theorem words_concat_of_isBlank {c : Char} (hc : isBlank c = true) (cs : List Char) :
    words (cs ++ [c]) = words cs := by
  rw [words_append_blank hc, words_nil, List.append_nil]

/-- Characters that are no blanks are one word. -/
theorem words_eq_singleton {word : List Char} (hne : word ≠ [])
    (hword : ∀ c ∈ word, isBlank c = false) : words word = [word] := by
  cases word with
  | nil => exact absurd rfl hne
  | cons c cs =>
    have hc : ¬ isBlank c = true := by
      rw [hword c List.mem_cons_self]
      exact Bool.false_ne_true
    have hcs : ∀ d ∈ cs, (!isBlank d) = true := by
      intro d hd
      rw [hword d (List.mem_cons_of_mem c hd)]
      rfl
    rw [words_cons_of_not_isBlank _ hc, List.takeWhile_eq_self_iff.mpr hcs,
      List.dropWhile_eq_nil_iff.mpr hcs, words_nil]

theorem words_trim (cs : List Char) : words (trim cs) = words cs :=
  eq_of_trim (f := words) (fun _ cs hc => words_cons_of_isBlank cs hc)
    (fun _ cs hc => words_concat_of_isBlank hc cs) cs

/-! ## Cutting and searching -/

/-- What stands before and after the first mark, both trimmed. -/
def cutTrimmed? (mark : Char) (cs : List Char) : Option (List Char × List Char) :=
  (cutAt? mark cs).map fun (before, after) => (trim before, trim after)

theorem cutTrimmed?_trim {mark : Char} (hmark : isBlank mark = false) (cs : List Char) :
    cutTrimmed? mark (trim cs) = cutTrimmed? mark cs := by
  have hne : ∀ c, isBlank c = true → c ≠ mark := by
    intro c hc heq
    rw [heq, hmark] at hc
    cases hc
  apply eq_of_trim (f := cutTrimmed? mark)
  · intro c cs hc
    rw [cutTrimmed?, cutTrimmed?, cutAt?, if_neg (hne c hc)]
    cases cutAt? mark cs with
    | none => rfl
    | some cut => exact congrArg (fun front => some (front, _)) (trim_cons_of_isBlank hc cut.1)
  · intro c cs hc
    rw [cutTrimmed?, cutTrimmed?, cutAt?_concat (hne c hc)]
    cases cutAt? mark cs with
    | none => rfl
    | some cut => exact congrArg (fun back => some (_, back)) (trim_concat_of_isBlank hc cut.2)

theorem infix_cons_iff_of_ne {part : List Char} {c : Char} (hpart : part ≠ [])
    (hc : part.head? ≠ some c) (cs : List Char) : part <:+: c :: cs ↔ part <:+: cs := by
  rw [List.infix_cons_iff]
  apply or_iff_right
  intro hprefix
  cases part with
  | nil => exact hpart rfl
  | cons d part => exact hc (congrArg some (List.cons_prefix_cons.mp hprefix).1)

theorem holds_trim {part : List Char} (hpart : part ≠ [])
    (hhead : part.head?.any isBlank = false) (hlast : part.getLast?.any isBlank = false)
    (cs : List Char) : holds part (trim cs) = holds part cs := by
  apply eq_of_trim (f := holds part)
  · intro c cs hc
    have hne : part.head? ≠ some c := by
      intro heq
      rw [heq, Option.any_some] at hhead
      exact absurd (hc.symm.trans hhead) (by decide)
    rw [Bool.eq_iff_iff, holds_iff_infix, holds_iff_infix, infix_cons_iff_of_ne hpart hne]
  · intro c cs hc
    have hne : part.reverse.head? ≠ some c := by
      rw [List.head?_reverse]
      intro heq
      rw [heq, Option.any_some] at hlast
      exact absurd (hc.symm.trans hlast) (by decide)
    have hreverse : part.reverse ≠ [] := mt List.reverse_eq_nil_iff.mp hpart
    rw [Bool.eq_iff_iff, holds_iff_infix, holds_iff_infix, ← List.reverse_infix,
      List.reverse_append, List.reverse_singleton, List.singleton_append,
      infix_cons_iff_of_ne hreverse hne, List.reverse_infix]

/-! ## Lines that are the same but for their margins -/

/-- The lines have the same text, each between blanks of its own. -/
def SameButMargins (line other : List Char) : Prop :=
  ∃ left core right left' right', line = left ++ (core ++ right) ∧
    other = left' ++ (core ++ right') ∧
    ∀ c ∈ left ++ right ++ (left' ++ right'), isBlank c = true

theorem SameButMargins.symm {line other : List Char} (hsame : SameButMargins line other) :
    SameButMargins other line := by
  rcases hsame with ⟨left, core, right, left', right', hline, hother, hblank⟩
  refine ⟨left', core, right', left, right, hother, hline, ?_⟩
  intro c hc
  exact hblank c (List.mem_append.mpr (List.mem_append.mp hc).symm)

theorem SameButMargins.trim_eq {line other : List Char} (hsame : SameButMargins line other) :
    trim line = trim other := by
  rcases hsame with ⟨left, core, right, left', right', hline, hother, hblank⟩
  simp only [List.mem_append, or_imp, forall_and] at hblank
  rcases hblank with ⟨⟨hleft, hright⟩, hleft', hright'⟩
  rw [hline, hother, trim_append_of_isBlank hleft hright, trim_append_of_isBlank hleft' hright']

theorem sameButMargins_iff {line other : List Char} :
    SameButMargins line other ↔ trim line = trim other := by
  constructor
  · exact SameButMargins.trim_eq
  · intro htrim
    rcases exists_eq_append_trim line with ⟨left, right, hline, hblank⟩
    rcases exists_eq_append_trim other with ⟨left', right', hother, hblank'⟩
    refine ⟨left, trim line, right, left', right', hline, ?_, ?_⟩
    · rw [htrim]
      exact hother
    · intro c hc
      rcases List.mem_append.mp hc with hc | hc
      · exact hblank c hc
      · exact hblank' c hc

instance (line other : List Char) : Decidable (SameButMargins line other) :=
  decidable_of_iff (trim line = trim other) sameButMargins_iff.symm

/-! ## Line ends -/

/-- The longer line has blanks after the other one, and nothing else. -/
def ExtendedBy (line longer : List Char) : Prop :=
  ∃ right, longer = line ++ right ∧ ∀ c ∈ right, isBlank c = true

theorem ExtendedBy.cons {line longer : List Char} (c : Char) (h : ExtendedBy line longer) :
    ExtendedBy (c :: line) (c :: longer) := by
  rcases h with ⟨right, hlonger, hright⟩
  exact ⟨right, congrArg (c :: ·) hlonger, hright⟩

theorem ExtendedBy.sameButMargins {line longer : List Char} (h : ExtendedBy line longer) :
    SameButMargins line longer := by
  rcases h with ⟨right, hlonger, hright⟩
  refine ⟨[], line, [], [], right, (List.append_nil line).symm, hlonger, ?_⟩
  simpa using hright

theorem extendedBy_return : ExtendedBy [] ['\r'] :=
  ⟨['\r'], rfl, List.forall_mem_singleton.mpr (by decide)⟩

theorem extendedBy_nil : ExtendedBy [] [] :=
  ⟨[], rfl, List.forall_mem_nil _⟩

/-- A character that is no line feed goes to the first line of either text. -/
theorem forall₂_pieces_cons {c : Char} (hc : c ≠ '\n') {cs ds : List Char}
    (h : List.Forall₂ ExtendedBy (pieces '\n' cs) (pieces '\n' ds)) :
    List.Forall₂ ExtendedBy (pieces '\n' (c :: cs)) (pieces '\n' (c :: ds)) := by
  rw [pieces, pieces, if_neg hc, if_neg hc]
  cases hcs : pieces '\n' cs with
  | nil => exact absurd hcs (pieces_ne_nil '\n' cs)
  | cons line lines =>
    cases hds : pieces '\n' ds with
    | nil => exact absurd hds (pieces_ne_nil '\n' ds)
    | cons longer others =>
      rw [hcs, hds] at h
      rcases List.forall₂_cons.mp h with ⟨hline, hlines⟩
      exact .cons (hline.cons c) hlines

theorem forall₂_pieces_feed {line longer cs ds : List Char} (hfirst : ExtendedBy line longer)
    (hline : '\n' ∉ line) (hlonger : '\n' ∉ longer)
    (h : List.Forall₂ ExtendedBy (pieces '\n' cs) (pieces '\n' ds)) :
    List.Forall₂ ExtendedBy (pieces '\n' (line ++ '\n' :: cs))
      (pieces '\n' (longer ++ '\n' :: ds)) := by
  rw [pieces_append_mark, pieces_append_mark, pieces_of_notMem hline, pieces_of_notMem hlonger]
  exact .cons hfirst h

/-- A carriage return before each line feed extends the lines. -/
theorem forall₂_pieces_addReturns (cs : List Char) :
    List.Forall₂ ExtendedBy (pieces '\n' cs) (pieces '\n' (replace ['\n'] ['\r', '\n'] cs)) := by
  induction cs with
  | nil =>
    rw [replace]
    exact .cons extendedBy_nil .nil
  | cons c cs ih =>
    by_cases hc : c = '\n'
    · have hreplace : replace ['\n'] ['\r', '\n'] ('\n' :: cs) =
          ['\r', '\n'] ++ replace ['\n'] ['\r', '\n'] cs :=
        replace_append_self (List.cons_ne_nil '\n' []) cs
      rw [hc, hreplace]
      exact forall₂_pieces_feed extendedBy_return (by decide) (by decide) ih
    · have hpart : ¬ ['\n'] <+: c :: cs := by
        intro hprefix
        exact hc (List.cons_prefix_cons.mp hprefix).1.symm
      rw [replace_cons_of_not_begins hpart]
      exact forall₂_pieces_cons hc ih

/-- Without the carriage returns before line feeds the lines are the shorter ones. -/
theorem forall₂_pieces_dropReturns (cs : List Char) :
    List.Forall₂ ExtendedBy (pieces '\n' (replace ['\r', '\n'] ['\n'] cs)) (pieces '\n' cs) := by
  induction hlength : cs.length using Nat.strongRecOn generalizing cs with
  | ind length ih =>
    by_cases hpart : ['\r', '\n'] <+: cs
    · rcases hpart with ⟨rest, hrest⟩
      have hshort : rest.length < length := by
        rw [← hlength, ← hrest, List.length_append]
        exact Nat.lt_add_of_pos_left (by decide)
      rw [← hrest, replace_append_self (List.cons_ne_nil '\r' ['\n'])]
      exact forall₂_pieces_feed extendedBy_return (by decide) (by decide) (ih _ hshort rest rfl)
    · cases cs with
      | nil =>
        rw [replace]
        exact .cons extendedBy_nil .nil
      | cons c cs =>
        have hrest := ih cs.length (hlength ▸ Nat.lt_succ_self _) cs rfl
        rw [replace_cons_of_not_begins hpart]
        by_cases hc : c = '\n'
        · rw [hc]
          exact forall₂_pieces_feed extendedBy_nil (by decide) (by decide) hrest
        · exact forall₂_pieces_cons hc hrest

end Chars

/-! ## Texts that are the same but for the margins of their lines -/

/-- Each line of the one text is a line of the other with other blanks at its ends.  No line
has a line feed in it, so none is added or removed. -/
def SameButMargins (text other : String) : Prop :=
  List.Forall₂ Chars.SameButMargins (Chars.pieces '\n' text.toList)
    (Chars.pieces '\n' other.toList)

instance (text other : String) : Decidable (SameButMargins text other) :=
  inferInstanceAs (Decidable (List.Forall₂ Chars.SameButMargins _ _))

theorem sameButMargins_addReturns (text : String) :
    SameButMargins text (replace "\n" "\r\n" text) := by
  rw [SameButMargins, replace, String.toList_ofList]
  exact (Chars.forall₂_pieces_addReturns text.toList).imp fun _ _ => Chars.ExtendedBy.sameButMargins

theorem sameButMargins_dropReturns (text : String) :
    SameButMargins text (replace "\r\n" "\n" text) := by
  rw [SameButMargins, replace, String.toList_ofList]
  have hlines := (Chars.forall₂_pieces_dropReturns text.toList).flip
  exact hlines.imp fun _ _ h => (Chars.ExtendedBy.sameButMargins h).symm

end CloudLift.Text
