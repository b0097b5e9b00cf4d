import CloudLift.Proofs.Text.Encoding
import CloudLift.Text.Cut

/-!
# Lines of a text

Lines are cut from bytes, before anything is known about characters.  For the bytes of a
text this gives the bytes of the lines of the text: a line feed and a carriage return are
never part of a longer sequence, so the byte that ends a line is the character that ends
it.
-/

namespace CloudLift.Text

namespace Chars

/-- The text without a carriage return at its end. -/
def dropFinalReturn (line : List Char) : List Char :=
  if line.getLast? = some '\r' then line.dropLast else line

/-- The pieces between the line feeds, where a carriage return before a line feed belongs
to it, and the last piece counts only if something stands in it. -/
def lines (cs : List Char) : List (List Char) :=
  (pieces '\n' cs).dropLast.map dropFinalReturn ++
    ((pieces '\n' cs).getLast?.filter (· ≠ [])).toList

theorem pieces_ne_nil (mark : Char) (cs : List Char) : pieces mark cs ≠ [] := by
  cases cs with
  | nil => simp [pieces]
  | cons c cs =>
    rw [pieces]
    split
    · simp
    · split <;> simp

theorem pieces_of_cutAt?_none {mark : Char} {cs : List Char}
    (hcut : cutAt? mark cs = none) : pieces mark cs = [cs] := by
  induction cs with
  | nil => rfl
  | cons c cs ih =>
    have hmem := cutAt?_eq_none_iff.mp hcut
    simp only [List.mem_cons, not_or] at hmem
    rw [pieces, if_neg (Ne.symm hmem.1), ih (cutAt?_eq_none_iff.mpr hmem.2)]

theorem pieces_of_cutAt?_some {mark : Char} {cs before after : List Char}
    (hcut : cutAt? mark cs = some (before, after)) :
    pieces mark cs = before :: pieces mark after := by
  induction cs generalizing before with
  | nil => simp [cutAt?] at hcut
  | cons c cs ih =>
    rw [cutAt?] at hcut
    rw [pieces]
    split at hcut
    case isTrue hc =>
      cases hcut
      rw [if_pos hc]
    case isFalse hc =>
      obtain ⟨⟨front, back⟩, hfront, hpair⟩ := Option.map_eq_some_iff.mp hcut
      cases hpair
      rw [if_neg hc, ih hfront]

theorem pieces_of_notMem {mark : Char} {cs : List Char} (hmark : mark ∉ cs) :
    pieces mark cs = [cs] :=
  pieces_of_cutAt?_none (cutAt?_eq_none_iff.mpr hmark)

theorem pieces_append_mark (mark : Char) (front rest : List Char) :
    pieces mark (front ++ mark :: rest) = pieces mark front ++ pieces mark rest := by
  induction front with
  | nil => simp [pieces]
  | cons c front ih =>
    rw [List.cons_append, pieces, ih, pieces]
    by_cases hc : c = mark
    · rw [if_pos hc, if_pos hc, List.cons_append]
    · rw [if_neg hc, if_neg hc]
      cases hpieces : pieces mark front with
      | nil => exact absurd hpieces (pieces_ne_nil mark front)
      | cons piece others => rfl

theorem eq_of_pieces_eq_singleton {mark : Char} {cs piece : List Char}
    (hpieces : pieces mark cs = [piece]) : cs = piece := by
  cases hcut : cutAt? mark cs with
  | none =>
    rw [pieces_of_cutAt?_none hcut] at hpieces
    exact List.singleton_inj.mp hpieces
  | some cut =>
    rw [pieces_of_cutAt?_some hcut] at hpieces
    exact absurd (List.cons.inj hpieces).2 (pieces_ne_nil mark cut.2)

theorem exists_of_pieces_eq_cons_cons {mark : Char} {cs piece next : List Char}
    {others : List (List Char)} (hpieces : pieces mark cs = piece :: next :: others) :
    ∃ rest, cs = piece ++ mark :: rest ∧ pieces mark rest = next :: others := by
  cases hcut : cutAt? mark cs with
  | none =>
    rw [pieces_of_cutAt?_none hcut] at hpieces
    cases (List.cons.inj hpieces).2
  | some cut =>
    rw [pieces_of_cutAt?_some hcut] at hpieces
    obtain ⟨hpiece, hrest⟩ := List.cons.inj hpieces
    rw [← hpiece]
    exact ⟨cut.2, (eq_of_cutAt? hcut).1, hrest⟩

theorem lines_of_cutAt?_none {cs : List Char} (hcut : cutAt? '\n' cs = none) :
    lines cs = if cs = [] then [] else [cs] := by
  rw [lines, pieces_of_cutAt?_none hcut]
  by_cases hcs : cs = [] <;> simp [hcs]

theorem lines_of_cutAt?_some {cs before after : List Char}
    (hcut : cutAt? '\n' cs = some (before, after)) :
    lines cs = dropFinalReturn before :: lines after := by
  rw [lines, lines, pieces_of_cutAt?_some hcut,
    List.dropLast_cons_of_ne_nil (pieces_ne_nil _ _), List.map_cons, List.cons_append,
    List.getLast?_cons_of_ne_nil (pieces_ne_nil _ _)]

end Chars

def lines (s : String) : List String :=
  (Chars.lines s.toList).map String.ofList

namespace Utf8

/-! ## Bytes that stand for themselves -/

/-- A byte below 0x80 is a character of its own. -/
theorem eq_of_mem_utf8EncodeChar {c : Char} {b : UInt8}
    (hmem : b ∈ String.utf8EncodeChar c) (hb : b.toNat < 0x80) :
    c = Char.ofNat b.toNat ∧ String.utf8EncodeChar c = [b] := by
  have hchar : Char.ofNat c.val.toNat = c := Char.ofNat_toNat c
  unfold String.utf8EncodeChar at hmem ⊢
  generalize c.val.toNat = v at hchar hmem ⊢
  simp only at hmem ⊢
  split at hmem
  case isTrue hone =>
    rw [List.mem_singleton] at hmem
    subst b
    have hval : (UInt8.ofNat v).toNat = v :=
      UInt8.toNat_ofNat_of_lt' (Nat.lt_of_le_of_lt hone (by decide))
    rw [if_pos hone, hval]
    exact ⟨hchar.symm, rfl⟩
  case isFalse hone =>
    -- every byte of a longer sequence has its highest bit set
    have hlong : ∀ n : Nat, 0x80 ≤ n → n < 0x100 → b ≠ UInt8.ofNat n := by
      intro n hlow hhigh heq
      rw [heq, UInt8.toNat_ofNat_of_lt' hhigh] at hb
      omega
    split at hmem
    · simp only [List.mem_cons, List.not_mem_nil, or_false] at hmem
      rcases hmem with hmem | hmem <;> exact absurd hmem (hlong _ (by omega) (by omega))
    · split at hmem
      · simp only [List.mem_cons, List.not_mem_nil, or_false] at hmem
        rcases hmem with hmem | hmem | hmem <;>
          exact absurd hmem (hlong _ (by omega) (by omega))
      · simp only [List.mem_cons, List.not_mem_nil, or_false] at hmem
        rcases hmem with hmem | hmem | hmem | hmem <;>
          exact absurd hmem (hlong _ (by omega) (by omega))

theorem lineFeed_notMem_utf8EncodeChar {c : Char} (hc : c ≠ '\n') :
    lineFeed ∉ String.utf8EncodeChar c := by
  intro hmem
  exact hc (eq_of_mem_utf8EncodeChar hmem (by decide)).1

/-! ## The first line -/

theorem cutLine_append_of_notMem {front : List UInt8} (hfront : lineFeed ∉ front)
    (rest : List UInt8) :
    cutLine (front ++ rest) = (front ++ (cutLine rest).1, (cutLine rest).2) := by
  induction front with
  | nil => rfl
  | cons b front ih =>
    simp only [List.mem_cons, not_or] at hfront
    rw [List.cons_append, cutLine, if_neg (Ne.symm hfront.1), ih hfront.2]
    rfl

theorem cutLine_flatMap (cs : List Char) :
    cutLine (cs.flatMap String.utf8EncodeChar) =
      match Chars.cutAt? '\n' cs with
      | none => (cs.flatMap String.utf8EncodeChar, none)
      | some (before, after) =>
        (before.flatMap String.utf8EncodeChar,
          some (after.flatMap String.utf8EncodeChar)) := by
  induction cs with
  | nil => rfl
  | cons c cs ih =>
    rw [List.flatMap_cons, Chars.cutAt?]
    by_cases hc : c = '\n'
    · subst c
      rw [if_pos rfl]
      rfl
    · rw [if_neg hc, cutLine_append_of_notMem (lineFeed_notMem_utf8EncodeChar hc), ih]
      cases Chars.cutAt? '\n' cs with
      | none => rfl
      | some cut => rfl

theorem dropFinalReturn_flatMap (line : List Char) :
    dropFinalReturn (line.flatMap String.utf8EncodeChar) =
      (Chars.dropFinalReturn line).flatMap String.utf8EncodeChar := by
  rcases List.eq_nil_or_concat line with rfl | ⟨front, c, rfl⟩
  · rfl
  · simp only [List.concat_eq_append, dropFinalReturn, Chars.dropFinalReturn,
      List.flatMap_append, List.flatMap_singleton, List.getLast?_append,
      List.getLast?_singleton, Option.some_or, Option.some.injEq]
    by_cases hc : c = '\r'
    · subst c
      rw [if_pos rfl, List.dropLast_concat]
      exact (if_pos rfl).trans List.dropLast_concat
    · have hlast : ∃ b, (String.utf8EncodeChar c).getLast? = some b ∧
          b ≠ carriageReturn := by
        obtain ⟨b, bytes, hbytes, -⟩ := first_utf8EncodeChar c []
        rw [List.append_nil] at hbytes
        refine ⟨(b :: bytes).getLast (by simp), by rw [hbytes]; rfl, ?_⟩
        intro hreturn
        have hmem : carriageReturn ∈ String.utf8EncodeChar c := by
          rw [hbytes, ← hreturn]
          exact List.getLast_mem _
        exact hc (eq_of_mem_utf8EncodeChar hmem (by decide)).1
      obtain ⟨b, hlast, hb⟩ := hlast
      rw [if_neg hc, hlast, List.flatMap_append, List.flatMap_singleton, if_neg]
      simpa using hb

/-! ## All lines -/

theorem lines_of_cutLine_none {bytes line : List UInt8}
    (hcut : cutLine bytes = (line, none)) :
    lines bytes = if line = [] then [] else [line] := by
  rw [lines]
  split
  next hnil => simp_all
  next hline => simp_all
  next hsome => simp_all

theorem lines_of_cutLine_some {bytes line rest : List UInt8}
    (hcut : cutLine bytes = (line, some rest)) :
    lines bytes = dropFinalReturn line :: lines rest := by
  rw [lines]
  split
  next hnil => simp_all
  next hline => simp_all
  next hsome => simp_all

theorem lines_flatMap (cs : List Char) :
    lines (cs.flatMap String.utf8EncodeChar) =
      (Chars.lines cs).map fun line => line.flatMap String.utf8EncodeChar := by
  induction hlength : cs.length using Nat.strongRecOn generalizing cs with
  | ind length ih =>
    have hcut := cutLine_flatMap cs
    cases hchars : Chars.cutAt? '\n' cs with
    | none =>
      rw [hchars] at hcut
      rw [Chars.lines_of_cutAt?_none hchars, lines_of_cutLine_none hcut]
      cases cs with
      | nil => rfl
      | cons c cs =>
        obtain ⟨b, bytes, hbytes, -⟩ :=
          first_utf8EncodeChar c (cs.flatMap String.utf8EncodeChar)
        have hne : (c :: cs).flatMap String.utf8EncodeChar ≠ [] := by
          rw [List.flatMap_cons, hbytes]
          simp
        rw [if_neg hne, if_neg (by simp)]
        rfl
    | some cut =>
      obtain ⟨before, after⟩ := cut
      rw [hchars] at hcut
      have hafter : after.length < length := by
        have hsplit := congrArg List.length (Chars.eq_of_cutAt? hchars).1
        simp only [List.length_append, List.length_cons] at hsplit
        omega
      rw [Chars.lines_of_cutAt?_some hchars, List.map_cons, ← ih _ hafter after rfl,
        ← dropFinalReturn_flatMap, lines_of_cutLine_some hcut]

/-- The lines of the bytes of a text are the bytes of its lines. -/
theorem lines_encode (s : String) : lines (encode s) = (Text.lines s).map encode := by
  rw [encode_eq_flatMap, lines_flatMap, Text.lines, List.map_map]
  apply List.map_congr_left
  intro line _
  rw [Function.comp_apply, encode_ofList]

theorem mapM_decode?_map_encode (texts : List String) :
    (texts.map encode).mapM decode? = some texts := by
  induction texts with
  | nil => rfl
  | cons text texts ih => simp [decode?_encode, ih]

/-- Every line of a text is read as text. -/
theorem mapM_decode?_lines_encode (s : String) :
    (lines (encode s)).mapM decode? = some (Text.lines s) := by
  rw [lines_encode, mapM_decode?_map_encode]

end Utf8

end CloudLift.Text
