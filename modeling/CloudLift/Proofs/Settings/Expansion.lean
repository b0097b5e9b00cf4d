import CloudLift.Proofs.Text.Cut
import CloudLift.Settings.File
import Mathlib.Data.List.Basic
import Mathlib.Data.List.Induction
import Mathlib.Logic.Function.Basic

/-!
# What expansion makes of a text

A text is read from left to right as a sequence of pieces: where a placeholder begins it is
one piece, and any other character is a piece of its own.  Expansion does not go by pieces.
It replaces one placeholder after the other in the text so far, so what it does to a piece
could depend on the pieces around it and on what came in before.

It does not depend on them if the names hold no dollar sign and the values hold neither a
dollar sign nor an opening brace and are not empty.  Then a dollar sign with an opening brace
after it is one that was there from the start, and what begins there is a placeholder that
has not been replaced or no placeholder at all.
-/

namespace CloudLift

namespace Settings

/-! ## Pieces -/

/-- A character that stands for itself, or a placeholder. -/
inductive Piece where
  | plain (c : Char)
  | hole (name : String)
  deriving DecidableEq, Repr

namespace Chars

/-- A placeholder of this name begins the text, and the rest comes after it. -/
structure Opens (cs : List Char) (name : String) (rest : List Char) : Prop where
  name_ne_empty : name ≠ ""
  brace_notMem : '}' ∉ name.toList
  eq : cs = '$' :: '{' :: (name.toList ++ '}' :: rest)

/-- The pieces of a text.  A placeholder is taken wherever one begins, and the search goes
on after it. -/
inductive Pieces : List Char → List Piece → Prop where
  | nil : Pieces [] []
  | hole {cs name rest pieces} (hopens : Opens cs name rest) (hrest : Pieces rest pieces) :
    Pieces cs (.hole name :: pieces)
  | plain {c cs pieces} (hnone : ∀ name rest, ¬ Opens (c :: cs) name rest)
    (hrest : Pieces cs pieces) : Pieces (c :: cs) (.plain c :: pieces)

variable {c : Char} {cs rest : List Char} {name : String} {pieces : List Piece}

theorem Opens.length_lt (hopens : Opens cs name rest) : rest.length < cs.length := by
  rw [hopens.eq]
  simp only [List.length_cons, List.length_append]
  omega

/-- The first closing brace ends the name. -/
theorem Opens.unique (hopens : Opens cs name rest) {other : String} {others : List Char}
    (hother : Opens cs other others) : name = other ∧ rest = others := by
  have heq := hopens.eq.symm.trans hother.eq
  simp only [List.cons.injEq, true_and] at heq
  have hcut := congrArg (Text.Chars.cutAt? '}') heq
  rw [Text.Chars.cutAt?_append_mark hopens.brace_notMem,
    Text.Chars.cutAt?_append_mark hother.brace_notMem] at hcut
  simp only [Option.some.injEq, Prod.mk.injEq] at hcut
  exact ⟨String.toList_inj.mp hcut.1, hcut.2⟩

theorem not_opens_of_ne (hc : c ≠ '$') : ¬ Opens (c :: cs) name rest := by
  intro hopens
  exact hc (List.cons.inj hopens.eq).1

theorem exists_pieces (cs : List Char) : ∃ pieces, Pieces cs pieces := by
  induction hlength : cs.length using Nat.strongRecOn generalizing cs with
  | ind length ih =>
    by_cases hopens : ∃ name rest, Opens cs name rest
    · obtain ⟨name, rest, hopens⟩ := hopens
      obtain ⟨pieces, hpieces⟩ := ih rest.length (hlength ▸ hopens.length_lt) rest rfl
      exact ⟨.hole name :: pieces, .hole hopens hpieces⟩
    · cases cs with
      | nil => exact ⟨[], .nil⟩
      | cons c cs =>
        simp only [not_exists] at hopens
        obtain ⟨pieces, hpieces⟩ := ih cs.length (hlength ▸ Nat.lt_succ_self _) cs rfl
        exact ⟨.plain c :: pieces, .plain hopens hpieces⟩

theorem Pieces.unique (hpieces : Pieces cs pieces) {others : List Piece}
    (hothers : Pieces cs others) : pieces = others := by
  induction hpieces generalizing others with
  | nil =>
    cases hothers with
    | nil => rfl
    | hole hopens hrest => cases hopens.eq
  | hole hopens hrest ih =>
    cases hothers with
    | nil => cases hopens.eq
    | hole hopens' hrest' =>
      obtain ⟨rfl, rfl⟩ := hopens.unique hopens'
      rw [ih hrest']
    | plain hnone hrest' => exact absurd hopens (hnone _ _)
  | plain hnone hrest ih =>
    cases hothers with
    | hole hopens hrest' => exact absurd hopens (hnone _ _)
    | plain hnone' hrest' => rw [ih hrest']

end Chars

/-- The names of the placeholders among the pieces. -/
def holes (pieces : List Piece) : List String :=
  pieces.filterMap fun
    | .plain _ => none
    | .hole name => some name

@[simp] theorem holes_plain (c : Char) (pieces : List Piece) :
    holes (.plain c :: pieces) = holes pieces :=
  rfl

@[simp] theorem holes_hole (name : String) (pieces : List Piece) :
    holes (.hole name :: pieces) = name :: holes pieces :=
  rfl

/-- The pieces with a value in the place of each placeholder that has one.  All places are
filled at once, and nothing is looked at again. -/
def fill (values : String → Option String) (pieces : List Piece) : List Char :=
  pieces.flatMap fun
    | .plain c => [c]
    | .hole name => ((values name).getD (placeholderFor name)).toList

@[simp] theorem fill_plain (values : String → Option String) (c : Char) (pieces : List Piece) :
    fill values (.plain c :: pieces) = c :: fill values pieces :=
  rfl

@[simp] theorem fill_hole (values : String → Option String) (name : String)
    (pieces : List Piece) :
    fill values (.hole name :: pieces) =
      ((values name).getD (placeholderFor name)).toList ++ fill values pieces :=
  rfl

theorem toList_placeholderFor (name : String) :
    (placeholderFor name).toList = '$' :: '{' :: (name.toList ++ ['}']) := by
  simp [placeholderFor]

theorem Chars.Pieces.fill_eq {cs : List Char} {pieces : List Piece}
    (hpieces : Chars.Pieces cs pieces) : fill (fun _ => none) pieces = cs := by
  induction hpieces with
  | nil => rfl
  | hole hopens hrest ih =>
    rw [fill_hole, ih, hopens.eq, Option.getD_none, toList_placeholderFor]
    simp
  | plain hnone hrest ih => rw [fill_plain, ih]

namespace Chars

variable {c : Char} {cs rest : List Char} {name : String} {pieces : List Piece}

/-! ## The placeholders that are found -/

theorem placeholders_of_opens (hopens : Opens cs name rest) :
    placeholders cs = name.toList :: placeholders rest := by
  have hcut := Text.Chars.cutAt?_append_mark hopens.brace_notMem rest
  have hname : name.toList ≠ [] := by
    rw [ne_eq, String.toList_eq_nil_iff]
    exact hopens.name_ne_empty
  rw [hopens.eq, placeholders]
  split
  · rename_i first others after heq
    rw [hcut] at heq
    simp only [Option.some.injEq, Prod.mk.injEq] at heq
    rw [heq.1, heq.2]
  · rename_i hnone
    cases hlist : name.toList with
    | nil => exact absurd hlist hname
    | cons first others => exact absurd (hlist ▸ hcut) (hnone first others rest)

theorem placeholders_cons_of_not_dollar (hc : c ≠ '$') (cs : List Char) :
    placeholders (c :: cs) = placeholders cs := by
  rw [placeholders]
  rintro rest rfl
  exact absurd rfl hc

theorem placeholders_cons_of_not_opens (hnone : ∀ name rest, ¬ Opens (c :: cs) name rest) :
    placeholders (c :: cs) = placeholders cs := by
  by_cases hdollar : c = '$'
  · subst hdollar
    cases cs with
    | nil => simp [placeholders]
    | cons brace cs =>
      by_cases hbrace : brace = '{'
      · subst hbrace
        rw [placeholders_cons_of_not_dollar (c := '{') (by decide), placeholders]
        split
        · rename_i first others after heq
          obtain ⟨heq, hmem⟩ := Text.Chars.eq_of_cutAt? heq
          refine absurd ⟨?_, ?_, ?_⟩ (hnone (String.ofList (first :: others)) after)
          · simp
          · simpa using hmem
          · rw [heq, String.toList_ofList]
        · rfl
      · rw [placeholders]
        rintro rest - heq
        exact hbrace (List.cons.inj heq).1
  · exact placeholders_cons_of_not_dollar hdollar cs

theorem Pieces.placeholders_eq (hpieces : Pieces cs pieces) :
    placeholders cs = (holes pieces).map String.toList := by
  induction hpieces with
  | nil => rw [placeholders, holes, List.filterMap_nil, List.map_nil]
  | hole hopens hrest ih => rw [placeholders_of_opens hopens, ih, holes_hole, List.map_cons]
  | plain hnone hrest ih => rw [placeholders_cons_of_not_opens hnone, ih, holes_plain]

theorem Pieces.isName (hpieces : Pieces cs pieces) (hname : name ∈ holes pieces) :
    name ≠ "" ∧ '}' ∉ name.toList := by
  induction hpieces with
  | nil => cases hname
  | hole hopens hrest ih =>
    rw [holes_hole] at hname
    rcases List.mem_cons.mp hname with rfl | hname
    · exact ⟨hopens.name_ne_empty, hopens.brace_notMem⟩
    · exact ih hname
  | plain hnone hrest ih => exact ih hname

/-! ## Replacing one placeholder -/

structure Inert (value : String) : Prop where
  ne_empty : value ≠ ""
  dollar_notMem : '$' ∉ value.toList
  brace_notMem : '{' ∉ value.toList

variable {values : String → Option String} {value : String}

theorem Pieces.fill_eq_of_notMem (hpieces : Pieces cs pieces) (hbrace : '}' ∉ cs) :
    fill values pieces = cs := by
  induction hpieces with
  | nil => rfl
  | hole hopens hrest ih =>
    rw [hopens.eq] at hbrace
    simp at hbrace
  | plain hnone hrest ih =>
    simp only [List.mem_cons, not_or] at hbrace
    rw [fill_plain, ih hbrace.2]

theorem Pieces.not_brace_prefix_of_hole
    (hvalues : ∀ name value, values name = some value → Inert value) (part : List Char)
    (name : String) (pieces : List Piece) :
    ¬ '{' :: part <+: fill values (.hole name :: pieces) := by
  rw [fill_hole]
  cases hvalue : values name with
  | none => simp [toList_placeholderFor]
  | some value =>
    have hinert := hvalues name value hvalue
    rw [Option.getD_some]
    cases hlist : value.toList with
    | nil => exact absurd (String.toList_eq_nil_iff.mp hlist) hinert.ne_empty
    | cons first others =>
      intro hbegins
      have hfirst : '{' = first := (List.cons_prefix_cons.mp hbegins).1
      apply hinert.brace_notMem
      rw [hlist, ← hfirst]
      exact List.mem_cons_self

/-- Where no placeholder began, none begins after some have been filled. -/
theorem Pieces.not_prefix (hnone : ∀ name rest, ¬ Opens (c :: cs) name rest)
    (hpieces : Pieces cs pieces)
    (hvalues : ∀ name value, values name = some value → Inert value)
    (hname : name ≠ "") (hbrace : '}' ∉ name.toList) :
    ¬ (placeholderFor name).toList <+: c :: fill values pieces := by
  rw [toList_placeholderFor, List.cons_prefix_cons]
  rintro ⟨rfl, hbegins⟩
  cases hpieces with
  | nil => simp [fill] at hbegins
  | hole hopens hrest => exact not_brace_prefix_of_hole hvalues _ _ _ hbegins
  | @plain d cs pieces _ hrest =>
    rw [fill_plain, List.cons_prefix_cons] at hbegins
    obtain ⟨rfl, hbegins⟩ := hbegins
    -- a name would have to end at the first closing brace that follows
    cases hcut : Text.Chars.cutAt? '}' cs with
    | none =>
      have hnotMem := Text.Chars.cutAt?_eq_none_iff.mp hcut
      rw [hrest.fill_eq_of_notMem hnotMem] at hbegins
      exact hnotMem (hbegins.subset (by simp))
    | some cut =>
      obtain ⟨before, after⟩ := cut
      obtain ⟨rfl, hmem⟩ := Text.Chars.eq_of_cutAt? hcut
      cases before with
      | cons first others =>
        refine hnone (String.ofList (first :: others)) after ⟨by simp, by simpa using hmem, ?_⟩
        rw [String.toList_ofList]
      | nil =>
        cases hrest with
        | hole hopens _ => cases hopens.eq
        | plain _ _ =>
          cases hlist : name.toList with
          | nil => exact hname (String.toList_eq_nil_iff.mp hlist)
          | cons first others =>
            rw [fill_plain, hlist, List.cons_append, List.cons_prefix_cons] at hbegins
            rw [hlist, hbegins.1] at hbrace
            exact hbrace List.mem_cons_self

theorem replace_placeholder_of_ne {other : String} (hne : other ≠ name)
    (hbrace : '}' ∉ name.toList) (hother : '}' ∉ other.toList) (hdollar : '$' ∉ other.toList)
    (new cs : List Char) :
    Text.Chars.replace (placeholderFor name).toList new ((placeholderFor other).toList ++ cs) =
      (placeholderFor other).toList ++
        Text.Chars.replace (placeholderFor name).toList new cs := by
  have hbegins : ¬ (placeholderFor name).toList <+: (placeholderFor other).toList ++ cs := by
    rw [toList_placeholderFor, toList_placeholderFor]
    simp only [List.cons_append, List.append_assoc, List.nil_append, List.cons_prefix_cons,
      true_and]
    rintro ⟨after, heq⟩
    have hcut := congrArg (Text.Chars.cutAt? '}') heq
    rw [List.append_assoc, List.cons_append, Text.Chars.cutAt?_append_mark hbrace,
      Text.Chars.cutAt?_append_mark hother] at hcut
    simp only [Option.some.injEq, Prod.mk.injEq] at hcut
    exact hne (String.toList_inj.mp hcut.1.symm)
  have hfront : '$' ∉ '{' :: (other.toList ++ ['}']) := by
    simp [hdollar]
  rw [toList_placeholderFor other, List.cons_append] at hbegins ⊢
  rw [Text.Chars.replace_cons_of_not_begins hbegins, toList_placeholderFor name,
    Text.Chars.replace_append_of_notMem hfront]
  rfl

/-- Replacing a placeholder everywhere fills its places and changes nothing else. -/
theorem Pieces.replace_fill (hpieces : Pieces cs pieces)
    (hnames : ∀ other ∈ holes pieces, '$' ∉ other.toList)
    (hvalues : ∀ name value, values name = some value → Inert value)
    (hname : name ≠ "") (hbrace : '}' ∉ name.toList) (hvalue : Inert value)
    (hset : values name = none ∨ values name = some value) :
    Text.Chars.replace (placeholderFor name).toList value.toList (fill values pieces) =
      fill (Function.update values name (some value)) pieces := by
  have hinert {new : String} (hnew : Inert new) (cs : List Char) :
      Text.Chars.replace (placeholderFor name).toList value.toList (new.toList ++ cs) =
        new.toList ++ Text.Chars.replace (placeholderFor name).toList value.toList cs := by
    rw [toList_placeholderFor]
    exact Text.Chars.replace_append_of_notMem hnew.dollar_notMem cs
  induction hpieces with
  | nil => simp [fill, Text.Chars.replace]
  | plain hnone hrest ih =>
    rw [fill_plain, Text.Chars.replace_cons_of_not_begins
      (hrest.not_prefix hnone hvalues hname hbrace), ih hnames, fill_plain]
  | @hole cs other rest pieces hopens hrest ih =>
    rw [holes_hole] at hnames
    have hrestNames : ∀ other ∈ holes pieces, '$' ∉ other.toList :=
      fun other hother => hnames other (List.mem_cons_of_mem _ hother)
    rw [fill_hole, fill_hole]
    by_cases hsame : other = name
    · subst hsame
      rw [Function.update_self, Option.getD_some]
      rcases hset with hnone | hsome
      · have hne : (placeholderFor other).toList ≠ [] := by
          simp [toList_placeholderFor]
        rw [hnone, Option.getD_none, Text.Chars.replace_append_self hne, ih hrestNames]
      · rw [hsome, Option.getD_some, hinert hvalue, ih hrestNames]
    · rw [Function.update_of_ne hsame]
      cases hother : values other with
      | none =>
        rw [Option.getD_none, replace_placeholder_of_ne hsame hbrace hopens.brace_notMem
          (hnames other List.mem_cons_self), ih hrestNames]
      | some new => rw [Option.getD_some, hinert (hvalues other new hother), ih hrestNames]

end Chars

/-! ## Replacing one placeholder after the other -/

variable {environment : Table String} {content : String} {pieces : List Piece}

theorem fill_congr {values others : String → Option String}
    (hsame : ∀ name ∈ holes pieces, values name = others name) :
    fill values pieces = fill others pieces := by
  induction pieces with
  | nil => rfl
  | cons piece pieces ih =>
    cases piece with
    | plain c => rw [fill_plain, fill_plain, ih hsame]
    | hole name =>
      rw [holes_hole] at hsame
      rw [fill_hole, fill_hole, hsame name List.mem_cons_self,
        ih fun other hother => hsame other (List.mem_cons_of_mem _ hother)]

def Harmless (environment : Table String) (pieces : List Piece) : Prop :=
  ∀ name ∈ holes pieces, '$' ∉ name.toList ∧
    ∃ value, environment.find? name = some value ∧ Chars.Inert value

theorem foldl_substitute (hpieces : Chars.Pieces content.toList pieces)
    (hharmless : Harmless environment pieces) {names : List String}
    (hnames : names ⊆ holes pieces) {values : String → Option String}
    (hvalues : ∀ name value, values name = some value →
      Chars.Inert value ∧ environment.find? name = some value) :
    names.foldl (substitute environment) (String.ofList (fill values pieces)) =
      String.ofList
        (fill (fun name => if name ∈ names then environment.find? name else values name)
          pieces) := by
  induction names generalizing values with
  | nil => simp
  | cons name names ih =>
    obtain ⟨hmem, hrest⟩ := List.cons_subset.mp hnames
    obtain ⟨hname, hbrace⟩ := hpieces.isName hmem
    obtain ⟨-, value, hvalue, hinert⟩ := hharmless name hmem
    have hset : values name = none ∨ values name = some value := by
      cases hbefore : values name with
      | none => exact Or.inl rfl
      | some before => exact Or.inr ((hvalues name before hbefore).2.symm.trans hvalue)
    have hstep : substitute environment (String.ofList (fill values pieces)) name =
        String.ofList (fill (Function.update values name (some value)) pieces) := by
      rw [substitute, hvalue]
      dsimp only
      rw [Text.replace, String.toList_ofList,
        hpieces.replace_fill (fun other hother => (hharmless other hother).1)
          (fun other new hnew => (hvalues other new hnew).1) hname hbrace hinert hset]
    have hafter : ∀ other new, Function.update values name (some value) other = some new →
        Chars.Inert new ∧ environment.find? other = some new := by
      intro other new hnew
      by_cases hsame : other = name
      · subst hsame
        rw [Function.update_self, Option.some.injEq] at hnew
        exact hnew ▸ ⟨hinert, hvalue⟩
      · rw [Function.update_of_ne hsame] at hnew
        exact hvalues other new hnew
    rw [List.foldl_cons, hstep, ih hrest hafter]
    congr 2
    funext other
    by_cases hsame : other = name
    · subst hsame
      simp [hvalue]
    · simp [hsame]

/-! ## Names without a value -/

/-- The items with the property, each once and in the order in which they first appear. -/
structure ListsOnce (items : List String) (property : String → Prop) (listed : List String) :
    Prop where
  mem_iff : ∀ item, item ∈ listed ↔ item ∈ items ∧ property item
  nodup : listed.Nodup
  ordered : listed.Pairwise fun first second => items.idxOf first < items.idxOf second

namespace ListsOnce

variable {items listed : List String} {property : String → Prop} {item : String}

theorem ordered_append (hlists : ListsOnce items property listed) (more : List String) :
    listed.Pairwise fun first second =>
      (items ++ more).idxOf first < (items ++ more).idxOf second := by
  refine hlists.ordered.imp_of_mem ?_
  intro first second hfirst hsecond hlt
  rw [List.idxOf_append_of_mem ((hlists.mem_iff first).mp hfirst).1,
    List.idxOf_append_of_mem ((hlists.mem_iff second).mp hsecond).1]
  exact hlt

theorem skip (hlists : ListsOnce items property listed)
    (hitem : property item → item ∈ listed) : ListsOnce (items ++ [item]) property listed := by
  refine ⟨fun other => ?_, hlists.nodup, hlists.ordered_append [item]⟩
  rw [List.mem_append, List.mem_singleton]
  constructor
  · intro hother
    have hboth := (hlists.mem_iff other).mp hother
    exact ⟨Or.inl hboth.1, hboth.2⟩
  · rintro ⟨hother | rfl, hholds⟩
    · exact (hlists.mem_iff other).mpr ⟨hother, hholds⟩
    · exact hitem hholds

theorem add (hlists : ListsOnce items property listed) (hitem : property item)
    (hnew : item ∉ listed) : ListsOnce (items ++ [item]) property (listed ++ [item]) := by
  have hnotMem : item ∉ items := by
    intro hmem
    exact hnew ((hlists.mem_iff item).mpr ⟨hmem, hitem⟩)
  refine ⟨fun other => ?_, ?_, ?_⟩
  · have hother : other = item ↔ other = item ∧ property other :=
      ⟨fun heq => ⟨heq, heq ▸ hitem⟩, And.left⟩
    rw [List.mem_append, hlists.mem_iff, List.mem_append, List.mem_singleton, or_and_right,
      ← hother]
  · rw [List.nodup_append]
    refine ⟨hlists.nodup, by simp, ?_⟩
    intro other hother last hlast heq
    exact hnew (List.mem_singleton.mp hlast ▸ heq ▸ hother)
  · refine List.pairwise_append.mpr
      ⟨hlists.ordered_append [item], List.pairwise_singleton _ _, ?_⟩
    intro first hfirst last hlast
    have hmem := ((hlists.mem_iff first).mp hfirst).1
    rw [List.mem_singleton.mp hlast, List.idxOf_append_of_mem hmem,
      List.idxOf_append_of_notMem hnotMem]
    exact Nat.lt_of_lt_of_le (List.idxOf_lt_length_of_mem hmem) (Nat.le_add_right _ _)

end ListsOnce

theorem listsOnce_foldl (property : String → Bool) (items : List String) :
    ListsOnce items (fun item => property item = true)
      ((items.filter property).foldl
        (fun names name => if name ∈ names then names else names ++ [name]) []) := by
  induction items using List.reverseRecOn with
  | nil => exact ⟨by simp, List.nodup_nil, List.Pairwise.nil⟩
  | append_singleton items item ih =>
    rw [List.filter_append, List.foldl_append]
    by_cases hproperty : property item = true
    · rw [List.filter_cons_of_pos hproperty, List.filter_nil, List.foldl_cons, List.foldl_nil]
      split
      case isTrue hlisted => exact ih.skip fun _ => hlisted
      case isFalse hlisted => exact ih.add hproperty hlisted
    · rw [List.filter_cons_of_neg hproperty, List.filter_nil, List.foldl_nil]
      exact ih.skip fun hholds => absurd hholds hproperty

theorem placeholders_eq (hpieces : Chars.Pieces content.toList pieces) :
    placeholders content = holes pieces := by
  rw [placeholders, hpieces.placeholders_eq, List.map_map]
  simp

theorem listsOnce_undefined (hpieces : Chars.Pieces content.toList pieces) :
    ListsOnce (holes pieces) (fun name => environment.find? name = none)
      (undefined environment content) := by
  have hlists := listsOnce_foldl (fun name => !environment.contains name) (holes pieces)
  have hproperty : (fun name => (!environment.contains name) = true) =
      fun name => environment.find? name = none := by
    funext name
    simp [Table.contains]
  rw [hproperty] at hlists
  rw [undefined, placeholders_eq hpieces]
  exact hlists

/-! ## Expansion -/

theorem expand_eq_error_iff {names : List String} :
    expand environment content = .error names ↔
      undefined environment content = names ∧ names ≠ [] := by
  unfold expand
  cases undefined environment content with
  | nil =>
    constructor
    · intro herror
      cases herror
    · rintro ⟨rfl, hne⟩
      exact absurd rfl hne
  | cons name others =>
    constructor
    · intro herror
      cases herror
      exact ⟨rfl, List.cons_ne_nil _ _⟩
    · rintro ⟨rfl, -⟩
      rfl

theorem expand_eq_ok_of_harmless (hpieces : Chars.Pieces content.toList pieces)
    (hharmless : Harmless environment pieces) :
    expand environment content = .ok (String.ofList (fill environment.find? pieces)) := by
  have hundefined : undefined environment content = [] := by
    rw [List.eq_nil_iff_forall_not_mem]
    intro name hname
    obtain ⟨hmem, hnone⟩ := ((listsOnce_undefined hpieces).mem_iff name).mp hname
    obtain ⟨-, value, hvalue, -⟩ := hharmless name hmem
    cases hvalue.symm.trans hnone
  have hfill : fill (fun name => if name ∈ holes pieces then environment.find? name else none)
      pieces = fill environment.find? pieces :=
    fill_congr fun name hname => if_pos hname
  have hfold : (holes pieces).foldl (substitute environment)
      (String.ofList (fill (fun _ => none) pieces)) = _ :=
    foldl_substitute hpieces hharmless (List.Subset.refl _) (by simp)
  rw [hpieces.fill_eq, String.ofList_toList, hfill] at hfold
  rw [expand, hundefined]
  dsimp only
  rw [placeholders_eq hpieces, hfold]

/-- Expansion fails if a placeholder has no value, and reports each name without one.  It
fills all places at once if every placeholder is harmless. -/
theorem expand_reports_or_fills (environment : Table String) (content : String) :
    ∃ pieces, (∀ others, Chars.Pieces content.toList others ↔ others = pieces) ∧
      ((∃ reported, expand environment content = .error reported) ↔
        ∃ name ∈ holes pieces, environment.find? name = none) ∧
      (∀ reported, expand environment content = .error reported →
        ListsOnce (holes pieces) (fun name => environment.find? name = none) reported ∧
          ∀ (disk : Disk) (path : Path), disk.readText path = .ok content →
            Given.ofFile disk environment path =
              .error (.config
                ("Missing environment variables: " ++ Text.join ", " reported))) ∧
      (Harmless environment pieces →
        expand environment content = .ok (String.ofList (fill environment.find? pieces))) := by
  obtain ⟨pieces, hpieces⟩ := Chars.exists_pieces content.toList
  have hlists : ListsOnce _ _ (undefined environment content) := listsOnce_undefined hpieces
  refine ⟨pieces, ?pieces, ?fails, ?reports, expand_eq_ok_of_harmless hpieces⟩
  case pieces =>
    intro others
    constructor
    · exact fun hothers => hothers.unique hpieces
    · rintro rfl
      exact hpieces
  case fails =>
    constructor
    · rintro ⟨reported, herror⟩
      obtain ⟨rfl, hne⟩ := expand_eq_error_iff.mp herror
      obtain ⟨name, hname⟩ := List.exists_mem_of_ne_nil _ hne
      exact ⟨name, (hlists.mem_iff name).mp hname⟩
    · rintro ⟨name, hname⟩
      have hmem := (hlists.mem_iff name).mpr hname
      exact ⟨_, expand_eq_error_iff.mpr ⟨rfl, List.ne_nil_of_mem hmem⟩⟩
  case reports =>
    intro reported herror
    obtain ⟨rfl, -⟩ := expand_eq_error_iff.mp herror
    refine ⟨hlists, ?_⟩
    intro disk path hread
    rw [Given.ofFile, hread]
    dsimp only
    rw [herror]
    rfl

def valuesOfAB : Table String :=
  ⟨[("A", "1\x7d"), ("B\n", "2")]⟩

/-- A name is used twice, a name holds a line feed, and a pair of braces holds no name. -/
def textWithAB : String :=
  "$\x7bA\x7d$\x7b\x7d$\x7bB\n\x7d$\x7bA\x7d"

def piecesOfAB : List Piece :=
  [.hole "A", .plain '$', .plain '{', .plain '}', .hole "B\n", .hole "A"]

theorem textWithAB_expands :
    Chars.Pieces textWithAB.toList piecesOfAB ∧ Harmless valuesOfAB piecesOfAB ∧
      expand valuesOfAB textWithAB = .ok "1\x7d$\x7b\x7d21\x7d" := by
  have hempty (name : String) (rest : List Char) :
      ¬ Chars.Opens ('$' :: '{' :: '}' :: "$\x7bB\n\x7d$\x7bA\x7d".toList) name rest := by
    intro hopens
    have heq := hopens.eq
    cases hlist : name.toList with
    | nil => exact hopens.name_ne_empty (String.toList_eq_nil_iff.mp hlist)
    | cons first others =>
      simp only [hlist, List.cons_append, List.cons.injEq, true_and] at heq
      apply hopens.brace_notMem
      rw [hlist, ← heq.1]
      exact List.mem_cons_self
  have hplain {c : Char} (hc : c ≠ '$') (cs : List Char) (name : String) (rest : List Char) :
      ¬ Chars.Opens (c :: cs) name rest :=
    Chars.not_opens_of_ne hc
  have hpieces : Chars.Pieces textWithAB.toList piecesOfAB := by
    refine .hole ⟨by decide, by decide, rfl⟩ (.plain hempty ?_)
    refine .plain (hplain (by decide) _) (.plain (hplain (by decide) _) ?_)
    exact .hole ⟨by decide, by decide, rfl⟩ (.hole ⟨by decide, by decide, rfl⟩ .nil)
  have hharmless : Harmless valuesOfAB piecesOfAB := by
    have hinert : Chars.Inert "1\x7d" ∧ Chars.Inert "2" :=
      ⟨⟨by decide, by decide, by decide⟩, ⟨by decide, by decide, by decide⟩⟩
    have hholes : holes piecesOfAB = ["A", "B\n", "A"] := rfl
    intro name hname
    simp only [hholes, List.mem_cons, List.not_mem_nil, or_false] at hname
    rcases hname with rfl | rfl | rfl
    · exact ⟨by decide, "1\x7d", rfl, hinert.1⟩
    · exact ⟨by decide, "2", rfl, hinert.2⟩
    · exact ⟨by decide, "1\x7d", rfl, hinert.1⟩
  refine ⟨hpieces, hharmless, ?_⟩
  obtain ⟨pieces, hunique, -, -, hfill⟩ := expand_reports_or_fills valuesOfAB textWithAB
  obtain rfl := (hunique _).mp hpieces
  rw [hfill hharmless]
  rfl

end Settings

end CloudLift
