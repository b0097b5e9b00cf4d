import CloudLift.Operator.Scripted
import CloudLift.Proofs.Image.Resolution
import CloudLift.Proofs.Text.Lowercase

/-!
# What a tag says about the image

Of a tag only the part before its first underscore counts, without quotes and without regard
to the case of its ASCII letters.  `IsKey` says in these words what images are searched for,
and every tag has exactly one such key.

The key can also be found in one sweep over that part, which drops the quotes one by one
until it comes to a digit and then drops those in the rest at once.  A digit is no quote, so
the first digit of the part is also the first digit of what is left without quotes.
-/

namespace CloudLift.Image

namespace Chars

/-- The text without its quotes. -/
def unquoted (cs : List Char) : List Char :=
  cs.filter (· ≠ '"')

/-- Drops the quotes and puts a hyphen before the first digit on the way. -/
def sweep : List Char → List Char
  | [] => []
  | c :: cs =>
    if c.isDigit then '-' :: unquoted (c :: cs)
    else if c = '"' then sweep cs
    else c :: sweep cs

/-- The second text has one hyphen more, before the first digit of the first text, or it is
the same if there is no digit. -/
inductive Hyphenated : List Char → List Char → Prop
  | plain {cs : List Char} (hplain : ∀ c ∈ cs, c.isDigit = false) : Hyphenated cs cs
  | digit {front rest : List Char} {d : Char} (hfront : ∀ c ∈ front, c.isDigit = false)
      (hd : d.isDigit = true) : Hyphenated (front ++ d :: rest) (front ++ '-' :: d :: rest)

theorem hyphenate_of_plain {cs : List Char} (hplain : ∀ c ∈ cs, c.isDigit = false) :
    hyphenate cs = cs := by
  induction cs with
  | nil => rfl
  | cons c cs ih =>
    rw [List.forall_mem_cons] at hplain
    rw [hyphenate, if_neg (Bool.not_eq_true _ ▸ hplain.1), ih hplain.2]

theorem hyphenate_append_digit {front : List Char} (hfront : ∀ c ∈ front, c.isDigit = false)
    {d : Char} (hd : d.isDigit = true) (rest : List Char) :
    hyphenate (front ++ d :: rest) = front ++ '-' :: d :: rest := by
  induction front with
  | nil => exact if_pos hd
  | cons c front ih =>
    rw [List.forall_mem_cons] at hfront
    rw [List.cons_append, hyphenate, if_neg (Bool.not_eq_true _ ▸ hfront.1), ih hfront.2]
    rfl

theorem hyphenated_hyphenate (cs : List Char) : Hyphenated cs (hyphenate cs) := by
  induction cs with
  | nil => exact .plain (List.forall_mem_nil _)
  | cons c cs ih =>
    rw [hyphenate]
    by_cases hc : c.isDigit = true
    · rw [if_pos hc]
      have hfirst : Hyphenated ([] ++ c :: cs) ([] ++ '-' :: c :: cs) :=
        .digit (List.forall_mem_nil _) hc
      exact hfirst
    · have hplain : c.isDigit = false := Bool.not_eq_true _ ▸ hc
      rw [if_neg hc]
      generalize hyphenate cs = hs at ih
      cases ih with
      | plain hcs => exact .plain (List.forall_mem_cons.mpr ⟨hplain, hcs⟩)
      | @digit front rest d hfront hd =>
        have hlater : Hyphenated ((c :: front) ++ d :: rest) ((c :: front) ++ '-' :: d :: rest) :=
          .digit (List.forall_mem_cons.mpr ⟨hplain, hfront⟩) hd
        exact hlater

theorem hyphenated_iff {cs hs : List Char} : Hyphenated cs hs ↔ hs = hyphenate cs := by
  constructor
  · intro h
    cases h with
    | plain hplain => exact (hyphenate_of_plain hplain).symm
    | digit hfront hd => exact (hyphenate_append_digit hfront hd _).symm
  · rintro rfl
    exact hyphenated_hyphenate cs

theorem sweep_eq (cs : List Char) : sweep cs = hyphenate (unquoted cs) := by
  induction cs with
  | nil => rfl
  | cons c cs ih =>
    rw [sweep]
    by_cases hdigit : c.isDigit = true
    · have hquote : c ≠ '"' := by
        rintro rfl
        exact absurd hdigit (by decide)
      have hunquoted : unquoted (c :: cs) = c :: unquoted cs := by
        simp [unquoted, hquote]
      rw [if_pos hdigit, hunquoted, hyphenate, if_pos hdigit]
    · rw [if_neg hdigit, ih]
      by_cases hquote : c = '"'
      · have hunquoted : unquoted (c :: cs) = unquoted cs := by
          simp [unquoted, hquote]
        rw [if_pos hquote, hunquoted]
      · have hunquoted : unquoted (c :: cs) = c :: unquoted cs := by
          simp [unquoted, hquote]
        rw [if_neg hquote, hunquoted, hyphenate, if_neg hdigit]

/-! ## The part before the first underscore -/

/-- Nothing, or a text that starts with an underscore. -/
def CutOff (rest : List Char) : Prop :=
  rest = [] ∨ ∃ more, rest = '_' :: more

theorem tagBase_append {base rest : List Char} (hbase : '_' ∉ base) :
    tagBase (base ++ rest) = base ++ tagBase rest := by
  apply List.takeWhile_append_of_pos
  intro c hc
  have hne : c ≠ '_' := fun heq => hbase (heq ▸ hc)
  exact decide_eq_true hne

theorem tagBase_of_cutOff {rest : List Char} (hrest : CutOff rest) : tagBase rest = [] := by
  rcases hrest with rfl | ⟨more, rfl⟩
  · rfl
  · rfl

theorem exists_base (tag : List Char) :
    ∃ rest, CutOff rest ∧ tag = tagBase tag ++ rest ∧ '_' ∉ tagBase tag := by
  refine ⟨tag.dropWhile (· ≠ '_'), ?_, List.takeWhile_append_dropWhile.symm, ?_⟩
  · cases hdrop : tag.dropWhile (· ≠ '_') with
    | nil => exact .inl rfl
    | cons c more =>
      have hhead := List.head?_dropWhile_not (· ≠ '_') tag
      rw [hdrop] at hhead
      have hc : c = '_' := by simpa using hhead
      exact .inr ⟨more, hc ▸ rfl⟩
  · intro hmem
    have hplain := List.all_eq_true.mp (List.all_takeWhile (p := (· ≠ '_')) (l := tag)) '_' hmem
    simp at hplain

/-! ## Letter case -/

/-- The marks of a tag are no letters, so they are where they were in lower case. -/
theorem toLower_eq_iff {c mark : Char} (hbelow : mark.toNat < 0x61)
    (hcapital : ¬(0x41 ≤ mark.toNat ∧ mark.toNat ≤ 0x5A)) : c.toLower = mark ↔ c = mark := by
  rw [← Char.toNat_inj, ← Char.toNat_inj, Text.Chars.toNat_toLower]
  split <;> omega

theorem isDigit_toLower (c : Char) : c.toLower.isDigit = c.isDigit := by
  have hdigit : ∀ d : Char, d.isDigit = true ↔ 0x30 ≤ d.toNat ∧ d.toNat ≤ 0x39 := by
    intro d
    rw [Char.isDigit, Bool.and_eq_true, decide_eq_true_eq, decide_eq_true_eq]
    exact Iff.rfl
  rw [Bool.eq_iff_iff, hdigit, hdigit, Text.Chars.toNat_toLower]
  split <;> omega

theorem hyphenate_map_toLower (cs : List Char) :
    hyphenate (cs.map Char.toLower) = (hyphenate cs).map Char.toLower := by
  induction cs with
  | nil => rfl
  | cons c cs ih =>
    rw [List.map_cons, hyphenate, hyphenate, isDigit_toLower]
    by_cases hdigit : c.isDigit = true
    · rw [if_pos hdigit, if_pos hdigit]
      rfl
    · rw [if_neg hdigit, if_neg hdigit, ih]
      rfl

theorem unquoted_map_toLower (cs : List Char) :
    unquoted (cs.map Char.toLower) = (unquoted cs).map Char.toLower := by
  rw [unquoted, unquoted, List.filter_map]
  congr 2
  funext c
  have hquote : c.toLower = '"' ↔ c = '"' := toLower_eq_iff (by decide) (by decide)
  simp [hquote]

theorem tagBase_map_toLower (cs : List Char) :
    tagBase (cs.map Char.toLower) = (tagBase cs).map Char.toLower := by
  rw [tagBase, tagBase, List.takeWhile_map]
  congr 2
  funext c
  have hunderscore : c.toLower = '_' ↔ c = '_' := toLower_eq_iff (by decide) (by decide)
  simp [hunderscore]

theorem mem_of_mem_hyphenate {c : Char} {cs : List Char} (hmem : c ∈ hyphenate cs) :
    c ∈ cs ∨ c = '-' := by
  induction cs with
  | nil => cases hmem
  | cons first cs ih =>
    rw [hyphenate] at hmem
    split at hmem
    · rcases List.mem_cons.mp hmem with heq | hrest
      · exact .inr heq
      · exact .inl hrest
    · rcases List.mem_cons.mp hmem with heq | hrest
      · exact .inl (heq ▸ List.mem_cons_self)
      · exact (ih hrest).imp_left (List.mem_cons_of_mem _)

/-- What the key is made of: characters of the tag but for the underscore and quotes, and
hyphens. -/
theorem mem_of_mem_stem {c : Char} {tag : List Char}
    (hmem : c ∈ hyphenate (unquoted (tagBase tag)) ++ ['-']) :
    (c ∈ tag ∧ c ≠ '_' ∧ c ≠ '"') ∨ c = '-' := by
  rcases List.mem_append.mp hmem with hstem | hend
  · refine (mem_of_mem_hyphenate hstem).imp_left ?_
    intro hkept
    obtain ⟨hbase, hquote⟩ := List.mem_filter.mp hkept
    have hunderscore := List.all_eq_true.mp (List.all_takeWhile (p := (· ≠ '_')) (l := tag)) c hbase
    exact ⟨(List.takeWhile_sublist _).mem hbase, of_decide_eq_true hunderscore,
      of_decide_eq_true hquote⟩
  · exact .inr (List.mem_singleton.mp hend)

theorem imageKey_eq (tag : List Char) :
    imageKey tag = Text.Chars.lowercase (hyphenate (unquoted (tagBase tag)) ++ ['-']) :=
  rfl

theorem imageKey_of_ascii {tag : List Char} (htag : ∀ c ∈ tag, c.toNat < 0x80) :
    imageKey tag = hyphenate (unquoted (tagBase (tag.map Char.toLower))) ++ ['-'] := by
  have hstem : ∀ c ∈ hyphenate (unquoted (tagBase tag)) ++ ['-'], c.toNat < 0x80 := by
    intro c hc
    rcases mem_of_mem_stem hc with ⟨hmem, -, -⟩ | rfl
    · exact htag c hmem
    · decide
  rw [imageKey_eq, Text.Chars.lowercase, Text.Chars.lowercaseAfter_of_ascii hstem, List.map_append,
    ← hyphenate_map_toLower, ← unquoted_map_toLower, ← tagBase_map_toLower]
  rfl

end Chars

open Chars (CutOff Hyphenated sweep tagBase unquoted)

/-- The key is made from the part of the tag before its first underscore. -/
inductive IsKey : String → String → Prop
  | intro {base rest stem : List Char} (hbase : '_' ∉ base) (hrest : CutOff rest)
      (hstem : Hyphenated (unquoted base) stem) :
      IsKey (String.ofList (base ++ rest)) (Text.lowercase (String.ofList (stem ++ ['-'])))

theorem isKey_iff {tag key : String} : IsKey tag key ↔ key = imageKey tag := by
  constructor
  · rintro ⟨hbase, hrest, hstem⟩
    rw [Chars.hyphenated_iff] at hstem
    rw [imageKey, Text.lowercase, String.toList_ofList, String.toList_ofList, Chars.imageKey_eq,
      Chars.tagBase_append hbase, Chars.tagBase_of_cutOff hrest, List.append_nil, hstem]
  · rintro rfl
    obtain ⟨rest, hrest, htag, hbase⟩ := Chars.exists_base tag.toList
    have hkey := IsKey.intro hbase hrest (Chars.hyphenated_hyphenate (unquoted (tagBase tag.toList)))
    rw [← htag, String.ofList_toList, Text.lowercase, String.toList_ofList] at hkey
    exact hkey

theorem imageKey_eq_sweep (tag : String) :
    imageKey tag =
      Text.lowercase (String.ofList (sweep (tagBase tag.toList) ++ ['-'])) := by
  rw [Chars.sweep_eq, Text.lowercase, String.toList_ofList]
  rfl

theorem lowercase_append_hyphen (text : String) :
    Text.lowercase (text ++ "-") = Text.lowercase text ++ "-" := by
  have hhyphen : "-" = String.ofList ['-'] := rfl
  rw [Text.lowercase, String.toList_append, hhyphen, String.toList_ofList, Text.Chars.lowercase,
    Text.Chars.lowercaseAfter_concat_hyphen, String.ofList_append]
  rfl

/-! ## Tags for the same image -/

variable {σ : Type}

/-- The tags have one key, so both find the same image, or both find none and the faults name
that key. -/
structure SameImage (op : Operator σ) (room : Room) (s : σ) (catalog : Catalog)
    (tag other : String) : Prop where
  key : imageKey tag = imageKey other
  image : (∃ id, ((catalog.resolve tag).run op room s).outcome = .ok id ∧
      ((catalog.resolve other).run op room s).outcome = .ok id) ∨
    ((catalog.resolve tag).run op room s).outcome =
        .error (.unresolvedOsName tag (imageKey tag)) ∧
      ((catalog.resolve other).run op room s).outcome =
        .error (.unresolvedOsName other (imageKey tag))

section SameImage

variable {op : Operator σ} {room : Room} {s : σ} {catalog : Catalog}

theorem sameImage_of_imageKey_eq {tag other : String} (hkey : imageKey tag = imageKey other) :
    SameImage op room s catalog tag other := by
  have himage : catalog.image? other = catalog.image? tag := by
    rw [Catalog.image?, Catalog.image?, Catalog.match?, Catalog.match?, hkey]
  refine ⟨hkey, ?_⟩
  rw [Catalog.outcome_resolve, Catalog.outcome_resolve, himage, hkey]
  cases catalog.image? tag with
  | none => exact .inr ⟨rfl, rfl⟩
  | some id => exact .inl ⟨id, rfl, rfl⟩

theorem sameImage_of_unquoted {front other : String} (hfront : '_' ∉ front.toList)
    (hother : '_' ∉ other.toList) (hquotes : unquoted front.toList = unquoted other.toList)
    (back : String) : SameImage op room s catalog (front ++ back) (other ++ back) := by
  apply sameImage_of_imageKey_eq
  have hfilter : unquoted (front.toList ++ tagBase back.toList) =
      unquoted (other.toList ++ tagBase back.toList) := by
    rw [unquoted, unquoted, List.filter_append, List.filter_append]
    exact congrArg (· ++ _) hquotes
  rw [imageKey, imageKey, Chars.imageKey_eq, Chars.imageKey_eq, String.toList_append,
    String.toList_append, Chars.tagBase_append hfront, Chars.tagBase_append hother, hfilter]

theorem sameImage_of_cutOff {base rest other : String} (hbase : '_' ∉ base.toList)
    (hrest : CutOff rest.toList) (hother : CutOff other.toList) :
    SameImage op room s catalog (base ++ rest) (base ++ other) := by
  apply sameImage_of_imageKey_eq
  rw [imageKey, imageKey, Chars.imageKey_eq, Chars.imageKey_eq, String.toList_append,
    String.toList_append, Chars.tagBase_append hbase, Chars.tagBase_append hbase,
    Chars.tagBase_of_cutOff hrest, Chars.tagBase_of_cutOff hother]

theorem sameImage_of_ascii {tag other : String} (htag : ∀ c ∈ tag.toList, c.toNat < 0x80)
    (hother : ∀ c ∈ other.toList, c.toNat < 0x80)
    (hcase : tag.toList.map Char.toLower = other.toList.map Char.toLower) :
    SameImage op room s catalog tag other := by
  apply sameImage_of_imageKey_eq
  rw [imageKey, imageKey, Chars.imageKey_of_ascii htag, Chars.imageKey_of_ascii hother, hcase]

end SameImage

/-- No lower case of another character is an underscore or a quote. -/
theorem notMem_imageKey (tag : String) {mark : Char} (hmark : mark = '_' ∨ mark = '"') :
    mark ∉ (imageKey tag).toList := by
  intro hmem
  rw [imageKey, String.toList_ofList, Chars.imageKey_eq] at hmem
  have hstem : mark ∈ Chars.hyphenate (unquoted (tagBase tag.toList)) ++ ['-'] := by
    rcases hmark with rfl | rfl
    · exact Text.Chars.mem_of_mem_lowercaseAfter (by decide) (by decide) hmem
    · exact Text.Chars.mem_of_mem_lowercaseAfter (by decide) (by decide) hmem
  rcases Chars.mem_of_mem_stem hstem with ⟨-, hunderscore, hquote⟩ | heq
  · rcases hmark with heq | heq
    · exact hunderscore heq
    · exact hquote heq
  · rw [heq] at hmark
    exact absurd hmark (by decide)

theorem getLast?_imageKey (tag : String) : (imageKey tag).toList.getLast? = some '-' := by
  rw [imageKey, String.toList_ofList, Chars.imageKey_eq, Text.Chars.lowercase,
    Text.Chars.lowercaseAfter_concat_hyphen, List.getLast?_concat]

/-- A tag has one key, which one sweep over the tag finds.  It does not change with the quotes
before the first underscore, with what follows there, and with the case of ASCII letters, and
neither does the image. -/
theorem imageKey_described (op : Operator σ) (room : Room) (s : σ) (catalog : Catalog) :
    (∀ tag key, IsKey tag key ↔ key = imageKey tag) ∧
    (∀ tag, imageKey tag =
      Text.lowercase (String.ofList (sweep (tagBase tag.toList) ++ ['-']))) ∧
    (∀ text, Text.lowercase (text ++ "-") = Text.lowercase text ++ "-") ∧
    (∀ front other : String, '_' ∉ front.toList → '_' ∉ other.toList →
      unquoted front.toList = unquoted other.toList →
      ∀ back, SameImage op room s catalog (front ++ back) (other ++ back)) ∧
    (∀ base rest other : String, '_' ∉ base.toList → CutOff rest.toList → CutOff other.toList →
      SameImage op room s catalog (base ++ rest) (base ++ other)) ∧
    (∀ tag other : String, (∀ c ∈ tag.toList, c.toNat < 0x80) →
      (∀ c ∈ other.toList, c.toNat < 0x80) →
      tag.toList.map Char.toLower = other.toList.map Char.toLower →
      SameImage op room s catalog tag other) ∧
    ∀ tag, '_' ∉ (imageKey tag).toList ∧ '"' ∉ (imageKey tag).toList ∧
      (imageKey tag).toList.getLast? = some '-' := by
  refine ⟨fun tag key => isKey_iff, imageKey_eq_sweep, lowercase_append_hyphen,
    fun front other => sameImage_of_unquoted, fun base rest other => sameImage_of_cutOff,
    fun tag other => sameImage_of_ascii, ?_⟩
  intro tag
  exact ⟨notMem_imageKey tag (.inl rfl), notMem_imageKey tag (.inr rfl), getLast?_imageKey tag⟩

def oneImage : Catalog :=
  .ofList [("ubuntu-22-04-lts", "fd8ubuntu22")]

/-- A quote before the digit, another end and another case lead to the image of the tag. -/
theorem ubuntu_sameImage :
    SameImage Operator.scripted none [] oneImage "\"Ubuntu\"22_64" "Ubuntu22_64" ∧
      SameImage Operator.scripted none [] oneImage "Ubuntu22_64" "Ubuntu22" ∧
      SameImage Operator.scripted none [] oneImage "UBUNTU22_64" "Ubuntu22_64" ∧
      ((oneImage.resolve "Ubuntu22_64").run Operator.scripted none []).outcome =
        .ok "fd8ubuntu22" := by
  obtain ⟨-, -, -, hquotes, hrest, hcase, -⟩ :=
    imageKey_described Operator.scripted none [] oneImage
  have hupper : "UBUNTU22_64".toList.all (fun c => c.toNat < 0x80) = true := by decide +kernel
  have hlower : "Ubuntu22_64".toList.all (fun c => c.toNat < 0x80) = true := by decide +kernel
  refine ⟨?_, ?_, ?_, by decide +kernel⟩
  · exact hquotes "\"Ubuntu\"22" "Ubuntu22" (by decide +kernel) (by decide +kernel)
      (by decide +kernel) "_64"
  · exact hrest "Ubuntu22" "_64" "" (by decide +kernel) (.inr ⟨"64".toList, by decide +kernel⟩)
      (.inl rfl)
  · exact hcase "UBUNTU22_64" "Ubuntu22_64"
      (fun c hc => of_decide_eq_true (List.all_eq_true.mp hupper c hc))
      (fun c hc => of_decide_eq_true (List.all_eq_true.mp hlower c hc)) (by decide +kernel)

end CloudLift.Image
