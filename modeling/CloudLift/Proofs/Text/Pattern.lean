/-!
# Patterns in a text

A pattern is searched for in a text: it is found if it takes some part of the text.  What it
takes can depend on what stands around that part, because an anchor takes nothing but only at
the start or at the end of the whole text.  Line feeds are characters like any other and no
place for an anchor.
-/

namespace CloudLift.Text

inductive Pattern where
  /-- One character of a class. -/
  | one (belongs : Char → Bool)
  | textStart
  | textEnd
  | both (first second : Pattern)
  /-- The pattern any number of times in a row, also none. -/
  | many (body : Pattern)

namespace Pattern

/-- The pattern at least once. -/
def some (body : Pattern) : Pattern :=
  both body (many body)

/-- The pattern takes a part of a text, between what stands before and after it. -/
inductive Takes : Pattern → List Char → List Char → List Char → Prop
  | one {belongs : Char → Bool} {before after : List Char} {c : Char}
      (hc : belongs c = true) : Takes (one belongs) before [c] after
  | textStart {after : List Char} : Takes textStart [] [] after
  | textEnd {before : List Char} : Takes textEnd before [] []
  | both {first second : Pattern} {before part rest after : List Char}
      (hfirst : Takes first before part (rest ++ after))
      (hsecond : Takes second (before ++ part) rest after) :
      Takes (both first second) before (part ++ rest) after
  | none {body : Pattern} {before after : List Char} : Takes (many body) before [] after
  | more {body : Pattern} {before part rest after : List Char}
      (hbody : Takes body before part (rest ++ after))
      (hmany : Takes (many body) (before ++ part) rest after) :
      Takes (many body) before (part ++ rest) after

/-- The pattern takes some part of the text. -/
def FoundIn (pattern : Pattern) (text : List Char) : Prop :=
  ∃ before part after, text = before ++ (part ++ after) ∧ Takes pattern before part after

variable {belongs : Char → Bool} {first second : Pattern} {before taken after : List Char}

/-! ## What each kind of pattern takes -/

theorem takes_one_iff :
    Takes (one belongs) before taken after ↔ ∃ c, taken = [c] ∧ belongs c = true := by
  constructor
  · intro htakes
    cases htakes with
    | one hc => exact ⟨_, rfl, hc⟩
  · rintro ⟨c, rfl, hc⟩
    exact .one hc

theorem takes_textStart_iff : Takes textStart before taken after ↔ before = [] ∧ taken = [] := by
  constructor
  · intro htakes
    cases htakes
    exact ⟨rfl, rfl⟩
  · rintro ⟨rfl, rfl⟩
    exact .textStart

theorem takes_textEnd_iff : Takes textEnd before taken after ↔ taken = [] ∧ after = [] := by
  constructor
  · intro htakes
    cases htakes
    exact ⟨rfl, rfl⟩
  · rintro ⟨rfl, rfl⟩
    exact .textEnd

theorem takes_both_iff :
    Takes (both first second) before taken after ↔
      ∃ part rest, taken = part ++ rest ∧ Takes first before part (rest ++ after) ∧
        Takes second (before ++ part) rest after := by
  constructor
  · intro htakes
    cases htakes with
    | both hfirst hsecond => exact ⟨_, _, rfl, hfirst, hsecond⟩
  · rintro ⟨part, rest, rfl, hfirst, hsecond⟩
    exact .both hfirst hsecond

/-- Of single characters of a class, any number in a row is any text over the class. -/
theorem takes_many_one_iff :
    Takes (many (one belongs)) before taken after ↔ ∀ c ∈ taken, belongs c = true := by
  constructor
  · intro htakes
    generalize hpattern : many (one belongs) = pattern at htakes
    induction htakes with
    | one hc => cases hpattern
    | textStart => cases hpattern
    | textEnd => cases hpattern
    | both hfirst hsecond => cases hpattern
    | none => exact List.forall_mem_nil _
    | more hbody hmany ihbody ihmany =>
      cases hpattern
      obtain ⟨c, rfl, hc⟩ := takes_one_iff.mp hbody
      rw [List.singleton_append, List.forall_mem_cons]
      exact ⟨hc, ihmany rfl⟩
  · intro htaken
    induction taken generalizing before with
    | nil => exact .none
    | cons c taken ih =>
      rw [List.forall_mem_cons] at htaken
      exact .more (.one htaken.1) (ih htaken.2)

theorem takes_some_one_iff :
    Takes (some (one belongs)) before taken after ↔
      taken ≠ [] ∧ ∀ c ∈ taken, belongs c = true := by
  rw [some, takes_both_iff]
  constructor
  · rintro ⟨part, rest, rfl, hfirst, hmany⟩
    obtain ⟨c, rfl, hc⟩ := takes_one_iff.mp hfirst
    refine ⟨List.cons_ne_nil c rest, ?_⟩
    rw [List.singleton_append, List.forall_mem_cons]
    exact ⟨hc, takes_many_one_iff.mp hmany⟩
  · rintro ⟨hne, htaken⟩
    cases taken with
    | nil => exact absurd rfl hne
    | cons c rest =>
      rw [List.forall_mem_cons] at htaken
      exact ⟨[c], rest, rfl, .one htaken.1, takes_many_one_iff.mpr htaken.2⟩

/-- Between both anchors a pattern takes the whole text. -/
theorem foundIn_anchored_iff {pattern : Pattern} {text : List Char} :
    FoundIn (both textStart (both pattern textEnd)) text ↔ Takes pattern [] text [] := by
  constructor
  · rintro ⟨before, taken, after, htext, htakes⟩
    obtain ⟨part, rest, rfl, hstart, hrest⟩ := takes_both_iff.mp htakes
    obtain ⟨rfl, rfl⟩ := takes_textStart_iff.mp hstart
    obtain ⟨part, rest, rfl, hpattern, hend⟩ := takes_both_iff.mp hrest
    obtain ⟨rfl, rfl⟩ := takes_textEnd_iff.mp hend
    simp only [List.nil_append, List.append_nil] at htext hpattern
    rw [htext]
    exact hpattern
  · intro hpattern
    refine ⟨[], text, [], by simp, ?_⟩
    have hend : Takes (both pattern textEnd) [] (text ++ []) [] :=
      .both hpattern .textEnd
    rw [List.append_nil] at hend
    exact takes_both_iff.mpr ⟨[], text, rfl, .textStart, hend⟩

end Pattern

end CloudLift.Text
