import CloudLift.Operator.Scripted
import CloudLift.Proofs.Text.Pattern
import CloudLift.Settings.Basic

/-!
# Names

The naming rule is a pattern with three repetitions that overlap: a text can often be divided
among them in several ways.  It is found in a text exactly if the text has at least two
characters, which are lowercase letters, digits and hyphens, the first a letter and the last
no hyphen.  For one direction the whole middle goes to the second repetition.
-/

namespace CloudLift

namespace Name

open Text (Pattern)

/-- A letter or a digit. -/
def isAlphanumeric (c : Char) : Bool :=
  isLetter c || c.isDigit

/-- From the start of the text to its end: letters, then any name characters, then letters
and digits, with at least one of the first and of the last. -/
def pattern : Pattern :=
  .both .textStart (.both
    (.both (.some (.one isLetter)) (.both (.many (.one isNameChar)) (.some (.one isAlphanumeric))))
    .textEnd)

/-- The naming rule. -/
structure Obeys (name : String) : Prop where
  length : 2 ≤ name.length
  chars : ∀ c ∈ name.toList, ('a' ≤ c ∧ c ≤ 'z') ∨ ('0' ≤ c ∧ c ≤ '9') ∨ c = '-'
  first : ∀ c, name.toList.head? = some c → 'a' ≤ c ∧ c ≤ 'z'
  last : name.toList.getLast? ≠ some '-'

theorem isLetter_iff {c : Char} : isLetter c = true ↔ 'a' ≤ c ∧ c ≤ 'z' := by
  rw [isLetter, Bool.and_eq_true, decide_eq_true_eq, decide_eq_true_eq]

theorem isDigit_iff {c : Char} : c.isDigit = true ↔ '0' ≤ c ∧ c ≤ '9' := by
  rw [Char.isDigit, Bool.and_eq_true, decide_eq_true_eq, decide_eq_true_eq]
  exact Iff.rfl

theorem isNameChar_iff {c : Char} :
    isNameChar c = true ↔ ('a' ≤ c ∧ c ≤ 'z') ∨ ('0' ≤ c ∧ c ≤ '9') ∨ c = '-' := by
  rw [isNameChar, Bool.or_eq_true, Bool.or_eq_true, isLetter_iff, isDigit_iff, beq_iff_eq, or_assoc]

theorem isAlphanumeric_iff {c : Char} :
    isAlphanumeric c = true ↔ isNameChar c = true ∧ c ≠ '-' := by
  rw [isNameChar, ← isAlphanumeric, Bool.or_eq_true, beq_iff_eq]
  constructor
  · intro hc
    refine ⟨Or.inl hc, ?_⟩
    rintro rfl
    exact absurd hc (by decide)
  · rintro ⟨hc | hc, hne⟩
    · exact hc
    · exact absurd hc hne

/-! ## The rule as a test and as a pattern -/

/-- A text with two characters at least has a first one, a last one and those in between. -/
theorem obeys_iff {name : String} :
    Obeys name ↔ ∃ c middle d, name.toList = c :: (middle ++ [d]) ∧ isLetter c = true ∧
      (∀ x ∈ middle, isNameChar x = true) ∧ isAlphanumeric d = true := by
  constructor
  · rintro ⟨hlength, hchars, hfirst, hlast⟩
    rw [← String.length_toList] at hlength
    have hclass : ∀ c ∈ name.toList, isNameChar c = true :=
      fun c hc => isNameChar_iff.mpr (hchars c hc)
    cases hname : name.toList with
    | nil => simp [hname] at hlength
    | cons c rest =>
      rcases List.eq_nil_or_concat rest with rfl | ⟨middle, d, rfl⟩
      · simp [hname] at hlength
      · rw [List.concat_eq_append] at hname ⊢
        rw [hname] at hclass hfirst hlast
        rw [← List.cons_append, List.getLast?_concat] at hlast
        refine ⟨c, middle, d, rfl, isLetter_iff.mpr (hfirst c rfl), ?_, ?_⟩
        · intro x hx
          exact hclass x (List.mem_cons_of_mem c (List.mem_append_left [d] hx))
        · rw [isAlphanumeric_iff]
          exact ⟨hclass d (List.mem_cons_of_mem c List.mem_concat_self),
            fun heq => hlast (congrArg some heq)⟩
  · rintro ⟨c, middle, d, hname, hc, hmiddle, hd⟩
    rw [isAlphanumeric_iff] at hd
    constructor
    · rw [← String.length_toList, hname, List.length_cons, List.length_append]
      exact Nat.succ_le_succ (Nat.le_add_left 1 _)
    · intro x hx
      rw [hname, List.mem_cons, List.mem_append, List.mem_singleton] at hx
      rw [← isNameChar_iff]
      rcases hx with rfl | hx | rfl
      · rw [isNameChar, hc, Bool.true_or, Bool.true_or]
      · exact hmiddle x hx
      · exact hd.1
    · intro x hx
      rw [hname] at hx
      cases hx
      exact isLetter_iff.mp hc
    · rw [hname, ← List.cons_append, List.getLast?_concat]
      exact fun heq => hd.2 (Option.some.inj heq)

theorem isValid_iff_obeys {name : String} : isValid name = true ↔ Obeys name := by
  rw [obeys_iff, isValid]
  cases name.toList with
  | nil => simp
  | cons c rest =>
    rcases List.eq_nil_or_concat rest with rfl | ⟨middle, d, rfl⟩
    · simp
    · rw [List.concat_eq_append]
      simp only [List.getLast?_concat, Bool.and_eq_true, List.all_eq_true, List.mem_append,
        List.mem_singleton, bne_iff_ne, List.cons.injEq]
      constructor
      · rintro ⟨⟨hc, hrest⟩, hd⟩
        exact ⟨c, middle, d, ⟨rfl, rfl⟩, hc, fun x hx => hrest x (Or.inl hx),
          isAlphanumeric_iff.mpr ⟨hrest d (Or.inr rfl), hd⟩⟩
      · rintro ⟨c, middle', d', ⟨rfl, hrest⟩, hc, hmiddle, hd⟩
        obtain ⟨rfl, hlast⟩ := List.append_inj' hrest rfl
        obtain rfl := List.singleton_inj.mp hlast
        rw [isAlphanumeric_iff] at hd
        refine ⟨⟨hc, ?_⟩, hd.2⟩
        rintro x (hx | rfl)
        · exact hmiddle x hx
        · exact hd.1

/-- The first letter, the last letter or digit and what is between them are a way to divide the
text among the repetitions, and every other way gives the same characters. -/
theorem foundIn_iff_obeys {name : String} : pattern.FoundIn name.toList ↔ Obeys name := by
  rw [pattern, Pattern.foundIn_anchored_iff, obeys_iff, Pattern.takes_both_iff]
  simp only [Pattern.takes_both_iff, Pattern.takes_some_one_iff, Pattern.takes_many_one_iff]
  constructor
  · rintro ⟨letters, rest, hname, ⟨hne, hletters⟩, middle, ends, rfl, hmiddle, hne', hends⟩
    obtain ⟨c, letters, rfl⟩ := List.exists_cons_of_ne_nil hne
    obtain ⟨ends, d, rfl⟩ := (List.eq_nil_or_concat ends).resolve_left hne'
    rw [List.concat_eq_append] at hname hends
    refine ⟨c, letters ++ (middle ++ ends), d, ?_, hletters c List.mem_cons_self, ?_,
      hends d List.mem_concat_self⟩
    · rw [hname]
      simp
    · intro x hx
      simp only [List.mem_append] at hx
      rcases hx with hx | hx | hx
      · rw [isNameChar, hletters x (List.mem_cons_of_mem c hx), Bool.true_or, Bool.true_or]
      · exact hmiddle x hx
      · exact (isAlphanumeric_iff.mp (hends x (List.mem_append_left [d] hx))).1
  · rintro ⟨c, middle, d, hname, hc, hmiddle, hd⟩
    refine ⟨[c], middle ++ [d], hname, ⟨List.cons_ne_nil c [], ?_⟩, middle, [d], rfl, hmiddle,
      List.cons_ne_nil d [], ?_⟩
    · exact List.forall_mem_singleton.mpr hc
    · exact List.forall_mem_singleton.mpr hd

/-! ## The check of a name -/

theorem check_eq_ok_iff {name : String} {nothing : Unit} :
    check name = .ok nothing ↔ isValid name = true := by
  unfold check
  by_cases hvalid : isValid name = true
  · rw [if_pos hvalid]
    exact iff_of_true rfl hvalid
  · rw [if_neg hvalid]
    exact iff_of_false (by simp) hvalid

theorem check_of_not_obeys {name : String} (hname : ¬ Obeys name) :
    check name = .error (.invalidName name) := by
  rw [← isValid_iff_obeys] at hname
  rw [check, if_neg hname]

/-- Characters that would end a line or mean something in a configuration. -/
def special : List Char :=
  ['\n', '\r', '\x0b', '\x0c', '"', '{', '}', '$']

theorem isNameChar_of_mem_special {c : Char} (hc : c ∈ special) : isNameChar c = false := by
  have hall : special.all (fun c => !isNameChar c) = true := by
    decide
  simpa using List.all_eq_true.mp hall c hc

theorem toNat_lt_of_isNameChar {c : Char} (hc : isNameChar c = true) : c.toNat < 128 := by
  have hbelow : ∀ d : Char, d.toNat < 128 → c ≤ d → c.toNat < 128 :=
    fun d hd hle => Nat.lt_of_le_of_lt hle hd
  rcases isNameChar_iff.mp hc with hletter | hdigit | heq
  · exact hbelow 'z' (by decide) hletter.2
  · exact hbelow '9' (by decide) hdigit.2
  · rw [heq]
    decide

theorem outcome_requireName {σ : Type} (op : Operator σ) (room : Room) (s : σ) (name : String) :
    ((requireName name).run op room s).outcome = check name := by
  unfold requireName
  cases check name with
  | ok nothing => rfl
  | error fault => rfl

/-- A name passes exactly if the pattern is found in it, which is the naming rule, and otherwise the
fault has the name as it is.  No character that a configuration would not take literally
passes. -/
theorem requireName_obeys {σ : Type} (op : Operator σ) (room : Room) (s : σ) (name : String) :
    (((requireName name).run op room s).outcome = .ok () ↔ Obeys name) ∧
      (pattern.FoundIn name.toList ↔ Obeys name) ∧
      (¬ Obeys name → ((requireName name).run op room s).outcome = .error (.invalidName name)) ∧
      (∀ c ∈ name.toList, c ∈ special ∨ 128 ≤ c.toNat →
        ((requireName name).run op room s).outcome = .error (.invalidName name)) := by
  rw [outcome_requireName]
  refine ⟨check_eq_ok_iff.trans isValid_iff_obeys, foundIn_iff_obeys, check_of_not_obeys, ?_⟩
  intro c hc hspecial
  apply check_of_not_obeys
  intro hname
  have hclass : isNameChar c = true := isNameChar_iff.mpr (hname.chars c hc)
  rcases hspecial with hspecial | hspecial
  · exact absurd (hclass.symm.trans (isNameChar_of_mem_special hspecial)) (by decide)
  · exact absurd (toNat_lt_of_isNameChar hclass) (Nat.not_lt.mpr hspecial)

/-- A line feed after a name breaks the rule. -/
theorem nameWithLineFeed_refused :
    '\n' ∈ "web-01\n".toList ∧ '\n' ∈ special ∧ ¬ Obeys "web-01\n" ∧
      ((requireName "web-01\n").run Operator.scripted none []).outcome =
        .error (.invalidName "web-01\n") := by
  obtain ⟨-, -, hrefused, -⟩ := requireName_obeys Operator.scripted none [] "web-01\n"
  have hmem : '\n' ∈ "web-01\n".toList := by
    decide
  have hspecial : '\n' ∈ special := by
    decide
  have hbroken : ¬ Obeys "web-01\n" := by
    intro hname
    have hclass := isNameChar_iff.mpr (hname.chars '\n' hmem)
    exact absurd (hclass.symm.trans (isNameChar_of_mem_special hspecial)) (by decide)
  exact ⟨hmem, hspecial, hbroken, hrefused hbroken⟩

end Name

end CloudLift
