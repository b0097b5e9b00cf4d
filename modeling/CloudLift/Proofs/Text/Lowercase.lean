import CloudLift.Text.Lowercase
import Mathlib.Data.List.Basic

/-!
# What lower case keeps

The mapping is made character by character, but for the capital sigma, which looks at the
characters around it.  Three things follow from the table of the mapping.  No character is
mapped to a mark such as an underscore or a quote, since the first image of the table is the
letter `a`.  A hyphen at the end stays there, and it does not change what stands before it,
because it is neither cased nor ignored.  Among the ASCII characters only the capital letters
move.
-/

namespace CloudLift.Text.Chars

/-! ## Single characters -/

theorem toNat_ofNat (n : Nat) : (Char.ofNat n).toNat = if n.isValidChar then n else 0 := by
  unfold Char.ofNat
  by_cases hvalid : n.isValidChar
  · rw [dif_pos hvalid, if_pos hvalid]
    rfl
  · rw [dif_neg hvalid, if_neg hvalid]
    rfl

theorem toNat_toLower (c : Char) :
    c.toLower.toNat = if 0x41 ≤ c.toNat ∧ c.toNat ≤ 0x5A then c.toNat + 0x20 else c.toNat := by
  have hrange : (c.val ≥ 'A'.val ∧ c.val ≤ 'Z'.val) ↔ 0x41 ≤ c.toNat ∧ c.toNat ≤ 0x5A := Iff.rfl
  unfold Char.toLower
  by_cases hcapital : 0x41 ≤ c.toNat ∧ c.toNat ≤ 0x5A
  · have hsum : (c.val + ('a'.val - 'A'.val)).toNat = c.toNat + 0x20 := by
      have hdistance : ('a'.val - 'A'.val).toNat = 0x20 := rfl
      have hbound : c.toNat + 0x20 < 2 ^ 32 := by omega
      rw [UInt32.toNat_add, hdistance]
      exact Nat.mod_eq_of_lt hbound
    rw [if_pos hcapital, dif_pos (hrange.mpr hcapital)]
    exact hsum
  · rw [if_neg hcapital, dif_neg (fun h => hcapital (hrange.mp h))]

theorem lowercaseRuns_eq_cons :
    lowercaseRuns = ⟨0x41, 0x5A, 1, 0x61⟩ :: lowercaseRuns.tail := rfl

theorem le_first_of_mem_tail : ∀ run ∈ lowercaseRuns.tail, 0x80 ≤ run.first := by
  decide +kernel

theorem le_target_of_mem : ∀ run ∈ lowercaseRuns, 0x61 ≤ run.target := by
  decide +kernel

theorem lowerChar_of_ascii {c : Char} (hc : c.toNat < 0x80) : lowerChar c = c.toLower := by
  have hrest : (lowercaseRuns.tail.findSome? fun run => run.image? c.toNat) = none := by
    rw [List.findSome?_eq_none_iff]
    intro run hrun
    have hfirst := le_first_of_mem_tail run hrun
    exact if_neg (by omega)
  rw [lowerChar, lowercaseRuns_eq_cons, List.findSome?_cons, hrest, CaseRun.image?,
    ← Char.toNat_inj, toNat_toLower]
  by_cases hcapital : 0x41 ≤ c.toNat ∧ c.toNat ≤ 0x5A
  · have hvalid : (0x61 + (c.toNat - 0x41)).isValidChar := .inl (by omega)
    have hvalue : 0x61 + (c.toNat - 0x41) = c.toNat + 0x20 := by omega
    rw [if_pos ⟨hcapital.1, hcapital.2, Nat.mod_one _⟩, if_pos hcapital]
    dsimp only
    rw [toNat_ofNat, if_pos hvalid, hvalue]
  · rw [if_neg fun h => hcapital ⟨h.1, h.2.1⟩, if_neg hcapital]

/-- What comes before the letter `a` is the image of itself alone. -/
theorem eq_of_lowerChar_eq {c mark : Char} (hmark : mark.toNat ≠ 0) (hbelow : mark.toNat < 0x61)
    (hlower : lowerChar c = mark) : c = mark := by
  rw [lowerChar] at hlower
  cases himage : lowercaseRuns.findSome? fun run => run.image? c.toNat with
  | none =>
    rw [himage] at hlower
    exact hlower
  | some n =>
    rw [himage] at hlower
    obtain ⟨run, hrun, hn⟩ := List.exists_of_findSome?_eq_some himage
    have htarget := le_target_of_mem run hrun
    have hle : 0x61 ≤ n := by
      rw [CaseRun.image?, Option.ite_none_right_eq_some, Option.some.injEq] at hn
      omega
    have hvalue : (Char.ofNat n).toNat = mark.toNat := congrArg Char.toNat hlower
    rw [toNat_ofNat] at hvalue
    split at hvalue <;> omega

/-! ## Whole texts -/

theorem mem_of_mem_lowercaseAfter {mark : Char} (hmark : mark.toNat ≠ 0)
    (hbelow : mark.toNat < 0x61) {before cs : List Char}
    (hmem : mark ∈ lowercaseAfter before cs) : mark ∈ cs := by
  induction cs generalizing before with
  | nil => cases hmem
  | cons c cs ih =>
    rw [lowercaseAfter, List.mem_append] at hmem
    rcases hmem with himage | hrest
    · have hne : ∀ letter : Char, 0x61 ≤ letter.toNat → mark ≠ letter := by
        rintro letter hletter rfl
        omega
      split at himage
      · rcases List.mem_cons.mp himage with heq | hdot
        · exact absurd heq (hne 'i' (by decide))
        · exact absurd (List.mem_singleton.mp hdot) (hne '\u0307' (by decide))
      split at himage
      · rw [List.mem_singleton] at himage
        split at himage
        · exact absurd himage (hne 'ς' (by decide))
        · exact absurd himage (hne 'σ' (by decide))
      · rw [List.mem_singleton] at himage
        rw [eq_of_lowerChar_eq hmark hbelow himage.symm]
        exact List.mem_cons_self
    · exact List.mem_cons_of_mem _ (ih hrest)

theorem leadsToCased_concat_hyphen (cs : List Char) :
    leadsToCased (cs ++ ['-']) = leadsToCased cs := by
  have hignorable : isCaseIgnorable '-' = false := by decide +kernel
  have hcased : isCased '-' = false := by decide +kernel
  have hhyphen : ['-'].dropWhile isCaseIgnorable = ['-'] := by simp [hignorable]
  rw [leadsToCased, leadsToCased, List.dropWhile_append, hhyphen]
  cases cs.dropWhile isCaseIgnorable with
  | nil => exact hcased
  | cons c rest => rfl

theorem lowercaseAfter_concat_hyphen (before cs : List Char) :
    lowercaseAfter before (cs ++ ['-']) = lowercaseAfter before cs ++ ['-'] := by
  induction cs generalizing before with
  | nil =>
    have hhyphen : lowerChar '-' = '-' := lowerChar_of_ascii (by decide)
    simp [lowercaseAfter, hhyphen]
  | cons c cs ih =>
    rw [List.cons_append, lowercaseAfter, lowercaseAfter, leadsToCased_concat_hyphen, ih,
      List.append_assoc]

theorem lowercaseAfter_of_ascii {cs : List Char} (hcs : ∀ c ∈ cs, c.toNat < 0x80)
    (before : List Char) : lowercaseAfter before cs = cs.map Char.toLower := by
  induction cs generalizing before with
  | nil => rfl
  | cons c cs ih =>
    rw [List.forall_mem_cons] at hcs
    have hdotted : c ≠ 'İ' := by
      rintro rfl
      exact absurd hcs.1 (by decide)
    have hsigma : c ≠ 'Σ' := by
      rintro rfl
      exact absurd hcs.1 (by decide)
    rw [lowercaseAfter, if_neg hdotted, if_neg hsigma, lowerChar_of_ascii hcs.1, ih hcs.2]
    rfl

end CloudLift.Text.Chars
