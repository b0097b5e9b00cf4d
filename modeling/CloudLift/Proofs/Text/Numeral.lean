import CloudLift.Text.Numeral
import Mathlib.Data.List.Basic
import Mathlib.Data.List.Induction
import Mathlib.Data.Nat.Digits.Defs

/-!
# What is read as a number

The usual decimal of a number has no sign and no zero before another digit.  Every run of
digits is the decimal of its value with zeros before it, so a numeral is a decimal with any
number of zeros before it, and before those a plus sign or nothing.

The value of a run of digits is the one that their places give them.  It never shrinks from
one digit to the next, so it fits in a word exactly if no digit on the way takes it out of
the word.
-/

namespace CloudLift.Text.Chars

/-- The decimal of a number. -/
def decimal (n : Nat) : List Char :=
  (toString n).toList

theorem decimal_eq_toDigits (n : Nat) : decimal n = Nat.toDigits 10 n := by
  rw [decimal, Nat.toString_eq_repr, Nat.toList_repr]

theorem decimal_ne_nil (n : Nat) : decimal n ≠ [] := by
  rw [decimal_eq_toDigits]
  exact Nat.toDigits_ne_nil

theorem isDigit_of_mem_decimal {n : Nat} {c : Char} (hc : c ∈ decimal n) : c.isDigit = true := by
  rw [decimal_eq_toDigits] at hc
  exact Nat.isDigit_of_mem_toDigits (by decide) (by decide) hc

/-! ## Values of digits -/

theorem numeralFrom_cons (value : Nat) (c : Char) (cs : List Char) :
    numeralFrom value (c :: cs) = numeralFrom (value * 10 + (c.toNat - '0'.toNat)) cs := by
  rw [numeralFrom.eq_def]

theorem numeralFrom_eq_ofDigitChars (value : Nat) (cs : List Char) :
    numeralFrom value cs = Nat.ofDigitChars 10 cs value := by
  induction cs generalizing value with
  | nil => rfl
  | cons c cs ih => rw [numeralFrom_cons, ih, Nat.ofDigitChars_cons, Nat.mul_comm]

theorem numeralFrom_decimal (n : Nat) : numeralFrom 0 (decimal n) = n := by
  rw [numeralFrom_eq_ofDigitChars, decimal_eq_toDigits, Nat.ofDigitChars_ten_toDigits]

theorem numeralFrom_zeros (zeros : Nat) (cs : List Char) :
    numeralFrom 0 (List.replicate zeros '0' ++ cs) = numeralFrom 0 cs := by
  induction zeros with
  | zero => rfl
  | succ zeros ih =>
    rw [List.replicate_succ, List.cons_append, numeralFrom_cons, Nat.sub_self]
    exact ih

theorem numeralFrom_concat (value : Nat) (cs : List Char) (c : Char) :
    numeralFrom value (cs ++ [c]) = numeralFrom value cs * 10 + (c.toNat - '0'.toNat) := by
  induction cs generalizing value with
  | nil => rfl
  | cons d cs ih => rw [List.cons_append, numeralFrom_cons, ih, numeralFrom_cons]

/-- The value that the digits have by their places, the last one being the place of the ones. -/
def placeValue (digits : List Char) : Nat :=
  Nat.ofDigits 10 (digits.reverse.map fun c => c.toNat - '0'.toNat)

theorem numeralFrom_eq_placeValue (digits : List Char) :
    numeralFrom 0 digits = placeValue digits := by
  induction digits using List.reverseRecOn with
  | nil => rfl
  | append_singleton digits c ih =>
    rw [numeralFrom_concat, ih, placeValue, placeValue, List.reverse_append,
      List.reverse_singleton, List.singleton_append, List.map_cons, Nat.ofDigits_cons,
      Nat.mul_comm, Nat.add_comm]

theorem le_numeralFrom (value : Nat) (cs : List Char) : value ≤ numeralFrom value cs := by
  induction cs generalizing value with
  | nil => exact Nat.le_refl value
  | cons c cs ih =>
    have hnext := ih (value * 10 + (c.toNat - '0'.toNat))
    rw [numeralFrom_cons]
    omega

theorem toNat_of_isDigit {c : Char} (hc : c.isDigit = true) : 48 ≤ c.toNat ∧ c.toNat ≤ 57 := by
  rw [Char.isDigit, Bool.and_eq_true, decide_eq_true_eq, decide_eq_true_eq] at hc
  exact hc

theorem digitChar_of_isDigit {c : Char} (hc : c.isDigit = true) :
    c.toNat - '0'.toNat < 10 ∧ Nat.digitChar (c.toNat - '0'.toNat) = c := by
  have hrange := toNat_of_isDigit hc
  have hzero : '0'.toNat = 48 := rfl
  have hbelow : c.toNat - '0'.toNat < 10 := by omega
  refine ⟨hbelow, Char.toNat_inj.mp ?_⟩
  rw [Nat.toNat_digitChar_of_lt_ten hbelow]
  omega

/-- Digits after the decimal of a number that is not zero make the decimal of a larger one. -/
theorem decimal_append {value : Nat} (hvalue : 0 < value) {cs : List Char}
    (hcs : ∀ c ∈ cs, c.isDigit = true) : decimal value ++ cs = decimal (numeralFrom value cs) := by
  induction cs generalizing value with
  | nil => exact List.append_nil _
  | cons c cs ih =>
    rw [List.forall_mem_cons] at hcs
    have hdigit := digitChar_of_isDigit hcs.1
    have hnext : decimal value ++ [c] = decimal (value * 10 + (c.toNat - '0'.toNat)) := by
      rw [decimal_eq_toDigits, decimal_eq_toDigits, Nat.mul_comm,
        ← Nat.toDigits_append_toDigits (by decide) hvalue hdigit.1,
        Nat.toDigits_of_lt_base hdigit.1, hdigit.2]
    rw [numeralFrom_cons, ← ih (by omega) hcs.2, ← hnext, List.append_assoc, List.singleton_append]

theorem exists_zeros {cs : List Char} (hne : cs ≠ []) (hcs : ∀ c ∈ cs, c.isDigit = true) :
    ∃ zeros, cs = List.replicate zeros '0' ++ decimal (numeralFrom 0 cs) := by
  induction cs with
  | nil => exact absurd rfl hne
  | cons c cs ih =>
    rw [List.forall_mem_cons] at hcs
    have hdigit := digitChar_of_isDigit hcs.1
    have hfirst : decimal (c.toNat - '0'.toNat) = [c] := by
      rw [decimal_eq_toDigits, Nat.toDigits_of_lt_base hdigit.1, hdigit.2]
    by_cases hrest : cs = []
    · refine ⟨0, ?_⟩
      have hvalue : numeralFrom 0 [c] = c.toNat - '0'.toNat := Nat.zero_add _
      rw [hrest, hvalue, hfirst]
      rfl
    by_cases hzero : c.toNat - '0'.toNat = 0
    · obtain ⟨zeros, hzeros⟩ := ih hrest hcs.2
      have hc : c = '0' := by
        rw [← hdigit.2, hzero]
        rfl
      refine ⟨zeros + 1, ?_⟩
      have hvalue : numeralFrom 0 ('0' :: cs) = numeralFrom 0 cs := rfl
      rw [hc, hvalue, List.replicate_succ, List.cons_append, ← hzeros]
    · refine ⟨0, ?_⟩
      rw [numeralFrom_cons, Nat.zero_mul, Nat.zero_add, ← decimal_append (by omega) hcs.2, hfirst]
      rfl

/-- The decimal of a number has no zero before another digit. -/
theorem decimal_ne_zero_cons {n : Nat} {c : Char} {cs : List Char} : decimal n ≠ '0' :: c :: cs := by
  intro hn
  have hdigits : ∀ d ∈ c :: cs, d.isDigit = true := by
    intro d hd
    apply isDigit_of_mem_decimal (n := n)
    rw [hn]
    exact List.mem_cons_of_mem _ hd
  have hvalue : numeralFrom 0 (c :: cs) = n := by
    rw [← numeralFrom_decimal n, hn]
    rfl
  obtain ⟨zeros, hzeros⟩ := exists_zeros (List.cons_ne_nil c cs) hdigits
  rw [hvalue, hn] at hzeros
  have hlength := congrArg List.length hzeros
  simp only [List.length_append, List.length_cons] at hlength
  omega

/-! ## Numerals -/

theorem dropPlus_of_isDigit {cs : List Char} (hcs : ∀ c ∈ cs, c.isDigit = true) :
    dropPlus cs = cs := by
  unfold dropPlus
  split
  case h_1 rest =>
    have hplus : '+'.isDigit = true := hcs '+' List.mem_cons_self
    exact absurd hplus (by decide)
  case h_2 => rfl

theorem eq_dropPlus_or (cs : List Char) : cs = dropPlus cs ∨ cs = '+' :: dropPlus cs := by
  unfold dropPlus
  split
  case h_1 rest => exact Or.inr rfl
  case h_2 => exact Or.inl rfl

/-- The text is the digits, with a plus sign before them or not. -/
structure NumeralOf (cs digits : List Char) : Prop where
  signed : cs = digits ∨ cs = '+' :: digits
  nonempty : digits ≠ []
  isDigit : ∀ c ∈ digits, c.isDigit = true

theorem NumeralOf.dropPlus_eq {cs digits : List Char} (hdigits : NumeralOf cs digits) :
    dropPlus cs = digits := by
  rcases hdigits.signed with hcs | hcs
  · rw [hcs, dropPlus_of_isDigit hdigits.isDigit]
  · rw [hcs]
    rfl

theorem numeral?_eq_some_iff_of_digits {cs : List Char} {n : Nat} :
    numeral? cs = some n ↔ ∃ digits, NumeralOf cs digits ∧ numeralFrom 0 digits = n := by
  constructor
  · intro hnumeral
    rw [numeral?, Option.ite_none_right_eq_some] at hnumeral
    obtain ⟨⟨hne, hall⟩, hvalue⟩ := hnumeral
    exact ⟨dropPlus cs, ⟨eq_dropPlus_or cs, hne, List.all_eq_true.mp hall⟩,
      Option.some.inj hvalue⟩
  · rintro ⟨digits, hdigits, rfl⟩
    have hread : dropPlus cs ≠ [] ∧ (dropPlus cs).all Char.isDigit = true := by
      rw [hdigits.dropPlus_eq]
      exact ⟨hdigits.nonempty, List.all_eq_true.mpr hdigits.isDigit⟩
    rw [numeral?, if_pos hread, hdigits.dropPlus_eq]

/-- What stands before the decimal in a numeral. -/
def IsLead (lead : List Char) : Prop :=
  ∃ zeros, lead = List.replicate zeros '0' ∨ lead = '+' :: List.replicate zeros '0'

/-- Zeros and a decimal are digits. -/
theorem numeralOf_zeros (zeros n : Nat) :
    NumeralOf (List.replicate zeros '0' ++ decimal n) (List.replicate zeros '0' ++ decimal n) := by
  refine ⟨Or.inl rfl, ?_, ?_⟩
  · intro hnil
    exact decimal_ne_nil n (List.append_eq_nil_iff.mp hnil).2
  · intro c hc
    rcases List.mem_append.mp hc with hc | hc
    · rw [List.eq_of_mem_replicate hc]
      decide
    · exact isDigit_of_mem_decimal hc

theorem numeral?_lead {lead : List Char} (hlead : IsLead lead) (n : Nat) :
    numeral? (lead ++ decimal n) = some n := by
  obtain ⟨zeros, hlead⟩ := hlead
  obtain ⟨-, hne, hdigits⟩ := numeralOf_zeros zeros n
  rw [numeral?_eq_some_iff_of_digits]
  refine ⟨List.replicate zeros '0' ++ decimal n, ⟨?_, hne, hdigits⟩, ?_⟩
  · rcases hlead with rfl | rfl
    · exact Or.inl rfl
    · exact Or.inr rfl
  · rw [numeralFrom_zeros, numeralFrom_decimal]

theorem numeral?_eq_some_iff {cs : List Char} {n : Nat} :
    numeral? cs = some n ↔ ∃ lead, IsLead lead ∧ cs = lead ++ decimal n := by
  constructor
  · intro hnumeral
    obtain ⟨digits, ⟨hcs, hne, hdigits⟩, rfl⟩ := numeral?_eq_some_iff_of_digits.mp hnumeral
    obtain ⟨zeros, hzeros⟩ := exists_zeros hne hdigits
    rcases hcs with hcs | hcs
    · exact ⟨_, ⟨zeros, Or.inl rfl⟩, hcs.trans hzeros⟩
    · exact ⟨_, ⟨zeros, Or.inr rfl⟩, hcs.trans (congrArg _ hzeros)⟩
  · rintro ⟨lead, hlead, rfl⟩
    exact numeral?_lead hlead n

/-! ## Numbers in a word -/

def fitting? (n : Nat) : Option Nat :=
  if n < wordBound then some n else none

/-- The value of the digits after `value`, with every product and every sum kept in a word. -/
def accumulate? (value : Nat) : List Char → Option Nat
  | [] => some value
  | c :: cs =>
    (fitting? (value * 10)).bind fun shifted =>
      (fitting? (shifted + (c.toNat - '0'.toNat))).bind fun next => accumulate? next cs

theorem accumulate?_eq {value : Nat} (hvalue : value < wordBound) (cs : List Char) :
    accumulate? value cs = fitting? (numeralFrom value cs) := by
  induction cs generalizing value with
  | nil => exact (if_pos hvalue).symm
  | cons c cs ih =>
    rw [numeralFrom_cons, accumulate?]
    by_cases hnext : value * 10 + (c.toNat - '0'.toNat) < wordBound
    · have hshifted : value * 10 < wordBound := by omega
      rw [fitting?, if_pos hshifted, Option.bind_some, fitting?, if_pos hnext, Option.bind_some,
        ih hnext]
    · -- What has left the word at this digit stays out of it.
      have hgrown := le_numeralFrom (value * 10 + (c.toNat - '0'.toNat)) cs
      have hlarge : fitting? (numeralFrom (value * 10 + (c.toNat - '0'.toNat)) cs) = none :=
        if_neg (by omega)
      rw [hlarge]
      by_cases hshifted : value * 10 < wordBound
      · rw [fitting?, if_pos hshifted, Option.bind_some, fitting?, if_neg hnext, Option.bind_none]
      · rw [fitting?, if_neg hshifted, Option.bind_none]

theorem accumulate?_eq_some_iff {digits : List Char} {n : Nat} :
    accumulate? 0 digits = some n ↔ placeValue digits = n ∧ n < wordBound := by
  rw [accumulate?_eq wordBound_pos, numeralFrom_eq_placeValue, fitting?,
    Option.ite_none_right_eq_some, Option.some.injEq, and_comm]
  apply and_congr_right
  rintro rfl
  exact Iff.rfl

end CloudLift.Text.Chars

namespace CloudLift.Text

open Chars (IsLead NumeralOf decimal placeValue)

theorem wordBound_eq : wordBound = 2 ^ 64 := by
  decide

theorem numeralBelow?_eq_some_iff {bound n : Nat} {text : String} :
    numeralBelow? bound text = some n ↔
      n < bound ∧ ∃ lead, IsLead lead ∧ text.toList = lead ++ decimal n := by
  rw [numeralBelow?, Option.filter_eq_some_iff, Chars.numeral?_eq_some_iff, decide_eq_true_eq]
  exact and_comm

theorem numeralBelow?_eq_some_iff_of_digits {bound n : Nat} {text : String} :
    numeralBelow? bound text = some n ↔
      ∃ digits, NumeralOf text.toList digits ∧ placeValue digits = n ∧ n < bound := by
  rw [numeralBelow?, Option.filter_eq_some_iff, Chars.numeral?_eq_some_iff_of_digits,
    decide_eq_true_eq]
  simp only [Chars.numeralFrom_eq_placeValue, ← and_assoc, exists_and_right]

end CloudLift.Text
