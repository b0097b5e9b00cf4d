import CloudLift.Proofs.Size
import CloudLift.Proofs.Text.Margins
import CloudLift.Proofs.Text.Numeral
import CloudLift.Terraform.Block

/-!
# Quantities

A quantity is read from a raw value in three steps: the pair of quotes around it goes, then
the blanks around what is left, then a plus sign.  Digits must remain, at least one, and
their value must fit in a word.  Each step is described by how its result stands in its
input, and the description leaves no choice, so the steps compose.

A value that cannot be read is reported as it was written, with its quotes and blanks.
-/

namespace CloudLift

open Terraform (quote)

namespace Name

/-- What is left of a value without the pair of quotes around it.  A value without such a pair
is left whole. -/
inductive Unquoted : String → String → Prop
  | quoted (inner : String) : Unquoted (quote inner) inner
  | bare {raw : String} (hbare : ∀ inner, raw ≠ quote inner) : Unquoted raw raw

theorem unquote_quote (inner : String) : unquote (quote inner) = inner := by
  rw [unquote, Terraform.toList_quote, Chars.unquote, if_pos List.getLast?_concat,
    List.dropLast_concat, String.ofList_toList]

theorem Chars.unquote_or (cs : List Char) :
    unquote cs = cs ∨ cs = '"' :: (unquote cs ++ ['"']) := by
  unfold unquote
  split
  case h_1 rest =>
    split
    case isTrue hlast => exact Or.inr (congrArg _ (List.dropLast_append_getLast? _ hlast).symm)
    case isFalse => exact Or.inl rfl
  case h_2 => exact Or.inl rfl

theorem unquote_of_bare {raw : String} (hbare : ∀ inner, raw ≠ quote inner) :
    unquote raw = raw := by
  rcases Chars.unquote_or raw.toList with hwhole | hquoted
  · rw [unquote, hwhole, String.ofList_toList]
  · have hraw : raw = quote (unquote raw) := by
      rw [← String.toList_inj, Terraform.toList_quote, unquote, String.toList_ofList]
      exact hquoted
    exact absurd hraw (hbare _)

theorem unquoted_iff {raw inner : String} : Unquoted raw inner ↔ unquote raw = inner := by
  constructor
  · intro hunquoted
    cases hunquoted with
    | quoted => exact unquote_quote inner
    | bare hbare => exact unquote_of_bare hbare
  · rintro rfl
    by_cases hquoted : ∃ inner, raw = quote inner
    · obtain ⟨inner, rfl⟩ := hquoted
      rw [unquote_quote]
      exact .quoted inner
    · have hbare : ∀ inner, raw ≠ quote inner := not_exists.mp hquoted
      rw [unquote_of_bare hbare]
      exact .bare hbare

theorem bare_of_notMem {raw : String} (hraw : '"' ∉ raw.toList) (inner : String) :
    raw ≠ quote inner := by
  rintro rfl
  rw [Terraform.toList_quote] at hraw
  exact hraw List.mem_cons_self

end Name

theorem Text.isBlank_of_isDigit {c : Char} (hc : c.isDigit = true) : isBlank c = false := by
  have hrange := Chars.toNat_of_isDigit hc
  rw [← Bool.not_eq_true]
  intro hblank
  simp only [isBlank, Bool.or_eq_true, Bool.and_eq_true, decide_eq_true_eq, beq_iff_eq] at hblank
  omega

namespace Quantity

open Text.Chars (NumeralOf Trimmed decimal)

/-- The digits are what a raw value holds, in quotes or not, between blanks or not, and with a
plus sign before them or not. -/
def HoldsDigits (raw : String) (digits : List Char) : Prop :=
  ∃ inner core, Name.Unquoted raw inner ∧ Trimmed inner.toList core ∧ NumeralOf core digits

theorem holdsDigits_iff {raw : String} {digits : List Char} :
    HoldsDigits raw digits ↔ NumeralOf (Text.trim (Name.unquote raw)).toList digits := by
  simp only [HoldsDigits, Name.unquoted_iff, Text.Chars.trimmed_iff, Text.toList_trim,
    exists_eq_left', exists_and_left]

/-- The decimal of a number with zeros before it, between blanks. -/
def padded (front : String) (zeros n : Nat) (back : String) : String :=
  front ++ (String.ofList (List.replicate zeros '0') ++ toString n ++ back)

section Padded

variable {front back : String}

theorem toList_padded (front : String) (zeros n : Nat) (back : String) :
    (padded front zeros n back).toList =
      front.toList ++ (List.replicate zeros '0' ++ decimal n ++ back.toList) := by
  simp [padded, decimal]

theorem trimmed_padded (hblank : ∀ c ∈ (front ++ back).toList, Text.isBlank c = true)
    (zeros n : Nat) :
    Trimmed (padded front zeros n back).toList (List.replicate zeros '0' ++ decimal n) := by
  obtain ⟨-, -, hdigits⟩ := Text.Chars.numeralOf_zeros zeros n
  rw [String.toList_append] at hblank
  refine ⟨⟨front.toList, back.toList, toList_padded front zeros n back, hblank⟩, ?_, ?_⟩
  · intro c hc
    exact Text.isBlank_of_isDigit (hdigits c (List.mem_of_head? hc))
  · intro c hc
    exact Text.isBlank_of_isDigit (hdigits c (List.mem_of_getLast? hc))

/-- Without quotes around it a padded number has no quote at all. -/
theorem bare_padded (hblank : ∀ c ∈ (front ++ back).toList, Text.isBlank c = true)
    (zeros n : Nat) (inner : String) : padded front zeros n back ≠ quote inner := by
  obtain ⟨-, -, hdigits⟩ := Text.Chars.numeralOf_zeros zeros n
  rw [String.toList_append, List.forall_mem_append] at hblank
  apply Name.bare_of_notMem
  rw [toList_padded, List.mem_append, List.mem_append]
  rintro (hquote | hquote | hquote)
  · exact absurd (hblank.1 _ hquote) (by decide)
  · exact absurd (hdigits _ hquote) (by decide)
  · exact absurd (hblank.2 _ hquote) (by decide)

theorem holdsDigits_padded (hblank : ∀ c ∈ (front ++ back).toList, Text.isBlank c = true)
    (zeros n : Nat) {raw : String} (hraw : Name.Unquoted raw (padded front zeros n back)) :
    HoldsDigits raw (List.replicate zeros '0' ++ decimal n) :=
  ⟨_, _, hraw, trimmed_padded hblank zeros n, Text.Chars.numeralOf_zeros zeros n⟩

end Padded

end Quantity

namespace Machine

open Quantity (HoldsDigits holdsDigits_iff padded)
open Text.Chars (accumulate? placeValue)

theorem readQuantity_eq_ok_iff_of_digits {machine : Machine} {quantity : Quantity} {raw : String}
    {n : Nat} :
    machine.readQuantity quantity raw = .ok n ↔
      ∃ digits, HoldsDigits raw digits ∧ placeValue digits = n ∧ n < 2 ^ 64 := by
  rw [readQuantity_eq_ok_iff, Text.numeralBelow?_eq_some_iff_of_digits, Text.wordBound_eq]
  simp only [holdsDigits_iff]

theorem readQuantity_eq_ok_iff_accumulate {machine : Machine} {quantity : Quantity}
    {raw : String} {n : Nat} :
    machine.readQuantity quantity raw = .ok n ↔
      ∃ digits, HoldsDigits raw digits ∧ accumulate? 0 digits = some n := by
  rw [readQuantity_eq_ok_iff_of_digits]
  simp only [Text.Chars.accumulate?_eq_some_iff, Text.wordBound_eq]

theorem readQuantity_eq_error_iff_of_digits {machine : Machine} {quantity : Quantity}
    {raw : String} {fault : Fault} :
    machine.readQuantity quantity raw = .error fault ↔
      (¬∃ digits, HoldsDigits raw digits ∧ placeValue digits < 2 ^ 64) ∧
        fault = .numericFormat quantity raw machine.reference := by
  have hread : (∃ n, machine.readQuantity quantity raw = .ok n) ↔
      ∃ digits, HoldsDigits raw digits ∧ placeValue digits < 2 ^ 64 := by
    simp only [readQuantity_eq_ok_iff_of_digits]
    constructor
    · rintro ⟨n, digits, hholds, rfl, hfits⟩
      exact ⟨digits, hholds, hfits⟩
    · rintro ⟨digits, hholds, hfits⟩
      exact ⟨_, digits, hholds, rfl, hfits⟩
  rw [← hread, readQuantity_eq_error_iff]
  simp only [readQuantity_eq_ok_iff, not_exists, Option.eq_none_iff_forall_ne_some, ne_eq]

theorem readQuantity_of_padded {machine : Machine} {quantity : Quantity} {front back : String}
    (hblank : ∀ c ∈ (front ++ back).toList, Text.isBlank c = true) (zeros : Nat) {n : Nat}
    (hn : n < 2 ^ 64) {raw : String} (hraw : Name.Unquoted raw (padded front zeros n back)) :
    machine.readQuantity quantity raw = .ok n := by
  rw [readQuantity_eq_ok_iff_of_digits]
  refine ⟨_, Quantity.holdsDigits_padded hblank zeros n hraw, ?_, hn⟩
  rw [← Text.Chars.numeralFrom_eq_placeValue, Text.Chars.numeralFrom_zeros,
    Text.Chars.numeralFrom_decimal]

/-- A value is read as a number exactly if it holds digits that have this number by their places
and the number fits in a word, and also exactly if the digits add up to it without leaving the
word at any of them.  Every other value is reported as it is, with the machine that has it.  So a
number that fits can be written bare or in quotes, and in quotes with zeros and blanks
around it. -/
theorem readQuantity_exact (machine : Machine) (quantity : Quantity) :
    (∀ raw n, machine.readQuantity quantity raw = .ok n ↔
      ∃ digits, HoldsDigits raw digits ∧ placeValue digits = n ∧ n < 2 ^ 64) ∧
    (∀ raw n, machine.readQuantity quantity raw = .ok n ↔
      ∃ digits, HoldsDigits raw digits ∧ accumulate? 0 digits = some n) ∧
    (∀ raw fault, machine.readQuantity quantity raw = .error fault ↔
      (¬∃ digits, HoldsDigits raw digits ∧ placeValue digits < 2 ^ 64) ∧
        fault = .numericFormat quantity raw machine.reference) ∧
    ∀ n, n < 2 ^ 64 →
      machine.readQuantity quantity (toString n) = .ok n ∧
      machine.readQuantity quantity (quote (toString n)) = .ok n ∧
      ∀ front zeros back, (∀ c ∈ (front ++ back).toList, Text.isBlank c = true) →
        machine.readQuantity quantity (quote (padded front zeros n back)) = .ok n := by
  refine ⟨fun raw n => readQuantity_eq_ok_iff_of_digits,
    fun raw n => readQuantity_eq_ok_iff_accumulate,
    fun raw fault => readQuantity_eq_error_iff_of_digits, ?_⟩
  intro n hn
  have hempty : ∀ c ∈ ("" ++ "").toList, Text.isBlank c = true := List.forall_mem_nil _
  have hplain : padded "" 0 n "" = toString n := by
    simp [padded]
  refine ⟨?_, ?_, ?_⟩
  · rw [← hplain]
    exact readQuantity_of_padded hempty 0 hn (.bare (Quantity.bare_padded hempty 0 n))
  · rw [← hplain]
    exact readQuantity_of_padded hempty 0 hn (.quoted _)
  · intro front zeros back hblank
    exact readQuantity_of_padded hblank zeros hn (.quoted _)

/-- The largest number in a word can be padded, and the next number is too large. -/
theorem largestWord_read :
    2 ^ 64 - 1 < 2 ^ 64 ∧ (∀ c ∈ ("\t" ++ " ").toList, Text.isBlank c = true) ∧
      quote (padded "\t" 2 (2 ^ 64 - 1) " ") = "\"\t0018446744073709551615 \"" ∧
      (named "\"vm\"").readQuantity .memory "\"\t0018446744073709551615 \"" =
        .ok (2 ^ 64 - 1) ∧
      (named "\"vm\"").readQuantity .memory "+18446744073709551616" =
        .error (.numericFormat .memory "+18446744073709551616" "\"vm\"") := by
  obtain ⟨-, -, hfault, hnumber⟩ := readQuantity_exact (named "\"vm\"") .memory
  have hfits : 2 ^ 64 - 1 < 2 ^ 64 := by decide
  have hblank : ∀ c ∈ ("\t" ++ " ").toList, Text.isBlank c = true :=
    List.all_eq_true.mp (by decide)
  have hraw : quote (padded "\t" 2 (2 ^ 64 - 1) " ") = "\"\t0018446744073709551615 \"" := by
    decide +kernel
  refine ⟨hfits, hblank, hraw, ?_, ?_⟩
  · rw [← hraw]
    exact (hnumber _ hfits).2.2 "\t" 2 " " hblank
  · refine (hfault _ _).mpr ⟨?_, rfl⟩
    rintro ⟨digits, hholds, hsmall⟩
    -- The value holds no digits but those behind the sign.
    rw [← (holdsDigits_iff.mp hholds).dropPlus_eq] at hsmall
    exact absurd hsmall (by decide +kernel)

end Machine

end CloudLift
