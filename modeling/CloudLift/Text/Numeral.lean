/-!
# Decimal numerals

A numeral is a run of ASCII digits, with a plus sign before it or not and with any
number of leading zeros.  Reading is bounded: a numeral whose value does not fit
below the bound is refused.
-/

namespace CloudLift.Text

namespace Chars

/-- The value of a run of digits, most significant first, after `value`. -/
def numeralFrom (value : Nat) : List Char → Nat
  | [] => value
  | c :: cs => numeralFrom (value * 10 + (c.toNat - '0'.toNat)) cs

def dropPlus : List Char → List Char
  | '+' :: cs => cs
  | cs => cs

/-- The value of a numeral, if the text is one. -/
def numeral? (cs : List Char) : Option Nat :=
  let digits := dropPlus cs
  if digits ≠ [] ∧ digits.all Char.isDigit then
    some (numeralFrom 0 digits)
  else
    none

end Chars

/-- The value of a numeral below `bound`. -/
def numeralBelow? (bound : Nat) (s : String) : Option Nat :=
  (Chars.numeral? s.toList).filter fun n => n < bound

/-- Quantities and choices are numbers of 64 bits. -/
def wordBound : Nat := 0x10000000000000000

theorem wordBound_pos : 0 < wordBound := by
  decide

theorem lt_of_numeralBelow? {bound n : Nat} {s : String}
    (h : numeralBelow? bound s = some n) : n < bound := by
  simpa using (Option.filter_eq_some_iff.1 h).2

end CloudLift.Text
