import CloudLift.Interaction
import CloudLift.Text.Numeral

/-!
# Operators without a terminal

An operator whose answers are given beforehand, and one who always says the same.
-/

namespace CloudLift

/-- The position that an answer chooses among `size` options, which are numbered from
one. -/
def choice? (size : Nat) (answer : String) : Option Nat :=
  match Text.numeralBelow? Text.wordBound answer with
  | some n => if 1 ≤ n ∧ n ≤ size then some (n - 1) else none
  | none => none

namespace Operator

/-- Gives the answers of a list, one a question. -/
def scripted : Operator (List String) where
  ask question
    | [] => (.error (.noAnswer question), [])
    | answer :: answers => (.ok answer, answers)
  choose question options
    | [] => (.error (.noAnswer question), [])
    | answer :: answers =>
      match choice? options.length answer with
      | some choice => (.ok choice, answers)
      | none => (.error (.notAChoice answer question), answers)
  patience := List.length

/-- Gives one answer to every question and makes one choice, which may lie outside
the options. -/
def constant (answer : String) (choice : Nat) : Operator Unit where
  ask _ _ := (.ok answer, ())
  choose _ _ _ := (.ok choice, ())
  patience _ := 0

end Operator

end CloudLift
