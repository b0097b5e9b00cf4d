import CloudLift.Proofs.Generate.Steps
import CloudLift.Proofs.Text.Numeral
import Mathlib.Algebra.BigOperators.Group.List.Basic
import Mathlib.Algebra.GroupWithZero.Nat
import Mathlib.Data.List.Forall2

/-!
# The scale of a group

A group has as many instances as its machines stand for together.  The machines are counted
one after the other, and the count ends at the first machine whose number cannot be read or
makes the sum too large for a word.

Whether there is such a machine does not depend on the order, because the sum only grows:
it fits at every machine exactly if it fits at the last one.  Which machine it is does
depend on the order, and so does the fault.
-/

namespace CloudLift

namespace Machine

/-- The machine stands for as many instances as its count says, or for one. -/
def StandsFor (machine : Machine) (n : Nat) : Prop :=
  match machine.attribute? Quantity.count.key with
  | none => n = 1
  | some raw => machine.readQuantity .count raw = .ok n

/-- After machines that stand for `before` instances the count ends at the machine. -/
def EndsCount (machine : Machine) (before : Nat) : Prop :=
  (¬∃ n, machine.StandsFor n) ∨ ∃ n, machine.StandsFor n ∧ 2 ^ 64 ≤ before + n

theorem standsFor_iff {machine : Machine} {n : Nat} :
    machine.StandsFor n ↔ machine.count? = some n := by
  rw [← count_eq_ok_iff]
  unfold StandsFor count
  cases machine.attribute? Quantity.count.key with
  | none => simp [eq_comm]
  | some raw => rfl

instance (machine : Machine) (n : Nat) : Decidable (machine.StandsFor n) :=
  decidable_of_iff _ standsFor_iff.symm

theorem endsCount_iff {machine : Machine} {before : Nat} :
    machine.EndsCount before ↔ machine.countFault? before = some machine.countFault := by
  unfold EndsCount countFault?
  simp only [standsFor_iff, Text.wordBound_eq]
  cases machine.count? with
  | none => simp
  | some own => simp

end Machine

theorem forall₂_standsFor_iff {machines : List Machine} {counts : List Nat} :
    List.Forall₂ Machine.StandsFor machines counts ↔
      (∀ machine ∈ machines, machine.count?.isSome = true) ∧
        counts = machines.map fun machine => machine.count?.getD 0 := by
  induction machines generalizing counts with
  | nil => simp
  | cons machine machines ih =>
    rw [List.forall₂_cons_left_iff, List.forall_mem_cons, List.map_cons]
    simp only [ih, Machine.standsFor_iff]
    constructor
    · rintro ⟨own, others, hown, ⟨hmachines, rfl⟩, rfl⟩
      rw [hown]
      exact ⟨⟨rfl, hmachines⟩, rfl⟩
    · rintro ⟨⟨hcount, hmachines⟩, rfl⟩
      obtain ⟨own, hown⟩ := Option.isSome_iff_exists.mp hcount
      refine ⟨own, _, hown, ⟨hmachines, rfl⟩, ?_⟩
      rw [hown, Option.getD_some]

theorem sum_of_forall₂_standsFor {machines : List Machine} {counts : List Nat}
    (hcounts : List.Forall₂ Machine.StandsFor machines counts) :
    counts.sum = instanceCount machines := by
  rw [(forall₂_standsFor_iff.mp hcounts).2]
  rfl

theorem totalCount_eq_ok_iff_exists {machines : List Machine} {result : Nat} :
    totalCount 0 machines = .ok result ↔
      ∃ counts, List.Forall₂ Machine.StandsFor machines counts ∧ result = counts.sum ∧
        counts.sum < 2 ^ 64 := by
  rw [totalCount_eq_ok_iff Text.wordBound_pos, Nat.zero_add, Text.wordBound_eq]
  constructor
  · rintro ⟨hmachines, hbound, hresult⟩
    exact ⟨_, forall₂_standsFor_iff.mpr ⟨hmachines, rfl⟩, hresult, hbound⟩
  · rintro ⟨counts, hcounts, hresult, hbound⟩
    rw [sum_of_forall₂_standsFor hcounts] at hresult hbound
    exact ⟨(forall₂_standsFor_iff.mp hcounts).1, hbound, hresult⟩

theorem totalCount_perm {machines others : List Machine} (hperm : machines.Perm others)
    (result : Nat) :
    totalCount 0 machines = .ok result ↔ totalCount 0 others = .ok result := by
  have hsum : instanceCount machines = instanceCount others := (hperm.map _).sum_eq
  rw [totalCount_eq_ok_iff Text.wordBound_pos, totalCount_eq_ok_iff Text.wordBound_pos, hsum]
  simp only [hperm.mem_iff]

/-! ## Where the count ends -/

/-- The machines in front are counted after `total` instances, to less than a word, and the
count ends at the next machine. -/
structure CountEndsAt (total : Nat) (front : List Machine) (machine : Machine)
    (counts : List Nat) : Prop where
  counted : List.Forall₂ Machine.StandsFor front counts
  fits : total + counts.sum < 2 ^ 64
  ends : machine.EndsCount (total + counts.sum)

theorem totalCount_eq_error_of_ends {machine : Machine} {total : Nat}
    (hends : machine.EndsCount total) (machines : List Machine) :
    totalCount total (machine :: machines) = .error machine.countFault := by
  rw [totalCount]
  cases hcount : machine.count? with
  | none =>
    rw [Machine.count_eq_error_of_none hcount]
    rfl
  | some own =>
    have hfull : ¬total + own < Text.wordBound := by
      simpa [Machine.endsCount_iff, Machine.countFault?, hcount] using hends
    rw [Machine.count_eq_ok_iff.mpr hcount]
    exact if_neg hfull

theorem totalCount_eq_of_standsFor {machine : Machine} {total own : Nat}
    (hstands : machine.StandsFor own) (hfits : total + own < 2 ^ 64) (machines : List Machine) :
    totalCount total (machine :: machines) = totalCount (total + own) machines := by
  rw [totalCount, Machine.count_eq_ok_iff.mpr (Machine.standsFor_iff.mp hstands)]
  exact if_pos hfits

theorem endsCount_or (machine : Machine) (total : Nat) :
    machine.EndsCount total ∨ ∃ own, machine.StandsFor own ∧ total + own < 2 ^ 64 := by
  by_cases hstands : ∃ own, machine.StandsFor own
  · obtain ⟨own, hown⟩ := hstands
    rcases Nat.lt_or_ge (total + own) (2 ^ 64) with hfits | hfull
    · exact .inr ⟨own, hown, hfits⟩
    · exact .inl (.inr ⟨own, hown, hfull⟩)
  · exact .inl (.inl hstands)

theorem CountEndsAt.totalCount_eq {front : List Machine} {machine : Machine}
    {counts : List Nat} {total : Nat} (hends : CountEndsAt total front machine counts)
    (rest : List Machine) :
    totalCount total (front ++ machine :: rest) = .error machine.countFault := by
  obtain ⟨hcounted, hfits, hends⟩ := hends
  induction hcounted generalizing total with
  | nil =>
    rw [List.sum_nil, Nat.add_zero] at hends
    exact totalCount_eq_error_of_ends hends rest
  | @cons first own front counts hfirst hfront ih =>
    rw [List.sum_cons, ← Nat.add_assoc] at hfits hends
    -- The sum at the end fits, so it fits here too.
    have hown : total + own < 2 ^ 64 := Nat.lt_of_le_of_lt (Nat.le_add_right _ _) hfits
    rw [List.cons_append, totalCount_eq_of_standsFor hfirst hown]
    exact ih hfits hends

theorem exists_countEndsAt {machines : List Machine} {total : Nat} {fault : Fault}
    (htotal : total < 2 ^ 64) (hfault : totalCount total machines = .error fault) :
    ∃ front machine rest counts, machines = front ++ machine :: rest ∧
      CountEndsAt total front machine counts ∧ fault = machine.countFault := by
  induction machines generalizing total with
  | nil => cases hfault
  | cons first machines ih =>
    rcases endsCount_or first total with hends | ⟨own, hown, hfits⟩
    · rw [totalCount_eq_error_of_ends hends] at hfault
      exact ⟨[], first, machines, [], rfl, ⟨.nil, htotal, hends⟩, (Except.error.inj hfault).symm⟩
    · rw [totalCount_eq_of_standsFor hown hfits] at hfault
      obtain ⟨front, machine, rest, counts, rfl, ⟨hcounted, hsum, hends⟩, hfault⟩ :=
        ih hfits hfault
      rw [Nat.add_assoc, ← List.sum_cons] at hsum hends
      exact ⟨first :: front, machine, rest, own :: counts, rfl,
        ⟨.cons hown hcounted, hsum, hends⟩, hfault⟩

/-- The scale of a group is the sum of the counts of its machines, if all of them can be read
and the sum fits in a word, whatever the order of the machines is.  Otherwise the fault names
the first machine whose count cannot be read or makes the sum too large. -/
theorem totalCount_exact (machines : List Machine) :
    (∀ scale, totalCount 0 machines = .ok scale ↔
      ∃ counts, List.Forall₂ Machine.StandsFor machines counts ∧ scale = counts.sum ∧
        counts.sum < 2 ^ 64) ∧
    (∀ others, machines.Perm others →
      ∀ scale, totalCount 0 machines = .ok scale ↔ totalCount 0 others = .ok scale) ∧
    ∀ fault, totalCount 0 machines = .error fault ↔
      ∃ front machine rest counts, machines = front ++ machine :: rest ∧
        CountEndsAt 0 front machine counts ∧
        fault = .numericFormat .count
          ((machine.attribute? Quantity.count.key).getD "1") machine.reference := by
  refine ⟨fun scale => totalCount_eq_ok_iff_exists, fun others => totalCount_perm, ?_⟩
  intro fault
  constructor
  · intro hfault
    exact exists_countEndsAt (by decide) hfault
  · rintro ⟨front, machine, rest, counts, rfl, hends, rfl⟩
    exact hends.totalCount_eq rest

/-- A machine that has the given values as its attributes and nothing else. -/
def Machine.withAttributes (reference : String) (pairs : List (String × String)) : Machine :=
  ⟨reference, .ofList pairs, []⟩

def twoInstances : Machine :=
  .withAttributes "\"a\"" [("count", "\" 02 \"")]

def mostInstances : Machine :=
  .withAttributes "\"b\"" [("count", "18446744073709551615")]

def manyInstances : Machine :=
  .withAttributes "\"c\"" [("count", "many")]

def uncounted : Machine :=
  .withAttributes "\"d\"" []

theorem twoInstances_scale :
    [twoInstances, uncounted].Perm [uncounted, twoInstances] ∧
      totalCount 0 [uncounted, twoInstances] = .ok 3 ∧
      totalCount 0 [twoInstances, mostInstances, manyInstances] =
        .error (.numericFormat .count "18446744073709551615" "\"b\"") := by
  have htwo : twoInstances.StandsFor 2 := by decide +kernel
  have hone : uncounted.StandsFor 1 := rfl
  have hmost : mostInstances.StandsFor 18446744073709551615 := by decide +kernel
  have hperm : [twoInstances, uncounted].Perm [uncounted, twoInstances] := .swap _ _ _
  have hscale : totalCount 0 [twoInstances, uncounted] = .ok 3 :=
    ((totalCount_exact _).1 3).mpr ⟨[2, 1], .cons htwo (.cons hone .nil), rfl, by decide⟩
  have hends : CountEndsAt 0 [twoInstances] mostInstances [2] :=
    ⟨.cons htwo .nil, by decide, .inr ⟨_, hmost, by decide⟩⟩
  refine ⟨hperm, ((totalCount_exact _).2.1 _ hperm 3).mp hscale, ?_⟩
  exact ((totalCount_exact _).2.2 _).mpr
    ⟨[twoInstances], mostInstances, [manyInstances], [2], rfl, hends, rfl⟩

end CloudLift
