import CloudLift.Size

/-!
# Machines whose numbers can be read

Reading the numbers of some machines succeeds exactly when each of them has the numbers,
and then it gives the largest size and the sum of the counts.  The sum is checked against
the word after each machine.  It never shrinks, so only the last check matters.
-/

namespace CloudLift

namespace Machine

def number? (machine : Machine) (quantity : Quantity) : Option Nat :=
  (machine.attribute? quantity.key).bind fun raw =>
    Text.numeralBelow? Text.wordBound (Text.trim (Name.unquote raw))

/-- How many instances the machine stands for, unless its count is not a number. -/
def count? (machine : Machine) : Option Nat :=
  if (machine.attribute? Quantity.count.key).isSome then machine.number? .count else some 1

/-- The machine has a number of cores and an amount of memory. -/
structure Sized (machine : Machine) : Prop where
  cpus : (machine.number? .cpus).isSome = true
  memory : (machine.number? .memory).isSome = true

def size (machine : Machine) : Size :=
  ⟨(machine.number? .cpus).getD 0, gigabytes ((machine.number? .memory).getD 0)⟩

theorem readQuantity_eq_ok_iff {machine : Machine} {quantity : Quantity} {raw : String}
    {n : Nat} :
    machine.readQuantity quantity raw = .ok n ↔
      Text.numeralBelow? Text.wordBound (Text.trim (Name.unquote raw)) = some n := by
  unfold readQuantity
  cases Text.numeralBelow? Text.wordBound (Text.trim (Name.unquote raw)) with
  | none => simp
  | some m => simp

theorem readQuantity_eq_error_iff {machine : Machine} {quantity : Quantity} {raw : String}
    {fault : Fault} :
    machine.readQuantity quantity raw = .error fault ↔
      Text.numeralBelow? Text.wordBound (Text.trim (Name.unquote raw)) = none ∧
        fault = .numericFormat quantity raw machine.reference := by
  unfold readQuantity
  cases Text.numeralBelow? Text.wordBound (Text.trim (Name.unquote raw)) with
  | none => simp [eq_comm]
  | some m => simp

theorem quantity_eq_ok_iff {machine : Machine} {quantity : Quantity}
    {missing : String → Fault} {n : Nat} :
    machine.quantity quantity missing = .ok n ↔ machine.number? quantity = some n := by
  unfold Machine.quantity Machine.number?
  cases machine.attribute? quantity.key with
  | none => simp
  | some raw =>
    rw [Option.bind_some]
    exact readQuantity_eq_ok_iff

theorem count_eq_ok_iff {machine : Machine} {n : Nat} :
    machine.count = .ok n ↔ machine.count? = some n := by
  cases hraw : machine.attribute? Quantity.count.key with
  | none => simp [count, count?, hraw]
  | some raw =>
    have hquantity : machine.count = machine.quantity .count fun _ => .toml := by
      simp [count, Machine.quantity, hraw]
    rw [hquantity, quantity_eq_ok_iff, count?, hraw, Option.isSome_some, if_pos rfl]

end Machine

namespace Size

/-- The least size that is enough for each of the machines. -/
def largest (machines : List Machine) : Size :=
  { cores := (machines.map fun machine => machine.size.cores).foldr max 0
    memory := (machines.map fun machine => machine.size.memory).foldr max 0 }

theorem ofMachine_eq_ok_iff {machine : Machine} {size : Size} :
    ofMachine machine = .ok size ↔ machine.Sized ∧ size = machine.size := by
  unfold ofMachine
  simp only [except_bind_eq_ok_iff, Machine.quantity_eq_ok_iff]
  constructor
  · rintro ⟨cores, hcores, memory, hmemory, hsize⟩
    cases hsize
    refine ⟨⟨?_, ?_⟩, ?_⟩
    · rw [hcores, Option.isSome_some]
    · rw [hmemory, Option.isSome_some]
    · rw [Machine.size, hcores, hmemory]
      rfl
  · rintro ⟨⟨hcpus, hmemory⟩, rfl⟩
    obtain ⟨cores, hcores⟩ := Option.isSome_iff_exists.mp hcpus
    obtain ⟨memory, hmemory⟩ := Option.isSome_iff_exists.mp hmemory
    refine ⟨cores, hcores, memory, hmemory, ?_⟩
    rw [Machine.size, hcores, hmemory]
    rfl

theorem sup_largest_nil (size : Size) : size.sup (largest []) = size := by
  simp [sup, largest]

theorem sup_largest_cons (size : Size) (machine : Machine) (machines : List Machine) :
    size.sup (largest (machine :: machines)) =
      (size.sup machine.size).sup (largest machines) := by
  simp [sup, largest, Nat.max_assoc]

theorem supOf_eq_ok_iff {machines : List Machine} {size result : Size} :
    size.supOf machines = .ok result ↔
      (∀ machine ∈ machines, machine.Sized) ∧ result = size.sup (largest machines) := by
  induction machines generalizing size with
  | nil =>
    rw [supOf, sup_largest_nil, Except.ok.injEq]
    simp [eq_comm]
  | cons machine machines ih =>
    have hlargest := sup_largest_cons size machine machines
    rw [supOf, except_bind_eq_ok_iff, List.forall_mem_cons]
    simp only [ofMachine_eq_ok_iff]
    constructor
    · rintro ⟨own, ⟨hsized, rfl⟩, hrest⟩
      obtain ⟨hmachines, hresult⟩ := ih.mp hrest
      exact ⟨⟨hsized, hmachines⟩, hresult.trans hlargest.symm⟩
    · rintro ⟨⟨hsized, hmachines⟩, hresult⟩
      refine ⟨machine.size, ⟨hsized, rfl⟩, ih.mpr ⟨hmachines, ?_⟩⟩
      exact hresult.trans hlargest

theorem zero_sup (size : Size) : zero.sup size = size := by
  simp [zero, sup]

end Size

def instanceCount (machines : List Machine) : Nat :=
  (machines.map fun machine => machine.count?.getD 0).foldr (· + ·) 0

theorem totalCount_eq_ok_iff {machines : List Machine} {total result : Nat}
    (htotal : total < Text.wordBound) :
    totalCount total machines = .ok result ↔
      (∀ machine ∈ machines, machine.count?.isSome = true) ∧
        total + instanceCount machines < Text.wordBound ∧
        result = total + instanceCount machines := by
  induction machines generalizing total with
  | nil =>
    rw [totalCount, Except.ok.injEq]
    constructor
    · rintro rfl
      exact ⟨by simp, htotal, rfl⟩
    · rintro ⟨-, -, hresult⟩
      exact hresult.symm
  | cons machine machines ih =>
    rw [totalCount, except_bind_eq_ok_iff, List.forall_mem_cons]
    simp only [Machine.count_eq_ok_iff]
    have hsum : ∀ own, machine.count? = some own →
        instanceCount (machine :: machines) = own + instanceCount machines := by
      intro own hown
      simp [instanceCount, hown]
    constructor
    · rintro ⟨own, hown, hrest⟩
      split at hrest
      · rename_i hfits
        obtain ⟨hmachines, hbound, hresult⟩ := (ih hfits).mp hrest
        rw [hsum own hown, ← Nat.add_assoc]
        exact ⟨⟨by rw [hown, Option.isSome_some], hmachines⟩, hbound, hresult⟩
      · cases hrest
    · rintro ⟨⟨hcount, hmachines⟩, hbound, hresult⟩
      obtain ⟨own, hown⟩ := Option.isSome_iff_exists.mp hcount
      rw [hsum own hown, ← Nat.add_assoc] at hbound hresult
      -- The bound at the end is also one here, since counts only add to the total.
      have hfits : total + own < Text.wordBound := by omega
      refine ⟨own, hown, ?_⟩
      rw [if_pos hfits]
      exact (ih hfits).mpr ⟨hmachines, hbound, hresult⟩

end CloudLift
