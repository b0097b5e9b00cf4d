import CloudLift.Inventory.Basic
import CloudLift.Name
import CloudLift.Text.Blank
import CloudLift.Text.Numeral

/-!
# Sizes

Cores and memory of a machine.  The target counts memory in whole gigabytes of 1000
megabytes, at least one, and takes even numbers only.
-/

namespace CloudLift

/-- The next even number that is not smaller. -/
def roundUpToEven (n : Nat) : Nat :=
  n + n % 2

def gigabytes (megabytes : Nat) : Nat :=
  max (megabytes / 1000) 1

namespace Machine

/-- The number in a raw value, which may be quoted and padded with blanks. -/
def readQuantity (machine : Machine) (quantity : Quantity) (raw : String) :
    Except Fault Nat :=
  match Text.numeralBelow? Text.wordBound (Text.trim (Name.unquote raw)) with
  | some n => .ok n
  | none => .error (.numericFormat quantity raw machine.reference)

/-- The number in an attribute that a machine must have. -/
def quantity (machine : Machine) (quantity : Quantity) (missing : String → Fault) :
    Except Fault Nat :=
  match machine.attribute? quantity.key with
  | none => .error (missing machine.reference)
  | some raw => machine.readQuantity quantity raw

/-- How many instances the machine stands for. -/
def count (machine : Machine) : Except Fault Nat :=
  match machine.attribute? Quantity.count.key with
  | none => .ok 1
  | some raw => machine.readQuantity .count raw

end Machine

structure Size where
  cores : Nat
  memory : Nat
  deriving DecidableEq, Repr

namespace Size

def zero : Size :=
  ⟨0, 0⟩

/-- The size that a machine asks for; a fault in the cores comes first. -/
def ofMachine (machine : Machine) : Except Fault Size := do
  let cores ← machine.quantity .cpus .cpusNotDefined
  let memory ← machine.quantity .memory .memoryNotDefined
  return ⟨cores, gigabytes memory⟩

/-- The larger number of each component. -/
def sup (a b : Size) : Size :=
  ⟨max a.cores b.cores, max a.memory b.memory⟩

def rounded (size : Size) : Size :=
  ⟨roundUpToEven size.cores, roundUpToEven size.memory⟩

/-- A size that is enough for each of the machines, above a first one. -/
def supOf (size : Size) : List Machine → Except Fault Size
  | [] => .ok size
  | machine :: machines => do
    let own ← ofMachine machine
    supOf (size.sup own) machines

end Size

/-- How many instances the machines stand for together.  A sum that needs more than a
word is refused at the machine that exceeds it. -/
def totalCount (total : Nat) : List Machine → Except Fault Nat
  | [] => .ok total
  | machine :: machines => do
    let own ← machine.count
    if total + own < Text.wordBound then
      totalCount (total + own) machines
    else
      .error (.numericFormat .count
        ((machine.attribute? Quantity.count.key).getD "1") machine.reference)

end CloudLift
