import CloudLift.Fault
import CloudLift.Text.Cut
import CloudLift.Text.Numeral

/-!
# Address blocks

A block of IPv4 addresses is written as an address, a slash and the length of the
common part.  Blocks have lengths from 16 to 28.
-/

namespace CloudLift.Cidr

def shortest : Nat := 16

def longest : Nat := 28

/-- One of the four numbers of an address: at most three digits, no zero before
another digit, and at most 255. -/
def isOctet (cs : List Char) : Bool :=
  cs.all Char.isDigit && decide (1 ≤ cs.length ∧ cs.length ≤ 3) &&
    (cs.length == 1 || cs.head? != some '0') &&
    Text.Chars.numeralFrom 0 cs ≤ 255

def isAddress (address : String) : Bool :=
  let octets := Text.Chars.pieces '.' address.toList
  octets.length == 4 && octets.all isOctet

/-- Why a text is not a block. -/
inductive Defect where
  | noLength (block : String)
  | badLength (block : String)
  | lengthOutOfRange (length : Nat)
  | badAddress (address : String)
  deriving DecidableEq, Repr

def Defect.message : Defect → String
  | .noLength block =>
    s!"CIDR block must include a prefix length (e.g. 10.0.0.0/22): {block}"
  | .badLength block => s!"Invalid subnet size: {block}"
  | .lengthOutOfRange length =>
    s!"Invalid subnet size /{length}: minimum subnet size is /{longest}, maximum is /{shortest}"
  | .badAddress address => s!"Invalid IPv4 address: {address}"

/-- The first defect of a block.  The length is looked at before the address. -/
def defect? (block : String) : Option Defect :=
  match Text.cutAt? '/' block with
  | none => some (.noLength block)
  | some (address, lengthText) =>
    match Text.numeralBelow? 256 lengthText with
    | none => some (.badLength block)
    | some length =>
      if length < shortest ∨ longest < length then
        some (.lengthOutOfRange length)
      else if isAddress address then
        none
      else
        some (.badAddress address)

def check (block : String) : Except Fault Unit :=
  match defect? block with
  | none => .ok ()
  | some defect => .error (.validation defect.message)

end CloudLift.Cidr
