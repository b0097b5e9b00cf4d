import CloudLift.Fault

/-!
# Names

The naming rule for resources of the target cloud, and the removal of the quotes
that a source value carries.
-/

namespace CloudLift.Name

def isLetter (c : Char) : Bool :=
  'a' ≤ c && c ≤ 'z'

def isNameChar (c : Char) : Bool :=
  isLetter c || c.isDigit || c == '-'

/-- At least two name characters, the first a letter and the last not a hyphen. -/
def isValid (name : String) : Bool :=
  match name.toList with
  | [] => false
  | c :: cs =>
    isLetter c && cs.all isNameChar &&
      match cs.getLast? with
      | none => false
      | some last => last != '-'

def check (name : String) : Except Fault Unit :=
  if isValid name then .ok () else .error (.invalidName name)

namespace Chars

/-- Drops one pair of quotes around the text; a quote on one side only stays. -/
def unquote : List Char → List Char
  | '"' :: cs => if cs.getLast? = some '"' then cs.dropLast else '"' :: cs
  | cs => cs

end Chars

/-- The value without one pair of quotes around it. -/
def unquote (value : String) : String :=
  String.ofList (Chars.unquote value.toList)

end CloudLift.Name
