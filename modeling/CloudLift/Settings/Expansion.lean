import CloudLift.Table
import CloudLift.Text.Cut

/-!
# Expansion

A placeholder is a name between a dollar sign with an opening brace and the next closing
brace.  The placeholders of a text are found once, and then each is replaced wherever it
stands in the text so far; so what one replacement brings in, a later one may replace.
-/

namespace CloudLift.Settings

namespace Chars

/-- The names of the placeholders, from left to right.  A name is not empty. -/
def placeholders : List Char → List (List Char)
  | [] => []
  | '$' :: '{' :: cs =>
    match _h : Text.Chars.cutAt? '}' cs with
    | some (c :: name, rest) => (c :: name) :: placeholders rest
    | _ => placeholders cs
  | _ :: cs => placeholders cs
  termination_by cs => cs.length
  decreasing_by
    · have := congrArg List.length (Text.Chars.eq_of_cutAt? _h).1
      simp only [List.length_append, List.length_cons] at this ⊢
      omega
    · simp only [List.length_cons]
      omega
    · simp

end Chars

def placeholders (content : String) : List String :=
  (Chars.placeholders content.toList).map String.ofList

/-- A placeholder as it is written. -/
def placeholderFor (name : String) : String :=
  "$\x7b" ++ name ++ "\x7d"

/-- The names without a value, each once. -/
def undefined (environment : Table String) (content : String) : List String :=
  ((placeholders content).filter fun name => !environment.contains name).foldl
    (fun names name => if name ∈ names then names else names ++ [name]) []

def substitute (environment : Table String) (content name : String) : String :=
  match environment.find? name with
  | some value => Text.replace (placeholderFor name) value content
  | none => content

/-- The text with its placeholders replaced, or the names that have no value. -/
def expand (environment : Table String) (content : String) :
    Except (List String) String :=
  match undefined environment content with
  | [] => .ok ((placeholders content).foldl (substitute environment) content)
  | names => .error names

end CloudLift.Settings
