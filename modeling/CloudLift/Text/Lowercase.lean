import CloudLift.Text.CaseTable

/-!
# Lower case

The full lower-case mapping of Unicode.  Each character goes to its simple image,
with two exceptions: the dotted capital `İ` becomes `i` and a combining dot, and a
capital sigma becomes the final `ς` where it ends a word, which is where a cased
character precedes it and none follows, characters that case ignores being passed
over on both sides.
-/

namespace CloudLift.Text

namespace Chars

/-- The image of one character, seen without its neighbours. -/
def lowerChar (c : Char) : Char :=
  match lowercaseRuns.findSome? fun run => run.image? c.toNat with
  | some n => Char.ofNat n
  | none => c

/-- Whether the first character that case does not ignore is cased. -/
def leadsToCased (cs : List Char) : Bool :=
  match cs.dropWhile isCaseIgnorable with
  | [] => false
  | c :: _ => isCased c

/-- The mapping of a text, where `before` holds what precedes it, nearest first. -/
def lowercaseAfter (before : List Char) : List Char → List Char
  | [] => []
  | c :: cs =>
    let image :=
      if c = 'İ' then
        ['i', '\u0307']
      else if c = 'Σ' then
        [if leadsToCased before && !leadsToCased cs then 'ς' else 'σ']
      else
        [lowerChar c]
    image ++ lowercaseAfter (c :: before) cs

def lowercase (cs : List Char) : List Char :=
  lowercaseAfter [] cs

end Chars

def lowercase (s : String) : String :=
  String.ofList (Chars.lowercase s.toList)

end CloudLift.Text
