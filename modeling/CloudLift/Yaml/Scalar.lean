import CloudLift.Yaml.Cursor

/-!
# Scalars of a YAML text

A scalar is plain, quoted once or twice, or a block.  In a plain or quoted scalar the
blanks at a line's ends are dropped, a single line break becomes a space, and each
further break stays.  A block keeps its lines or folds them, by its header.
-/

namespace CloudLift.Yaml

/-- The blanks and breaks between two pieces of a scalar. -/
structure Gap where
  blanks : String
  /-- Whether a line ended in it. -/
  broken : Bool
  firstBreak : String
  furtherBreaks : String

namespace Gap

def none : Gap :=
  ⟨"", false, "", ""⟩

/-- A line that ends in a backslash goes on without a space. -/
def escaped : Gap :=
  ⟨"", true, "", ""⟩

def text (gap : Gap) : String :=
  if gap.broken then
    if gap.firstBreak == "\n" then
      if gap.furtherBreaks.isEmpty then " " else gap.furtherBreaks
    else
      gap.firstBreak ++ gap.furtherBreaks
  else
    gap.blanks

/-- Reads on over blanks and breaks.  With a limit, a tab left of that column spoils the
indentation. -/
def read? (limit : Option Nat) : Nat → Gap → Cursor → Option (Gap × Cursor)
  | 0, gap, cur => some (gap, cur)
  | fuel + 1, gap, cur =>
    match cur.peek? with
    | Option.none => some (gap, cur)
    | some c =>
      if isBlank c then
        let spoilt := gap.broken && c == '\t' &&
          (match limit with
            | Option.none => false
            | some n => cur.column < n)
        if spoilt then Option.none
        else if gap.broken then read? limit fuel gap (cur.skip 1)
        else read? limit fuel { gap with blanks := gap.blanks.push c } (cur.skip 1)
      else if isBreak c then
        let (text, cur) := cur.breakLine
        if gap.broken then
          read? limit fuel { gap with furtherBreaks := gap.furtherBreaks ++ text } cur
        else
          read? limit fuel ⟨"", true, text, gap.furtherBreaks⟩ cur
      else
        some (gap, cur)

end Gap

/-! ### Plain scalars -/

def isFlowMark (c : Char) : Bool :=
  c == ',' || c == '[' || c == ']' || c == '{' || c == '}'

/-- The characters of a plain scalar up to a blank or to a mark that ends it.  In a flow
collection a colon must not stand right before a mark. -/
def plainRun? (flow : Bool) : List Char → Option (List Char)
  | [] => some []
  | c :: cs =>
    let next := cs.head?
    let blankNext := match next with
      | Option.none => true
      | some d => isBlank d || isBreak d
    let markNext := match next with
      | Option.none => false
      | some d => isFlowMark d || d == '?'
    if isBlank c || isBreak c then some []
    else if flow && c == ':' && markNext then none
    else if (c == ':' && blankNext) || (flow && isFlowMark c) then some []
    else (plainRun? flow cs).map (c :: ·)

/-- Reads a plain scalar that is indented to `indent` or more.  The result says
whether the scalar ends after a line break. -/
def plainFrom? (flow : Bool) (indent : Nat) :
    Nat → String → Gap → Cursor → Option (String × Bool × Cursor)
  | 0, _, _, _ => none
  | fuel + 1, text, gap, cur =>
    if cur.atDocumentMark || cur.peek? == some '#' then
      some (text, gap.broken, cur)
    else
      match plainRun? flow cur.rest with
      | none => none
      | some run =>
        let text := if run.isEmpty then text else text ++ gap.text ++ String.ofList run
        let gap := if run.isEmpty then gap else Gap.none
        let cur := cur.skip run.length
        if cur.peek?.isNone || !cur.blankOrEndAt 0 then
          some (text, gap.broken, cur)
        else
          match Gap.read? (some indent) (cur.rest.length + 1) gap cur with
          | none => none
          | some (gap, cur) =>
            if !flow && cur.column < indent then
              some (text, gap.broken, cur)
            else
              plainFrom? flow indent fuel text gap cur

def plain? (flow : Bool) (indent : Nat) (cur : Cursor) : Option (String × Bool × Cursor) :=
  plainFrom? flow indent (cur.rest.length + 1) "" Gap.none cur

/-! ### Quoted scalars -/

def hexValue? (c : Char) : Option Nat :=
  if c.isDigit then some (c.toNat - '0'.toNat)
  else if 'a' ≤ c && c ≤ 'f' then some (c.toNat - 'a'.toNat + 10)
  else if 'A' ≤ c && c ≤ 'F' then some (c.toNat - 'A'.toNat + 10)
  else none

/-- The character with a hexadecimal number of exactly `digits` digits. -/
def hexChar? (digits : Nat) (cs : List Char) : Option Char :=
  let number? := (cs.take digits).foldl (fun n? c => do
    let n ← n?
    let d ← hexValue? c
    return n * 16 + d) (some 0)
  match number? with
  | none => none
  | some n =>
    if (cs.take digits).length = digits ∧ n.isValidChar then some (Char.ofNat n) else none

/-- The character of an escape, and how many characters the escape has after its
backslash. -/
def escape? : List Char → Option (Char × Nat)
  | [] => none
  | c :: cs =>
    match c with
    | '0' => some ('\u0000', 1)
    | 'a' => some ('\u0007', 1)
    | 'b' => some ('\u0008', 1)
    | 't' => some ('\t', 1)
    | '\t' => some ('\t', 1)
    | 'n' => some ('\n', 1)
    | 'v' => some ('\u000b', 1)
    | 'f' => some ('\u000c', 1)
    | 'r' => some ('\r', 1)
    | 'e' => some ('\u001b', 1)
    | ' ' => some (' ', 1)
    | '"' => some ('"', 1)
    | '/' => some ('/', 1)
    | '\\' => some ('\\', 1)
    | 'N' => some ('\u0085', 1)
    | '_' => some ('\u00a0', 1)
    | 'L' => some ('\u2028', 1)
    | 'P' => some ('\u2029', 1)
    | 'x' => (hexChar? 2 cs).map (·, 3)
    | 'u' => (hexChar? 4 cs).map (·, 5)
    | 'U' => (hexChar? 8 cs).map (·, 9)
    | _ => none

/-- Reads the characters of a quoted scalar up to a blank, a break or the closing quote.
The result says whether a break was escaped. -/
def quotedRun? (quote : Char) : Nat → String → Cursor → Option (String × Bool × Cursor)
  | 0, _, _ => none
  | fuel + 1, text, cur =>
    match cur.rest with
    | [] => some (text, false, cur)
    | c :: cs =>
      if isBlank c || isBreak c then
        some (text, false, cur)
      else if c == quote then
        if quote == '\'' && cs.head? == some '\'' then
          quotedRun? quote fuel (text.push '\'') (cur.skip 2)
        else
          some (text, false, cur)
      else if quote == '"' && c == '\\' then
        match cs with
        | d :: _ =>
          if isBreak d then
            some (text, true, (cur.skip 1).breakLine.2)
          else
            match escape? cs with
            | some (e, n) => quotedRun? quote fuel (text.push e) (cur.skip (n + 1))
            | none => none
        | [] => none
      else
        quotedRun? quote fuel (text.push c) (cur.skip 1)

/-- Reads a quoted scalar after its opening quote. -/
def quotedFrom? (quote : Char) : Nat → String → Cursor → Option (String × Cursor)
  | 0, _, _ => none
  | fuel + 1, text, cur =>
    if cur.atDocumentMark || cur.peek?.isNone then
      none
    else
      match quotedRun? quote (cur.rest.length + 1) text cur with
      | none => none
      | some (text, escaped, cur) =>
        if cur.peek? == some quote then
          some (text, cur.skip 1)
        else
          match Gap.read? none (cur.rest.length + 1)
              (if escaped then Gap.escaped else Gap.none) cur with
          | none => none
          | some (gap, cur) => quotedFrom? quote fuel (text ++ gap.text) cur

def quoted? (quote : Char) (cur : Cursor) : Option (String × Cursor) :=
  quotedFrom? quote (cur.rest.length + 1) "" (cur.skip 1)

/-! ### Block scalars -/

/-- What becomes of the breaks at the end of a block. -/
inductive Chomping where
  | strip
  | clip
  | keep
  deriving DecidableEq

def chomping? (c : Char) : Option Chomping :=
  if c == '-' then some .strip else if c == '+' then some .keep else none

/-- The number of columns that a header adds to the indentation. -/
def increment? (c : Char) : Option Nat :=
  if c.isDigit && c != '0' then some (c.toNat - '0'.toNat) else none

/-- The header after its mark: an indentation and a chomping in either order. -/
def header? (cur : Cursor) : Option (Chomping × Option Nat × Cursor) :=
  let zero (cur : Cursor) := cur.peek? == some '0'
  match cur.peek?.bind chomping? with
  | some chomp =>
    let cur := cur.skip 1
    match cur.peek?.bind increment? with
    | some n => some (chomp, some n, cur.skip 1)
    | none => if zero cur then none else some (chomp, none, cur)
  | none =>
    match cur.peek?.bind increment? with
    | some n =>
      let cur := cur.skip 1
      match cur.peek?.bind chomping? with
      | some chomp => some (chomp, some n, cur.skip 1)
      | none => some (.clip, some n, cur)
    | none => if zero cur then none else some (.clip, none, cur)

/-- Reads the empty lines before a line of the block, and the indentation of that line.
Without an indentation the deepest one met counts, or `least` if that is more. -/
def blockBreaks? (least : Nat) (indent? : Option Nat) :
    Nat → Nat → String → Cursor → Option (Nat × String × Cursor)
  | 0, _, _, _ => none
  | fuel + 1, deepest, breaks, cur =>
    let inside (column : Nat) := match indent? with
      | none => true
      | some n => column < n
    let spaces := cur.rest.takeWhile (· == ' ')
    let count := match indent? with
      | none => spaces.length
      | some n => min spaces.length (n - cur.column)
    let cur := cur.skip count
    let deepest := max deepest cur.column
    if inside cur.column && cur.peek? == some '\t' then
      none
    else if (cur.peek?.map isBreak).getD false then
      let (text, cur) := cur.breakLine
      blockBreaks? least indent? fuel deepest (breaks ++ text) cur
    else
      some (indent?.getD (max deepest least), breaks, cur)

/-- Reads the lines of a block that are indented to `indent`. -/
def blockLines? (literal : Bool) (indent : Nat) :
    Nat → String → String → String → Bool → Cursor → Option (String × String × String × Cursor)
  | 0, _, _, _, _, _ => none
  | fuel + 1, text, lastBreak, breaks, blankBefore, cur =>
    if cur.column == indent && cur.peek?.isSome then
      let blankHere := (cur.peek?.map isBlank).getD false
      let joined :=
        if !literal && lastBreak == "\n" && !blankBefore && !blankHere then
          if breaks.isEmpty then " " else ""
        else
          lastBreak
      let (run, cur) := cur.span fun c => !isBreak c
      let text := text ++ joined ++ breaks ++ String.ofList run
      let (lastBreak, cur) := cur.breakLine
      match blockBreaks? 0 (some indent) (cur.rest.length + 1) 0 "" cur with
      | none => none
      | some (_, breaks, cur) => blockLines? literal indent fuel text lastBreak breaks blankHere cur
    else
      some (text, lastBreak, breaks, cur)

/-- Reads a block scalar whose parent is indented to `parent`, if it is in a block. -/
def block? (literal : Bool) (parent : Option Nat) (cur : Cursor) : Option (String × Cursor) := do
  let (chomp, increment?, cur) ← header? (cur.skip 1)
  let cur ← cur.finishLine?
  let least := max 1 ((parent.map (· + 1)).getD 0)
  let given := increment?.map fun n => (parent.getD 0) + n
  let (indent, breaks, cur) ← blockBreaks? least given (cur.rest.length + 1) 0 "" cur
  let (text, lastBreak, breaks, cur) ←
    blockLines? literal indent (cur.rest.length + 1) "" "" breaks false cur
  let ending := match chomp with
    | .strip => ""
    | .clip => lastBreak
    | .keep => lastBreak ++ breaks
  return (text ++ ending, cur)

end CloudLift.Yaml
