import CloudLift.Yaml.Property

/-!
# The tokens of a YAML text

The tokens follow from the text and its layout.  A block collection starts where a line
is indented more than the collection around it, and ends where one is indented less.
Whether a node is the key of a mapping shows only at the colon after it, so a node that
can be a key is remembered until then: for one line, and for 1024 bytes.
-/

namespace CloudLift.Yaml

/-- The place of a node that can turn out to be a key. -/
structure KeyPlace where
  /-- A block mapping at this column needs a colon after the node. -/
  required : Bool
  /-- The number of tokens before the node. -/
  token : Nat
  line : Nat
  column : Nat
  index : Nat

/-- What is known between two tokens. -/
structure Layout where
  cur : Cursor
  /-- The tokens so far, last one first. -/
  tokens : List Token
  count : Nat
  /-- The column of the innermost block collection. -/
  indent? : Option Nat
  /-- The columns of the collections around it. -/
  outer : List (Option Nat)
  /-- Whether a key can start here. -/
  keyAllowed : Bool
  /-- The remembered node of the block text, and of each open flow collection,
  innermost first. -/
  keys : List (Option KeyPlace)

namespace Layout

def start (cur : Cursor) : Layout :=
  ⟨cur, [], 0, none, [], true, [none]⟩

def inFlow (s : Layout) : Bool :=
  1 < s.keys.length

def push (s : Layout) (token : Token) : Layout :=
  { s with tokens := token :: s.tokens, count := s.count + 1 }

def insertBack (back : Nat) (token : Token) (tokens : List Token) : List Token :=
  tokens.take back ++ token :: tokens.drop back

/-- Puts a token before the one with number `place`. -/
def insertAt (s : Layout) (place : Nat) (token : Token) : Layout :=
  { s with
    tokens := insertBack (s.count - place) token s.tokens
    count := s.count + 1 }

/-! ### Remembered keys -/

/-- Forgets a node that can be a key no more. -/
def dropStale? (line index : Nat) : List (Option KeyPlace) → Option (List (Option KeyPlace))
  | [] => some []
  | key? :: keys => do
    let keys ← dropStale? line index keys
    match key? with
    | none => some (none :: keys)
    | some key =>
      if key.line < line ∨ key.index + 1024 < index then
        if key.required then none else some (none :: keys)
      else
        some (some key :: keys)

def dropStaleKeys? (s : Layout) : Option Layout :=
  (dropStale? s.cur.line s.cur.index s.keys).map fun keys => { s with keys := keys }

/-- Forgets the innermost remembered node. -/
def forgetKey? (s : Layout) : Option Layout :=
  match s.keys with
  | some key :: keys => if key.required then none else some { s with keys := none :: keys }
  | _ => some s

/-- Remembers the node that starts here. -/
def rememberKey? (s : Layout) : Option Layout :=
  if s.keyAllowed then do
    let required := !s.inFlow && s.indent? == some s.cur.column
    let s ← s.forgetKey?
    let key : KeyPlace := ⟨required, s.count, s.cur.line, s.cur.column, s.cur.index⟩
    return { s with keys := some key :: s.keys.drop 1 }
  else
    some s

/-! ### Indentation -/

def isDeeper (column : Nat) (indent? : Option Nat) : Bool :=
  match indent? with
  | none => true
  | some n => n < column

/-- Starts a block collection before token `place`, if its column is deeper. -/
def openBlock (s : Layout) (column place : Nat) (token : Token) : Layout :=
  if !s.inFlow && isDeeper column s.indent? then
    { s.insertAt place token with
      indent? := some column
      outer := s.indent? :: s.outer }
  else
    s

/-- Ends the block collections that are deeper than a column, or all of them. -/
def closeFrom (column? : Option Nat) : Layout → List (Option Nat) → Layout
  | s, [] => s
  | s, above :: outer =>
    let deeper := match s.indent?, column? with
      | none, _ => false
      | some _, none => true
      | some n, some column => column < n
    if deeper then
      closeFrom column? { s.push .blockEnd with indent? := above, outer := outer } outer
    else
      s

def closeBlocks (s : Layout) (column? : Option Nat) : Layout :=
  if s.inFlow then s else closeFrom column? s s.outer

/-! ### Single tokens -/

/-- Goes on to the next token, over blanks, comments and breaks.  A mark of the byte order
at the start of a line is passed over like a blank. -/
def skipGap : Nat → Layout → Layout
  | 0, s => s
  | fuel + 1, s =>
    let cur :=
      if s.cur.column == 0 && s.cur.peek? == some '\uFEFF' then s.cur.skip 1 else s.cur
    let tabs := s.inFlow || !s.keyAllowed
    let cur := (cur.span fun c => c == ' ' || (tabs && c == '\t')).2.skipComment
    match cur.peek? with
    | some c =>
      if isBreak c then
        skipGap fuel
          { s with cur := cur.breakLine.2, keyAllowed := s.keyAllowed || !s.inFlow }
      else
        { s with cur := cur }
    | none => { s with cur := cur }

def mark (s : Layout) (n : Nat) (token : Token) : Layout :=
  { s.push token with cur := s.cur.skip n }

/-- A token that belongs to no block collection. -/
def atTop? (s : Layout) : Option Layout := do
  let s ← (s.closeBlocks none).forgetKey?
  return { s with keyAllowed := false }

def openFlow? (s : Layout) (token : Token) : Option Layout := do
  let s ← s.rememberKey?
  return { s.mark 1 token with keyAllowed := true, keys := none :: s.keys }

def closeFlow? (s : Layout) (token : Token) : Option Layout := do
  let s ← s.forgetKey?
  let keys := if s.inFlow then s.keys.drop 1 else s.keys
  return { s.mark 1 token with keyAllowed := false, keys := keys }

/-- A mark that starts an entry or a key of a block collection, or of a flow one. -/
def entry? (s : Layout) (collection token : Token) (keyAfter : Bool) : Option Layout := do
  if !s.inFlow && !s.keyAllowed then
    none
  else
    let s ← (s.openBlock s.cur.column s.count collection).forgetKey?
    return { s.mark 1 token with keyAllowed := keyAfter }

/-- A colon after a node that was remembered makes it a key. -/
def value? (s : Layout) : Option Layout :=
  match s.keys with
  | some key :: keys =>
    let s := (s.insertAt key.token .key).openBlock key.column key.token .blockMapping
    some { s.mark 1 .value with keyAllowed := false, keys := none :: keys }
  | _ =>
    if s.inFlow then
      some { s.mark 1 .value with keyAllowed := false }
    else if s.keyAllowed then
      let s := s.openBlock s.cur.column s.count .blockMapping
      some { s.mark 1 .value with keyAllowed := true }
    else
      none

/-- A node that is written as one token. -/
def node? (s : Layout) (read : Option (Token × Cursor)) : Option Layout := do
  let s ← s.rememberKey?
  let (token, cur) ← read
  return { s.push token with cur := cur, keyAllowed := false }

def plainScalar? (s : Layout) : Option Layout := do
  let s ← s.rememberKey?
  let indent := (s.indent?.map (· + 1)).getD 0
  let (text, broken, cur) ← plain? s.inFlow indent s.cur
  return { s.push (.scalar text true) with cur := cur, keyAllowed := broken }

def blockScalar? (s : Layout) (literal : Bool) : Option Layout := do
  let s ← s.forgetKey?
  let (text, cur) ← block? literal s.indent? s.cur
  return { s.push (.scalar text false) with cur := cur, keyAllowed := true }

def reserved : List Char :=
  ['-', '?', ':', ',', '[', ']', '{', '}', '#', '&', '*', '!', '|', '>', '\'', '"', '%',
    '@', Char.ofNat 0x60]

/-- Whether a plain scalar can start here. -/
def startsPlain (s : Layout) (c : Char) : Bool :=
  let blankNext := match s.cur.at? 1 with
    | none => false
    | some d => isBlank d
  if c == '-' then !blankNext
  else if c == '?' || c == ':' then !s.inFlow && !s.cur.blankOrEndAt 1
  else !(isBlank c || isBreak c || reserved.contains c)

/-- The token that starts with a character. -/
def tokenAt? (s : Layout) (c : Char) : Option Layout :=
  let blankNext := s.cur.blankOrEndAt 1
  if s.cur.column == 0 && c == '%' then do
    let s ← s.atTop?
    let (token, cur) ← directive? s.cur
    return { s.push token with cur := cur }
  else if s.cur.atDocumentMark then do
    let s ← s.atTop?
    return s.mark 3 (if c == '-' then .documentStart else .documentEnd)
  else if c == '[' then s.openFlow? .flowSequence
  else if c == '{' then s.openFlow? .flowMapping
  else if c == ']' then s.closeFlow? .flowSequenceEnd
  else if c == '}' then s.closeFlow? .flowMappingEnd
  else if c == ',' then do
    let s ← s.forgetKey?
    return { s.mark 1 .flowEntry with keyAllowed := true }
  else if c == '-' && blankNext then s.entry? .blockSequence .blockEntry true
  else if c == '?' && (s.inFlow || blankNext) then s.entry? .blockMapping .key !s.inFlow
  else if c == ':' && (s.inFlow || blankNext) then s.value?
  else if c == '*' then
    s.node? ((anchorName? s.cur).map fun (name, cur) => (.alias name, cur))
  else if c == '&' then
    s.node? ((anchorName? s.cur).map fun (name, cur) => (.anchor name, cur))
  else if c == '!' then s.node? (tag? s.inFlow s.cur)
  else if c == '|' && !s.inFlow then s.blockScalar? true
  else if c == '>' && !s.inFlow then s.blockScalar? false
  else if c == '\'' || c == '"' then
    s.node? ((quoted? c s.cur).map fun (text, cur) => (.scalar text false, cur))
  else if s.startsPlain c then s.plainScalar?
  else none

/-- Reads tokens to the end of the text. -/
def scan? : Nat → Layout → Option (List Token)
  | 0, _ => none
  | fuel + 1, s => do
    let s ← (skipGap (s.cur.rest.length + 1) s).dropStaleKeys?
    let s := s.closeBlocks (some s.cur.column)
    match s.cur.peek? with
    | none =>
      let s ← s.atTop?
      return s.tokens.reverse
    | some c =>
      let s ← s.tokenAt? c
      scan? fuel s

end Layout

/-- The tokens of a text. -/
def tokens? (text : String) : Option (List Token) :=
  let chars := text.toList
  if chars.all isPrintable then
    Layout.scan? (chars.length + 2) (.start (.start chars))
  else
    none

end CloudLift.Yaml
