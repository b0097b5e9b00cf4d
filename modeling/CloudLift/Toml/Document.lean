import CloudLift.Toml.Number
import CloudLift.Toml.Text
import CloudLift.Toml.Value

/-!
# TOML documents

A document is a list of lines: a header names the table that the lines after it fill,
and each of these lines gives one value.
-/

namespace CloudLift.Toml

/-- Goes over a word. -/
def word? (word : String) (cs : List Char) : Option (List Char) :=
  if word.toList.isPrefixOf cs then some (cs.drop word.length) else none

/-- Reads a value that holds no other values. -/
def simpleValue? (cs : List Char) : Option (Value × List Char) :=
  if cs.head?.any isQuote then
    (string? cs).map fun (text, rest) => (.text text, rest)
  else if startsTime cs || startsDate cs then
    (moment? cs).map fun (text, rest) => (.moment text, rest)
  else
    match word? "true" cs <|> word? "false" cs <|> number? cs with
    | some rest => some (.scalar, rest)
    | none => none

mutual

/-- Reads a value that stands inside `depth` arrays and tables in braces. -/
def readValue? (depth : Nat) : Nat → List Char → Option (Value × List Char)
  | 0, _ => none
  | fuel + 1, cs =>
    match cs with
    | '[' :: rest =>
      if depthLimit ≤ depth + 1 then
        none
      else do
        let (items, rest) ← readItems? (depth + 1) fuel rest
        return (.array items, rest)
    | '{' :: rest =>
      if depthLimit ≤ depth + 1 then
        none
      else do
        let (entries, rest) ← readPairs? (depth + 1) [] fuel (skipBlanks rest)
        return (.table .braces entries, rest)
    | cs => simpleValue? cs

/-- Reads the items of an array up to its end.  A comma can follow the last one. -/
def readItems? (depth : Nat) : Nat → List Char → Option (List Value × List Char)
  | 0, _ => none
  | fuel + 1, cs => do
    match ← skipLines (cs.length + 1) cs with
    | ']' :: rest => return ([], rest)
    | cs =>
      let (item, rest) ← readValue? depth fuel cs
      match ← skipLines (rest.length + 1) rest with
      | ',' :: rest =>
        let (items, rest) ← readItems? depth fuel rest
        return (item :: items, rest)
      | ']' :: rest => return ([item], rest)
      | _ => none

/-- Reads the entries of a table in braces up to its end.  An entry follows every
comma. -/
def readPairs? (depth : Nat) (entries : Entries) :
    Nat → List Char → Option (Entries × List Char)
  | 0, _ => none
  | fuel + 1, cs =>
    match cs, entries with
    | '}' :: rest, [] => some ([], rest)
    | cs, entries => do
      let (path, key, rest) ← dottedKey? cs
      let rest ← expect? '=' rest
      let (value, rest) ← readValue? depth fuel (skipBlanks rest)
      let entries ← Entries.addDotted? key value path entries
      match skipBlanks rest with
      | ',' :: rest => readPairs? depth entries fuel rest
      | '}' :: rest => return (entries, rest)
      | _ => none

end

/-- What has been read of a document, and the way to the table that is being filled. -/
structure Draft where
  root : Entries
  header : List String

/-- Reads a header after its first bracket. -/
def readHeader? (draft : Draft) (cs : List Char) : Option (Draft × List Char) :=
  match cs with
  | '[' :: cs => do
    let (path, key, rest) ← dottedKey? cs
    let rest ← expect? ']' (← expect? ']' rest) >>= finishLine?
    let root ← Entries.changeAt? (Entries.openNext? key) path draft.root
    return (⟨root, path ++ [key]⟩, rest)
  | cs => do
    let (path, key, rest) ← dottedKey? cs
    let rest ← expect? ']' rest >>= finishLine?
    let root ← Entries.changeAt? (Entries.openTable? key) path draft.root
    return (⟨root, path ++ [key]⟩, rest)

/-- Reads a line that gives a value. -/
def readEntry? (draft : Draft) (cs : List Char) : Option (Draft × List Char) := do
  let (path, key, rest) ← dottedKey? cs
  let value := skipBlanks (← expect? '=' rest)
  let (value, rest) ← readValue? 0 (2 * value.length + 2) value
  let rest ← finishLine? rest
  let root ← Entries.changeAt? (Entries.addDotted? key value path) draft.header draft.root
  return ({ draft with root := root }, rest)

/-- Reads the lines of a document; some hold nothing, or only a comment. -/
def readLines? (draft : Draft) : Nat → List Char → Option Entries
  | 0, _ => none
  | fuel + 1, cs =>
    match skipBlanks cs with
    | [] => some draft.root
    | '[' :: rest => do
      let (draft, rest) ← readHeader? draft rest
      readLines? draft fuel rest
    | cs =>
      match finishLine? cs with
      | some rest => readLines? draft fuel rest
      | none => do
        let (draft, rest) ← readEntry? draft cs
        readLines? draft fuel rest

def byteOrderMark : Char := '\uFEFF'

def dropByteOrderMark : List Char → List Char
  | [] => []
  | c :: cs => if c = byteOrderMark then cs else c :: cs

/-- The entries of the table that a text describes. -/
def entries? (text : String) : Option Entries :=
  let cs := dropByteOrderMark text.toList
  readLines? ⟨[], []⟩ (cs.length + 1) cs

end CloudLift.Toml
