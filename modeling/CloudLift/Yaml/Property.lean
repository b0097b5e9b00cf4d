import CloudLift.Yaml.Scalar
import CloudLift.Yaml.Token

/-!
# Directives, anchors and tags

The parts of a YAML text that say something about a document or about the node that
follows.
-/

namespace CloudLift.Yaml

/-! ### Anchors and aliases -/

/-- The name of an anchor or an alias, after its mark.  A blank or one of a few marks
ends it. -/
def anchorName? (cur : Cursor) : Option (String × Cursor) :=
  let (name, cur) := (cur.skip 1).span isWordChar
  let ended := cur.blankOrEndAt 0 ||
    ((cur.peek?.map fun c => "?:,]\x7d%@".toList.contains c || c.toNat == 0x60).getD false)
  if name.isEmpty || !ended then none else some (String.ofList name, cur)

/-! ### Tags -/

/-- The characters of a tag besides those that only a full address may hold. -/
def isTagChar (c : Char) : Bool :=
  isWordChar c || ";/?:@&=+$.%!~*'()".toList.contains c

def isAddressChar (c : Char) : Bool :=
  isTagChar c || c == ',' || c == '[' || c == ']'

/-- How many bytes a sequence with this first byte has. -/
def sequenceWidth? (byte : Nat) : Option Nat :=
  if byte < 0x80 then some 1
  else if byte / 32 = 6 then some 2
  else if byte / 16 = 14 then some 3
  else if byte / 8 = 30 then some 4
  else none

def escapedByte? : List Char → Option Nat
  | '%' :: a :: b :: _ => do
    let x ← hexValue? a
    let y ← hexValue? b
    return x * 16 + y
  | _ => none

/-- The bytes after the first one of an escaped sequence. -/
def escapedTail? : Nat → List Char → Option Nat
  | 0, _ => some 0
  | n + 1, cs => do
    let byte ← escapedByte? cs
    if byte / 64 = 2 then
      let tail ← escapedTail? n (cs.drop 3)
      return (byte % 64) * Nat.pow 64 n + tail
    else
      none

/-- The least number that needs a sequence of this width. -/
def leastOfWidth (width : Nat) : Nat :=
  match width with
  | 0 | 1 => 0
  | 2 => 0x80
  | 3 => 0x800
  | _ => 0x10000

/-- An escaped character, and how many characters it is written with.  A sequence that
encodes no character stands for the replacement character. -/
def escapedChar? (cs : List Char) : Option (Char × Nat) := do
  let byte ← escapedByte? cs
  let width ← sequenceWidth? byte
  let tail ← escapedTail? (width - 1) (cs.drop 3)
  let lead := if width = 1 then byte else byte % Nat.pow 2 (7 - width)
  let n := lead * Nat.pow 64 (width - 1) + tail
  let encoded := n.isValidChar ∧ leastOfWidth width ≤ n
  return (if encoded then Char.ofNat n else '\uFFFD', 3 * width)

/-- Reads the characters of a tag with its escapes. -/
def tagText? (allowed : Char → Bool) : Nat → String → Cursor → Option (String × Cursor)
  | 0, text, cur => some (text, cur)
  | fuel + 1, text, cur =>
    match cur.peek? with
    | none => some (text, cur)
    | some c =>
      if c == '%' then
        match escapedChar? cur.rest with
        | some (d, n) => tagText? allowed fuel (text.push d) (cur.skip n)
        | none => none
      else if allowed c then
        tagText? allowed fuel (text.push c) (cur.skip 1)
      else
        some (text, cur)

/-- A tag's handle: an exclamation mark, or a word between two. -/
def tagHandle (cur : Cursor) : List Char × Cursor :=
  let (word, after) := (cur.skip 1).span isWordChar
  if after.peek? == some '!' then
    ('!' :: word ++ ['!'], after.skip 1)
  else
    ('!' :: word, after)

/-- The part of a tag that counts: an escaped NUL ends it. -/
def tagPart (text : String) : String :=
  String.ofList (text.toList.takeWhile (· ≠ '\u0000'))

/-- A tag is a full address between angle brackets, or a handle and a suffix.  Without a
second exclamation mark the word belongs to the suffix. -/
def tag? (flow : Bool) (cur : Cursor) : Option (Token × Cursor) := do
  let (token, cur) ←
    if cur.at? 1 == some '<' then do
      let (text, after) ← tagText? isAddressChar (cur.rest.length + 1) "" (cur.skip 2)
      if text.isEmpty || after.peek? != some '>' then none
      else some (Token.tag "" (tagPart text), after.skip 1)
    else do
      let (handle, after) := tagHandle cur
      if 2 ≤ handle.length && handle.getLast? == some '!' then
        let (suffix, after) ← tagText? isTagChar (cur.rest.length + 1) "" after
        if suffix.isEmpty then none
        else some (Token.tag (String.ofList handle) (tagPart suffix), after)
      else
        let (suffix, after) ←
          tagText? isTagChar (cur.rest.length + 1) (String.ofList (handle.drop 1)) after
        let suffix := tagPart suffix
        if suffix.isEmpty then some (Token.tag "" "!", after)
        else some (Token.tag "!" suffix, after)
  if (flow && cur.peek? == some ',') || cur.blankOrEndAt 0 then
    some (token, cur)
  else
    none

/-! ### Directives -/

def versionNumber? (cur : Cursor) : Option (Nat × Cursor) :=
  let (digits, cur) := cur.span Char.isDigit
  if digits.isEmpty || 9 < digits.length then none
  else some (digits.foldl (fun n c => n * 10 + (c.toNat - '0'.toNat)) 0, cur)

def versionDirective? (cur : Cursor) : Option (Token × Cursor) := do
  let (major, cur) ← versionNumber? cur.skipBlanks
  if cur.peek? != some '.' then
    none
  else
    let (minor, cur) ← versionNumber? (cur.skip 1)
    return (.version major minor, cur)

def tagDirective? (cur : Cursor) : Option (Token × Cursor) := do
  let cur := cur.skipBlanks
  if cur.peek? != some '!' then
    none
  else
    let (handle, cur) := tagHandle cur
    if handle != ['!'] && handle.getLast? != some '!' then none
    else if cur.peek?.isNone || !(cur.peek?.map isBlank).getD false then none
    else
      let (expansion, cur) ← tagText? isAddressChar (cur.rest.length + 1) "" cur.skipBlanks
      if expansion.isEmpty || !cur.blankOrEndAt 0 then none
      else return (.tagShorthand (String.ofList handle) (tagPart expansion), cur)

/-- A directive fills a line that starts with a percent sign. -/
def directive? (cur : Cursor) : Option (Token × Cursor) := do
  let (name, cur) := (cur.skip 1).span isWordChar
  if !cur.blankOrEndAt 0 then
    none
  else
    let (token, cur) ←
      if name == "YAML".toList then versionDirective? cur
      else if name == "TAG".toList then tagDirective? cur
      else none
    let cur ← cur.finishLine?
    return (token, cur)

end CloudLift.Yaml
