/-!
# A place in a YAML text

A cursor is the text from a place on, with the line, the column and the number of
bytes before it.  Line breaks are LF, CR, both together, NEL and the two separators of
Unicode; all but the separators are read as LF.
-/

namespace CloudLift.Yaml

def isBlank (c : Char) : Bool :=
  c == ' ' || c == '\t'

def isBreak (c : Char) : Bool :=
  c == '\n' || c == '\r' || c == '\u0085' || c == '\u2028' || c == '\u2029'

/-- The characters of names of directives, anchors and tag handles. -/
def isWordChar (c : Char) : Bool :=
  c.isAlphanum || c == '_' || c == '-'

/-- The characters that a YAML text may hold. -/
def isPrintable (c : Char) : Bool :=
  let n := c.toNat
  n == 0x09 || n == 0x0A || n == 0x0D || (0x20 ≤ n && n ≤ 0x7E) || n == 0x85 ||
    (0xA0 ≤ n && n ≤ 0xD7FF) || (0xE000 ≤ n && n ≤ 0xFFFD) || 0x10000 ≤ n

structure Cursor where
  rest : List Char
  line : Nat
  column : Nat
  /-- The number of bytes before the place. -/
  index : Nat

namespace Cursor

def start (text : List Char) : Cursor :=
  ⟨text, 0, 0, 0⟩

def peek? (cur : Cursor) : Option Char :=
  cur.rest.head?

def at? (cur : Cursor) (n : Nat) : Option Char :=
  cur.rest[n]?

def starts (cur : Cursor) (text : String) : Bool :=
  text.toList.isPrefixOf cur.rest

/-- Whether the text ends after `n` characters, or goes on with a blank or a break. -/
def blankOrEndAt (cur : Cursor) (n : Nat) : Bool :=
  match cur.at? n with
  | none => true
  | some c => isBlank c || isBreak c

/-- Whether the line ends here. -/
def atLineEnd (cur : Cursor) : Bool :=
  match cur.peek? with
  | none => true
  | some c => isBreak c

/-- The number of bytes of the next `n` characters. -/
def width (cur : Cursor) (n : Nat) : Nat :=
  (cur.rest.take n).foldl (fun bytes c => bytes + c.utf8Size) 0

/-- Goes over characters that are no breaks. -/
def skip (cur : Cursor) (n : Nat) : Cursor :=
  ⟨cur.rest.drop n, cur.line, cur.column + n, cur.index + cur.width n⟩

/-- Goes over a break and gives the text that stands for it. -/
def breakLine (cur : Cursor) : String × Cursor :=
  let next (n : Nat) : Cursor :=
    ⟨cur.rest.drop n, cur.line + 1, 0, cur.index + cur.width n⟩
  match cur.rest with
  | '\r' :: '\n' :: _ => ("\n", next 2)
  | '\u2028' :: _ => ("\u2028", next 1)
  | '\u2029' :: _ => ("\u2029", next 1)
  | c :: _ => if isBreak c then ("\n", next 1) else ("", cur)
  | [] => ("", cur)

/-- Goes over the longest run of characters of a kind, which holds no break. -/
def span (cur : Cursor) (p : Char → Bool) : List Char × Cursor :=
  let run := cur.rest.takeWhile p
  (run, cur.skip run.length)

def skipBlanks (cur : Cursor) : Cursor :=
  (cur.span isBlank).2

/-- Goes over a comment, which reaches to the end of its line. -/
def skipComment (cur : Cursor) : Cursor :=
  if cur.peek? == some '#' then (cur.span fun c => !isBreak c).2 else cur

/-- Goes over blanks and a comment, to the start of the next line. -/
def finishLine? (cur : Cursor) : Option Cursor :=
  let cur := cur.skipBlanks.skipComment
  if cur.atLineEnd then some cur.breakLine.2 else none

/-- Whether a line starts here that begins or ends a document. -/
def atDocumentMark (cur : Cursor) : Bool :=
  cur.column == 0 && (cur.starts "---" || cur.starts "...") && cur.blankOrEndAt 3

end Cursor

end CloudLift.Yaml
