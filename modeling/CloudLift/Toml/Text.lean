/-!
# Keys and strings of a TOML document

Each reader takes the characters from a place on and gives what it read with the
characters after it.
-/

namespace CloudLift.Toml

def isBlank (c : Char) : Bool :=
  c == ' ' || c == '\t'

/-- The characters of comments, and with their own quote excepted those of strings on one
line. -/
def isLineChar (c : Char) : Bool :=
  c == '\t' || (0x20 ≤ c.toNat && c.toNat ≠ 0x7F)

def isKeyChar (c : Char) : Bool :=
  c.isAlphanum || c == '_' || c == '-'

def skipBlanks (cs : List Char) : List Char :=
  cs.dropWhile isBlank

/-- Goes over a line break: a line feed, with a carriage return before it or not. -/
def newline? : List Char → Option (List Char)
  | '\n' :: cs => some cs
  | '\r' :: '\n' :: cs => some cs
  | _ => none

/-- Goes over a comment, which does not include the end of its line. -/
def skipComment : List Char → List Char
  | '#' :: cs => cs.dropWhile isLineChar
  | cs => cs

/-- Goes over the rest of a line that holds nothing more. -/
def finishLine? (cs : List Char) : Option (List Char) :=
  match skipComment (skipBlanks cs) with
  | [] => some []
  | cs => newline? cs

/-- Goes over blanks, comments and line breaks. -/
def skipLines : Nat → List Char → Option (List Char)
  | 0, cs => some cs
  | fuel + 1, cs =>
    match skipBlanks cs with
    | '#' :: rest =>
      match newline? (skipComment ('#' :: rest)) with
      | some rest => skipLines fuel rest
      | none => none
    | '\n' :: rest => skipLines fuel rest
    | '\r' :: rest =>
      match rest with
      | '\n' :: rest => skipLines fuel rest
      | _ => none
    | rest => some rest

/-! ### Strings -/

def hexDigit? (c : Char) : Option Nat :=
  if c.isDigit then some (c.toNat - '0'.toNat)
  else if 'a' ≤ c && c ≤ 'f' then some (c.toNat - 'a'.toNat + 10)
  else if 'A' ≤ c && c ≤ 'F' then some (c.toNat - 'A'.toNat + 10)
  else none

def hexNumber? (number : Nat) : Nat → List Char → Option (Nat × List Char)
  | 0, cs => some (number, cs)
  | _ + 1, [] => none
  | n + 1, c :: cs => do
    let d ← hexDigit? c
    hexNumber? (number * 16 + d) n cs

def codePoint? (digits : Nat) (cs : List Char) : Option (Char × List Char) := do
  let (n, rest) ← hexNumber? 0 digits cs
  if n.isValidChar then some (Char.ofNat n, rest) else none

/-- The character of an escape, after its backslash. -/
def escape? : List Char → Option (Char × List Char)
  | 'b' :: cs => some ('\u0008', cs)
  | 't' :: cs => some ('\t', cs)
  | 'n' :: cs => some ('\n', cs)
  | 'f' :: cs => some ('\u000c', cs)
  | 'r' :: cs => some ('\r', cs)
  | '"' :: cs => some ('"', cs)
  | '\\' :: cs => some ('\\', cs)
  | 'u' :: cs => codePoint? 4 cs
  | 'U' :: cs => codePoint? 8 cs
  | _ => none

/-- Goes over blanks and line breaks, after a line break that was escaped. -/
def skipFolded : Nat → List Char → List Char
  | 0, cs => cs
  | fuel + 1, cs =>
    match newline? (skipBlanks cs) with
    | some rest => skipFolded fuel rest
    | none => skipBlanks cs

/-- Reads a string on one line after its opening quote.  In double quotes a backslash
starts an escape. -/
def lineString? (quote : Char) : Nat → String → List Char → Option (String × List Char)
  | 0, _, _ => none
  | _ + 1, _, [] => none
  | fuel + 1, text, c :: cs =>
    if c == quote then some (text, cs)
    else if c == '\\' && quote == '"' then do
      let (e, rest) ← escape? cs
      lineString? quote fuel (text.push e) rest
    else if isLineChar c then lineString? quote fuel (text.push c) cs
    else none

/-- Reads a string over several lines after its opening quotes.  Up to two quotes can
stand before the three that close it. -/
def linesString? (quote : Char) : Nat → String → List Char → Option (String × List Char)
  | 0, _, _ => none
  | _ + 1, _, [] => none
  | fuel + 1, text, c :: cs =>
    if c == quote then
      let run := (cs.takeWhile (· == quote)).length + 1
      if run < 3 then
        linesString? quote fuel (text ++ String.ofList (List.replicate run quote))
          (cs.drop (run - 1))
      else
        let kept := min (run - 3) 2
        some (text ++ String.ofList (List.replicate kept quote), cs.drop (kept + 2))
    else if c == '\\' && quote == '"' then
      match newline? (skipBlanks cs) with
      | some rest => linesString? quote fuel text (skipFolded (rest.length + 1) rest)
      | none => do
        let (e, rest) ← escape? cs
        linesString? quote fuel (text.push e) rest
    else
      match newline? (c :: cs) with
      | some rest => linesString? quote fuel (text.push '\n') rest
      | none => if isLineChar c then linesString? quote fuel (text.push c) cs else none

def isQuote (c : Char) : Bool :=
  c == '"' || c == '\''

/-- Reads a string of any kind; a line break right after three quotes does not count. -/
def string? : List Char → Option (String × List Char)
  | [] => none
  | quote :: cs =>
    if !isQuote quote then none
    else if [quote, quote].isPrefixOf cs then
      let body := cs.drop 2
      linesString? quote (body.length + 1) "" ((newline? body).getD body)
    else
      lineString? quote (cs.length + 1) "" cs

/-! ### Keys -/

/-- Reads a key without dots: a string on one line, or a bare word. -/
def simpleKey? : List Char → Option (String × List Char)
  | [] => none
  | c :: cs =>
    if isQuote c then
      lineString? c (cs.length + 1) "" cs
    else
      let word := (c :: cs).takeWhile isKeyChar
      if word.isEmpty then none
      else some (String.ofList word, (c :: cs).drop word.length)

/-- How deep keys and values can be nested. -/
def depthLimit : Nat := 80

/-- Reads keys with dots between them and blanks around them. -/
def keys? : Nat → List Char → Option (List String × List Char)
  | 0, _ => none
  | fuel + 1, cs => do
    let (key, rest) ← simpleKey? (skipBlanks cs)
    match skipBlanks rest with
    | '.' :: rest => do
      let (keys, rest) ← keys? fuel rest
      return (key :: keys, rest)
    | rest => return ([key], rest)

/-- Reads a dotted key, as the steps that lead to it and the key itself. -/
def dottedKey? (cs : List Char) : Option (List String × String × List Char) := do
  let (keys, rest) ← keys? (cs.length + 1) cs
  if depthLimit ≤ keys.length then
    none
  else
    let last ← keys.getLast?
    return (keys.dropLast, last, rest)

end CloudLift.Toml
