import CloudLift.Toml.Text

/-!
# Numbers, dates and times of a TOML document

The settings hold no numbers, so of a number only its form and its range count.  A date
or a time is read with its parts, and written out in one form.
-/

namespace CloudLift.Toml

def digitsOf (digits : List Char) : Nat :=
  digits.foldl (fun n c => n * 10 + (c.toNat - '0'.toNat)) 0

/-! ### Dates and times -/

/-- A number of exactly `n` digits within a range. -/
def fixed? (n low high : Nat) (cs : List Char) : Option (Nat × List Char) :=
  let digits := cs.take n
  let value := digitsOf digits
  if digits.length = n ∧ digits.all Char.isDigit ∧ low ≤ value ∧ value ≤ high then
    some (value, cs.drop n)
  else
    none

def expect? (c : Char) : List Char → Option (List Char)
  | d :: cs => if c = d then some cs else none
  | [] => none

def isLeapYear (year : Nat) : Bool :=
  (year % 4 == 0 && year % 100 != 0) || year % 400 == 0

def daysIn (year month : Nat) : Nat :=
  if month = 2 then (if isLeapYear year then 29 else 28)
  else if month = 4 ∨ month = 6 ∨ month = 9 ∨ month = 11 then 30
  else 31

def padded (width n : Nat) : String :=
  let digits := toString n
  String.ofList (List.replicate (width - digits.length) '0') ++ digits

def date? (cs : List Char) : Option (String × List Char) := do
  let (year, cs) ← fixed? 4 0 9999 cs
  let (month, cs) ← fixed? 2 1 12 (← expect? '-' cs)
  let (day, cs) ← fixed? 2 1 (daysIn year month) (← expect? '-' cs)
  return (s!"{padded 4 year}-{padded 2 month}-{padded 2 day}", cs)

/-- The digits of a fraction of a second, to nine places and without zeros at the end. -/
def fraction? (cs : List Char) : Option (String × List Char) :=
  match cs with
  | '.' :: rest =>
    let digits := rest.takeWhile Char.isDigit
    if digits.isEmpty then
      none
    else
      let kept := ((digits.take 9).reverse.dropWhile (· == '0')).reverse
      let text := if kept.isEmpty then "" else "." ++ String.ofList kept
      some (text, rest.drop digits.length)
  | cs => some ("", cs)

def time? (cs : List Char) : Option (String × List Char) := do
  let (hour, cs) ← fixed? 2 0 23 cs
  let (minute, cs) ← fixed? 2 0 59 (← expect? ':' cs)
  let (second, cs) ← fixed? 2 0 60 (← expect? ':' cs)
  let (fraction, cs) ← fraction? cs
  return (s!"{padded 2 hour}:{padded 2 minute}:{padded 2 second}{fraction}", cs)

/-- The distance from universal time, if it is given. -/
def offset? (cs : List Char) : Option (String × List Char) :=
  match cs with
  | 'Z' :: rest => some ("Z", rest)
  | 'z' :: rest => some ("Z", rest)
  | c :: rest =>
    if c == '+' || c == '-' then do
      let (hour, rest) ← fixed? 2 0 23 rest
      let (minute, rest) ← fixed? 2 0 59 (← expect? ':' rest)
      let sign := if c == '-' && hour + minute ≠ 0 then "-" else "+"
      return (s!"{sign}{padded 2 hour}:{padded 2 minute}", rest)
    else
      some ("", cs)
  | [] => some ("", [])

/-- Whether a time of the day starts here. -/
def startsTime (cs : List Char) : Bool :=
  match cs with
  | a :: b :: ':' :: _ => a.isDigit && b.isDigit
  | _ => false

def startsDate (cs : List Char) : Bool :=
  (cs.take 4).length == 4 && (cs.take 4).all Char.isDigit && cs[4]? == some '-'

/-- Reads a date, a time, or both. -/
def moment? (cs : List Char) : Option (String × List Char) :=
  if startsTime cs then
    time? cs
  else do
    let (date, rest) ← date? cs
    match rest with
    | c :: after =>
      if (c == 'T' || c == 't' || c == ' ') && startsTime after then
        let (time, rest) ← time? after
        let (offset, rest) ← offset? rest
        return (date ++ "T" ++ time ++ offset, rest)
      else
        return (date, rest)
    | [] => return (date, [])

/-! ### Numbers -/

/-- Goes over digits with single underscores between them. -/
def digitRun? (isDigit : Char → Bool) : List Char → Option (List Char × List Char)
  | [] => none
  | c :: cs =>
    if isDigit c then
      match cs with
      | '_' :: rest =>
        match digitRun? isDigit rest with
        | some (digits, rest) => some (c :: digits, rest)
        | none => none
      | rest =>
        match digitRun? isDigit rest with
        | some (digits, rest) => some (c :: digits, rest)
        | none => some ([c], rest)
    else
      none

/-- The digits of a decimal number, which starts with a zero only if that is all. -/
def decimal? : List Char → Option (List Char × List Char)
  | '0' :: cs => some (['0'], cs)
  | cs => digitRun? Char.isDigit cs

def dropSign : List Char → Bool × List Char
  | '+' :: cs => (false, cs)
  | '-' :: cs => (true, cs)
  | cs => (false, cs)

/-- Positive numbers of 64 bits with a sign are below this one. -/
def signedBound : Nat := 0x8000000000000000

/-- A number in another base, with its letters and limits. -/
def based? (base : Nat) (isDigit : Char → Bool) (cs : List Char) : Option (List Char) := do
  let (digits, rest) ← digitRun? isDigit cs
  let value := digits.foldl (fun n c => n * base + (hexDigit? c).getD 0) 0
  if value < signedBound then some rest else none

def exponent? : List Char → Option (Int × List Char)
  | c :: cs =>
    if c == 'e' || c == 'E' then do
      let (negative, cs) := dropSign cs
      let (digits, rest) ← digitRun? Char.isDigit cs
      let n : Int := digitsOf digits
      return (if negative then -n else n, rest)
    else
      none
  | [] => none

/-- Whether a positive number of this size is read as infinite: from halfway past the
largest number of 64 bits on. -/
def isInfinite (digits : List Char) (exponent : Int) : Bool :=
  let n := digitsOf digits
  let bound := Nat.pow 2 1024 - Nat.pow 2 970
  let magnitude : Int := (toString n).length + exponent
  if n = 0 then false
  else if 400 < magnitude then true
  else if magnitude < 300 then false
  else if 0 ≤ exponent then bound ≤ n * Nat.pow 10 exponent.toNat
  else bound * Nat.pow 10 exponent.natAbs ≤ n

/-- Goes over a number with a fraction, an exponent or both. -/
def float? (cs : List Char) : Option (List Char) := do
  let (negative, unsigned) := dropSign cs
  let (whole, rest) ← decimal? unsigned
  let (places, rest, fractional) ←
    match rest with
    | '.' :: rest => do
      let (places, rest) ← digitRun? Char.isDigit rest
      some (places, rest, true)
    | rest => some ([], rest, false)
  let (exponent, rest) ←
    match exponent? rest with
    | some found => some found
    | none => if fractional then some (0, rest) else none
  if !negative && isInfinite (whole ++ places) (exponent - places.length) then none
  else some rest

def special? (cs : List Char) : Option (List Char) :=
  let (_, cs) := dropSign cs
  if "inf".toList.isPrefixOf cs || "nan".toList.isPrefixOf cs then some (cs.drop 3) else none

def integer? (cs : List Char) : Option (List Char) :=
  match cs with
  | '0' :: 'x' :: rest => based? 16 (fun c => (hexDigit? c).isSome) rest
  | '0' :: 'o' :: rest => based? 8 (fun c => '0' ≤ c && c ≤ '7') rest
  | '0' :: 'b' :: rest => based? 2 (fun c => c == '0' || c == '1') rest
  | cs => do
    let (negative, unsigned) := dropSign cs
    let (digits, rest) ← decimal? unsigned
    let value := digitsOf digits
    if value < signedBound ∨ (negative ∧ value = signedBound) then some rest else none

/-- Goes over a number.  What starts like a number with a fraction is one. -/
def number? (cs : List Char) : Option (List Char) :=
  match special? cs with
  | some rest => some rest
  | none =>
    match float? cs with
    | some rest => some rest
    | none => integer? cs

end CloudLift.Toml
