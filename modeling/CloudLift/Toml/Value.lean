/-!
# Values of a TOML document

Tables grow while a document is read, and the rules against saying something twice hang
on how a table came to be.  A table of a header or in braces is closed to dotted keys, a
table that a longer header implies can still get its own header, and a table made by
dotted keys can get more of them.
-/

namespace CloudLift.Toml

/-- How a table came to be. -/
inductive Origin where
  | braces
  | header
  | implied
  | dotted
  deriving DecidableEq, Repr

inductive Value where
  | text (text : String)
  /-- A date, a time or both, as it is written out. -/
  | moment (text : String)
  /-- A number or a truth value. -/
  | scalar
  | array (items : List Value)
  | table (origin : Origin) (entries : List (String × Value))
  /-- The tables of a repeated header. -/
  | tables (tables : List (List (String × Value)))

abbrev Entries := List (String × Value)

namespace Entries

def find? (key : String) : Entries → Option Value
  | [] => none
  | (k, v) :: rest => if key = k then some v else find? key rest

def replace (key : String) (value : Value) : Entries → Entries
  | [] => []
  | (k, v) :: rest => if key = k then (k, value) :: rest else (k, v) :: replace key value rest

/-- Adds an entry, unless the key has one. -/
def add? (entries : Entries) (key : String) (value : Value) : Option Entries :=
  match entries.find? key with
  | some _ => none
  | none => some (entries ++ [(key, value)])

/-- Changes the last of several tables. -/
def changeLast? (change : Entries → Option Entries) :
    List Entries → Option (List Entries)
  | [] => none
  | [last] => (change last).map fun last => [last]
  | first :: rest => (changeLast? change rest).map (first :: ·)

/-- Changes the table that the path of a header leads to.  Tables that are not there
are implied. -/
def changeAt? (change : Entries → Option Entries) : List String → Entries → Option Entries
  | [], entries => change entries
  | key :: path, entries =>
    match entries.find? key with
    | none => do
      let inner ← changeAt? change path []
      return entries ++ [(key, .table .implied inner)]
    | some (.table .braces _) => none
    | some (.table origin inner) => do
      let inner ← changeAt? change path inner
      return entries.replace key (.table origin inner)
    | some (.tables tables) => do
      let tables ← changeLast? (changeAt? change path) tables
      return entries.replace key (.tables tables)
    | some _ => none

/-- Adds a value under a dotted key.  The last table on the way has to be one that
dotted keys made. -/
def addDotted? (key : String) (value : Value) : List String → Entries → Option Entries
  | [], entries => entries.add? key value
  | step :: path, entries =>
    match entries.find? step with
    | none => do
      let inner ← addDotted? key value path []
      return entries ++ [(step, .table .dotted inner)]
    | some (.table .dotted inner) => do
      let inner ← addDotted? key value path inner
      return entries.replace step (.table .dotted inner)
    | some (.table .implied inner) =>
      if path.isEmpty then none
      else do
        let inner ← addDotted? key value path inner
        return entries.replace step (.table .implied inner)
    | some (.tables tables) =>
      if path.isEmpty then none
      else do
        let tables ← changeLast? (addDotted? key value path) tables
        return entries.replace step (.tables tables)
    | some _ => none

/-- What a header does to the table that it names: an implied one becomes its own. -/
def openTable? (key : String) (entries : Entries) : Option Entries :=
  match entries.find? key with
  | none => some (entries ++ [(key, .table .header [])])
  | some (.table .implied inner) => some (entries.replace key (.table .header inner))
  | some _ => none

/-- What a repeated header does: one more table under its key. -/
def openNext? (key : String) (entries : Entries) : Option Entries :=
  match entries.find? key with
  | none => some (entries ++ [(key, .tables [[]])])
  | some (.tables tables) => some (entries.replace key (.tables (tables ++ [[]])))
  | some _ => none

end Entries

end CloudLift.Toml
