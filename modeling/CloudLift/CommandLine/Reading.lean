import CloudLift.CommandLine.Form
import CloudLift.Table
import CloudLift.Text.Cut

/-!
# Reading a command line

The words after a command are read from left to right.  An option whose value is a word
of its own stays open until the next parameter comes, and so does the operand; only when
it is closed is its value judged.  A word that means nothing is refused before that.
-/

namespace CloudLift.CommandLine

/-- Why a command line is not followed. -/
inductive Refusal where
  | helpAsked (topic : Topic)
  | versionAsked
  | nothingGiven
  | commandMissing
  | unknownCommand
  | unknownArgument
  | repeated
  | badValue
  | needlessValue
  | operandMissing
  deriving DecidableEq, Repr

structure Reading where
  /-- The values of the parameters that are closed; that of a switch says nothing. -/
  given : Table String
  /-- The parameter that is open, with its value if that has come. -/
  pending : Option (Parameter × Option String)
  operandSeen : Bool
  /-- Whether everything that follows is an operand. -/
  literal : Bool

namespace Reading

def start : Reading :=
  ⟨.empty, none, false, false⟩

/-- Judges a parameter and its value. -/
def record (r : Reading) (parameter : Parameter) (value? : Option String) :
    Except Refusal Reading :=
  match parameter.kind with
  | .help => .error (.helpAsked .program)
  | .version => .error .versionAsked
  | .switch =>
    if r.given.contains parameter.name then .error .repeated
    else .ok { r with given := r.given.insert parameter.name "" }
  | kind =>
    match value? with
    | none => .error .badValue
    | some value =>
      if r.given.contains parameter.name then .error .repeated
      else if kind = .path ∧ value.isEmpty then .error .badValue
      else .ok { r with given := r.given.insert parameter.name value }

/-- Closes the parameter that is open. -/
def settle (r : Reading) : Except Refusal Reading :=
  match r.pending with
  | none => .ok r
  | some (parameter, value?) => { r with pending := none }.record parameter value?

/-- Takes a parameter that is complete. -/
def give (r : Reading) (parameter : Parameter) (value? : Option String) :
    Except Refusal Reading := do
  (← r.settle).record parameter value?

/-- Opens a parameter. -/
def hold (r : Reading) (parameter : Parameter) (value? : Option String) :
    Except Refusal Reading := do
  return { (← r.settle) with pending := some (parameter, value?) }

/-- Whether the next word can be the value of an option. -/
def awaitsValue (r : Reading) : Bool :=
  match r.pending with
  | some (_, none) => !r.literal
  | _ => false

/-- Reads a name after two hyphens, with a value after an equals sign or without. -/
def readName (form : Form) (r : Reading) (body : List Char) : Except Refusal Reading :=
  let (name, value?) :=
    match Text.Chars.cutAt? '=' body with
    | some (name, value) => (name, some (String.ofList value))
    | none => (body, none)
  match form.named? (String.ofList name) with
  | none => .error .unknownArgument
  | some parameter =>
    if parameter.takesValue then
      if value?.isSome then r.give parameter value? else r.hold parameter none
    else if value?.isSome then .error .needlessValue
    else r.give parameter none

/-- Reads letters after one hyphen.  What follows the letter of an option is its value,
with an equals sign before it or without. -/
def readLetters (form : Form) : Reading → List Char → Except Refusal Reading
  | r, [] => .ok r
  | r, c :: cs =>
    match form.lettered? c with
    | none => .error .unknownArgument
    | some parameter =>
      if parameter.takesValue then
        match cs with
        | [] => r.hold parameter none
        | '=' :: value => r.give parameter (some (String.ofList value))
        | value => r.give parameter (some (String.ofList value))
      else
        (r.give parameter none).bind fun r => readLetters form r cs

/-- What is wrong with a word that the form has no place for. -/
def misplaced (form : Form) (r : Reading) (word : String) : Refusal :=
  if form.commands.isEmpty || (r.literal && form.commands.contains word) then
    .unknownArgument
  else
    .unknownCommand

def readOperand (form : Form) (r : Reading) (word : String) : Except Refusal Reading :=
  match form.operand with
  | none => .error (misplaced form r word)
  | some parameter =>
    if r.operandSeen then
      .error (misplaced form r word)
    else
      ({ r with operandSeen := true }).hold parameter (some word)

/-- Reads a word that has no hyphen before it. -/
def readBare (form : Form) (r : Reading) (word : String) : Except Refusal Reading :=
  match r.pending with
  | some (parameter, none) => .ok { r with pending := some (parameter, some word) }
  | _ => readOperand form r word

def readWord (form : Form) (r : Reading) (word : String) : Except Refusal Reading :=
  if r.literal then
    readOperand form r word
  else
    match word.toList with
    | ['-', '-'] => .ok { r with literal := true }
    | '-' :: '-' :: body => readName form r body
    | '-' :: c :: cs => readLetters form r (c :: cs)
    | _ => readBare form r word

/-- Reads up to the name of a command, and gives it with the words after it. -/
def readWords (form : Form) :
    Reading → List String → Except Refusal (Reading × Option (String × List String))
  | r, [] => .ok (r, none)
  | r, word :: words =>
    if !r.literal && !r.awaitsValue && form.commands.contains word then
      .ok (r, some (word, words))
    else
      (readWord form r word).bind fun r => readWords form r words

end Reading

end CloudLift.CommandLine
