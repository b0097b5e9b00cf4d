import CloudLift.CommandLine.Reading
import CloudLift.Conversion.Request

/-!
# Invocations

What a command line asks for.  Options that are not on the command line can come from
the environment.
-/

namespace CloudLift.CommandLine

inductive Command where
  | convert (request : Request)
  | listImages (listing : Option Path) (filter : Option String)
  | resolveOs (tag : String) (listing : Option Path)
  | checkName (name : String)
  deriving DecidableEq, Repr

structure Invocation where
  command : Command
  verbose : Bool
  quiet : Bool
  deriving DecidableEq, Repr

/-- Adds the values that the environment gives. -/
def addVariables (environment given : Table String) :
    List Parameter → Table String
  | [] => given
  | parameter :: parameters =>
    let given :=
      match parameter.environmentName.bind environment.find? with
      | some value =>
        if given.contains parameter.name then given else given.insert parameter.name value
      | none => given
    addVariables environment given parameters

/-- Reads the words after a command. -/
def givenTo (verb : Verb) (environment : Table String) (words : List String) :
    Except Refusal (Table String) := do
  let form := Form.ofVerb verb
  let (r, _) ← (Reading.readWords form .start words).mapError fun
    | .helpAsked _ => .helpAsked (.verb verb)
    | refusal => refusal
  let r ← r.settle
  let given := addVariables environment r.given form.options
  match form.operand with
  | none => return given
  | some operand =>
    if given.contains operand.name then return given else .error .operandMissing

namespace Command

def requestOf (given : Table String) : Request :=
  let path? (name : String) : Option Path := (given.find? name).map Path.mk
  { source := path? "source"
    directory := (path? "dir").getD ⟨"."⟩
    output := (path? "output").getD ⟨defaultOutput⟩
    config := path? "config"
    listing := path? Parameter.listing.name
    credentials :=
      ⟨given.find? "token", given.find? "cloud-id", given.find? "folder-id",
        given.find? "zone"⟩
    network := ⟨given.find? "network", given.find? "subnet", given.find? "cidr"⟩ }

def ofGiven (verb : Verb) (given : Table String) : Command :=
  let listing := (given.find? Parameter.listing.name).map Path.mk
  match verb with
  | .convert => .convert (requestOf given)
  | .listImages => .listImages listing (given.find? "filter")
  | .resolveOs => .resolveOs ((given.find? "os_id").getD "") listing
  | .checkName => .checkName ((given.find? "name").getD "")

end Command

/-- What is asked for after the word for help: the words have to name a command. -/
def helpAbout (words : List String) : Refusal :=
  match words with
  | [] => .helpAsked .program
  | [word] =>
    if word = helpName then .helpAsked .help
    else
      match Verb.ofName? word with
      | some verb => .helpAsked (.verb verb)
      | none => .unknownCommand
  | _ => .unknownCommand

/-- Reads the words after the name of the program.  A switch counts on either side of
the command. -/
def Invocation.ofWords (environment : Table String) (words : List String) :
    Except Refusal Invocation := do
  let (r, command?) ← Reading.readWords .program .start words
  match command? with
  | none =>
    let r ← r.settle
    .error (if r.given.entries.isEmpty then .nothingGiven else .commandMissing)
  | some (word, rest) =>
    match Verb.ofName? word with
    | none => .error (helpAbout rest)
    | some verb =>
      let given ← givenTo verb environment rest
      let r ← r.settle
      let has (parameter : Parameter) : Bool :=
        r.given.contains parameter.name || given.contains parameter.name
      return ⟨.ofGiven verb given, has .verbose, has .quiet⟩

end CloudLift.CommandLine
