import CloudLift.CommandLine.Help
import CloudLift.CommandLine.Invocation
import CloudLift.Conversion.Convert
import CloudLift.Operator.Terminal

/-!
# Executing a command line

A command is a task with an operator at the terminal.  It gives the lines that it prints
at its end, after what was printed for the operator.
-/

namespace CloudLift.CommandLine

namespace Command

def lineFor (name id : String) : String :=
  name ++ "\t" ++ id

/-- Does what a command asks for, and gives the lines to print. -/
def task (surroundings : Surroundings) : Command → Task Terminal (List String)
  | .convert request => do
    let output ← Task.convert .terminal surroundings request
    return ["Configuration written to " ++ output.text]
  | .listImages listing filter => do
    let catalog ← Task.loadCatalog .terminal surroundings.command listing
    let shown := catalog.entries.filter fun (name, _) =>
      match filter with
      | some part => Text.holds part name
      | none => true
    return shown.map fun (name, id) => lineFor name id
  | .resolveOs tag listing => do
    let catalog ← Task.loadCatalog .terminal surroundings.command listing
    let id ← Task.perform .terminal none fun _ => catalog.resolve tag
    return [lineFor (Image.imageKey tag) id]
  | .checkName name => do
    Task.perform .terminal none fun _ => requireName name
    return ["\"" ++ name ++ "\" is a valid name"]

end Command

/-- What is still said of the journal: with both switches, being quiet counts. -/
def Invocation.threshold (invocation : Invocation) : Severity :=
  if invocation.quiet then .error
  else if invocation.verbose then .debug
  else .info

/-! ### Reports of failures -/

/-- The texts from the outermost undertaking to the innermost cause. -/
def chain (failure : Failure) : List String :=
  failure.contexts ++ failure.fault.message ::
    (failure.fault.cause?.map IoFault.message).toList

/-- The text with `first` before its first line and `later` before every other one. -/
def indented (first later text : String) : String :=
  first ++ Text.join ("\n" ++ later) (Text.pieces '\n' text)

/-- The causes, numbered from `number`. -/
def numbered (number : Nat) : List String → List String
  | [] => []
  | cause :: causes =>
    indented s!"    {number}: " "       " cause :: numbered (number + 1) causes

def complaint (failure : Failure) : String :=
  match chain failure with
  | [] => ""
  | [fault] => "Error: " ++ fault ++ "\n"
  | [context, cause] =>
    "Error: " ++ context ++ "\n\nCaused by:\n" ++ indented "    " "    " cause ++ "\n"
  | context :: causes =>
    "Error: " ++ context ++ "\n\nCaused by:\n" ++ Text.join "\n" (numbered 0 causes) ++ "\n"

/-! ### The whole run -/

/-- What a run of the program leaves behind. -/
structure Report where
  status : Nat
  printed : String
  /-- The lines of the journal that are said. -/
  journal : List String
  complaint : String
  disk : Disk
  /-- Whether the run came to its end because no answer was left to read. -/
  starved : Bool

/-- Whether the environment asks for colours where there would be none. -/
def wantsColour (environment : Table String) : Bool :=
  (environment.find? "CLICOLOR_FORCE").any (· ≠ "0")

/-- What is done instead of a command. -/
def refuse (environment : Table String) (disk : Disk) : Refusal → Report
  | .helpAsked topic => ⟨0, helpText environment topic, [], "", disk, false⟩
  | .versionAsked => ⟨0, programName ++ " " ++ version ++ "\n", [], "", disk, false⟩
  | _ => ⟨2, "", [], "Usage: " ++ programName ++ " [OPTIONS] <COMMAND>\n", disk, false⟩

def Invocation.execute (invocation : Invocation) (surroundings : Surroundings)
    (input : List UInt8) (disk : Disk) : Report :=
  let terminal := Terminal.opened input none (wantsColour surroundings.environment)
  let (outcome, session) :=
    (invocation.command.task surroundings).run (Session.opened disk terminal)
  let journal := session.journal.lines invocation.threshold
  let printed := session.operator.output
  match outcome with
  | .ok lines =>
    let closing := String.join (lines.map (· ++ "\n"))
    ⟨0, printed ++ closing, journal, "", session.disk, false⟩
  | .error failure =>
    let starved := failure.fault == .inputClosed
    ⟨1, printed, journal, complaint failure, session.disk, starved⟩

/-- The files that a command reads, apart from sources that are looked for. -/
def Command.files : Command → List Path
  | .convert request =>
    request.source.toList ++ request.config.toList ++ [request.output] ++
      [request.listing.getD ⟨Image.defaultListing⟩]
  | .listImages listing _ => [listing.getD ⟨Image.defaultListing⟩]
  | .resolveOs _ listing => [listing.getD ⟨Image.defaultListing⟩]
  | .checkName _ => []

/-- Runs the program with the words after its name. -/
def run (surroundings : Surroundings) (words : List String) (input : List UInt8)
    (disk : Disk) : Report :=
  match Invocation.ofWords surroundings.environment words with
  | .ok invocation => invocation.execute surroundings input disk
  | .error refusal => refuse surroundings.environment disk refusal

end CloudLift.CommandLine
