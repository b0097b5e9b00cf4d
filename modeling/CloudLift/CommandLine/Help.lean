import CloudLift.CommandLine.Form
import CloudLift.Table
import CloudLift.Text.Control
import CloudLift.Text.Cut

/-!
# Help texts

A help text says what a command is for, how it is written, and what its parameters mean.
The meanings stand in one column.  A parameter whose value can come from the environment
shows the value that is there, unless it is a secret.
-/

namespace CloudLift.CommandLine

/-- The name of a value: the parameter's own, in capitals. -/
def valueName (parameter : Parameter) : String :=
  String.ofList (parameter.name.toList.map fun c => if c = '-' then '_' else c.toUpper)

/-- An option as it is written. -/
def written (parameter : Parameter) : String :=
  let short :=
    match parameter.letter with
    | some letter => "-" ++ String.ofList [letter] ++ ", "
    | none => "    "
  let value := if parameter.takesValue then " <" ++ valueName parameter ++ ">" else ""
  short ++ "--" ++ parameter.name ++ value

def spaces (count : Nat) : String :=
  String.ofList (List.replicate count ' ')

/-- Lines of two columns, the second one aligned in all its lines. -/
def columns (rows : List (String × String)) : List String :=
  let width := rows.foldl (fun width (left, _) => max width left.length) 0
  rows.map fun (left, right) =>
    "  " ++ left ++ spaces (width - left.length + 2) ++
      Text.join ("\n" ++ spaces (width + 4)) (Text.pieces '\n' right)

def columnsUnder (title : String) (rows : List (String × String)) : List String :=
  if rows.isEmpty then [] else ("" :: title :: columns rows)

/-- What is said of the variable that can give a value. -/
def Fallback.remark (environment : Table String) (fallback : Fallback) : String :=
  let value :=
    if fallback.shown then "=" ++ (environment.find? fallback.name).getD "" else ""
  "[env: " ++ fallback.name ++ value ++ "]"

def Parameter.meaning (environment : Table String) (parameter : Parameter) : String :=
  match parameter.fallback with
  | none => parameter.remark
  | some fallback => parameter.remark ++ fallback.remark environment

def Form.optionRows (environment : Table String) (form : Form) : List (String × String) :=
  form.options.map fun parameter => (written parameter, parameter.meaning environment)

def Form.operandRows (form : Form) : List (String × String) :=
  form.operand.toList.map fun parameter =>
    ("<" ++ valueName parameter ++ ">", parameter.remark)

def commandRows : List (String × String) :=
  Verb.all.map (fun verb => (verb.name, verb.purpose)) ++
    [(helpName, helpPurpose)]

def programHelp (environment : Table String) : List String :=
  ["Convert VirtualBox Terraform configurations to Yandex Cloud", "",
    "Usage: " ++ programName ++ " [OPTIONS] <COMMAND>"] ++
  columnsUnder "Commands:" commandRows ++
  columnsUnder "Options:" (Form.program.optionRows environment)

def verbHelp (environment : Table String) (verb : Verb) : List String :=
  let form := Form.ofVerb verb
  let operands := form.operandRows.map fun (left, _) => " " ++ left
  [verb.purpose, "",
    "Usage: " ++ programName ++ " " ++ verb.name ++ " [OPTIONS]" ++ String.join operands] ++
  columnsUnder "Arguments:" form.operandRows ++
  columnsUnder "Options:" (form.optionRows environment)

/-- The help about help, which takes the names of commands. -/
def helpHelp : List String :=
  let operand := "[COMMAND]..."
  [helpPurpose, "", "Usage: " ++ programName ++ " " ++ helpName ++ " " ++ operand] ++
  columnsUnder "Arguments:" [(operand, "Print help for the subcommand(s)")]

/-- The help about a topic.  Values of the environment cannot steer the terminal. -/
def helpText (environment : Table String) (topic : Topic) : String :=
  let lines := match topic with
    | .program => programHelp environment
    | .verb verb => verbHelp environment verb
    | .help => helpHelp
  Text.bare (String.join (lines.map (· ++ "\n")))

end CloudLift.CommandLine
