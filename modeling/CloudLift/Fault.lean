/-!
# Faults

Why a conversion fails.  Each fault is a cause with the data that its report needs;
`Fault.message` is the only place that holds the wording.  A fault of the file system
keeps its own type, because several faults carry one.
-/

namespace CloudLift

/-- Why reading or writing fails. -/
inductive IoFault where
  | notFound
  | notDirectory
  | isDirectory
  | invalidUtf8
  | full
  | other (text : String)
  deriving DecidableEq, Repr

def IoFault.message : IoFault → String
  | .notFound => "No such file or directory (os error 2)"
  | .notDirectory => "Not a directory (os error 20)"
  | .isDirectory => "Is a directory (os error 21)"
  | .invalidUtf8 => "stream did not contain valid UTF-8"
  | .full => "disk full"
  | .other text => text

/-- The attributes of a machine that hold numbers. -/
inductive Quantity where
  | cpus
  | memory
  | count
  deriving DecidableEq, Repr

/-- The attribute that holds the quantity. -/
def Quantity.key : Quantity → String
  | .cpus => "cpus"
  | .memory => "memory"
  | .count => "count"

/-- The naming rule as reports state it. -/
def namingRule : String :=
  "the name can contain lowercase Latin letters, numbers, and hyphens; " ++
  "the first character must be a letter; the last character must not be a hyphen; " ++
  "the minimum length is 2 characters"

inductive Fault where
  | read (cause : IoFault)
  | io (cause : IoFault)
  | osIdNotDefined (owner : String)
  | cpusNotDefined (owner : String)
  | memoryNotDefined (owner : String)
  | unresolvedOsName (tag lookedFor : String)
  | invalidName (name : String)
  | numericFormat (quantity : Quantity) (value owner : String)
  | noSourceFile (directory : String)
  | config (text : String)
  | validation (text : String)
  | catalog (text : String)
  | prompt (text : String)
  | yaml
  | toml
  deriving DecidableEq, Repr

namespace Fault

/-- The report of a fault.  Faults of a settings document are reported by kind only. -/
def message : Fault → String
  | .read cause => s!"Failed to read source configuration: {cause.message}"
  | .io cause => s!"IO error: {cause.message}"
  | .osIdNotDefined owner => s!"os_id must be specified for {owner}"
  | .cpusNotDefined owner => s!"cpus must be specified for {owner}"
  | .memoryNotDefined owner => s!"memory must be specified for {owner}"
  | .unresolvedOsName tag lookedFor =>
    s!"finding suitable image id failed for {tag} (looked for \"{lookedFor}\")"
  | .invalidName name => s!"invalid resource name \"{name}\": {namingRule}"
  | .numericFormat quantity value owner =>
    s!"invalid {quantity.key} format \"{value}\" for {owner}"
  | .noSourceFile directory =>
    s!"there is no configuration file for conversion in {directory}"
  | .config text => s!"Configuration error: {text}"
  | .validation text => s!"Validation error: {text}"
  | .catalog text => s!"Image catalog error: {text}"
  | .prompt text => s!"Prompt error: {text}"
  | .yaml => "YAML error"
  | .toml => "TOML error"

/-- The fault that lies under this one, if a report is to name it too. -/
def cause? : Fault → Option IoFault
  | .read cause => some cause
  | .io cause => some cause
  | _ => none

/-! ### Faults of the operator's answers -/

def inputClosed : Fault :=
  .prompt "input closed before an answer was given"

def nothingToChoose : Fault :=
  .prompt "nothing to choose from"

def noAnswer (question : String) : Fault :=
  .prompt s!"no answer available for: {question}"

def notAChoice (answer question : String) : Fault :=
  .prompt s!"scripted answer \"{answer}\" is not a valid choice for: {question}"

def choiceOutOfRange (choice : Nat) (group : String) : Fault :=
  .prompt s!"choice {choice} is out of range for group {group}"

def noSuchOption (choice : Nat) (question : String) : Fault :=
  .prompt s!"choice {choice} is out of range for: {question}"

/-- An operator who keeps giving unacceptable answers is not asked for ever. -/
def noAcceptableAnswer (question : String) : Fault :=
  .prompt s!"no acceptable answer for: {question}"

end Fault

/-! ### Results after a step that may fail -/

theorem except_bind_eq_ok_iff {ε α β : Type} {first : Except ε α} {next : α → Except ε β}
    {result : β} :
    (first >>= next) = .ok result ↔
      ∃ value, first = .ok value ∧ next value = .ok result := by
  cases first with
  | error fault =>
    constructor
    · intro hbind
      cases hbind
    · rintro ⟨value, hvalue, -⟩
      cases hvalue
  | ok value =>
    constructor
    · intro hbind
      exact ⟨value, rfl, hbind⟩
    · rintro ⟨other, hother, hnext⟩
      cases hother
      exact hnext

end CloudLift
