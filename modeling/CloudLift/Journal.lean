import CloudLift.Text.Control

/-!
# The journal

What a run reports beside its result: events with a severity, in order, each kept
with the stage of the conversion in which it happened.
-/

namespace CloudLift

inductive Severity where
  | error
  | warn
  | info
  | debug
  deriving DecidableEq, Repr

namespace Severity

def label : Severity → String
  | .error => "ERROR"
  | .warn => "WARN"
  | .info => "INFO"
  | .debug => "DEBUG"

/-- Zero is the most severe. -/
def rank : Severity → Nat
  | .error => 0
  | .warn => 1
  | .info => 2
  | .debug => 3

end Severity

structure Event where
  severity : Severity
  message : String
  deriving DecidableEq, Repr

namespace Event

def error (message : String) : Event := ⟨.error, message⟩

def warn (message : String) : Event := ⟨.warn, message⟩

def info (message : String) : Event := ⟨.info, message⟩

def debug (message : String) : Event := ⟨.debug, message⟩

end Event

/-- The parts of a conversion that the journal names. -/
inductive Stage where
  | scan
  | settings
  | generate
  deriving DecidableEq, Repr

def Stage.label : Stage → String
  | .scan => "scan"
  | .settings => "settings"
  | .generate => "generate"

structure Entry where
  stage : Option Stage
  event : Event
  deriving DecidableEq, Repr

/-- The entry as a line: inside a stage the message is framed by the stage's name.  A
message cannot steer the terminal that shows the line. -/
def Entry.line (entry : Entry) : String :=
  let label := entry.event.severity.label
  let message := Text.spelled entry.event.message
  match entry.stage with
  | none => s!"{label} {message}"
  | some stage => s!"{label} operation: {message} name=\"{stage.label}\""

abbrev Journal := List Entry

/-- The entries that are at least as severe as `threshold`. -/
def Journal.visible (threshold : Severity) (journal : Journal) : Journal :=
  journal.filter fun entry => entry.event.severity.rank ≤ threshold.rank

/-- The lines of the entries that are at least as severe as `threshold`.  Stages are
announced as information, so they are not named where only graver events are told. -/
def Journal.lines (threshold : Severity) (journal : Journal) : List String :=
  let named := decide (Severity.info.rank ≤ threshold.rank)
  (journal.visible threshold).map fun entry =>
    Entry.line (if named then entry else { entry with stage := none })

def Journal.inStage (stage : Option Stage) (events : List Event) : Journal :=
  events.map fun event => ⟨stage, event⟩

end CloudLift
