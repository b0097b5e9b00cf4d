import CloudLift.Files.Disk
import CloudLift.Interaction

/-!
# Sessions

A session is what a command works on: the disk and the operator, with the journal and the
questions so far.  A task takes a session to the next one and gives a result, or fails;
what has happened until then stays.  A failure says what was being done when the fault
arose, the outermost undertaking first.
-/

namespace CloudLift

structure Failure where
  contexts : List String
  fault : Fault
  deriving DecidableEq, Repr

structure Session (σ : Type) where
  disk : Disk
  operator : σ
  journal : Journal
  calls : List Call

abbrev Task (σ α : Type) :=
  ExceptT Failure (StateM (Session σ)) α

namespace Session

variable {σ α : Type}

def opened (disk : Disk) (operator : σ) : Session σ :=
  ⟨disk, operator, [], []⟩

/-- The session after a part of it was run in a stage. -/
def after (session : Session σ) (stage : Option Stage) (run : Run σ α) : Session σ :=
  { session with
    operator := run.operator
    journal := session.journal ++ Journal.inStage stage run.events
    calls := session.calls ++ run.calls }

end Session

namespace Task

variable {σ α : Type}

def ofStep (step : Session σ → Except Fault α × Session σ) : Task σ α :=
  ExceptT.mk fun session =>
    match step session with
    | (.ok value, session) => (.ok value, session)
    | (.error fault, session) => (.error ⟨[], fault⟩, session)

/-- Does a task as part of an undertaking that a failure names. -/
def within (context : String) (task : Task σ α) : Task σ α :=
  ExceptT.mk fun session =>
    match task.run session with
    | (.ok value, session) => (.ok value, session)
    | (.error failure, session) =>
      (.error { failure with contexts := context :: failure.contexts }, session)

/-- Runs an interaction that may look at the session. -/
def perform (op : Operator σ) (stage : Option Stage)
    (interaction : Session σ → Interaction α) : Task σ α :=
  ofStep fun session =>
    let run := (interaction session).run op none session.operator
    (run.outcome, session.after stage run)

end Task

end CloudLift
