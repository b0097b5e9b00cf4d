import CloudLift.Fault
import CloudLift.Journal

/-!
# Interactions

A part of the conversion that writes text, notes events and puts questions is a tree:
each node is one such step, and a question has one branch for each answer.  The tree
says nothing about who answers or where the text goes.  Running it does: an operator
answers the questions, and the text is written into as much room as there is.
-/

namespace CloudLift

inductive Interaction (α : Type) where
  | done (value : α)
  | fail (fault : Fault)
  | write (text : String) (next : Interaction α)
  | note (event : Event) (next : Interaction α)
  | ask (question : String) (next : String → Interaction α)
  | choose (question : String) (options : List String) (next : Nat → Interaction α)

namespace Interaction

variable {α β : Type}

/-- Goes on with `next` wherever the first part is done. -/
def andThen (first : Interaction α) (next : α → Interaction β) : Interaction β :=
  match first with
  | done value => next value
  | fail fault => fail fault
  | write text rest => write text (rest.andThen next)
  | note event rest => note event (rest.andThen next)
  | ask question rest => ask question fun answer => (rest answer).andThen next
  | choose question options rest =>
    choose question options fun choice => (rest choice).andThen next

instance : Monad Interaction where
  pure := done
  bind := andThen

@[simp] theorem pure_andThen (value : α) (next : α → Interaction β) :
    (done value).andThen next = next value :=
  rfl

@[simp] theorem andThen_done (first : Interaction α) : first.andThen done = first := by
  induction first with
  | done value => rfl
  | fail fault => rfl
  | write text rest ih => simp [andThen, ih]
  | note event rest ih => simp [andThen, ih]
  | ask question rest ih => simp [andThen, ih]
  | choose question options rest ih => simp [andThen, ih]

theorem andThen_assoc {γ : Type} (first : Interaction α) (second : α → Interaction β)
    (third : β → Interaction γ) :
    (first.andThen second).andThen third =
      first.andThen fun value => (second value).andThen third := by
  induction first with
  | done value => rfl
  | fail fault => rfl
  | write text rest ih => simp [andThen, ih]
  | note event rest ih => simp [andThen, ih]
  | ask question rest ih => simp [andThen, ih]
  | choose question options rest ih => simp [andThen, ih]

/-- The result of a check that writes, notes and asks nothing. -/
def ofExcept : Except Fault α → Interaction α
  | .ok value => done value
  | .error fault => fail fault

def put (text : String) : Interaction Unit :=
  write text (done ())

def log (event : Event) : Interaction Unit :=
  note event (done ())

def inquire (question : String) : Interaction String :=
  ask question done

def select (question : String) (options : List String) : Interaction Nat :=
  choose question options done

/-- Goes on after a fault, which becomes the result. -/
def attempt : Interaction α → Interaction (Except Fault α)
  | done value => done (.ok value)
  | fail fault => done (.error fault)
  | write text next => write text next.attempt
  | note event next => note event next.attempt
  | ask question next => ask question fun answer => (next answer).attempt
  | choose question options next =>
    choose question options fun choice => (next choice).attempt

/-- Does one interaction for each item, in order. -/
def each {ι : Type} (body : ι → Interaction Unit) : List ι → Interaction Unit
  | [] => done ()
  | item :: items => (body item).andThen fun _ => each body items

end Interaction

/-- A question that was put. -/
inductive Call where
  | ask (question : String)
  | choose (question : String) (options : List String)
  deriving DecidableEq, Repr

/-- Who answers the questions.  `patience` bounds how often it is worth putting a
question again after an answer that was refused. -/
structure Operator (σ : Type) where
  ask : String → σ → Except Fault String × σ
  choose : String → List String → σ → Except Fault Nat × σ
  patience : σ → Nat

/-- What a run of an interaction leaves behind. -/
structure Run (σ α : Type) where
  outcome : Except Fault α
  written : List String
  events : List Event
  calls : List Call
  operator : σ

namespace Run

variable {σ α : Type}

/-- The text that was written. -/
def text (run : Run σ α) : String :=
  String.join run.written

end Run

/-- How many more bytes can be written; without a number there is no limit. -/
abbrev Room := Option Nat

/-- The room that is left after a text, if the text fits. -/
def Room.after? (room : Room) (text : String) : Option Room :=
  match room with
  | none => some none
  | some free =>
    if text.utf8ByteSize ≤ free then some (some (free - text.utf8ByteSize)) else none

namespace Interaction

variable {σ α : Type}

/-- Runs the tree with an operator in state `s`. -/
def run (op : Operator σ) : Room → Interaction α → σ → Run σ α
  | _, .done value, s => ⟨.ok value, [], [], [], s⟩
  | _, .fail fault, s => ⟨.error fault, [], [], [], s⟩
  | room, .write text next, s =>
    match room.after? text with
    | none => ⟨.error (.io .full), [], [], [], s⟩
    | some room =>
      let rest := run op room next s
      { rest with written := text :: rest.written }
  | room, .note event next, s =>
    let rest := run op room next s
    { rest with events := event :: rest.events }
  | room, .ask question next, s =>
    match op.ask question s with
    | (.error fault, s) => ⟨.error fault, [], [], [.ask question], s⟩
    | (.ok answer, s) =>
      let rest := run op room (next answer) s
      { rest with calls := .ask question :: rest.calls }
  | room, .choose question options next, s =>
    match op.choose question options s with
    | (.error fault, s) => ⟨.error fault, [], [], [.choose question options], s⟩
    | (.ok choice, s) =>
      let rest := run op room (next choice) s
      { rest with calls := .choose question options :: rest.calls }

end Interaction

end CloudLift
