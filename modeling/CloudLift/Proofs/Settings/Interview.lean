import CloudLift.Proofs.Operator.Terminal
import CloudLift.Proofs.Settings.Topics

/-!
# Interviews

An interview is what answers in a list come to, without regard to how the questions are
put.  Every call uses up one answer, the one that fails included.  About a topic the calls
go on to the first answer that is accepted; the zones are offered only once.  The first
call that fails is the last one.
-/

namespace CloudLift

open Interaction

variable {α β : Type}

structure Interview (α : Type) where
  calls : List Call
  outcome : Except Fault α

namespace Interview

def settled (value : α) : Interview α :=
  ⟨[], .ok value⟩

def followedBy (first : Interview α) (next : α → Interview β) : Interview β :=
  match first.outcome with
  | .ok value => ⟨first.calls ++ (next value).calls, (next value).outcome⟩
  | .error fault => ⟨first.calls, .error fault⟩

def firstAccepted (accepts : String → Bool) (question : String) (answers : List String) :
    Interview String where
  calls :=
    let refused := answers.takeWhile fun answer => !accepts answer
    List.replicate (refused.length + 1) (.ask question)
  outcome :=
    match answers.find? accepts with
    | some answer => .ok answer
    | none => .error (.noAnswer question)

theorem firstAccepted_of_accepts {accepts : String → Bool} {question answer : String}
    {answers : List String} (haccepts : accepts answer = true) :
    firstAccepted accepts question (answer :: answers) = ⟨[.ask question], .ok answer⟩ := by
  simp [firstAccepted, haccepts]

theorem firstAccepted_of_refused {accepts : String → Bool} {question answer : String}
    {answers : List String} (haccepts : accepts answer = false) :
    firstAccepted accepts question (answer :: answers) =
      ⟨.ask question :: (firstAccepted accepts question answers).calls,
        (firstAccepted accepts question answers).outcome⟩ := by
  simp [firstAccepted, haccepts, List.replicate_succ]

def zoneChosen (answers : List String) : Interview String where
  calls := [.choose zoneQuestion zones]
  outcome :=
    match answers with
    | [] => .error (.noAnswer zoneQuestion)
    | answer :: _ =>
      match (choice? zones.length answer).bind fun choice => zones[choice]? with
      | some zone => .ok zone
      | none => .error (.notAChoice answer zoneQuestion)

theorem zoneChosen_of_none {answer : String} {answers : List String}
    (hchoice : choice? zones.length answer = none) :
    zoneChosen (answer :: answers) =
      ⟨[.choose zoneQuestion zones], .error (.notAChoice answer zoneQuestion)⟩ := by
  simp [zoneChosen, hchoice]

theorem zoneChosen_of_some {answer zone : String} {answers : List String} {choice : Nat}
    (hchoice : choice? zones.length answer = some choice) (hzone : zones[choice]? = some zone) :
    zoneChosen (answer :: answers) = ⟨[.choose zoneQuestion zones], .ok zone⟩ := by
  simp [zoneChosen, hchoice, hzone]

def aboutTopic (answers : List String) : Topic → Interview String
  | .token => firstAccepted (fun _ => true) tokenQuestion answers
  | .cloudId => firstAccepted (fun _ => true) cloudQuestion answers
  | .folderId => firstAccepted (fun _ => true) folderQuestion answers
  | .zone => zoneChosen answers
  | .networkName => firstAccepted Name.isValid networkQuestion answers
  | .subnetName => firstAccepted Name.isValid subnetQuestion answers
  | .cidr => firstAccepted (fun block => (Cidr.defect? block).isNone) cidrQuestion answers

/-- Goes through the topics that are not given. -/
def aboutTopics (given : Topic → Option String) :
    List Topic → List String → Interview (Topic → String)
  | [], _ => settled fun _ => ""
  | topic :: topics, answers =>
    let first :=
      match given topic with
      | some value => settled value
      | none => aboutTopic answers topic
    first.followedBy fun value =>
      (aboutTopics given topics (answers.drop first.calls.length)).followedBy fun values =>
        settled (Function.update values topic value)

/-- The check at the end takes no call. -/
def checked (settings : Settings) (answers : List String) : Interview Settings :=
  ⟨[], (settings.check.run Operator.scripted none answers).outcome.map fun _ => settings⟩

def aboutSettings (given : Topic → Option String) (accounts : Table String)
    (answers : List String) : Interview Settings :=
  let topics := aboutTopics given Topic.all answers
  topics.followedBy fun values =>
    checked (.ofValues values accounts) (answers.drop topics.calls.length)

end Interview

/-- The operator who has these answers goes through the interview, and keeps those that are
not used up. -/
structure Hears (answers : List String) (interaction : Interaction α)
    (interview : Interview α) : Prop where
  calls : (interaction.run Operator.scripted none answers).calls = interview.calls
  outcome : (interaction.run Operator.scripted none answers).outcome = interview.outcome
  operator : (interaction.run Operator.scripted none answers).operator =
    answers.drop interview.calls.length

section Hears

variable {answers : List String}

theorem hears_settled (value : α) : Hears answers (done value) (Interview.settled value) :=
  ⟨rfl, rfl, rfl⟩

theorem Hears.foldr_note {events : List Event} {next : Interaction α} {interview : Interview α}
    (hnext : Hears answers next interview) :
    Hears answers (events.foldr note next) interview := by
  induction events with
  | nil => exact hnext
  | cons event events ih => exact ⟨ih.calls, ih.outcome, ih.operator⟩

theorem Hears.andThen {first : Interaction α} {next : α → Interaction β} {heard : Interview α}
    {later : α → Interview β} (hfirst : Hears answers first heard)
    (hnext : ∀ value, heard.outcome = .ok value →
      Hears (answers.drop heard.calls.length) (next value) (later value)) :
    Hears answers (first.andThen next) (heard.followedBy later) := by
  have hrun := run_andThen Operator.scripted none first next answers
  rw [Room.left_none, Run.followedBy, hfirst.outcome, hfirst.operator, hfirst.calls] at hrun
  unfold Interview.followedBy
  cases houtcome : heard.outcome with
  | error fault =>
    rw [houtcome] at hrun
    constructor
    case calls => rw [hrun]
    case outcome => rw [hrun]
    case operator => rw [hrun]
  | ok value =>
    rw [houtcome] at hrun
    have hlater := hnext value houtcome
    constructor
    case calls =>
      rw [hrun]
      exact congrArg (heard.calls ++ ·) hlater.calls
    case outcome =>
      rw [hrun]
      exact hlater.outcome
    case operator =>
      rw [hrun, List.length_append, ← List.drop_drop]
      exact hlater.operator

theorem Hears.ask {question answer : String} {next : String → Interaction α}
    {interview : Interview α} (hnext : Hears answers (next answer) interview) :
    Hears (answer :: answers) (.ask question next)
      ⟨.ask question :: interview.calls, interview.outcome⟩ :=
  ⟨congrArg (List.cons _) hnext.calls, hnext.outcome, hnext.operator⟩

theorem Hears.choose {question answer : String} {options : List String} {choice : Nat}
    {next : Nat → Interaction α} (interview : Interview α)
    (hchoice : choice? options.length answer = some choice)
    (hnext : Hears answers (next choice) interview) :
    Hears (answer :: answers) (.choose question options next)
      ⟨.choose question options :: interview.calls, interview.outcome⟩ := by
  have hreply : Operator.scripted.choose question options (answer :: answers) =
      (.ok choice, answers) := by
    simp [Operator.scripted, hchoice]
  constructor
  case calls =>
    simp only [run, hreply]
    exact congrArg (List.cons _) hnext.calls
  case outcome =>
    simp only [run, hreply]
    exact hnext.outcome
  case operator =>
    simp only [run, hreply]
    exact hnext.operator

theorem hears_choose_none {question answer : String} {options : List String}
    {next : Nat → Interaction α} (hchoice : choice? options.length answer = none) :
    Hears (answer :: answers) (.choose question options next)
      ⟨[.choose question options], .error (.notAChoice answer question)⟩ := by
  have hreply : Operator.scripted.choose question options (answer :: answers) =
      (.error (.notAChoice answer question), answers) := by
    simp [Operator.scripted, hchoice]
  constructor
  case calls => simp only [run, hreply]
  case outcome => simp only [run, hreply]
  case operator =>
    simp only [run, hreply]
    rfl

theorem hears_askUntil {check : String → Interaction Unit} {accepts : String → Bool}
    (hjudges : Judges check accepts) (question : String) {patience : Nat}
    (hpatience : answers.length ≤ patience) :
    Hears answers (askUntil check question patience)
      (Interview.firstAccepted accepts question answers) := by
  induction answers generalizing patience with
  | nil =>
    cases patience with
    | zero => exact ⟨rfl, rfl, rfl⟩
    | succ patience => exact ⟨rfl, rfl, rfl⟩
  | cons answer answers ih =>
    cases patience with
    | zero => contradiction
    | succ patience =>
      rw [askUntil]
      cases haccepts : accepts answer with
      | true =>
        rw [Interview.firstAccepted_of_accepts haccepts]
        have htaken : Hears answers
            (takeOr (askUntil check question patience) check answer)
            (Interview.settled answer) := by
          rw [hjudges.taken _ _ haccepts]
          exact hears_settled answer
        exact htaken.ask
      | false =>
        rw [Interview.firstAccepted_of_refused haccepts]
        rcases hjudges.refused (askUntil check question patience) answer haccepts
          with ⟨events, hevents⟩
        have hagain : Hears answers
            (takeOr (askUntil check question patience) check answer)
            (Interview.firstAccepted accepts question answers) := by
          rw [hevents]
          exact (ih (Nat.le_of_succ_le_succ hpatience)).foldr_note
        exact hagain.ask

theorem hears_orAsk {check : String → Interaction Unit} {accepts : String → Bool}
    (hjudges : Judges check accepts) (given : Option String) (question : String)
    {patience : Nat} (hpatience : answers.length ≤ patience) :
    Hears answers (orAsk given question patience check)
      (match given with
      | some value => Interview.settled value
      | none => Interview.firstAccepted accepts question answers) := by
  cases given with
  | some value => exact hears_settled value
  | none => exact hears_askUntil hjudges question hpatience

theorem hears_zoneOrAsk (given : Option String) :
    Hears answers (zoneOrAsk given)
      (match given with
      | some value => Interview.settled value
      | none => Interview.zoneChosen answers) := by
  cases given with
  | some value => exact hears_settled value
  | none =>
    cases answers with
    | nil => exact ⟨rfl, rfl, rfl⟩
    | cons answer answers =>
      change Hears (answer :: answers) _ (Interview.zoneChosen (answer :: answers))
      cases hchoice : choice? zones.length answer with
      | none =>
        rw [Interview.zoneChosen_of_none hchoice]
        exact hears_choose_none hchoice
      | some choice =>
        have hchoice_lt : choice < zones.length := choice?_lt hchoice
        have hzone := List.getElem?_eq_getElem hchoice_lt
        rw [Interview.zoneChosen_of_some hchoice hzone]
        apply Hears.choose (Interview.settled zones[choice]) hchoice
        rw [pure_andThen, hzone]
        exact hears_settled zones[choice]

theorem hears_settle (topic : Topic) (given : Option String) {patience : Nat}
    (hpatience : answers.length ≤ patience) :
    Hears answers (topic.settle given patience)
      (match given with
      | some value => Interview.settled value
      | none => Interview.aboutTopic answers topic) := by
  cases topic with
  | token => exact hears_orAsk judges_anyAnswer given _ hpatience
  | cloudId => exact hears_orAsk judges_anyAnswer given _ hpatience
  | folderId => exact hears_orAsk judges_anyAnswer given _ hpatience
  | zone => exact hears_zoneOrAsk given
  | networkName => exact hears_orAsk judges_requireName given _ hpatience
  | subnetName => exact hears_orAsk judges_requireName given _ hpatience
  | cidr => exact hears_orAsk judges_checkCidr given _ hpatience

theorem hears_settleAll (given : Topic → Option String) (topics : List Topic) {patience : Nat}
    (hpatience : answers.length ≤ patience) :
    Hears answers (Topic.settleAll given patience topics)
      (Interview.aboutTopics given topics answers) := by
  induction topics generalizing answers with
  | nil => exact hears_settled fun _ => ""
  | cons topic topics ih =>
    apply (hears_settle topic (given topic) hpatience).andThen
    intro value _
    apply Hears.andThen
    · apply ih
      rw [List.length_drop]
      omega
    · intro values _
      exact hears_settled _

theorem hears_checked (settings : Settings) :
    Hears answers (settings.check.andThen fun _ => done settings)
      (Interview.checked settings answers) := by
  have hquiet : (settings.check.andThen fun _ => done settings).Quiet :=
    settings.quiet_check.andThen fun _ => trivial
  constructor
  case calls => exact hquiet.calls_eq_nil
  case outcome =>
    rw [run_andThen, Room.left_none, Run.followedBy, Interview.checked]
    cases (settings.check.run Operator.scripted none answers).outcome with
    | ok nothing => rfl
    | error fault => rfl
  case operator => exact hquiet.operator_eq

theorem hears_complete (given : Settings.Given) {patience : Nat}
    (hpatience : answers.length ≤ patience) :
    Hears answers (given.complete patience)
      (Interview.aboutSettings given.value? given.serviceAccounts answers) := by
  rw [Settings.Given.complete_eq]
  apply (hears_settleAll given.value? Topic.all hpatience).andThen
  intro values _
  exact hears_checked (.ofValues values given.serviceAccounts)

end Hears

end CloudLift
