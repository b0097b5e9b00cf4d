import CloudLift.Proofs.Settings.Check
import CloudLift.Settings.Questions
import Mathlib.Logic.Function.Basic

/-!
# The topics of the settings

There is a topic for each setting, and the settings are what was found out about all of
them, one topic after the other.  A topic that is given is settled.  About any other one
the operator is asked, and most topics come up again until an answer is taken.
-/

namespace CloudLift

open Interaction

/-! ## Answers that are taken -/

/-- The check takes these answers.  After any other one there are at most some events
before the question is put again. -/
structure Judges (check : String → Interaction Unit) (accepts : String → Bool) : Prop where
  taken : ∀ again answer, accepts answer = true → takeOr again check answer = done answer
  refused : ∀ again answer, accepts answer = false →
    ∃ events : List Event, takeOr again check answer = events.foldr note again

theorem judges_anyAnswer : Judges anyAnswer fun _ => true := by
  constructor
  case taken =>
    intro again answer _
    rfl
  case refused =>
    intro again answer hfalse
    contradiction

theorem judges_requireName : Judges requireName Name.isValid := by
  constructor
  case taken =>
    intro again answer hvalid
    simp [takeOr, requireName, Name.check, hvalid, attempt]
  case refused =>
    intro again answer hvalid
    exact ⟨[.error s!"Invalid name \"{answer}\"! {namingRule}",
      .warn (Fault.invalidName answer).message],
      by simp [takeOr, requireName, Name.check, hvalid, attempt, log, andThen]⟩

theorem judges_checkCidr : Judges checkCidr fun block => (Cidr.defect? block).isNone := by
  constructor
  case taken =>
    intro again answer hnone
    rw [Option.isNone_iff_eq_none] at hnone
    simp [takeOr, checkCidr, Cidr.check, hnone, Interaction.ofExcept, attempt]
  case refused =>
    intro again answer hdefect
    cases hcase : Cidr.defect? answer with
    | none =>
      rw [hcase] at hdefect
      contradiction
    | some defect =>
      exact ⟨[.warn (Fault.validation defect.message).message],
        by simp [takeOr, checkCidr, Cidr.check, hcase, Interaction.ofExcept, attempt]⟩

/-! ## Topics -/

inductive Topic where
  | token
  | cloudId
  | folderId
  | zone
  | networkName
  | subnetName
  | cidr
  deriving DecidableEq, Repr

namespace Topic

/-- The topics in the order in which they come up. -/
def all : List Topic :=
  [token, cloudId, folderId, zone, networkName, subnetName, cidr]

theorem mem_all (topic : Topic) : topic ∈ all := by
  cases topic <;> simp [all]

/-- Whether the check of the whole settings lets the value pass. -/
def Passes : Topic → String → Prop
  | token, value | cloudId, value | folderId, value => value ≠ ""
  | zone, value => value ∈ zones
  | networkName, value | subnetName, value => Name.isValid value = true
  | cidr, value => Cidr.defect? value = none

/-- Finds out about a topic. -/
def settle (given : Option String) (patience : Nat) : Topic → Interaction String
  | token => orAsk given tokenQuestion patience anyAnswer
  | cloudId => orAsk given cloudQuestion patience anyAnswer
  | folderId => orAsk given folderQuestion patience anyAnswer
  | zone => zoneOrAsk given
  | networkName => orAsk given networkQuestion patience requireName
  | subnetName => orAsk given subnetQuestion patience requireName
  | cidr => orAsk given cidrQuestion patience checkCidr

def settleAll (given : Topic → Option String) (patience : Nat) :
    List Topic → Interaction (Topic → String)
  | [] => done fun _ => ""
  | topic :: topics =>
    (settle (given topic) patience topic).andThen fun value =>
      (settleAll given patience topics).andThen fun values =>
        done (Function.update values topic value)

end Topic

namespace Settings

def ofValues (values : Topic → String) (accounts : Table String) : Settings :=
  ⟨⟨values .token, values .cloudId, values .folderId, values .zone⟩,
    ⟨values .networkName, values .subnetName, values .cidr⟩, accounts⟩

def Given.value? (given : Given) : Topic → Option String
  | .token => given.credentials.token
  | .cloudId => given.credentials.cloudId
  | .folderId => given.credentials.folderId
  | .zone => given.credentials.zone
  | .networkName => given.network.networkName
  | .subnetName => given.network.subnetName
  | .cidr => given.network.cidr

theorem Given.complete_eq (given : Given) (patience : Nat) :
    given.complete patience =
      (Topic.settleAll given.value? patience Topic.all).andThen fun values =>
        (ofValues values given.serviceAccounts).check.andThen fun _ =>
          done (ofValues values given.serviceAccounts) := by
  simp only [complete, Credentials.Given.complete, Network.Given.complete,
    bind_eq_andThen, pure_eq_done, Topic.settleAll, Topic.all, andThen_assoc, pure_andThen]
  rfl

/-- The whole is sound if what was found out about each topic passes. -/
theorem sound_ofValues {values : Topic → String} (accounts : Table String)
    (hpasses : ∀ topic : Topic, topic.Passes (values topic)) :
    (ofValues values accounts).Sound where
  token := hpasses .token
  cloudId := hpasses .cloudId
  folderId := hpasses .folderId
  zone := hpasses .zone
  networkName := hpasses .networkName
  subnetName := hpasses .subnetName
  cidr := hpasses .cidr

end Settings

end CloudLift
