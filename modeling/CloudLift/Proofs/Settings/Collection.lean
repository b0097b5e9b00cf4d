import CloudLift.Conversion.Convert
import CloudLift.Proofs.Settings.Interview
import Mathlib.Control.Monad.Basic

/-!
# Collecting the settings

The request comes before the settings file, and both before the operator.  With answers
from a list, collecting is an interview about what neither gives, and the check at its end
decides.  At a terminal the check has nothing left to find in the answers: whoever gives
sound settings, or none, is let down by the terminal only.
-/

namespace CloudLift

open Interaction

/-! ## At a terminal -/

namespace Terminal

variable {bound patience : Nat}

theorem serves_askUntil {check : String → Interaction Unit} {accepts : String → Bool}
    (hjudges : Judges check accepts) (question : String) (hpatience : bound ≤ patience) :
    Serves bound (askUntil check question patience)
      (fun value => value ≠ "" ∧ accepts value = true) := by
  induction patience generalizing bound with
  | zero =>
    apply serves_ask
    intro word shorter _ hshorter
    omega
  | succ patience ih =>
    apply serves_ask
    intro word shorter hword hshorter
    cases haccepts : accepts word with
    | true =>
      rw [hjudges.taken _ _ haccepts]
      exact serves_done ⟨hword, haccepts⟩
    | false =>
      rcases hjudges.refused (askUntil check question patience) word haccepts with
        ⟨events, hevents⟩
      rw [hevents]
      apply serves_foldr_note
      apply ih
      omega

theorem serves_orAsk {check : String → Interaction Unit} {accepts : String → Bool}
    (hjudges : Judges check accepts) (question : String) (hpatience : bound ≤ patience)
    {given : Option String} {good : String → Prop}
    (hgiven : ∀ value, given = some value → good value)
    (hgood : ∀ value, value ≠ "" → accepts value = true → good value) :
    Serves bound (orAsk given question patience check) good := by
  cases given with
  | some value => exact serves_done (hgiven value rfl)
  | none =>
    apply (serves_askUntil hjudges question hpatience).weaken
    intro value hvalue
    exact hgood value hvalue.1 hvalue.2

theorem serves_zoneOrAsk {given : Option String}
    (hgiven : ∀ value, given = some value → value ∈ zones) :
    Serves bound (zoneOrAsk given) (· ∈ zones) := by
  cases given with
  | some value => exact serves_done (hgiven value rfl)
  | none =>
    apply serves_choose (by decide)
    intro choice hchoice
    rw [pure_andThen, List.getElem?_eq_getElem hchoice]
    exact serves_done (List.getElem_mem hchoice)

theorem serves_settle (topic : Topic) {given : Option String}
    (hgiven : ∀ value, given = some value → topic.Passes value)
    (hpatience : bound ≤ patience) :
    Serves bound (topic.settle given patience) topic.Passes := by
  cases topic with
  | token => exact serves_orAsk judges_anyAnswer _ hpatience hgiven fun _ hword _ => hword
  | cloudId => exact serves_orAsk judges_anyAnswer _ hpatience hgiven fun _ hword _ => hword
  | folderId => exact serves_orAsk judges_anyAnswer _ hpatience hgiven fun _ hword _ => hword
  | zone => exact serves_zoneOrAsk hgiven
  | networkName =>
    exact serves_orAsk judges_requireName _ hpatience hgiven fun _ _ hvalid => hvalid
  | subnetName =>
    exact serves_orAsk judges_requireName _ hpatience hgiven fun _ _ hvalid => hvalid
  | cidr =>
    apply serves_orAsk judges_checkCidr _ hpatience hgiven
    intro value _ hnone
    exact Option.isNone_iff_eq_none.mp hnone

theorem serves_settleAll {given : Topic → Option String} (topics : List Topic)
    (hgiven : ∀ topic value, given topic = some value → topic.Passes value)
    (hpatience : bound ≤ patience) :
    Serves bound (Topic.settleAll given patience topics)
      (fun values => ∀ topic ∈ topics, topic.Passes (values topic)) := by
  induction topics with
  | nil =>
    apply serves_done
    intro topic htopic
    contradiction
  | cons topic topics ih =>
    apply (serves_settle topic (hgiven topic) hpatience).andThen
    intro value hvalue
    apply ih.andThen
    intro values hvalues
    apply serves_done
    intro other hother
    by_cases hsame : other = topic
    · subst hsame
      rw [Function.update_self]
      exact hvalue
    · rw [Function.update_of_ne hsame]
      exact hvalues other ((List.mem_cons.mp hother).resolve_left hsame)

theorem serves_check {settings : Settings} (hsound : settings.Sound) :
    Serves bound settings.check (fun _ => True) := by
  intro terminal hinput
  have hyields : Yields Operator.terminal terminal settings.check () "" terminal :=
    Settings.yields_check_iff.mpr ⟨hsound, rfl, rfl⟩
  rw [hyields.outcome, hyields.operator]
  exact ⟨trivial, hinput⟩

theorem serves_complete {given : Settings.Given}
    (hgiven : ∀ (topic : Topic) (value : String), given.value? topic = some value →
      topic.Passes value)
    (hpatience : bound ≤ patience) :
    Serves bound (given.complete patience) Settings.Sound := by
  rw [Settings.Given.complete_eq]
  apply (serves_settleAll Topic.all hgiven hpatience).andThen
  intro values hvalues
  have hsound : (Settings.ofValues values given.serviceAccounts).Sound := by
    apply Settings.sound_ofValues
    intro topic
    exact hvalues topic (Topic.mem_all topic)
  apply (serves_check hsound).andThen
  intro _ _
  exact serves_done hsound

end Terminal

/-! ## From the request and the settings file -/

namespace Request

variable {request : Request} {environment : Table String} {disk : Disk}
  {file : Settings.Given}

/-- What the settings file gives, if the request names one. -/
def loaded (request : Request) (environment : Table String) (disk : Disk) :
    Except Fault Settings.Given :=
  match request.config with
  | some path => Settings.Given.ofFile disk environment path
  | none => .ok .nothing

def value? (request : Request) : Topic → Option String :=
  Settings.Given.value? ⟨request.credentials, request.network, .empty⟩

/-- What the request gives comes before what the file gives. -/
def merged (request : Request) (file : Settings.Given) : Settings.Given :=
  ⟨request.credentials.orElse file.credentials, request.network.orElse file.network,
    file.serviceAccounts⟩

theorem value?_merged (topic : Topic) :
    (request.merged file).value? topic = (request.value? topic).or (file.value? topic) := by
  cases topic <;> rfl

theorem collectSettings_eq_complete (hfile : request.loaded environment disk = .ok file)
    (patience : Nat) :
    request.collectSettings environment disk patience =
      (request.merged file).complete patience := by
  unfold collectSettings
  unfold loaded at hfile
  cases hconfig : request.config with
  | some path =>
    rw [hconfig] at hfile
    have hread : Settings.Given.ofFile disk environment path = .ok file := hfile
    dsimp only
    rw [hread]
    rfl
  | none =>
    rw [hconfig] at hfile
    have hnothing : Settings.Given.nothing = file := Except.ok.inj hfile
    rw [← hnothing]
    rfl

/-- Collecting is an interview about what neither the request nor the file gives, and the
check of the whole.  At a terminal it comes to sound settings, if those that are given are
sound, or the terminal meets a fault. -/
theorem collectSettings_interview (request : Request) (environment : Table String)
    (disk : Disk) {file : Settings.Given}
    (hfile : request.loaded environment disk = .ok file) :
    (∀ answers patience, answers.length ≤ patience →
      Hears answers (request.collectSettings environment disk patience)
        (Interview.aboutSettings
          (fun topic => (request.value? topic).or (file.value? topic))
          file.serviceAccounts answers)) ∧
      ((∀ (topic : Topic) (value : String),
          (request.value? topic).or (file.value? topic) = some value → topic.Passes value) →
        ∀ bound patience, bound ≤ patience →
          Terminal.Serves bound (request.collectSettings environment disk patience)
            Settings.Sound) := by
  have hmerged : (request.merged file).value? =
      fun topic => (request.value? topic).or (file.value? topic) := by
    funext topic
    exact value?_merged topic
  constructor
  case left =>
    intro answers patience hpatience
    rw [collectSettings_eq_complete hfile, ← hmerged]
    exact hears_complete (request.merged file) hpatience
  case right =>
    intro hgiven bound patience hpatience
    rw [collectSettings_eq_complete hfile]
    apply Terminal.serves_complete _ hpatience
    rw [hmerged]
    exact hgiven

/-- The credentials are given, but not the network. -/
def withoutNetwork : Request :=
  ⟨none, ⟨"."⟩, ⟨"b.tf"⟩, none, none,
    ⟨some "token", some "cloud", some "folder", some "ru-central1-b"⟩, .nothing⟩

theorem collectSettings_asks_again :
    withoutNetwork.loaded .empty ⟨[], []⟩ = .ok .nothing ∧
      ((withoutNetwork.collectSettings .empty ⟨[], []⟩ 6).run Operator.scripted none
        ["Net", "net", "subnet", "10.0.0.0/8", "10.0.0.0/24", "spare"]).calls =
          [.ask networkQuestion, .ask networkQuestion, .ask subnetQuestion,
            .ask cidrQuestion, .ask cidrQuestion] ∧
      ((withoutNetwork.collectSettings .empty ⟨[], []⟩ 6).run Operator.scripted none
        ["Net", "net", "subnet", "10.0.0.0/8", "10.0.0.0/24", "spare"]).outcome =
          .ok ⟨⟨"token", "cloud", "folder", "ru-central1-b"⟩,
            ⟨"net", "subnet", "10.0.0.0/24"⟩, .empty⟩ ∧
      ((withoutNetwork.collectSettings .empty ⟨[], []⟩ 6).run Operator.scripted none
        ["Net", "net", "subnet", "10.0.0.0/8", "10.0.0.0/24", "spare"]).operator =
          ["spare"] ∧
      Terminal.Serves 80 (withoutNetwork.collectSettings .empty ⟨[], []⟩ 80)
        Settings.Sound := by
  have hfile : withoutNetwork.loaded .empty ⟨[], []⟩ = .ok .nothing := rfl
  have hpasses : ∀ (topic : Topic) (value : String),
      (withoutNetwork.value? topic).or (Settings.Given.nothing.value? topic) = some value →
        topic.Passes value := by
    intro topic value hvalue
    cases topic with
    | token =>
      cases hvalue
      simp [Topic.Passes]
    | cloudId =>
      cases hvalue
      simp [Topic.Passes]
    | folderId =>
      cases hvalue
      simp [Topic.Passes]
    | zone =>
      cases hvalue
      simp [Topic.Passes, zones]
    | networkName => cases hvalue
    | subnetName => cases hvalue
    | cidr => cases hvalue
  have hboth := collectSettings_interview withoutNetwork .empty ⟨[], []⟩ hfile
  have hears := hboth.1 ["Net", "net", "subnet", "10.0.0.0/8", "10.0.0.0/24", "spare"] 6
    (by decide)
  have hcalls : (Interview.aboutSettings
      (fun topic => (withoutNetwork.value? topic).or (Settings.Given.nothing.value? topic))
      Settings.Given.nothing.serviceAccounts
      ["Net", "net", "subnet", "10.0.0.0/8", "10.0.0.0/24", "spare"]).calls =
        [.ask networkQuestion, .ask networkQuestion, .ask subnetQuestion,
          .ask cidrQuestion, .ask cidrQuestion] := by
    decide +kernel
  refine ⟨hfile, hears.calls.trans hcalls, ?_, ?_, ?_⟩
  · rw [hears.outcome]
    decide +kernel
  · rw [hears.operator, hcalls]
    rfl
  · exact hboth.2 hpasses 80 80 (Nat.le_refl 80)

end Request

end CloudLift
