import CloudLift.Settings.Given

/-!
# Questions about settings

What is not given is asked for, in a fixed order.  A name or an address block is asked
for again until the answer is acceptable, as long as the operator has answers to give.
-/

namespace CloudLift

def tokenQuestion : String :=
  "Please write security token or IAM token used for authentication in Yandex.Cloud."

def cloudQuestion : String :=
  "Please write the ID of the cloud to apply any resources to."

def folderQuestion : String :=
  "Please write the ID of the folder to operate under, " ++
  "if not specified by a given resource."

def zoneQuestion : String :=
  "Please select the name of the default availability zone to operate under."

def networkQuestion : String :=
  "Please write a name for the network."

def subnetQuestion : String :=
  "Please write a name for the subnet."

def cidrQuestion : String :=
  "Please write a block of internal IPv4 addresses owned by the subnet, " ++
  "e.g. 10.0.0.0/22 or 192.168.0.0/16. Minimum subnet size is /28, maximum is /16."

namespace Interaction

/-- Takes an answer that passes the check.  Any other one is refused with a warning. -/
def takeOr (again : Interaction String) (check : String → Interaction Unit)
    (answer : String) : Interaction String :=
  (check answer).attempt.andThen fun
    | .ok () => done answer
    | .error fault => note (.warn fault.message) again

/-- Asks until an answer passes the check, and gives up after `patience` further
questions. -/
def askUntil (check : String → Interaction Unit) (question : String) :
    Nat → Interaction String
  | 0 => ask question (takeOr (fail (.noAcceptableAnswer question)) check)
  | patience + 1 => ask question (takeOr (askUntil check question patience) check)

/-- The value that is given, or the answer to a question about it. -/
def orAsk (given : Option String) (question : String) (patience : Nat)
    (check : String → Interaction Unit) : Interaction String :=
  match given with
  | some value => done value
  | none => askUntil check question patience

end Interaction

open Interaction

def anyAnswer (_ : String) : Interaction Unit :=
  .done ()

def checkCidr (block : String) : Interaction Unit :=
  ofExcept (Cidr.check block)

def zoneOrAsk (given : Option String) : Interaction String :=
  match given with
  | some zone => .done zone
  | none => do
    let choice ← select zoneQuestion zones
    match zones[choice]? with
    | some zone => return zone
    | none => .fail (.noSuchOption choice zoneQuestion)

def Credentials.Given.complete (given : Credentials.Given) (patience : Nat) :
    Interaction Credentials := do
  let token ← orAsk given.token tokenQuestion patience anyAnswer
  let cloudId ← orAsk given.cloudId cloudQuestion patience anyAnswer
  let folderId ← orAsk given.folderId folderQuestion patience anyAnswer
  let zone ← zoneOrAsk given.zone
  return ⟨token, cloudId, folderId, zone⟩

def Network.Given.complete (given : Network.Given) (patience : Nat) :
    Interaction Network := do
  let networkName ← orAsk given.networkName networkQuestion patience requireName
  let subnetName ← orAsk given.subnetName subnetQuestion patience requireName
  let cidr ← orAsk given.cidr cidrQuestion patience checkCidr
  return ⟨networkName, subnetName, cidr⟩

/-- Asks for what is not given, and checks the whole. -/
def Settings.Given.complete (given : Settings.Given) (patience : Nat) :
    Interaction Settings := do
  let credentials ← given.credentials.complete patience
  let network ← given.network.complete patience
  let settings : Settings := ⟨credentials, network, given.serviceAccounts⟩
  settings.check
  return settings

end CloudLift
