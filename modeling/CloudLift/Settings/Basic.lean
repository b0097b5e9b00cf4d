import CloudLift.Interaction
import CloudLift.Name
import CloudLift.Settings.Cidr
import CloudLift.Table

/-!
# Settings of a conversion

The credentials and the network that every resource of the target shares, the service
accounts of the instance groups, and the check of all of these.
-/

namespace CloudLift

structure Credentials where
  token : String
  cloudId : String
  folderId : String
  zone : String
  deriving DecidableEq, Repr

structure Network where
  networkName : String
  subnetName : String
  cidr : String
  deriving DecidableEq, Repr

structure Settings where
  credentials : Credentials
  network : Network
  /-- The account of each group, by the name of the group without quotes. -/
  serviceAccounts : Table String
  deriving DecidableEq, Repr

/-- The availability zones of the target cloud. -/
def zones : List String :=
  ["ru-central1-a", "ru-central1-b", "ru-central1-c", "ru-central1-d"]

/-- The configuration is written here unless the operator says otherwise. -/
def defaultOutput : String :=
  "yandex_cloud.tf"

def programName : String :=
  "vbox-yc-converter"

def version : String :=
  "1.0.0"

def checkZone (zone : String) : Except Fault Unit :=
  if zone ∈ zones then
    .ok ()
  else
    let known := Text.join ", " zones
    .error (.validation s!"Unknown availability zone: {zone} (expected one of {known})")

/-- Checks a name, and notes the rule if it is broken. -/
def requireName (name : String) : Interaction Unit :=
  match Name.check name with
  | .ok () => .done ()
  | .error fault => do
    Interaction.log (.error s!"Invalid name \"{name}\"! {namingRule}")
    .fail fault

namespace Credentials

/-- The fields that must not be empty, with the names that reports use. -/
def required (credentials : Credentials) : List (String × String) :=
  [("token", credentials.token), ("cloud_id", credentials.cloudId),
    ("folder_id", credentials.folderId)]

def check (credentials : Credentials) : Except Fault Unit :=
  match credentials.required.find? fun (_, value) => value.isEmpty with
  | some (field, _) => .error (.validation s!"{field} cannot be empty")
  | none => checkZone credentials.zone

end Credentials

namespace Network

def check (network : Network) : Interaction Unit := do
  requireName network.networkName
  requireName network.subnetName
  Interaction.ofExcept (Cidr.check network.cidr)

end Network

def Settings.check (settings : Settings) : Interaction Unit := do
  Interaction.ofExcept settings.credentials.check
  settings.network.check

end CloudLift
