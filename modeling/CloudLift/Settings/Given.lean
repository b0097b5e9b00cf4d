import CloudLift.Settings.Basic

/-!
# Given settings

A settings document and the command line each give some of the settings.  Of two that
give the same one, the first counts.
-/

namespace CloudLift

structure Credentials.Given where
  token : Option String
  cloudId : Option String
  folderId : Option String
  zone : Option String
  deriving DecidableEq, Repr

structure Network.Given where
  networkName : Option String
  subnetName : Option String
  cidr : Option String
  deriving DecidableEq, Repr

structure Settings.Given where
  credentials : Credentials.Given
  network : Network.Given
  serviceAccounts : Table String
  deriving DecidableEq, Repr

namespace Credentials

/-- The names of the fields, in the order in which a list gives them. -/
def fieldNames : List String :=
  ["token", "cloud_id", "folder_id", "zone"]

namespace Given

def nothing : Given :=
  ⟨none, none, none, none⟩

def ofFields (fields : List (String × String)) : Given :=
  ⟨fields.lookup "token", fields.lookup "cloud_id", fields.lookup "folder_id",
    fields.lookup "zone"⟩

def orElse (first second : Given) : Given :=
  ⟨first.token.or second.token, first.cloudId.or second.cloudId,
    first.folderId.or second.folderId, first.zone.or second.zone⟩

end Given

end Credentials

namespace Network

def fieldNames : List String :=
  ["network_name", "subnet_name", "cidr"]

namespace Given

def nothing : Given :=
  ⟨none, none, none⟩

def ofFields (fields : List (String × String)) : Given :=
  ⟨fields.lookup "network_name", fields.lookup "subnet_name", fields.lookup "cidr"⟩

def orElse (first second : Given) : Given :=
  ⟨first.networkName.or second.networkName, first.subnetName.or second.subnetName,
    first.cidr.or second.cidr⟩

end Given

end Network

namespace Settings

/-- The sections of a settings document. -/
def sectionNames : List String :=
  ["credentials", "network", "service_accounts"]

def Given.nothing : Given :=
  ⟨.nothing, .nothing, .empty⟩

end Settings

end CloudLift
