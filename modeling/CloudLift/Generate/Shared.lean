import CloudLift.Settings.Basic
import CloudLift.Terraform.Block

/-!
# What every resource shares

The provider with its credentials, the network and the subnet.
-/

namespace CloudLift.Generate

open Terraform

/-- The block that names the provider to install. -/
def requirements : String :=
  render "terraform" [
    .block "required_providers" [
      .block "yandex =" [.attribute "source" (quote "yandex-cloud/yandex")]]]

def provider (credentials : Credentials) : String :=
  render ("provider " ++ quote "yandex") [
    .attribute "token" (quote credentials.token),
    .attribute "cloud_id" (quote credentials.cloudId),
    .attribute "folder_id" (quote credentials.folderId),
    .attribute "zone" (quote credentials.zone)]

def networkBlock (network : Network) : String :=
  render (resource networkType (quote network.networkName)) [
    .attribute "name" (quote network.networkName)]

def subnetBlock (settings : Settings) : String :=
  let network := settings.network
  render (resource subnetType (quote network.subnetName)) [
    .attribute "name" (quote network.subnetName),
    .attribute "v4_cidr_blocks" (singleton network.cidr),
    .attribute "zone" (quote settings.credentials.zone),
    .attribute "network_id" (idOf networkType network.networkName)]

/-- Writes what comes before the first group. -/
def shared (settings : Settings) : Interaction Unit := do
  Interaction.put requirements
  Interaction.put (provider settings.credentials)
  Interaction.log (.debug s!"Writing network {settings.network.networkName}")
  Interaction.put (networkBlock settings.network)
  Interaction.log (.debug
    s!"Writing subnet {settings.network.subnetName} ({settings.network.cidr})")
  Interaction.put (subnetBlock settings)

end CloudLift.Generate
