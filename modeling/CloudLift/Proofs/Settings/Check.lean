import CloudLift.Proofs.Transcript
import CloudLift.Settings.Basic

/-!
# The check of the settings

The check asks nothing.  It passes when every setting is sound by itself.
-/

namespace CloudLift

variable {σ : Type} {op : Operator σ} {s s' : σ} {text : String}

namespace Interaction

theorem yields_requireName_iff {name : String} {nothing : Unit} :
    Yields op s (requireName name) nothing text s' ↔
      Name.isValid name = true ∧ text = "" ∧ s' = s := by
  unfold requireName Name.check
  by_cases hvalid : Name.isValid name = true
  · simp [hvalid]
  · simp [hvalid, yields_log_andThen_iff]

theorem writes_requireName {name : String} :
    Writes op s (requireName name) (Name.isValid name = true) () "" := by
  intro nothing text s'
  rw [yields_requireName_iff]
  exact and_congr_right fun _ => (and_iff_right rfl).symm

theorem yields_requireName_andThen_iff {α : Type} {name : String}
    {next : Unit → Interaction α} {result : α} :
    Yields op s ((requireName name).andThen next) result text s' ↔
      Name.isValid name = true ∧ Yields op s (next ()) result text s' := by
  unfold requireName Name.check
  by_cases hvalid : Name.isValid name = true
  · simp [hvalid]
  · simp [hvalid, andThen_assoc, yields_log_andThen_iff, andThen]

theorem quiet_requireName (name : String) : (requireName name).Quiet := by
  unfold requireName
  cases Name.check name with
  | ok nothing => trivial
  | error fault => trivial

end Interaction

open Interaction

theorem checkZone_eq_ok_iff {zone : String} {nothing : Unit} :
    checkZone zone = .ok nothing ↔ zone ∈ zones := by
  unfold checkZone
  by_cases hzone : zone ∈ zones
  · rw [if_pos hzone]
    exact iff_of_true rfl hzone
  · rw [if_neg hzone]
    exact iff_of_false (by simp) hzone

theorem Cidr.check_eq_ok_iff {block : String} {nothing : Unit} :
    Cidr.check block = .ok nothing ↔ Cidr.defect? block = none := by
  unfold Cidr.check
  cases Cidr.defect? block with
  | none => simp
  | some defect => simp

theorem Credentials.check_eq_ok_iff {credentials : Credentials} {nothing : Unit} :
    credentials.check = .ok nothing ↔
      credentials.token ≠ "" ∧ credentials.cloudId ≠ "" ∧ credentials.folderId ≠ "" ∧
        credentials.zone ∈ zones := by
  unfold Credentials.check Credentials.required
  by_cases htoken : credentials.token = ""
  · simp [htoken]
  by_cases hcloudId : credentials.cloudId = ""
  · simp [htoken, hcloudId]
  by_cases hfolderId : credentials.folderId = ""
  · simp [htoken, hcloudId, hfolderId]
  simp [htoken, hcloudId, hfolderId, checkZone_eq_ok_iff]

namespace Settings

structure Sound (settings : Settings) : Prop where
  token : settings.credentials.token ≠ ""
  cloudId : settings.credentials.cloudId ≠ ""
  folderId : settings.credentials.folderId ≠ ""
  zone : settings.credentials.zone ∈ zones
  networkName : Name.isValid settings.network.networkName = true
  subnetName : Name.isValid settings.network.subnetName = true
  cidr : Cidr.defect? settings.network.cidr = none

theorem quiet_check (settings : Settings) : settings.check.Quiet := by
  apply (quiet_ofExcept _).andThen
  intro _
  apply (quiet_requireName _).andThen
  intro _
  apply (quiet_requireName _).andThen
  intro _
  exact quiet_ofExcept _

theorem yields_check_iff {settings : Settings} {nothing : Unit} :
    Yields op s settings.check nothing text s' ↔ settings.Sound ∧ text = "" ∧ s' = s := by
  simp only [check, Network.check, bind_eq_andThen, yields_ofExcept_andThen_iff,
    yields_requireName_andThen_iff, yields_ofExcept_iff, Credentials.check_eq_ok_iff,
    Cidr.check_eq_ok_iff]
  constructor
  case mp =>
    intro hchecks
    rcases hchecks with ⟨nothing, ⟨htoken, hcloudId, hfolderId, hzone⟩, hnetwork, hsubnet, hcidr, hend⟩
    exact ⟨⟨htoken, hcloudId, hfolderId, hzone, hnetwork, hsubnet, hcidr⟩, hend⟩
  case mpr =>
    intro hsound
    rcases hsound with ⟨hsound, hend⟩
    exact ⟨(), ⟨hsound.token, hsound.cloudId, hsound.folderId, hsound.zone⟩,
      hsound.networkName, hsound.subnetName, hsound.cidr, hend⟩

end Settings

end CloudLift
