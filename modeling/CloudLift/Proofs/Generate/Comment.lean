import CloudLift.Proofs.Generate.Configuration
import CloudLift.Proofs.Generate.Restriction
import CloudLift.Proofs.Inventory.Comment

/-!
# Comments make no difference

A comment that opens no block where it stands sets at most an attribute whose key looks
like a comment.  No such key is read when a configuration is generated, so with the
comment or without it the same text is written, with the same folders or the same fault,
and the same questions are put.  Only the journal counts lines.

A comment that mentions an adapter, or that ends by opening a block, is not inert: the
scan takes it for the line that it would be without the comment mark.
-/

namespace CloudLift.Generate

variable {σ : Type}

/-- The configuration for the machines that a source declares. -/
def translation (source : String) (catalog : Image.Catalog) (settings : Settings) :
    Interaction (List String) :=
  (Inventory.read (Text.Utf8.encode source)).andThen fun inventory =>
    configuration inventory catalog settings

variable (op : Operator σ) (room : Room) (s : σ) (catalog : Image.Catalog)
  (settings : Settings)

theorem sameButEvents_translation (source : String) :
    ((translation source catalog settings).run op room s).SameButEvents
      ((configuration (Scan.start.walk (Text.lines source)).inventory catalog settings).run
        op room s) :=
  Scan.sameButEvents_lines op room s _ Scan.start 0
    (Text.Utf8.mapM_decode?_lines_encode source)

theorem keeps_plainKey : Keeps Scan.plainKey := by
  unfold Keeps
  decide

/-- A comment that opens no block where it stands makes no difference. -/
theorem comment_inert {source commented comment : String} {before after : List String}
    (hsource : Text.lines source = before ++ after)
    (hcommented : Text.lines commented = before ++ comment :: after)
    (hcomment : Line.IsComment comment)
    (hopens : ¬ (Scan.start.walk before).place.Opens comment) :
    ((translation commented catalog settings).run op room s).SameButEvents
      ((translation source catalog settings).run op room s) := by
  have hwith := sameButEvents_translation op room s catalog settings commented
  have hwithout := sameButEvents_translation op room s catalog settings source
  have hinventory : (Scan.start.walk (Text.lines commented)).inventory.restrict Scan.plainKey =
      (Scan.start.walk (Text.lines source)).inventory.restrict Scan.plainKey := by
    rw [hcommented, hsource]
    exact congrArg Scan.inventory (Scan.restrict_walk_comment hcomment hopens)
  have hconfiguration :
      configuration (Scan.start.walk (Text.lines commented)).inventory catalog settings =
        configuration (Scan.start.walk (Text.lines source)).inventory catalog settings := by
    rw [← configuration_restrict keeps_plainKey, hinventory,
      configuration_restrict keeps_plainKey]
  rw [hconfiguration] at hwith
  exact hwith.trans hwithout.symm

/-- The lines of a machine up to its cores. -/
def machineFront : List String :=
  ["resource \"virtualbox_server\" \"a\" \x7b", "cpus = 2"]

/-- The lines of the machine after its cores. -/
def machineBack : List String :=
  ["memory = 2048", "os_id = \"Ubuntu_64\"", "\x7d"]

def ofLines (lines : List String) : String :=
  String.join (lines.map fun line => line ++ "\n")

/-- The comment looks like an assignment of the memory. -/
theorem commentedMemory_inert :
    Text.lines (ofLines (machineFront ++ machineBack)) = machineFront ++ machineBack ∧
      Text.lines (ofLines (machineFront ++ "  // memory = \x7b1" :: machineBack)) =
        machineFront ++ "  // memory = \x7b1" :: machineBack ∧
      Line.IsComment "  // memory = \x7b1" ∧
      ¬ (Scan.start.walk machineFront).place.Opens "  // memory = \x7b1" ∧
      ((translation (ofLines (machineFront ++ "  // memory = \x7b1" :: machineBack)) oneImage
          settingsWithoutAccounts).run Operator.scripted none []).SameButEvents
        ((translation (ofLines (machineFront ++ machineBack)) oneImage settingsWithoutAccounts).run
          Operator.scripted none []) := by
  have hsource : Text.lines (ofLines (machineFront ++ machineBack)) =
      machineFront ++ machineBack := by
    decide +kernel
  have hcommented : Text.lines (ofLines (machineFront ++ "  // memory = \x7b1" :: machineBack)) =
      machineFront ++ "  // memory = \x7b1" :: machineBack := by
    decide +kernel
  have hcomment : Line.IsComment "  // memory = \x7b1" := by
    decide +kernel
  have hopens : ¬ (Scan.start.walk machineFront).place.Opens "  // memory = \x7b1" := by
    decide +kernel
  exact ⟨hsource, hcommented, hcomment, hopens,
    comment_inert Operator.scripted none [] oneImage settingsWithoutAccounts hsource hcommented
      hcomment hopens⟩

/-- A comment that mentions an adapter takes the rest of the machine into the adapter. -/
theorem commentedAdapter_not_inert :
    Line.IsComment "# network_adapter" ∧
      Text.lines (ofLines (machineFront ++ machineBack)) = machineFront ++ machineBack ∧
      Text.lines (ofLines (machineFront ++ "# network_adapter" :: machineBack)) =
        machineFront ++ "# network_adapter" :: machineBack ∧
      ((translation (ofLines (machineFront ++ machineBack)) oneImage settingsWithoutAccounts).run
        Operator.scripted none []).outcome = .ok [] ∧
      ((translation (ofLines (machineFront ++ "# network_adapter" :: machineBack)) oneImage
        settingsWithoutAccounts).run Operator.scripted none []).outcome =
          .error (.osIdNotDefined "\"a\"") := by
  refine ⟨by decide +kernel, by decide +kernel, by decide +kernel, ?_, ?_⟩
  · rw [(sameButEvents_translation _ _ _ _ _ _).outcome]
    decide +kernel
  · rw [(sameButEvents_translation _ _ _ _ _ _).outcome]
    decide +kernel

end CloudLift.Generate
