import CloudLift.Files.Disk
import CloudLift.Settings.Expansion
import CloudLift.Settings.TomlDocument
import CloudLift.Settings.YamlDocument

/-!
# Settings files

A file with the extension `toml`, in any case, is TOML, and every other one is YAML.
Placeholders are expanded before the text is read in either form.
-/

namespace CloudLift.Settings.Given

def isToml (path : Path) : Bool :=
  path.extension?.any fun extension => extension.toList.map Char.toLower == "toml".toList

def ofText (path : Path) (text : String) : Except Fault Given :=
  if isToml path then
    match Toml.settings? text with
    | some given => .ok given
    | none => .error .toml
  else
    match (Yaml.Document.ofText? text).bind Yaml.Document.settings? with
    | some given => .ok given
    | none => .error .yaml

/-- Reads what a settings file gives. -/
def ofFile (disk : Disk) (environment : Table String) (path : Path) : Except Fault Given :=
  match disk.readText path with
  | .error fault =>
    .error (.config s!"Failed to read settings file {path.text}: {fault.message}")
  | .ok content =>
    match expand environment content with
    | .error names =>
      let listed := Text.join ", " names
      .error (.config s!"Missing environment variables: {listed}")
    | .ok text => ofText path text

end CloudLift.Settings.Given
