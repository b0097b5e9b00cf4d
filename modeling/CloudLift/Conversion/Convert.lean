import CloudLift.Conversion.Session
import CloudLift.Conversion.Source
import CloudLift.Generate.Configuration
import CloudLift.Settings.File
import CloudLift.Settings.Questions

/-!
# Conversions

A conversion clears the way for the output, finds the source, reads it, completes the
settings, loads the catalog and writes the configuration.  The output is either complete
or not there.
-/

namespace CloudLift

/-- The settings that the request and the settings file give, with the rest asked for. -/
def Request.collectSettings (request : Request) (environment : Table String)
    (disk : Disk) (patience : Nat) : Interaction Settings := do
  let file ←
    match request.config with
    | some path => Interaction.ofExcept (Settings.Given.ofFile disk environment path)
    | none => .done .nothing
  Settings.Given.complete
    ⟨request.credentials.orElse file.credentials, request.network.orElse file.network,
      file.serviceAccounts⟩
    patience

namespace Task

variable {σ α : Type}

/-- Removes an output that an earlier conversion left. -/
def removeStale (output : Path) : Task σ Unit :=
  ofStep fun session =>
    match session.disk.remove output with
    | .ok disk =>
      (.ok (), { session with
        disk := disk
        journal := session.journal ++
          Journal.inStage none [.info s!"Removed previous {output.text}"] })
    | .error .notFound => (.ok (), session)
    | .error fault => (.error (.io fault), session)

/-- Writes a configuration to a file.  If the interaction fails, the file is deleted. -/
def produce (op : Operator σ) (output : Path) (configuration : Interaction α) :
    Task σ Unit :=
  ofStep fun session =>
    match session.disk.locateForWriting output with
    | .error fault => (.error (.io fault), session)
    | .ok location =>
      let run := configuration.run op none session.operator
      let session := session.after (some .generate) run
      match run.outcome with
      | .ok _ =>
        let file := Node.file (Text.Utf8.encode run.text)
        (.ok (), { session with disk := session.disk.place location file })
      | .error fault =>
        (.error fault, { session with disk := session.disk.erase location })

/-- The catalog of the listing that is named or of another one. -/
def loadCatalog (op : Operator σ) (command : Image.CommandResult)
    (listing : Option Path) : Task σ Image.Catalog :=
  within "Error with getting images" <|
    perform op none fun session =>
      Image.Catalog.load session.disk command (Image.listingFile? session.disk listing)

/-- Converts a source, and gives the path of the configuration. -/
def convert (op : Operator σ) (surroundings : Surroundings) (request : Request) :
    Task σ Path := do
  within "File deletion failed" (removeStale request.output)
  let source ← within "The file could not be selected" <|
    perform op none fun session => request.selectSource session.disk
  perform op none fun _ => Interaction.log (.info s!"Converting {source.text}")
  let inventory ← within s!"Error with information scanning of {source.text}" <|
    perform op (some .scan) fun session => Inventory.ofFile session.disk source
  let settings ← within "Getting conversion settings failed" <|
    perform op (some .settings) fun session =>
      request.collectSettings surroundings.environment session.disk
        (op.patience session.operator)
  let catalog ← loadCatalog op surroundings.command request.listing
  within "Error with resource conversion" <|
    produce op request.output (Generate.configuration inventory catalog settings)
  return request.output

end Task

end CloudLift
