import CloudLift.Files.Disk
import CloudLift.Image.Catalog

/-!
# Where a listing comes from

A listing of the images is read from a file, or else it is what the cloud's own command
prints.
-/

namespace CloudLift.Image

/-- A listing is looked for here if no file is named. -/
def defaultListing : String :=
  "tools/yc_images.txt"

/-- What came of running the command that lists the images. -/
inductive CommandResult where
  | notStarted (cause : IoFault)
  | finished (status : Nat) (output errors : List UInt8)
  deriving DecidableEq, Repr

namespace CommandResult

/-- The listing that the command printed, if it was successful. -/
def listing (result : CommandResult) : Except Fault String :=
  match result with
  | .notStarted cause => .error (.catalog s!"failed to run yc: {cause.message}")
  | .finished 0 output _ => .ok (Text.Utf8.decodeLossy output)
  | .finished status _ errors =>
    let said := Text.trim (Text.Utf8.decodeLossy errors)
    .error (.catalog s!"yc exited with exit status: {status}: {said}")

end CommandResult

/-- The file of the listing: the one that is named, or else the default one if it is
there. -/
def listingFile? (disk : Disk) (named : Option Path) : Option Path :=
  match named with
  | some path => some path
  | none =>
    let path : Path := ⟨defaultListing⟩
    if disk.isFile path then some path else none

def readListing (disk : Disk) (result : CommandResult) (file? : Option Path) :
    Interaction String :=
  match file? with
  | some path => do
    Interaction.log (.debug s!"Reading image list from {path.text}")
    match disk.readText path with
    | .ok listing => return listing
    | .error fault => .fail (.catalog s!"failed to read {path.text}: {fault.message}")
  | none => do
    Interaction.log (.info "Fetching the image list with yc")
    Interaction.ofExcept result.listing

/-- The catalog of the listing in a file, or of the one that the command printed. -/
def Catalog.load (disk : Disk) (result : CommandResult) (file? : Option Path) :
    Interaction Catalog := do
  let listing ← readListing disk result file?
  let catalog ← Catalog.read listing
  Interaction.log (
    if catalog.entries.isEmpty then
      .warn "The image catalog is empty, no os_id can be resolved"
    else
      .info s!"Image catalog holds {catalog.size} images")
  return catalog

end CloudLift.Image
