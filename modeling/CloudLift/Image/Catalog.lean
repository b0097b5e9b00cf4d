import CloudLift.Image.Tag
import CloudLift.Interaction
import CloudLift.Table
import CloudLift.Text.Blank

/-!
# The image catalog

The images of the target cloud, by name and in the order of the listing.  A listing is
a table drawn with vertical bars: its first row is the header, and each further row
has five cells, the id and the name first.
-/

namespace CloudLift.Image

/-- The id of each image, by its name. -/
abbrev Catalog := Table String

namespace Catalog

/-- The name and the id of each row, where a row is a run of six fields and the fields
after the last row are left over.  A row needs a field after its name. -/
def rows : List String → List (String × String)
  | id :: name :: _ :: rest =>
    (Text.dropBlanks name, Text.dropBlanks id) :: rows (rest.drop 3)
  | _ => []
  termination_by fields => fields.length
  decreasing_by
    simp only [List.length_drop, List.length_cons]
    omega

/-- The fields before the first row: a rule, the five cells of the header, and the rule
under it. -/
def headerFields : Nat := 7

def ofListing (listing : String) : Catalog :=
  Table.ofList (rows ((Text.pieces '|' listing).drop headerFields))

def size (catalog : Catalog) : Nat :=
  catalog.entries.length

/-- Reads a listing and notes how many images it holds. -/
def read (listing : String) : Interaction Catalog := do
  let catalog := ofListing listing
  Interaction.log (.debug s!"Loaded {catalog.size} images into the catalog")
  return catalog

/-- The first image whose name holds the key of a tag. -/
def match? (catalog : Catalog) (tag : String) : Option (String × String) :=
  catalog.entries.find? fun (name, _) => Text.holds (imageKey tag) name

/-- The id of the image for a tag. -/
def resolve (catalog : Catalog) (tag : String) : Interaction String :=
  match catalog.match? tag with
  | some (name, id) => do
    Interaction.log (.debug s!"Resolved {tag} to image {name} ({id})")
    return id
  | none => .fail (.unresolvedOsName tag (imageKey tag))

end Catalog

end CloudLift.Image
