import CloudLift.Files.Path
import CloudLift.Image.Listing
import CloudLift.Settings.Given

/-!
# Requests for a conversion

What the operator asks for when a conversion starts, and what the conversion finds around
it besides the disk.
-/

namespace CloudLift

structure Request where
  /-- The source, if it is named. -/
  source : Option Path
  /-- Where sources are looked for otherwise. -/
  directory : Path
  output : Path
  /-- The settings file. -/
  config : Option Path
  /-- The listing of the images. -/
  listing : Option Path
  credentials : Credentials.Given
  network : Network.Given
  deriving DecidableEq, Repr

structure Surroundings where
  environment : Table String
  command : Image.CommandResult

end CloudLift
