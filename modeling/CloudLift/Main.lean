import CloudLift.CommandLine.Execution

/-!
# The program

The outer layer: it takes a picture of the files that a command can look at, runs the
command on the picture, prints what the run has to say, and carries out the changes.  While
answers are missing, a line of input is read and the command is run again with it; what
was printed before is the beginning of what is printed then.  The command that lists
images is not started from here, so a listing has to be in a file.
-/

namespace CloudLift.Program

open CommandLine

def nameOf (location : Location) : String :=
  "/" ++ String.intercalate "/" location

/-- Adds what stands at a location to a picture. -/
def observe (picture : Disk) (location : Location) : IO Disk := do
  try
    let found ← IO.FS.realPath (nameOf location)
    if ← found.isDir then
      return picture.place location .directory
    let bytes ← IO.FS.readBinFile found
    return picture.place location (.file bytes.toList)
  catch _ => return picture

def observePath (picture : Disk) (path : Path) : IO Disk :=
  (picture.passed path).foldlM observe picture

/-- Adds the possible sources of a request. -/
def observeSources (picture : Disk) (request : Request) : IO Disk := do
  let picture ← observePath picture request.directory
  match picture.locate request.directory with
  | .error _ => return picture
  | .ok location =>
    try
      let entries ← (← IO.FS.realPath (nameOf location)).readDir
      let names := (entries.toList.map fun entry => entry.fileName).filter request.accepts
      names.foldlM (fun picture name => observe picture (location ++ [name])) picture
    catch _ => return picture

def pictureFor (home : Location) (command : Command) : IO Disk := do
  let picture ← command.files.foldlM observePath ⟨[], home⟩
  match command with
  | .convert request => observeSources picture request
  | _ => return picture

/-- The variables with these names. -/
def readVariables (names : List String) : IO (Table String) :=
  names.foldlM
    (fun table name => do
      match ← IO.getEnv name with
      | some value => return table.insert name value
      | none => return table)
    .empty

/-- The variables that the command line and the colours hang on. -/
def ownVariables : List String :=
  "CLICOLOR_FORCE" ::
    ((Form.ofVerb .convert).options.filterMap fun option => option.environmentName)

/-- The variables that the settings of a command mention. -/
def settingsVariables (picture : Disk) (command : Command) : List String :=
  match command with
  | .convert request =>
    match request.config.map picture.readText with
    | some (.ok text) => Settings.placeholders text
    | _ => []
  | _ => []

/-- Runs the program until no answer is missing, and prints as it goes. -/
partial def converse (input output : IO.FS.Stream) (run : List UInt8 → Report)
    (given : List UInt8) (shown : String) : IO Report := do
  let report := run given
  output.putStr ((report.printed.drop shown.length).toString)
  output.flush
  if report.starved then
    let line ← input.getLine
    if line.isEmpty then
      return report
    converse input output run (given ++ line.toUTF8.toList) report.printed
  else
    return report

/-- Carries out a change. -/
def carryOut (change : Location × Option Node) : IO Unit :=
  match change with
  | (location, some (.file bytes)) =>
    IO.FS.writeBinFile (nameOf location) (ByteArray.mk bytes.toArray)
  | (_, some .directory) => return ()
  | (location, none) => IO.FS.removeFile (nameOf location)

def runWith (words : List String) : IO UInt32 := do
  let errors ← IO.getStderr
  let here := (← IO.currentDir).toString
  let home := (Text.pieces '/' here).filter fun step => step != ""
  let own ← readVariables ownVariables
  let (picture, environment) ←
    match Invocation.ofWords own words with
    | .error _ => pure ((⟨[], home⟩ : Disk), own)
    | .ok invocation =>
      let picture ← pictureFor home invocation.command
      let names := settingsVariables picture invocation.command
      pure (picture, ← readVariables (ownVariables ++ names))
  let surroundings : Surroundings := ⟨environment, .notStarted .notFound⟩
  let report ← converse (← IO.getStdin) (← IO.getStdout)
    (fun input => run surroundings words input picture) [] ""
  (picture.changes report.disk).forM carryOut
  report.journal.forM errors.putStrLn
  errors.putStr report.complaint
  return UInt32.ofNat report.status

end CloudLift.Program

def main (words : List String) : IO UInt32 :=
  CloudLift.Program.runWith words
