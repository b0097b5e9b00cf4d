import CloudLift.Settings.Basic

/-!
# Forms of the command line

A command is followed by parameters.  A switch is either there or not, an option has a
value, and the operand is a value without a name.  A form says which parameters a
command has.
-/

namespace CloudLift.CommandLine

inductive Kind where
  | switch
  | text
  | path
  /-- Asks for help instead of anything else. -/
  | help
  /-- Asks for the version instead of anything else. -/
  | version
  deriving DecidableEq, Repr

/-- An environment variable that gives a value where the command line gives none. -/
structure Fallback where
  name : String
  /-- Whether help may show the value. -/
  shown : Bool
  deriving DecidableEq, Repr

structure Parameter where
  name : String
  /-- The short form of the name. -/
  letter : Option Char
  kind : Kind
  fallback : Option Fallback
  remark : String
  deriving DecidableEq, Repr

namespace Parameter

/-- The name of the environment variable that can give the value. -/
def environmentName (parameter : Parameter) : Option String :=
  parameter.fallback.map Fallback.name

def takesValue (parameter : Parameter) : Bool :=
  parameter.kind == .text || parameter.kind == .path

def switch (name : String) (letter : Char) : Parameter :=
  ⟨name, some letter, .switch, none, ""⟩

def text (name : String) (letter : Option Char) (remark : String) : Parameter :=
  ⟨name, letter, .text, none, remark⟩

def path (name : String) (letter : Option Char) (remark : String) : Parameter :=
  ⟨name, letter, .path, none, remark⟩

/-- An option whose value can come from the environment. -/
def environmental (name : String) (fallback : Fallback) : Parameter :=
  ⟨name, none, .text, some fallback, ""⟩

def verbose : Parameter :=
  switch "verbose" 'v'

def quiet : Parameter :=
  switch "quiet" 'q'

def help : Parameter :=
  ⟨"help", some 'h', .help, none, "Print help"⟩

def version : Parameter :=
  ⟨"version", some 'V', .version, none, "Print version"⟩

def listing : Parameter :=
  path "images-file" none "Pre-fetched output of `yc compute image list`"

end Parameter

/-- The commands. -/
inductive Verb where
  | convert
  | listImages
  | resolveOs
  | checkName
  deriving DecidableEq, Repr

namespace Verb

def all : List Verb :=
  [.convert, .listImages, .resolveOs, .checkName]

def name : Verb → String
  | .convert => "convert"
  | .listImages => "list-images"
  | .resolveOs => "resolve-os"
  | .checkName => "check-name"

def ofName? (name : String) : Option Verb :=
  all.find? fun verb => verb.name == name

theorem ofName?_name (verb : Verb) : ofName? verb.name = some verb := by
  cases verb <;> decide

def purpose : Verb → String
  | .convert => "Convert a VirtualBox configuration into a Yandex Cloud configuration"
  | .listImages => "List images available in the catalog"
  | .resolveOs => "Show which image a VirtualBox os_id resolves to"
  | .checkName => "Check a name against the Yandex Cloud naming rules"

end Verb

/-- The command that explains the others. -/
def helpName : String :=
  "help"

def helpPurpose : String :=
  "Print this message or the help of the given subcommand(s)"

/-- What help can be about. -/
inductive Topic where
  | program
  | verb (verb : Verb)
  | help
  deriving DecidableEq, Repr

/-- The options stand in the order of the help text. -/
structure Form where
  options : List Parameter
  operand : Option Parameter
  /-- The names of the commands that can follow. -/
  commands : List String

namespace Form

open Parameter

/-- The form of what stands before the command. -/
def program : Form where
  options := [.verbose, .quiet, .help, .version]
  operand := none
  commands := Verb.all.map Verb.name ++ [helpName]

def ofVerb : Verb → Form
  | .convert =>
    { options :=
        [path "source" (some 's')
            "Source configuration; asked for when several .tf files exist",
          path "dir" (some 'd') "Directory searched for .tf files [default: .]",
          path "output" (some 'o') ("[default: " ++ defaultOutput ++ "]"),
          path "config" (some 'c') "YAML or TOML settings file",
          listing,
          verbose,
          quiet,
          environmental "token" ⟨"YC_TOKEN", false⟩,
          environmental "cloud-id" ⟨"YC_CLOUD_ID", true⟩,
          environmental "folder-id" ⟨"YC_FOLDER_ID", true⟩,
          environmental "zone" ⟨"YC_ZONE", true⟩,
          text "network" none "Name of the VPC network to create",
          text "subnet" none "Name of the subnet to create",
          text "cidr" none "IPv4 block of the subnet, /16 to /28",
          help]
      operand := none
      commands := [] }
  | .listImages =>
    { options :=
        [listing,
          text "filter" (some 'f') "Only show images whose name contains this text",
          verbose, quiet, help]
      operand := none
      commands := [] }
  | .resolveOs =>
    { options := [listing, verbose, quiet, help]
      operand := some (text "os_id" none "VirtualBox OS type, e.g. Ubuntu22_64")
      commands := [] }
  | .checkName =>
    { options := [verbose, quiet, help]
      operand := some (text "name" none "")
      commands := [] }

def named? (form : Form) (name : String) : Option Parameter :=
  form.options.find? fun parameter => parameter.name == name

def lettered? (form : Form) (letter : Char) : Option Parameter :=
  form.options.find? fun parameter => parameter.letter == some letter

end Form

end CloudLift.CommandLine
