import CloudLift.Settings.Given
import CloudLift.Toml.Document

/-!
# Settings in TOML

Sections and accounts are tables of texts.  A section can also be an array, which gives
its fields in their order.  A date counts as a table with one key of its own, which
means nothing to a section.
-/

namespace CloudLift.Toml

/-- The key under which a date stands in its table. -/
def momentKey : String :=
  "$__toml_private_datetime"

def Value.text? : Value → Option String
  | .text content => some content
  | _ => none

def texts? (entries : List (String × Value)) : Option (List (String × String)) :=
  entries.mapM fun (name, value) => value.text?.map fun text => (name, text)

/-- The texts that a section gives. -/
def section? (known : List String) : Value → Option (List (String × String))
  | .table _ entries => texts? (entries.filter fun (name, _) => known.contains name)
  | .array items => texts? (known.zip items)
  | .moment _ => some []
  | _ => none

def table? : Value → Option (Table String)
  | .table _ entries => (texts? entries).map Table.ofList
  | .moment text => some (Table.ofList [(momentKey, text)])
  | _ => none

/-- A section that need not be there. -/
def part? {α : Type} (entries : Entries) (name : String) (absent : α)
    (read? : Value → Option α) : Option α :=
  match Entries.find? name entries with
  | none => some absent
  | some value => read? value

def settings? (text : String) : Option Settings.Given := do
  let entries ← entries? text
  let credentials ← part? entries "credentials" [] (section? Credentials.fieldNames)
  let network ← part? entries "network" [] (section? Network.fieldNames)
  let accounts ← part? entries "service_accounts" .empty table?
  return ⟨.ofFields credentials, .ofFields network, accounts⟩

end CloudLift.Toml
