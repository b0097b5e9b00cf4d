import CloudLift.Settings.Given
import CloudLift.Yaml.Node

/-!
# Settings in YAML

Sections and accounts are mappings, and a section that is left empty is an empty one.
Keys that mean nothing here are passed over.  Every scalar is a text as it is written,
but a plain scalar that is empty or spells null gives nothing where a text can be absent.
-/

namespace CloudLift.Yaml

def nullTag : String :=
  "tag:yaml.org,2002:null"

def spellsNull (text : String) : Bool :=
  ["null", "Null", "NULL", "~"].contains text

namespace Document

/-- The text of a scalar. -/
def text? (document : Document) (node : Node) : Option String :=
  match document.resolve node with
  | .scalar _ text _ => some text
  | _ => none

/-- A text that may be absent. -/
def optionalText? (document : Document) (node : Node) : Option (Option String) :=
  match document.resolve node with
  | .scalar properties text plain =>
    if !plain then some (some text)
    else
      match properties.tag with
      | some tag =>
        if tag ≠ nullTag then some (some text)
        else if spellsNull text then some none
        else none
      | none => if text.isEmpty || spellsNull text then some none else some (some text)
  | _ => none

/-- The entries of a mapping, whose keys are scalars. -/
def entries? (document : Document) (node : Node) : Option (List (String × Node)) :=
  match document.resolve node with
  | .mapping _ entries =>
    entries.mapM fun (key, value) => (document.text? key).map fun name => (name, value)
  | .scalar _ "" true => some []
  | _ => none

/-- The entries with known keys, each at most once. -/
def fields? (document : Document) (known : List String) (node : Node) :
    Option (List (String × Node)) := do
  let entries ← document.entries? node
  let fields := entries.filter fun (name, _) => known.contains name
  if (fields.map Prod.fst).Nodup then some fields else none

/-- The texts that a section gives. -/
def section? (document : Document) (known : List String) (node : Node) :
    Option (List (String × String)) := do
  let fields ← document.fields? known node
  let texts ← fields.mapM fun (name, value) =>
    (document.optionalText? value).map fun text? => (name, text?)
  return texts.filterMap fun (name, text?) => text?.map fun text => (name, text)

/-- The texts of a mapping; of two entries with one key the later one counts. -/
def table? (document : Document) (node : Node) : Option (Table String) := do
  let entries ← document.entries? node
  let texts ← entries.mapM fun (name, value) =>
    (document.text? value).map fun text => (name, text)
  return Table.ofList texts

/-- A section that need not be there. -/
def part? {α : Type} (sections : List (String × Node)) (name : String) (absent : α)
    (read? : Node → Option α) : Option α :=
  match sections.lookup name with
  | none => some absent
  | some node => read? node

def settings? (document : Document) : Option Settings.Given :=
  match document.root with
  | none => some .nothing
  | some root => do
    let sections ← document.fields? Settings.sectionNames root
    let credentials ←
      part? sections "credentials" [] (document.section? Credentials.fieldNames)
    let network ← part? sections "network" [] (document.section? Network.fieldNames)
    let accounts ← part? sections "service_accounts" .empty document.table?
    return ⟨.ofFields credentials, .ofFields network, accounts⟩

end Document

end CloudLift.Yaml
