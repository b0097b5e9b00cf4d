import CloudLift.Generate.Instance

/-!
# The whole configuration

The parts in their order: what every resource shares, one instance group for each group
of the inventory, and one instance for each machine without a group.
-/

namespace CloudLift.Generate

def groups (inventory : Inventory) (catalog : Image.Catalog) (settings : Settings) :
    List (String × List String) → Interaction Unit :=
  Interaction.each fun (name, references) =>
    group inventory catalog settings name references

/-- Writes the configuration for an inventory, and gives the folders in it. -/
def configuration (inventory : Inventory) (catalog : Image.Catalog)
    (settings : Settings) : Interaction (List String) := do
  shared settings
  groups inventory catalog settings inventory.groups.entries
  let folders ← instances catalog settings [] inventory.standalone
  Interaction.log (.info
    (s!"Generated {inventory.groups.entries.length} instance groups, " ++
      s!"{inventory.standalone.length} instances and {folders.length} folders"))
  return folders

end CloudLift.Generate
