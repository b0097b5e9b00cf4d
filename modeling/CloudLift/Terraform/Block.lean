/-!
# Configuration blocks

A Terraform configuration is a list of blocks.  A block has a header and holds
attributes and further blocks; each stands on lines of its own, indented by one tab a
level.  A block at the top is followed by an empty line.
-/

namespace CloudLift.Terraform

inductive Item where
  /-- The value is written as it stands. -/
  | attribute (key value : String)
  | block (header : String) (items : List Item)

def indent (depth : Nat) : String :=
  String.ofList (List.replicate depth '\t')

def openLine (depth : Nat) (header : String) : String :=
  indent depth ++ header ++ " \x7b\n"

def closeLine (depth : Nat) : String :=
  indent depth ++ "\x7d\n"

mutual

def Item.render (depth : Nat) : Item → String
  | .attribute key value => indent depth ++ key ++ " = " ++ value ++ "\n"
  | .block header items =>
    openLine depth header ++ renderItems (depth + 1) items ++ closeLine depth

def renderItems (depth : Nat) : List Item → String
  | [] => ""
  | item :: items => item.render depth ++ renderItems depth items

end

/-- What ends a block at the top. -/
def topClose : String :=
  closeLine 0 ++ "\n"

/-- A block at the top. -/
def render (header : String) (items : List Item) : String :=
  openLine 0 header ++ renderItems 1 items ++ topClose

/-- A value in quotes; nothing in it is escaped. -/
def quote (value : String) : String :=
  "\"" ++ value ++ "\""

theorem toList_quote (value : String) : (quote value).toList = '"' :: (value.toList ++ ['"']) := by
  simp [quote]

/-- A list with one value. -/
def singleton (value : String) : String :=
  "[" ++ quote value ++ "]"

/-- The header of a resource, with the label as it is to be written. -/
def resource (type label : String) : String :=
  "resource " ++ quote type ++ " " ++ label

/-- The id of another resource of the configuration. -/
def idOf (type name : String) : String :=
  quote ("$\x7b" ++ type ++ "." ++ name ++ ".id\x7d")

def networkType : String := "yandex_vpc_network"

def subnetType : String := "yandex_vpc_subnet"

def folderType : String := "yandex_resourcemanager_folder"

def instanceType : String := "yandex_compute_instance"

def groupType : String := "yandex_compute_instance_group"

theorem renderItems_append (depth : Nat) (items others : List Item) :
    renderItems depth (items ++ others) =
      renderItems depth items ++ renderItems depth others := by
  induction items with
  | nil => simp [renderItems]
  | cons item items ih => simp [renderItems, ih, String.append_assoc]

end CloudLift.Terraform
