import CloudLift.Main
import CloudLift.Proofs.Text.Encoding
import CloudLift.Proofs.Text.Lines
import CloudLift.Proofs.Interaction
import CloudLift.Proofs.Failure
import CloudLift.Proofs.Inventory.Line
import CloudLift.Proofs.Inventory.Outline
import CloudLift.Proofs.Inventory.Reading
import CloudLift.Proofs.Size
import CloudLift.Proofs.Generate.Group
import CloudLift.Proofs.Generate.Instance
import CloudLift.Proofs.Generate.Configuration
import CloudLift.Proofs.Generate.Steps
import CloudLift.Proofs.Generate.FirstFault
import CloudLift.Proofs.Inventory.Account
import CloudLift.Proofs.Inventory.Merge
import CloudLift.Proofs.Conversion.Task
import CloudLift.Proofs.Conversion.Convert
import CloudLift.Proofs.Inventory.Comment
import CloudLift.Proofs.Generate.Restriction
import CloudLift.Proofs.Generate.Comment
import CloudLift.Proofs.Conversion.Inputs
import CloudLift.Proofs.Inventory.Edit
import CloudLift.Proofs.Inventory.Arena
import CloudLift.Proofs.History
import CloudLift.Proofs.Generate.Membership
import CloudLift.Proofs.Generate.Written
import CloudLift.Proofs.Generate.Opening
import CloudLift.Proofs.Generate.Aggregate
import CloudLift.Proofs.Generate.Folder
import CloudLift.Proofs.Inventory.Scanned
import CloudLift.Proofs.Generate.Address
import CloudLift.Proofs.Transcript
import CloudLift.Proofs.Generate.Questions
import CloudLift.Proofs.Conversion.Repeat
import CloudLift.Proofs.Settings.Check
import CloudLift.Proofs.Settings.Topics
import CloudLift.Proofs.Operator.Terminal
import CloudLift.Proofs.Settings.Interview
import CloudLift.Proofs.Settings.Collection
import CloudLift.Proofs.Image.Resolution
import CloudLift.Proofs.Image.Listing
import CloudLift.Proofs.Operator.Typed
import CloudLift.Proofs.Inventory.Matching
import CloudLift.Proofs.Inventory.Enclosure
import CloudLift.Proofs.Settings.Expansion
import CloudLift.Proofs.Operator.Answers
import CloudLift.Proofs.Text.Order
import CloudLift.Proofs.Files.Entries
import CloudLift.Proofs.Conversion.Source
import CloudLift.Proofs.Text.Cut
import CloudLift.Proofs.Text.Margins
import CloudLift.Proofs.Inventory.Margins
import CloudLift.Proofs.Text.Pattern
import CloudLift.Proofs.Name
import CloudLift.Proofs.Text.Numeral
import CloudLift.Proofs.Settings.Cidr
import CloudLift.Proofs.Generate.Label
import CloudLift.Proofs.Text.Lowercase
import CloudLift.Proofs.Text.Decoding
import CloudLift.Proofs.Image.Tag
import CloudLift.Proofs.Generate.Scale
import CloudLift.Proofs.Inventory.Checked
import CloudLift.Proofs.Inventory.Transition
import CloudLift.Proofs.Inventory.Progress
import CloudLift.Proofs.Quantity
