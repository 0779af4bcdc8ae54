import NativeLayout.Main
import NativeLayout.Run.Workers
import NativeLayout.Host.Memory
import NativeLayout.Proofs.Capability.Agreement
import NativeLayout.Proofs.Capability.Questions
import NativeLayout.Proofs.Capability.History
import NativeLayout.Proofs.Run.Reference
import NativeLayout.Proofs.Run.Outlook
import NativeLayout.Proofs.Run.Progress
import NativeLayout.Proofs.Run.Interleaving
import NativeLayout.Proofs.Catalog.Gaps
import NativeLayout.Proofs.Catalog.Coverage
import NativeLayout.Proofs.Diagnostics.Echo
import NativeLayout.Proofs.Text.Lines
import NativeLayout.Proofs.Assertion.Reading
import NativeLayout.Proofs.Lists
import NativeLayout.Proofs.Assertion.Exactness
import NativeLayout.Proofs.Catalog.Shadowing
import NativeLayout.Proofs.Assertion.Attribution
import NativeLayout.Proofs.Run.Memory
import NativeLayout.Proofs.Run.Unanimity
import NativeLayout.Proofs.Matrix
import NativeLayout.Proofs.Report.Passing
import NativeLayout.Proofs.Run.Passing
import NativeLayout.Proofs.CommandLine.Check
import NativeLayout.Proofs.Catalog.Publicity
import NativeLayout.Proofs.Run.Compilations
import NativeLayout.Proofs.Run.Turns
import NativeLayout.Proofs.Run.Gates
import NativeLayout.Proofs.Run.Selection
import NativeLayout.Proofs.Text.Beginnings
import NativeLayout.Proofs.Report.Failures
import NativeLayout.Proofs.Report.Lines
import NativeLayout.Proofs.Report.Marks
import NativeLayout.Proofs.Report.Renderings
import NativeLayout.Proofs.Run.Strictness
import NativeLayout.Proofs.Text.Endings
import NativeLayout.Proofs.Report.Commands
import NativeLayout.Proofs.Assertion.Contract
import NativeLayout.Proofs.Descriptor
import NativeLayout.Proofs.Diagnostics.Precedence
import NativeLayout.Proofs.Diagnostics.Joining
import NativeLayout.Proofs.Dictionary
import NativeLayout.Proofs.Layers
import NativeLayout.Proofs.Capability.Directories
import NativeLayout.Proofs.HeaderSet.FirstPlaces
import NativeLayout.Proofs.FieldName
import NativeLayout.Proofs.Catalog.Loading
import NativeLayout.Proofs.Probing
import NativeLayout.Proofs.CommandLine.Listing
import NativeLayout.Proofs.Toml.Records
import NativeLayout.Proofs.Configuration.Precedence
import NativeLayout.Proofs.Text.Replacement
import NativeLayout.Proofs.Report.Escaping
import NativeLayout.Proofs.FieldName.Collisions
import NativeLayout.Proofs.Text.Order
import NativeLayout.Proofs.SkipList
