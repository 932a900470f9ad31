import UefiBuild.AsBuilt
import UefiBuild.Main
import UefiBuild.Script.Execute
import UefiBuild.Workspace.Plan
import UefiBuild.Proofs.Library.Dependency
import UefiBuild.Proofs.Library.Sorting
import UefiBuild.Proofs.Library.ConstructorOrder
import UefiBuild.Proofs.Text.Fields
import UefiBuild.Proofs.Options.Keys
import UefiBuild.Proofs.Options.Passes
import UefiBuild.Proofs.Options.Layering
import UefiBuild.Proofs.Options.Families
import UefiBuild.Proofs.Pcd.Collection
import UefiBuild.Proofs.Pcd.Numbering
import UefiBuild.Proofs.Checked
import UefiBuild.Proofs.Failing
import UefiBuild.Proofs.Text.Digits
import UefiBuild.Proofs.Text.Version
import UefiBuild.Proofs.Pcd.TokenValue
import UefiBuild.Proofs.Pcd.BlobForms
import UefiBuild.Proofs.Package.Tokens
import UefiBuild.Proofs.Package.Declarations
import UefiBuild.Proofs.Pcd.Settings
import UefiBuild.Proofs.Pcd.Derived
import UefiBuild.Proofs.Pcd.Fields
import UefiBuild.Proofs.Catalog.Module
import UefiBuild.Proofs.Pcd.Placeholder
import UefiBuild.Proofs.Catalog.Platform
import UefiBuild.Proofs.Catalog.Lookup
import UefiBuild.Proofs.Library.Linked
import UefiBuild.Proofs.Workspace.Contexts
import UefiBuild.Proofs.Workspace.Offsets
import UefiBuild.Proofs.Workspace.Plan
import UefiBuild.Proofs.Workspace.Sizes
import UefiBuild.Proofs.Workspace.Kept
import UefiBuild.Proofs.Workspace.Checks
import UefiBuild.Proofs.Catalog.Filled
import UefiBuild.Proofs.Library.Links
import UefiBuild.Proofs.Library.Legacy
import UefiBuild.Proofs.Workspace.Nesting
import UefiBuild.Proofs.Catalog.References
import UefiBuild.Proofs.Wildcard
import UefiBuild.Proofs.Depex.Condition
import UefiBuild.Proofs.Depex.Joining
import UefiBuild.Proofs.Depex.Ordering
import UefiBuild.Proofs.Depex.Conjunction
import UefiBuild.Proofs.Pcd.Uses
import UefiBuild.Proofs.Pcd.Ordering
import UefiBuild.Proofs.Text.Words
import UefiBuild.Proofs.Depex.Wording
import UefiBuild.Proofs.Depex.Clipping
import UefiBuild.Proofs.Depex.AsWritten
import UefiBuild.Proofs.Text.Quoting
import UefiBuild.Proofs.Vpd.RoundTrip
import UefiBuild.Proofs.Package.Symbols
import UefiBuild.Proofs.Library.Bindings
import UefiBuild.Proofs.Library.Forced
import UefiBuild.Proofs.Text.ValueList
import UefiBuild.Proofs.Catalog.Requests
import UefiBuild.Proofs.Catalog.PlatformRequests
import UefiBuild.Proofs.Workspace.Sharing
import UefiBuild.Proofs.Pcd.Repeated
import UefiBuild.Proofs.Options.Shadowing
import UefiBuild.Proofs.Options.DeclarationOrder
import UefiBuild.Proofs.Options.Overlay
import UefiBuild.Proofs.Tools.Selection
import UefiBuild.Proofs.Record.Numbers
import UefiBuild.Proofs.Catalog.Standing
import UefiBuild.Proofs.Library.Named
import UefiBuild.Proofs.Library.Topological
import UefiBuild.Proofs.Onward
import UefiBuild.Proofs.Workspace.Consistent
import UefiBuild.Proofs.Workspace.Following
import UefiBuild.Proofs.Workspace.Packages
import UefiBuild.Proofs.Package.FirstDeclaration
import UefiBuild.Proofs.Options.Accepted
import UefiBuild.Proofs.Tools.Arbitration
import UefiBuild.Proofs.Tools.Definitions
import UefiBuild.Proofs.SourcePath
import UefiBuild.Proofs.Pcd.BlobSize
