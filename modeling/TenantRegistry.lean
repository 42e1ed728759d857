import TenantRegistry.Cluster
import TenantRegistry.Command
import TenantRegistry.CommandLine.Arguments
import TenantRegistry.CommandLine.Run
import TenantRegistry.Compensation
import TenantRegistry.Configuration
import TenantRegistry.Descriptor
import TenantRegistry.Disk
import TenantRegistry.Error
import TenantRegistry.Files
import TenantRegistry.Instance
import TenantRegistry.Inventory
import TenantRegistry.Json.Layout
import TenantRegistry.Json.Printer
import TenantRegistry.Json.Reader
import TenantRegistry.Json.Value
import TenantRegistry.Main
import TenantRegistry.Member
import TenantRegistry.Operation
import TenantRegistry.OrderedMap
import TenantRegistry.Organization
import TenantRegistry.Ownership
import TenantRegistry.Program
import TenantRegistry.Proofs.Addresses
import TenantRegistry.Proofs.Agreement
import TenantRegistry.Proofs.Breaches
import TenantRegistry.Proofs.Catalogue
import TenantRegistry.Proofs.ClusterHistory
import TenantRegistry.Proofs.Configuration
import TenantRegistry.Proofs.Consistency
import TenantRegistry.Proofs.Deployments
import TenantRegistry.Proofs.DescriptorEdits
import TenantRegistry.Proofs.DeviceGroups
import TenantRegistry.Proofs.Documents
import TenantRegistry.Proofs.Drawing
import TenantRegistry.Proofs.EarlierTexts
import TenantRegistry.Proofs.EditFirst
import TenantRegistry.Proofs.Effect
import TenantRegistry.Proofs.Ending
import TenantRegistry.Proofs.Entries
import TenantRegistry.Proofs.Except
import TenantRegistry.Proofs.Failures
import TenantRegistry.Proofs.ForeignRemovals
import TenantRegistry.Proofs.GroupStatus
import TenantRegistry.Proofs.Identifiers
import TenantRegistry.Proofs.IndexKeys
import TenantRegistry.Proofs.InstanceEdits
import TenantRegistry.Proofs.Isolation
import TenantRegistry.Proofs.Json.Layouts
import TenantRegistry.Proofs.Json.Reading
import TenantRegistry.Proofs.Json.Variants
import TenantRegistry.Proofs.Listing
import TenantRegistry.Proofs.Looking
import TenantRegistry.Proofs.Maps
import TenantRegistry.Proofs.Membership
import TenantRegistry.Proofs.Operations
import TenantRegistry.Proofs.Operations.Additions
import TenantRegistry.Proofs.Operations.Edits
import TenantRegistry.Proofs.Operations.Launches
import TenantRegistry.Proofs.Operations.Looks
import TenantRegistry.Proofs.Operations.Removals
import TenantRegistry.Proofs.OrganizationNames
import TenantRegistry.Proofs.Orphans
import TenantRegistry.Proofs.Outcomes
import TenantRegistry.Proofs.Records
import TenantRegistry.Proofs.References
import TenantRegistry.Proofs.Rehearsals
import TenantRegistry.Proofs.Residues
import TenantRegistry.Proofs.Rollbacks
import TenantRegistry.Proofs.RowChanges
import TenantRegistry.Proofs.Rows
import TenantRegistry.Proofs.Runs
import TenantRegistry.Proofs.Snapshots
import TenantRegistry.Proofs.StatusPrecedence
import TenantRegistry.Proofs.Steps
import TenantRegistry.Proofs.Storage.Changes
import TenantRegistry.Proofs.Storage.Children
import TenantRegistry.Proofs.Storage.Contents
import TenantRegistry.Proofs.Storage.Equivalence
import TenantRegistry.Proofs.Storage.LostUpdates
import TenantRegistry.Proofs.Storage.Pieces
import TenantRegistry.Proofs.Text.Bytes
import TenantRegistry.Proofs.Toml.Lines
import TenantRegistry.Proofs.Toml.Quoting
import TenantRegistry.Proofs.Validity
import TenantRegistry.Proofs.Views
import TenantRegistry.Proofs.WellFormed
import TenantRegistry.Proofs.Writing
import TenantRegistry.Registry.Clusters
import TenantRegistry.Registry.Descriptors
import TenantRegistry.Registry.Instances
import TenantRegistry.Registry.Members
import TenantRegistry.Registry.Organizations
import TenantRegistry.Request
import TenantRegistry.Session
import TenantRegistry.Storage.Call
import TenantRegistry.Storage.Durable
import TenantRegistry.Storage.Fault
import TenantRegistry.Storage.Memory
import TenantRegistry.Storage.Rival
import TenantRegistry.Table
import TenantRegistry.Text.Blank
import TenantRegistry.Text.Uuid
import TenantRegistry.Toml.Document
import TenantRegistry.Toml.Reader
import TenantRegistry.Toml.Scalar
import TenantRegistry.Toml.Text
import TenantRegistry.Toml.Value
import TenantRegistry.Validation
