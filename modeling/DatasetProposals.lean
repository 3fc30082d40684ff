import DatasetProposals.Bench.Answer
import DatasetProposals.Bench.Command
import DatasetProposals.Bench.Http
import DatasetProposals.Bench.Ids
import DatasetProposals.Bench.Pure
import DatasetProposals.Bench.Respond
import DatasetProposals.Bench.Scenario
import DatasetProposals.Bench.Setup
import DatasetProposals.Catalog.Record
import DatasetProposals.Cli.Address
import DatasetProposals.Cli.Command
import DatasetProposals.Cli.Config
import DatasetProposals.Cli.Environment
import DatasetProposals.Cli.Error
import DatasetProposals.Cli.Help
import DatasetProposals.Cli.Parse
import DatasetProposals.Cli.Program
import DatasetProposals.Cli.Seed
import DatasetProposals.Cli.Similarity
import DatasetProposals.Cli.Startup
import DatasetProposals.Cli.Value
import DatasetProposals.Contract
import DatasetProposals.Directory.Error
import DatasetProposals.Directory.Memory
import DatasetProposals.Directory.Record
import DatasetProposals.Directory.Relational
import DatasetProposals.Directory.Sql
import DatasetProposals.Fault.Plan
import DatasetProposals.FileTree
import DatasetProposals.Http.Body
import DatasetProposals.Http.Claims
import DatasetProposals.Http.Form
import DatasetProposals.Http.Message
import DatasetProposals.Http.Server
import DatasetProposals.Http.Wire
import DatasetProposals.Json.Decode
import DatasetProposals.Json.Doc
import DatasetProposals.Json.Number
import DatasetProposals.Json.Text
import DatasetProposals.Json.Value
import DatasetProposals.Log
import DatasetProposals.Main
import DatasetProposals.Notify.Attributes
import DatasetProposals.Notify.Builtin
import DatasetProposals.Notify.Notifier
import DatasetProposals.Notify.Recipients
import DatasetProposals.Notify.Template
import DatasetProposals.Proposal.Lifecycle
import DatasetProposals.Proposal.Record
import DatasetProposals.Proposal.Status
import DatasetProposals.Proofs.MemoryWorld
import DatasetProposals.Proofs.ScriptRun
import DatasetProposals.Proofs.StoreLookup
import DatasetProposals.Service.Error
import DatasetProposals.Service.Operations
import DatasetProposals.Service.Script
import DatasetProposals.Service.World
import DatasetProposals.Signing.Sha256
import DatasetProposals.Signing.Url
import DatasetProposals.Store.Describe
import DatasetProposals.Store.Database
import DatasetProposals.Store.DocumentServer
import DatasetProposals.Store.Documents
import DatasetProposals.Store.Error
import DatasetProposals.Store.Memory
import DatasetProposals.Text.Alphanumeric
import DatasetProposals.Text.Binary
import DatasetProposals.Text.Blank
import DatasetProposals.Text.Decimal
import DatasetProposals.Text.Inversion
import DatasetProposals.Text.Printable
import DatasetProposals.Text.Search
import DatasetProposals.Text.Shortest
import DatasetProposals.Proofs.CallShape
import DatasetProposals.Proofs.LifecycleRuns
import DatasetProposals.Proofs.Provisioning
import DatasetProposals.Proofs.FailedCalls
import DatasetProposals.Proofs.FreshIds
import DatasetProposals.Proofs.AcceptedDatasets
import DatasetProposals.Proofs.Interleaving
import DatasetProposals.Proofs.WriteSources
import DatasetProposals.Proofs.RacingCalls
import DatasetProposals.Proofs.NotificationOutcome
import DatasetProposals.Proofs.SentMail
import DatasetProposals.Proofs.CallWrites
import DatasetProposals.Proofs.TransitionStamps
import DatasetProposals.Proofs.KeptTimestamps
import DatasetProposals.Proofs.DirectoryTables
import DatasetProposals.Proofs.StoreContract
import DatasetProposals.Proofs.AcceptanceSteps
import DatasetProposals.Proofs.DatabaseCalls
import DatasetProposals.Proofs.DocumentAgreement
import DatasetProposals.Proofs.ProvisioningSteps
import DatasetProposals.Proofs.PublisherLookup
import DatasetProposals.Proofs.SubmitGuards
import DatasetProposals.Proofs.CallFrames
import DatasetProposals.Proofs.RecipientLists
import DatasetProposals.Proofs.TemplateGrammar
import DatasetProposals.Proofs.PresignedUrls
import DatasetProposals.Proofs.ProvisioningTransaction
import DatasetProposals.Proofs.RepositoryListing
import DatasetProposals.Proofs.AccessControl
