import ChoiceMind.Foundation.Transition
import ChoiceMind.Contracts.Acceptance
import ChoiceMind.Foundation.Table
import ChoiceMind.TaskPersistence.Leases
import ChoiceMind.TaskPersistence.Pauses
import ChoiceMind.TaskPersistence.Agreement
import ChoiceMind.TaskPersistence.Reappearance
import ChoiceMind.TaskPersistence.Isolation
import ChoiceMind.TaskPersistence.Terminal
import ChoiceMind.TaskPersistence.Restriction
import ChoiceMind.TaskPersistence.Replays
import ChoiceMind.TaskPersistence.Observation
import ChoiceMind.Foundation.Feed
import ChoiceMind.TaskPersistence.Pagination
import ChoiceMind.Contracts.Canonical
import ChoiceMind.TaskPersistence.Uniqueness
import ChoiceMind.TaskPersistence.Submissions
import ChoiceMind.TaskPersistence.Publication
import ChoiceMind.TaskPersistence.Controllers
import ChoiceMind.TaskPersistence.Numbering
import ChoiceMind.Contracts.Eliminations
import ChoiceMind.Contracts.EvidenceOrder
import ChoiceMind.Orchestrator.Executor
import ChoiceMind.Orchestrator.Invocations
import ChoiceMind.Orchestrator.Results
import ChoiceMind.Orchestrator.RunLabels
import ChoiceMind.Orchestrator.Adapter
import ChoiceMind.Orchestrator.PauseFacts
import ChoiceMind.Orchestrator.PauseRounds
import ChoiceMind.Security.Vault
import ChoiceMind.SourceAccess.Access
import ChoiceMind.SourceAccess.SystemUse
import ChoiceMind.Security.Binding
import ChoiceMind.Foundation.Script
import ChoiceMind.IdentityAccess.Accounts
import ChoiceMind.IdentityAccess.Statements
import ChoiceMind.IdentityAccess.Commands
import ChoiceMind.IdentityAccess.LifecycleWorker
import ChoiceMind.IdentityAccess.Effects
import ChoiceMind.IdentityAccess.Execution
import ChoiceMind.IdentityAccess.System
import ChoiceMind.IdentityAccess.Changes
import ChoiceMind.IdentityAccess.Superadmins
import ChoiceMind.IdentityAccess.Privileges
import ChoiceMind.IdentityAccess.Deletions
import ChoiceMind.IdentityAccess.Atomicity
import ChoiceMind.SourceAccess.Consistency
import ChoiceMind.SourceResearch.Reads
import ChoiceMind.SourceResearch.Idempotency
import ChoiceMind.SourceResearch.Finished
import ChoiceMind.Foundation.Tally
import ChoiceMind.SourceResearch.Notifications
import ChoiceMind.TaskPersistence.EventPublisher
import ChoiceMind.Foundation.Relay
import ChoiceMind.Web.LiveStream
import ChoiceMind.SourceWorker.Runs
import ChoiceMind.EvidenceIngestion.Gate
import ChoiceMind.Security.AuditOrder
import ChoiceMind.SourceWorker.Steps
import ChoiceMind.SourceWorker.WakeUps
import ChoiceMind.SourceWorker.NewerCredentials
import ChoiceMind.SourceWorker.Progress
import ChoiceMind.SourceWorker.Settlement
import ChoiceMind.SourceWorker.Moves
import ChoiceMind.Contracts.CanonicalJson
import ChoiceMind.Contracts.VersionGate
import ChoiceMind.TaskPersistence.SavedFacts
import ChoiceMind.TaskPersistence.Contents
import ChoiceMind.Contracts.Eligibility
import ChoiceMind.Conversation.Requirement
import ChoiceMind.Conversation.Store
import ChoiceMind.Conversation.Calls
import ChoiceMind.Conversation.History
import ChoiceMind.Conversation.Transactions
import ChoiceMind.Conversation.Sessions
import ChoiceMind.Conversation.Reachable
import ChoiceMind.Conversation.Runs
import ChoiceMind.Conversation.Replays
import ChoiceMind.Conversation.Idempotency
import ChoiceMind.Contracts.Schema
import ChoiceMind.LocalServices.Contract
import ChoiceMind.LocalServices.Client
import ChoiceMind.LocalServices.Results
import ChoiceMind.LocalServices.Correspondence
import ChoiceMind.TaskPersistence.PauseCommits
import ChoiceMind.Web.EventStream
import ChoiceMind.EvidenceIngestion.Retrieval
import ChoiceMind.Security.VaultAtomicity
import ChoiceMind.Foundation.Throttle
import ChoiceMind.IdentityAccess.LoginThrottle
import ChoiceMind.IdentityAccess.Sessions
import ChoiceMind.Foundation.Base64
import ChoiceMind.Foundation.Slots
import ChoiceMind.EvidenceIngestion.ObjectStore
import ChoiceMind.EvidenceIngestion.Provenance
import ChoiceMind.Foundation.Refinement
import ChoiceMind.TaskPersistence.EventSubscriber
import ChoiceMind.Foundation.JsonMembers
import ChoiceMind.Orchestrator.ResumeChecks
import ChoiceMind.TaskPersistence.KeptFacts
