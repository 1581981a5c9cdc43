import AfterSales.Actions.Proposals
import AfterSales.Agents.OrderIds
import AfterSales.Agents.Patterns
import AfterSales.Agents.Redaction
import AfterSales.Application.Actions
import AfterSales.Application.AuditTrail
import AfterSales.Application.Callers
import AfterSales.Application.Charges
import AfterSales.Application.Checkpoints
import AfterSales.Application.Consent
import AfterSales.Application.ExactlyOnce
import AfterSales.Application.Exclusivity
import AfterSales.Application.FactParity
import AfterSales.Application.IntegrityStop
import AfterSales.Application.Invariant
import AfterSales.Application.Investigate
import AfterSales.Application.Journal
import AfterSales.Application.JournalRuns
import AfterSales.Application.JournalSteps
import AfterSales.Application.Lifecycles
import AfterSales.Application.Machine
import AfterSales.Application.Naming
import AfterSales.Application.OpenCase
import AfterSales.Application.Operations
import AfterSales.Application.PackageChoice
import AfterSales.Application.Passes
import AfterSales.Application.Preservation
import AfterSales.Application.QuestionLimit
import AfterSales.Application.ReplyReading
import AfterSales.Application.Results
import AfterSales.Application.RetryOffer
import AfterSales.Application.ReviewSteps
import AfterSales.Application.Reviews
import AfterSales.Application.RevisedEvidence
import AfterSales.Application.Routing
import AfterSales.Application.RunLifecycle
import AfterSales.Application.Session
import AfterSales.Application.SourceRevision
import AfterSales.Application.StepEffects
import AfterSales.Application.Steps
import AfterSales.Application.Stranding
import AfterSales.Application.Termination
import AfterSales.Application.Traversal
import AfterSales.Application.TurnBound
import AfterSales.Application.Watch
import AfterSales.CaseFacts.Facts
import AfterSales.CaseFacts.History
import AfterSales.CaseFacts.Projection
import AfterSales.CaseFacts.Protocol
import AfterSales.CaseFacts.Service
import AfterSales.Domain.Dispositions
import AfterSales.Domain.Ids
import AfterSales.Domain.State
import AfterSales.Domain.Text
import AfterSales.Domain.Transitions
import AfterSales.Evals.AcceptanceReport
import AfterSales.Evals.ArchitectureVerdict
import AfterSales.Evals.BudgetLedger
import AfterSales.Evals.Capture
import AfterSales.Evals.Contracts
import AfterSales.Evals.DevelopmentLedger
import AfterSales.Evals.DevelopmentRecords
import AfterSales.Evals.DevelopmentRun
import AfterSales.Evals.DevelopmentSafety
import AfterSales.Evals.Graders
import AfterSales.Evals.LedgerRuns
import AfterSales.Evals.LedgerSafety
import AfterSales.Evals.LockedReads
import AfterSales.Evals.ManifestGraders
import AfterSales.Evals.ReportOrder
import AfterSales.Evals.RetryGraders
import AfterSales.Evals.RunRecords
import AfterSales.Evals.TraceRecords
import AfterSales.Evals.TrajectoryGraders
import AfterSales.Evals.Verdicts
import AfterSales.Events.Delivery
import AfterSales.Events.Store
import AfterSales.Events.Windows
import AfterSales.Events.Wire
import AfterSales.Fixtures.BusinessDemo
import AfterSales.Fixtures.Catalog
import AfterSales.Fixtures.DemoRuntime
import AfterSales.Fixtures.DemoStore
import AfterSales.Frontend.EventStream
import AfterSales.Frontend.StreamDelivery
import AfterSales.Frontend.Timeline
import AfterSales.Frontend.TimelineOrder
import AfterSales.Investigation.Confluence
import AfterSales.Investigation.Coordinator
import AfterSales.Investigation.Entry
import AfterSales.Investigation.FaultFree
import AfterSales.Investigation.FaultFreeLoop
import AfterSales.Investigation.PlanningTurns
import AfterSales.Investigation.Progress
import AfterSales.Investigation.ProgressFacts
import AfterSales.Investigation.ProgressSoundness
import AfterSales.Investigation.Rehydration
import AfterSales.Investigation.Restart
import AfterSales.Investigation.Revision
import AfterSales.Investigation.RunRules
import AfterSales.Investigation.Selection
import AfterSales.Investigation.Selectors
import AfterSales.Investigation.Service
import AfterSales.Investigation.TerminalCodes
import AfterSales.Lib.Ahead
import AfterSales.Lib.Arrivals
import AfterSales.Lib.AsyncLock
import AfterSales.Lib.Atoms
import AfterSales.Lib.Cascade
import AfterSales.Lib.Chronicle
import AfterSales.Lib.Frames
import AfterSales.Lib.Grouping
import AfterSales.Lib.Growth
import AfterSales.Lib.Interleave
import AfterSales.Lib.Json
import AfterSales.Lib.JsonText
import AfterSales.Lib.Keyed
import AfterSales.Lib.Matching
import AfterSales.Lib.Pattern
import AfterSales.Lib.Turns
import AfterSales.Lib.Utf8
import AfterSales.Policy.Binding
import AfterSales.Policy.Corpus
import AfterSales.Policy.EvidenceGate
import AfterSales.Policy.GateReasons
import AfterSales.Policy.GateRefinement
import AfterSales.Policy.GateSoundness
import AfterSales.Policy.Proposals
import AfterSales.Policy.Resolver
import AfterSales.Policy.Search
import AfterSales.Policy.SearchContract
import AfterSales.Storage.Coordinator
import AfterSales.Storage.Repository
import AfterSales.Storage.Rows
import AfterSales.Tools.CaseMemory
import AfterSales.Tools.Contracts
import AfterSales.Tools.ReadBound
import AfterSales.Tools.Service
