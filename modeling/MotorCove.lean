import MotorCove.Fallible
import MotorCove.Effects
import MotorCove.Audits
import MotorCove.Crashes
import MotorCove.Traces
import MotorCove.Histories
import MotorCove.Text
import MotorCove.Patterns
import MotorCove.Table
import MotorCove.Chain.Solidity
import MotorCove.Chain.Escrow
import MotorCove.Chain.VehicleNFT
import MotorCove.Chain.Transactions
import MotorCove.Chain.Solvency
import MotorCove.Chain.Custody
import MotorCove.Chain.Recording
import MotorCove.Chain.Movements
import MotorCove.Chain.Fairness
import MotorCove.Chain.LiabilityCheck
import MotorCove.Chain.Liveness
import MotorCove.Seed.ChainSeedJournal
import MotorCove.Seed.SubmitOnce
import MotorCove.Seed.SeedRuns
import MotorCove.Maintenance.Marker
import MotorCove.Maintenance.Reset
import MotorCove.Maintenance.ResetRuns
import MotorCove.Maintenance.Restore
import MotorCove.Maintenance.RestoreRuns
import MotorCove.Indexer.Schema
import MotorCove.Indexer.Events
import MotorCove.Indexer.Projectors
import MotorCove.Indexer.Projections
import MotorCove.Indexer.Decoding
import MotorCove.Indexer.Refinement
import MotorCove.Indexer.Agreement
import MotorCove.Indexer.Store
import MotorCove.Indexer.Coverage
import MotorCove.Indexer.Commits
import MotorCove.Indexer.Rewinds
import MotorCove.Indexer.Digest
import MotorCove.Indexer.Rebuild
import MotorCove.Indexer.Repair
import MotorCove.Indexer.Ingest
import MotorCove.Indexer.IngestRun
import MotorCove.Indexer.Publication
import MotorCove.Indexer.Batches
import MotorCove.Indexer.CanonicalCoverage
import MotorCove.Maintenance.RestoreRecovery
import MotorCove.Indexer.IngestKept
import MotorCove.Indexer.Barrier
import MotorCove.Maintenance.ProjectionOperation
import MotorCove.Maintenance.ProjectionRuns
import MotorCove.Maintenance.ProjectionBarrier
import MotorCove.Maintenance.ProjectionAdmission
import MotorCove.Indexer.FixedChain
import MotorCove.Maintenance.ProjectionResumption
import MotorCove.Indexer.Replay
import MotorCove.Indexer.RebuildSource
import MotorCove.Indexer.LogScope
import MotorCove.Indexer.SalesReader
import MotorCove.Indexer.SourceAudit
import MotorCove.Indexer.Reconcile
import MotorCove.Indexer.ReconcileVerdict
import MotorCove.Indexer.RangeLoop
import MotorCove.Indexer.Uint256
import MotorCove.Indexer.Deadlines
import MotorCove.Async
import MotorCove.Promises
import MotorCove.Web.Model
import MotorCove.Web.Amount
import MotorCove.Web.FallbackQueues
import MotorCove.Web.FallbackRuns
import MotorCove.Json
import MotorCove.Maintenance.Migrations
import MotorCove.Maintenance.Backup
import MotorCove.Maintenance.BackupVerification
import MotorCove.Maintenance.SourceArchive
import MotorCove.Maintenance.SourceDestruction
import MotorCove.Maintenance.Migrate
import MotorCove.Maintenance.MigrateRuns
import MotorCove.Maintenance.RestoreFailures
import MotorCove.Chain.Lifecycle
import MotorCove.Indexer.FundingObservation
import MotorCove.Indexer.Executions
import MotorCove.Indexer.Progress
import MotorCove.Indexer.CatchUp
import MotorCove.Indexer.IndexerLoop
import MotorCove.Maintenance.ProjectionSuccess
import MotorCove.Maintenance.ProjectionHealth
import MotorCove.Indexer.FundingObserved
import MotorCove.Triples
import MotorCove.Web.LocalStorageJournal
import MotorCove.Web.Recovery
import MotorCove.Web.Submission
import MotorCove.Web.JournalRows
import MotorCove.Web.Browser
import MotorCove.Web.JournalRules
import MotorCove.Web.JournalTriples
import MotorCove.Web.RecoveryRuns
import MotorCove.Web.SubmissionRuns
import MotorCove.Web.BrowserRuns
