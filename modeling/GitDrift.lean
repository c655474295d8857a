import GitDrift.Cluster.Script
import GitDrift.Controller.Loop
import GitDrift.Drift.ClusterStore
import GitDrift.Drift.Session
import GitDrift.Git.RemoteCommand
import GitDrift.Main
import GitDrift.Metrics.Samples
import GitDrift.Operator.Parts
import GitDrift.Operator.Startup
import GitDrift.Probe.Readiness
import GitDrift.Proofs.CheckStart
import GitDrift.Proofs.Membership
import GitDrift.Proofs.ScheduleHistory
import GitDrift.Proofs.SessionRun
import GitDrift.Proofs.Starvation
import GitDrift.Proofs.SessionHistory
import GitDrift.Proofs.Shutdown
import GitDrift.Proofs.SyncCondition
import GitDrift.Proofs.Listing
import GitDrift.Proofs.ListingRoundTrip
import GitDrift.Proofs.Settled
import GitDrift.Proofs.Gauge
import GitDrift.Proofs.Course
import GitDrift.Proofs.Revision
import GitDrift.Proofs.Ledger
import GitDrift.Proofs.Backoff
import GitDrift.Proofs.StatusWriters
import GitDrift.Proofs.Restart
import GitDrift.Proofs.Lossless
import GitDrift.Proofs.SingleReport
import GitDrift.Proofs.StoreAgreement
import GitDrift.Proofs.Reporters
import GitDrift.Proofs.Comparison
import GitDrift.Proofs.Rescheduling
import GitDrift.Proofs.Isolation
import GitDrift.Proofs.ListingGrammar
import GitDrift.Proofs.ResolvedCommit
import GitDrift.Proofs.RecordedStep
import GitDrift.Proofs.SymbolicChain
import GitDrift.Proofs.Delays
import GitDrift.Proofs.Recreation
import GitDrift.Proofs.RepositoryName
import GitDrift.Proofs.Throttling
import GitDrift.Proofs.KnownObjects
import GitDrift.Proofs.ClockRange
import GitDrift.Proofs.Presentation
import GitDrift.Proofs.ClusterChecks
