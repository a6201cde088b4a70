import EventPipeline.Library.Collect
import EventPipeline.Library.Growth
import EventPipeline.Library.Program
import EventPipeline.Library.Reader
import EventPipeline.Library.Table
import EventPipeline.Library.Simulation
import EventPipeline.Json
import EventPipeline.Sql
import EventPipeline.Schema
import EventPipeline.Statement
import EventPipeline.DbOps
import EventPipeline.Consumer
import EventPipeline.Webhook
import EventPipeline.Effects
import EventPipeline.Fleet
import EventPipeline.Ledger
import EventPipeline.Consistency
import EventPipeline.AuditTrail
import EventPipeline.Terminal
import EventPipeline.Outcomes
import EventPipeline.Approvals
import EventPipeline.Shop
import EventPipeline.View
import EventPipeline.Growth
import EventPipeline.Refusals
import EventPipeline.Redelivery
import EventPipeline.Loop
import EventPipeline.Ordering
import EventPipeline.Items
import EventPipeline.Payments
import EventPipeline.Versions
import EventPipeline.Snapshots
import EventPipeline.Flips
import EventPipeline.Worker
import EventPipeline.Library.Delimited
import EventPipeline.Generator
import EventPipeline.BulkLoad
import EventPipeline.Timeline
import EventPipeline.Locality
import EventPipeline.Fates
import EventPipeline.Naming
import EventPipeline.Commute
import EventPipeline.Streams
import EventPipeline.Simulator
import EventPipeline.Accepted
import EventPipeline.Workload
import EventPipeline.Criterion
import EventPipeline.Chunks
import EventPipeline.DataFile
import EventPipeline.Replays
import EventPipeline.Spellings
import EventPipeline.Library.Retention
import EventPipeline.PipelineLog
import EventPipeline.Traces
import EventPipeline.Idempotence
import EventPipeline.Defaults
import EventPipeline.Library.Session
import EventPipeline.Interleaving
import EventPipeline.Turns
import EventPipeline.Acceptance
import EventPipeline.FirstOrders
import EventPipeline.Retention
import EventPipeline.Library.Generator
import EventPipeline.Termination
import EventPipeline.Replicas
import EventPipeline.Erp
import EventPipeline.Pipeline
import EventPipeline.Library.Pool
import EventPipeline.Burst
import EventPipeline.Library.Chain
import EventPipeline.LoadRuns
import EventPipeline.Library.Backlog
import EventPipeline.LogGrowth
import EventPipeline.Changes
import EventPipeline.Recovery
import EventPipeline.Library.CatchUp
import EventPipeline.Accounting
import EventPipeline.Relay
