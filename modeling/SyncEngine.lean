import SyncEngine.Data.Run
import SyncEngine.Data.Durable
import SyncEngine.Data.Fallible
import SyncEngine.Data.HashMap
import SyncEngine.Data.BinaryHeap
import SyncEngine.Data.ByteLayout
import SyncEngine.Data.HashTree
import SyncEngine.Data.SortedPairs
import SyncEngine.Data.BTreeMap
import SyncEngine.Data.Ranking
import SyncEngine.Data.Contest
import SyncEngine.Data.Behaviour
import SyncEngine.Data.Int64
import SyncEngine.Data.Table
import SyncEngine.Data.Expiry
import SyncEngine.Data.HeapTies
import SyncEngine.Data.HeapDrain
import SyncEngine.Data.Machine
import SyncEngine.Data.Meter
import SyncEngine.Data.Saturation
import SyncEngine.Data.MillerRabin
import SyncEngine.Data.Json
import SyncEngine.Data.JsonToken
import SyncEngine.Data.JsonReader
import SyncEngine.Data.JsonWriter
import SyncEngine.Data.Outbox
import SyncEngine.Data.Text
import SyncEngine.Errors
import SyncEngine.Settlement.Tracker
import SyncEngine.Settlement.Spec
import SyncEngine.Settlement.Invariants
import SyncEngine.Queue.Sequence
import SyncEngine.Queue.Reservations
import SyncEngine.Queue.Priority
import SyncEngine.Queue.Dispatch
import SyncEngine.Queue.EmergencyGuard
import SyncEngine.Queue.Clocked
import SyncEngine.Queue.Fifo
import SyncEngine.Queue.VdfOrdering
import SyncEngine.Queue.VdfSort
import SyncEngine.Queue.VdfFallback
import SyncEngine.Queue.VdfBinding
import SyncEngine.Queue.VdfPrimality
import SyncEngine.Envelope.Builder
import SyncEngine.Envelope.Multisig
import SyncEngine.Envelope.Threshold
import SyncEngine.Envelope.Payload
import SyncEngine.Envelope.Atomic
import SyncEngine.Envelope.Resequence
import SyncEngine.Envelope.Signing
import SyncEngine.Encryption
import SyncEngine.Storage.Db
import SyncEngine.Storage.Batch
import SyncEngine.Storage.Sweep
import SyncEngine.Storage.Staleness
import SyncEngine.Storage.History
import SyncEngine.Queue.Spendable
import SyncEngine.Engine
import SyncEngine.Engine.Open
import SyncEngine.Engine.Run
import SyncEngine.Engine.Replay
import SyncEngine.Engine.Sound
import SyncEngine.Engine.Reservations
import SyncEngine.Engine.Dispatch
import SyncEngine.Engine.Agreement
import SyncEngine.Engine.History
import SyncEngine.Engine.Failure
import SyncEngine.Engine.Order
import SyncEngine.Engine.Memory
import SyncEngine.Engine.Restart
import SyncEngine.Engine.Retry
import SyncEngine.Settlement.ConsistencyProof
import SyncEngine.Settlement.InclusionProof
import SyncEngine.Settlement.RootBinding
import SyncEngine.Settlement.ProofSoundness
import SyncEngine.Settlement.Integrity
import SyncEngine.Conflict.Detector
import SyncEngine.Conflict.Resolver
import SyncEngine.Conflict.Evidence
import SyncEngine.Conflict.Specification
import SyncEngine.Conflict.Quorum
import SyncEngine.Storage.Escalation
import SyncEngine.Storage.Sessions
import SyncEngine.Storage.Store
import SyncEngine.Storage.Snapshot
import SyncEngine.Storage.Import
import SyncEngine.Storage.Migration
import SyncEngine.Storage.Reads
import SyncEngine.Conflict.Escalation
import SyncEngine.Cli
import SyncEngine.Cli.Render
import SyncEngine.Cli.Dispatch
import SyncEngine.Metrics
import SyncEngine.Metrics.Budget
import SyncEngine.Metrics.Conservation
import SyncEngine.Metrics.Spacing
import SyncEngine.Metrics.Exposition
import SyncEngine.Ffi
import SyncEngine.Ffi.Session
import SyncEngine.Sim.World
import SyncEngine.Sim.Decisions
import SyncEngine.Sim.Agents
import SyncEngine.Sim.Harness
