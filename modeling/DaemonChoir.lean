import DaemonChoir.Foundation.Run
import DaemonChoir.Foundation.Log
import DaemonChoir.Foundation.Sync
import DaemonChoir.Foundation.Interleaving
import DaemonChoir.Foundation.Counters
import DaemonChoir.Foundation.Series
import DaemonChoir.Foundation.Intervals
import DaemonChoir.Foundation.OrderStatistic
import DaemonChoir.Foundation.Ramp
import DaemonChoir.Foundation.BoundedMap
import DaemonChoir.Foundation.Accounting
import DaemonChoir.Foundation.Pipeline
import DaemonChoir.Foundation.Table
import DaemonChoir.Foundation.Fnv
import DaemonChoir.Foundation.Rescale
import DaemonChoir.Foundation.Exposition
import DaemonChoir.Foundation.Rendering
import DaemonChoir.Foundation.Bytes
import DaemonChoir.Foundation.Json
import DaemonChoir.Foundation.JsonText
import DaemonChoir.Foundation.Records
import DaemonChoir.Foundation.Scripts
import DaemonChoir.Common.Events
import DaemonChoir.Common.BpfEvents
import DaemonChoir.Common.Float
import DaemonChoir.Common.Ieee
import DaemonChoir.Common.Metrics
import DaemonChoir.Common.Time
import DaemonChoir.Common.Config
import DaemonChoir.Common.Serde
import DaemonChoir.Common.Schema
import DaemonChoir.Kernel.CpuSched
import DaemonChoir.Kernel.Wakeups
import DaemonChoir.Kernel.ProcLifecycle
import DaemonChoir.Kernel.Programs
import DaemonChoir.Kernel.Hashes
import DaemonChoir.Kernel.Separation
import DaemonChoir.Conductor.Db
import DaemonChoir.Conductor.Wipe
import DaemonChoir.Conductor.ControlApi
import DaemonChoir.Conductor.ConfigUpdates
import DaemonChoir.Conductor.PoisonedConfig
import DaemonChoir.Conductor.Aggregator
import DaemonChoir.Conductor.Reconfiguration
import DaemonChoir.Conductor.WindowReload
import DaemonChoir.Conductor.Windows
import DaemonChoir.Conductor.Baseline
import DaemonChoir.Conductor.WindowOrder
import DaemonChoir.Conductor.RawValues
import DaemonChoir.Conductor.Batch
import DaemonChoir.Conductor.Mapping
import DaemonChoir.Conductor.MappingPanic
import DaemonChoir.Conductor.Transforms
import DaemonChoir.Conductor.MoreActivity
import DaemonChoir.Conductor.ProbeManager
import DaemonChoir.Conductor.RingDrain
import DaemonChoir.Conductor.RingPath
import DaemonChoir.Conductor.ProbeLoading
import DaemonChoir.Conductor.Replies
import DaemonChoir.Conductor.Ringbuf
import DaemonChoir.Conductor.Ingest
import DaemonChoir.Conductor.EventLoss
import DaemonChoir.Conductor.EventOrder
import DaemonChoir.Conductor.LossCounters
import DaemonChoir.Conductor.Staleness
import DaemonChoir.Conductor.Osc
import DaemonChoir.Conductor.Delivery
import DaemonChoir.Conductor.Dispatch
import DaemonChoir.Conductor.OscOutput
import DaemonChoir.Conductor.FanOut
import DaemonChoir.Conductor.Destinations
import DaemonChoir.Conductor.OutputRange
import DaemonChoir.Conductor.Scrape
import DaemonChoir.Conductor.ScrapeCounts
import DaemonChoir.Conductor.ScrapeConsistency
import DaemonChoir.Conductor.MetricsPage
import DaemonChoir.Conductor.DispatchLatency
import DaemonChoir.Conductor.Timetag
import DaemonChoir.Conductor.TimetagOrder
import DaemonChoir.Conductor.Isolation
import DaemonChoir.Conductor.Storage
import DaemonChoir.Conductor.Provenance
import DaemonChoir.Conductor.Tasks
import DaemonChoir.Conductor.Wiring
import DaemonChoir.Conductor.TaskViews
import DaemonChoir.Conductor.Cascade
import DaemonChoir.Conductor.ProbeClocks
import DaemonChoir.Conductor.Quiescence
import DaemonChoir.Conductor.Confinement
import DaemonChoir.Conductor.Silence
import DaemonChoir.Conductor.Simulator
import DaemonChoir.Conductor.Rhythm
import DaemonChoir.Conductor.Retention
import DaemonChoir.Conductor.Erasure
import DaemonChoir.Conductor.Shutdown
import DaemonChoir.Conductor.StoredEvents
import DaemonChoir.Conductor.History
import DaemonChoir.Conductor.Startup
import DaemonChoir.Conductor.OutOfTheBox
import DaemonChoir.Conductor.Server
import DaemonChoir.Conductor.Authority
import DaemonChoir.Conductor.ResponseTimes
import DaemonChoir.Conductor.GenuineReplies
import DaemonChoir.Tui.Dashboard
import DaemonChoir.Tui.Client
import DaemonChoir.Tui.Session
