import DaemonChoir.Foundation.Run
import DaemonChoir.Common.Events
import DaemonChoir.Common.Metrics
import DaemonChoir.Common.Time
set_option autoImplicit false

/-!
# Conductor: the SQLite store (`conductor/src/db.rs`)

The file outlives the connection: every method takes the mutex for its whole
duration, runs at most two statements, and gives the connection up at the first
statement that fails.  A statement that returns `Ok` has its normal effect and
one that returns `Err` has none; which of the two happens is an input.
-/

namespace DaemonChoir.Conductor

open DaemonChoir.Common DaemonChoir.Foundation

/-! ## The file and its statements -/

/-- `rusqlite::Error`. -/
structure SqliteError where
  message : String
  deriving DecidableEq, Repr, Inhabited

/-- A row of the table `events`. -/
structure EventRow where
  probe : String
  timestampNs : Int
  payload : String
  deriving DecidableEq, Repr, Inhabited

/-- A row of the table `snapshots`. -/
structure SnapshotRow (F : Type) where
  timestampUs : Int
  cpuLatency : F
  cpuRate : F
  memPressure : F
  netTx : F
  netRx : F
  procExec : F
  deriving DecidableEq, Repr, Inhabited

/-- The content of `state.db`.  A table that does not exist yet has no rows. -/
structure DbFile (F : Type) where
  events : List EventRow
  snapshots : List (SnapshotRow F)
  deriving DecidableEq, Repr, Inhabited

/-- Both tables are empty. -/
def DbFile.IsEmpty {F : Type} (file : DbFile F) : Prop :=
  file.events = [] ∧ file.snapshots = []

/-- The SQL statements of the daemon, with their parameters bound. -/
inductive Statement (F : Type) where
  | createEvents
  | createSnapshots
  | insertEvent (row : EventRow)
  | insertSnapshot (row : SnapshotRow F)
  | deleteEventsBefore (cutoffNs : Int)
  | deleteSnapshotsBefore (cutoffUs : Int)
  | deleteEvents
  | deleteSnapshots

/-- The normal effect of a statement. -/
def Statement.effect {F : Type} (file : DbFile F) : Statement F → DbFile F
  | .createEvents => file
  | .createSnapshots => file
  | .insertEvent row => { file with events := file.events ++ [row] }
  | .insertSnapshot row => { file with snapshots := file.snapshots ++ [row] }
  | .deleteEventsBefore cutoff =>
      { file with events := file.events.filter fun row => !decide (row.timestampNs < cutoff) }
  | .deleteSnapshotsBefore cutoff =>
      { file with
        snapshots := file.snapshots.filter fun row => !decide (row.timestampUs < cutoff) }
  | .deleteEvents => { file with events := [] }
  | .deleteSnapshots => { file with snapshots := [] }

/-- What SQLite answers to a statement: `none` is success. -/
abbrev Answer : Type := Option SqliteError

/-- Binding a `u64` parameter: SQLite integers are signed, so the conversion fails
from `2 ^ 63` on, and with it the statement. -/
def bindU64 (value : UInt64) : Except SqliteError Int :=
  if value.toNat < 2 ^ 63 then .ok value.toNat
  else .error ⟨"out of range integral type conversion attempted"⟩

/-- `conn.execute`. -/
def execute {F : Type} (file : DbFile F) (statement : Except SqliteError (Statement F))
    (answer : Answer) : Except SqliteError (DbFile F) :=
  match statement with
  | .error error => .error error
  | .ok bound =>
      match answer with
      | none => .ok (bound.effect file)
      | some error => .error error

/-! ## The database -/

/-- `rusqlite::Connection`: an open handle on the file. -/
inductive Connection where
  | sqlite
  deriving DecidableEq, Repr, Inhabited

/-- `Database` together with the file it was opened on. -/
structure Database (F : Type) where
  conn : Option Connection
  file : DbFile F
  deriving DecidableEq, Repr, Inhabited

namespace Database

variable {F : Type}

/-- Keep what a statement has done, or give the connection up. -/
def afterExecute (db : Database F) :
    Except SqliteError (DbFile F) → Database F
  | .ok file => { db with file := file }
  | .error _ => { db with conn := none }

/-- `Database::init_migrations`: the loop over the migration queries. -/
def initMigrations (db : Database F) : List (Statement F × Answer) → Database F
  | [] => db
  | (query, answer) :: rest =>
      match db.conn with
      | none => db
      | some _ => initMigrations (db.afterExecute (execute db.file (.ok query) answer)) rest

/-- `Database::new`: the directory, the connection and the two migrations may each
fail; the daemon then runs without a connection. -/
def new (createDirAll : Except String Unit) (opened : Except SqliteError Connection)
    (events snapshots : Answer) (file : DbFile F) : Database F :=
  match createDirAll with
  | .error _ => { conn := none, file := file }
  | .ok () =>
      match opened with
      | .error _ => { conn := none, file := file }
      | .ok conn =>
          initMigrations { conn := some conn, file := file }
            [(.createEvents, events), (.createSnapshots, snapshots)]

/-- The bound statement of `insert_event`. -/
def insertEventStatement (event : RawEvent) : Except SqliteError (Statement F) := do
  let timestamp ← bindU64 event.timestampNs
  return .insertEvent
    { probe := event.probe.toString
      timestampNs := timestamp
      payload := event.payload.toJson }

/-- `Database::insert_event`. -/
def insertEvent (db : Database F) (event : RawEvent) (answer : Answer) : Database F :=
  match db.conn with
  | none => db
  | some _ => db.afterExecute (execute db.file (insertEventStatement event) answer)

/-- The bound statement of `insert_snapshot`. -/
def insertSnapshotStatement (snapshot : StateSnapshot F) :
    Except SqliteError (Statement F) := do
  let timestamp ← bindU64 snapshot.timestampUs
  return .insertSnapshot
    { timestampUs := timestamp
      cpuLatency := snapshot.metrics.cpuSchedLatencyP95
      cpuRate := snapshot.metrics.cpuSchedContextRate
      memPressure := snapshot.metrics.memReclaimPressure
      netTx := snapshot.metrics.netTxBytesNorm
      netRx := snapshot.metrics.netRxBytesNorm
      procExec := snapshot.metrics.procExecRate }

/-- `Database::insert_snapshot`. -/
def insertSnapshot (db : Database F) (snapshot : StateSnapshot F) (answer : Answer) :
    Database F :=
  match db.conn with
  | none => db
  | some _ => db.afterExecute (execute db.file (insertSnapshotStatement snapshot) answer)

/-- `u64::saturating_sub`. -/
def saturatingSub (a b : UInt64) : UInt64 := if b ≤ a then a - b else 0

/-- `u64::saturating_mul`. -/
def saturatingMul (a b : UInt64) : UInt64 :=
  if a.toNat * b.toNat < 2 ^ 64 then a * b else UInt64.ofNat (2 ^ 64 - 1)

/-- `cutoff_us` of `purge_older_than`. -/
def cutoffUs (retention : Duration) (now : SystemTime) : UInt64 :=
  saturatingSub now.nowUs (UInt64.ofNat retention.asMicros)

/-- `cutoff_ns` of `purge_older_than`. -/
def cutoffNs (retention : Duration) (now : SystemTime) : UInt64 :=
  saturatingMul (cutoffUs retention now) 1000

/-- The two bound statements of `purge_older_than`. -/
def purgeEventsStatement (retention : Duration) (now : SystemTime) :
    Except SqliteError (Statement F) := do
  let cutoff ← bindU64 (cutoffNs retention now)
  return .deleteEventsBefore cutoff

@[inherit_doc purgeEventsStatement]
def purgeSnapshotsStatement (retention : Duration) (now : SystemTime) :
    Except SqliteError (Statement F) := do
  let cutoff ← bindU64 (cutoffUs retention now)
  return .deleteSnapshotsBefore cutoff

/-- Two statements of which the second is issued only after the first succeeded;
any failure gives the connection up. -/
def executeBoth (db : Database F) (first second : Except SqliteError (Statement F))
    (firstAnswer secondAnswer : Answer) : Except SqliteError Unit × Database F :=
  match execute db.file first firstAnswer with
  | .error error => (.error error, { db with conn := none })
  | .ok file =>
      match execute file second secondAnswer with
      | .error error => (.error error, { conn := none, file := file })
      | .ok file => (.ok (), { db with file := file })

/-- `Database::purge_older_than`. -/
def purgeOlderThan (db : Database F) (retention : Duration) (now : SystemTime)
    (events snapshots : Answer) : Database F :=
  match db.conn with
  | none => db
  | some _ =>
      (db.executeBoth (purgeEventsStatement retention now)
        (purgeSnapshotsStatement retention now) events snapshots).2

/-- `Database::wipe`. -/
def wipe (db : Database F) (events snapshots : Answer) :
    Except SqliteError Unit × Database F :=
  match db.conn with
  | none => (.ok (), db)
  | some _ => db.executeBoth (.ok .deleteEvents) (.ok .deleteSnapshots) events snapshots

end Database

end DaemonChoir.Conductor
