import DaemonChoir.Conductor.Db
set_option autoImplicit false

/-!
# Conductor: what a reported wipe leaves on disk

A run of the database is a sequence of its four public calls.  `wipe` answers
`Ok` also when there is no connection, and a connection that is given up leaves
its rows in the file; the two facts meet in `wipe_truthful_iff`.

The calls come in any order, and which of their statements fail is free, so a run is any
life of a database file under the daemon.  Whether the file is open after a call is a
question about the statements before it (`conn_isSome_iff`): an open connection stays open
until a statement fails, and nothing opens it again.  On an open connection a wipe that
answers `Ok` has emptied both tables; without one it has done nothing, so its answer is
true only if there was nothing to delete.
-/

namespace DaemonChoir.Conductor

open DaemonChoir.Common DaemonChoir.Foundation

/-- The calls on a `Database`, with the answers of the statements they issue. -/
inductive Call (F : Type) where
  | insertEvent (event : RawEvent) (answer : Answer)
  | insertSnapshot (snapshot : StateSnapshot F) (answer : Answer)
  | purgeOlderThan (retention : Duration) (now : SystemTime) (events snapshots : Answer)
  | wipe (events snapshots : Answer)

namespace Database

variable {F : Type}

/-- The database after a call. -/
def after (db : Database F) : Call F → Database F
  | .insertEvent event answer => db.insertEvent event answer
  | .insertSnapshot snapshot answer => db.insertSnapshot snapshot answer
  | .purgeOlderThan retention now events snapshots =>
      db.purgeOlderThan retention now events snapshots
  | .wipe events snapshots => (db.wipe events snapshots).2

/-- Every call is one atomic step, because it holds the mutex throughout. -/
def step (db : Database F) (call : Call F) : Option (Database F) :=
  some (db.after call)

end Database

/-! ## Which calls lose the connection -/

/-- A statement fails when a parameter cannot be bound or SQLite says so. -/
def statementFails {F : Type} (statement : Except SqliteError (Statement F))
    (answer : Answer) : Bool :=
  match statement, answer with
  | .ok _, none => false
  | _, _ => true

/-- A call during which, on an open connection, a statement fails. -/
def Call.fails {F : Type} : Call F → Bool
  | .insertEvent event answer =>
      statementFails (F := F) (Database.insertEventStatement event) answer
  | .insertSnapshot snapshot answer =>
      statementFails (Database.insertSnapshotStatement snapshot) answer
  | .purgeOlderThan retention now events snapshots =>
      statementFails (F := F) (Database.purgeEventsStatement retention now) events ||
        statementFails (F := F) (Database.purgeSnapshotsStatement retention now) snapshots
  | .wipe events snapshots => events.isSome || snapshots.isSome

section Statements

variable {F : Type}

theorem execute_of_fails (file : DbFile F) {statement : Except SqliteError (Statement F)}
    {answer : Answer} (h : statementFails statement answer = true) :
    ∃ error, execute file statement answer = .error error := by
  cases statement with
  | error error => exact ⟨error, rfl⟩
  | ok bound =>
      cases answer with
      | none => simp [statementFails] at h
      | some error => exact ⟨error, rfl⟩

theorem execute_of_not_fails (file : DbFile F)
    {statement : Except SqliteError (Statement F)} {answer : Answer}
    (h : statementFails statement answer = false) :
    ∃ bound, statement = .ok bound ∧
      execute file statement answer = .ok (bound.effect file) := by
  cases statement with
  | error error => simp [statementFails] at h
  | ok bound =>
      cases answer with
      | none => exact ⟨bound, rfl, rfl⟩
      | some error => simp [statementFails] at h

end Statements

namespace Database

variable {F : Type}

theorem afterExecute_conn (db : Database F) (statement : Except SqliteError (Statement F))
    (answer : Answer) :
    (db.afterExecute (execute db.file statement answer)).conn =
      if statementFails statement answer then none else db.conn := by
  cases hfails : statementFails statement answer with
  | true =>
      obtain ⟨error, herror⟩ := execute_of_fails db.file hfails
      simp [herror, afterExecute]
  | false =>
      obtain ⟨bound, _, hok⟩ := execute_of_not_fails db.file hfails
      simp [hok, afterExecute]

theorem executeBoth_conn (db : Database F)
    (first second : Except SqliteError (Statement F)) (firstAnswer secondAnswer : Answer) :
    (db.executeBoth first second firstAnswer secondAnswer).2.conn =
      if statementFails first firstAnswer || statementFails second secondAnswer then none
      else db.conn := by
  unfold executeBoth
  cases hfirst : statementFails first firstAnswer with
  | true =>
      obtain ⟨error, herror⟩ := execute_of_fails db.file hfirst
      simp [herror]
  | false =>
      obtain ⟨bound, _, hok⟩ := execute_of_not_fails db.file hfirst
      rw [hok]
      cases hsecond : statementFails second secondAnswer with
      | true =>
          obtain ⟨error, herror⟩ :=
            execute_of_fails (bound.effect db.file) hsecond
          simp [herror]
      | false =>
          obtain ⟨next, _, hok⟩ :=
            execute_of_not_fails (bound.effect db.file) hsecond
          simp [hok]

/-- Every call treats the connection alike: a failed statement loses it, nothing
else touches it, and nothing opens it again. -/
theorem after_conn (db : Database F) (call : Call F) :
    (db.after call).conn = if call.fails then none else db.conn := by
  cases hconn : db.conn with
  | none =>
      cases call <;>
        simp [after, insertEvent, insertSnapshot, purgeOlderThan, wipe, hconn]
  | some conn =>
      rw [← hconn]
      cases call with
      | insertEvent event answer =>
          simp only [after, insertEvent, hconn, Call.fails]
          rw [afterExecute_conn, hconn]
      | insertSnapshot snapshot answer =>
          simp only [after, insertSnapshot, hconn, Call.fails]
          rw [afterExecute_conn, hconn]
      | purgeOlderThan retention now events snapshots =>
          simp only [after, purgeOlderThan, hconn, Call.fails]
          rw [executeBoth_conn, hconn]
      | wipe events snapshots =>
          simp only [after, wipe, hconn, Call.fails]
          rw [executeBoth_conn, hconn]
          cases events <;> cases snapshots <;> rfl

/-- The connection is open at the end of a run exactly when it was open at the
start and no call of the run met a failing statement. -/
theorem conn_isSome_iff {start final : Database F} {trace : List (Database F × Call F)}
    (run : Run step start trace final) :
    final.conn.isSome = true ↔
      start.conn.isSome = true ∧ ∀ visit ∈ trace, visit.2.fails = false := by
  induction run with
  | nil => simp
  | @snoc trace t next call _ taken ih =>
      obtain rfl : t.after call = next := Option.some.inj taken
      rw [after_conn]
      cases hfails : call.fails with
      | true =>
          simp only [if_true, Option.isSome_none, Bool.false_eq_true, false_iff, not_and]
          intro _ hall
          have hlast := hall (t, call) (by simp)
          simp [hfails] at hlast
      | false =>
          simp only [Bool.false_eq_true, if_false, ih, List.mem_append, List.mem_singleton]
          constructor
          · intro hopened
            obtain ⟨hstart, hall⟩ := hopened
            refine ⟨hstart, fun visit hmem => ?_⟩
            rcases hmem with hmem | rfl
            · exact hall visit hmem
            · exact hfails
          · intro hopened
            obtain ⟨hstart, hall⟩ := hopened
            exact ⟨hstart, fun visit hmem => hall visit (.inl hmem)⟩

/-- The file could be opened and migrated at startup. -/
def Opened (createDirAll : Except String Unit) (opened : Except SqliteError Connection)
    (events snapshots : Answer) : Prop :=
  createDirAll = .ok () ∧ opened = .ok .sqlite ∧ events = none ∧ snapshots = none

theorem new_conn_isSome_iff (createDirAll : Except String Unit)
    (opened : Except SqliteError Connection) (events snapshots : Answer)
    (file : DbFile F) :
    (new createDirAll opened events snapshots file).conn.isSome = true ↔
      Opened createDirAll opened events snapshots := by
  cases createDirAll with
  | error _ => simp [new, Opened]
  | ok _ =>
      cases opened with
      | error _ => simp [new, Opened]
      | ok conn =>
          cases conn
          cases events <;> cases snapshots <;>
            simp [new, Opened, initMigrations, execute, afterExecute]

/-! ## Truthful wipes -/

theorem wipe_empties {db : Database F} {events snapshots : Answer}
    (hconn : db.conn.isSome = true) (hok : (db.wipe events snapshots).1 = .ok ()) :
    (db.wipe events snapshots).2.file.IsEmpty := by
  obtain ⟨conn, hconn⟩ := Option.isSome_iff_exists.mp hconn
  unfold wipe at hok ⊢
  rw [hconn] at hok ⊢
  cases events with
  | some error => simp [executeBoth, execute] at hok
  | none =>
      cases snapshots with
      | some error => simp [executeBoth, execute] at hok
      | none => exact ⟨rfl, rfl⟩

theorem wipe_of_conn_none {db : Database F} (hconn : db.conn = none)
    (events snapshots : Answer) : db.wipe events snapshots = (.ok (), db) := by
  simp [wipe, hconn]

/-- A visit at which a reported success of `wipe` is true: both tables of the file
are empty at that moment. -/
def TruthfulWipe (visit : Database F × Call F) : Prop :=
  ∀ events snapshots, visit.2 = .wipe events snapshots →
    (visit.1.wipe events snapshots).1 = .ok () →
      (visit.1.wipe events snapshots).2.file.IsEmpty

theorem truthfulWipe_iff (db : Database F) (events snapshots : Answer) :
    TruthfulWipe (db, .wipe events snapshots) ↔
      db.conn.isSome = true ∨ db.file.IsEmpty := by
  constructor
  · intro truthful
    cases hconn : db.conn with
    | some conn => exact .inl rfl
    | none =>
        have hwipe := wipe_of_conn_none hconn events snapshots
        have hempty := truthful events snapshots rfl (by rw [hwipe])
        rw [hwipe] at hempty
        exact .inr hempty
  · intro hcase events' snapshots' hcall hok
    cases hconn : db.conn with
    | some conn => exact wipe_empties (by simp [hconn]) hok
    | none =>
        rw [wipe_of_conn_none hconn]
        exact hcase.resolve_left (by simp [hconn])

/-- A run reports its wipes truthfully exactly when every wipe comes while the
database is as it was opened at startup and no statement has failed since, or finds
both tables already empty. -/
theorem wipe_truthful_iff (createDirAll : Except String Unit)
    (opened : Except SqliteError Connection) (events snapshots : Answer)
    (file : DbFile F) {trace : List (Database F × Call F)} {final : Database F}
    (run : Run step (new createDirAll opened events snapshots file) trace final) :
    (∀ visit ∈ trace, TruthfulWipe visit) ↔
      ∀ front back db first second,
        trace = front ++ (db, .wipe first second) :: back →
          (Opened createDirAll opened events snapshots ∧
            ∀ visit ∈ front, visit.2.fails = false) ∨ db.file.IsEmpty := by
  constructor
  · intro truthful front back db first second hsplit
    subst hsplit
    obtain ⟨hfront, _⟩ := run.at_visit
    have hwipe := truthful (db, .wipe first second) (by simp)
    rw [truthfulWipe_iff, conn_isSome_iff hfront, new_conn_isSome_iff] at hwipe
    exact hwipe
  · intro condition visit hmem
    obtain ⟨front, back, _, htrace, hfront, _, _⟩ := run.of_mem hmem
    obtain ⟨db, call⟩ := visit
    intro first second hcall hok
    simp only at hcall
    subst hcall
    have hcase := condition front back db first second htrace
    rw [← new_conn_isSome_iff createDirAll opened events snapshots file,
      ← conn_isSome_iff hfront,
      ← truthfulWipe_iff db first second] at hcase
    exact hcase first second rfl hok

/-! ### A wipe after a failed write -/

/-- Some raw event. -/
def storedEvent : RawEvent :=
  { probe := .netIo
    timestampNs := 1
    payload := .netIo { bytesTx := 1, bytesRx := 0, devNameHash := 0 } }

/-- Some snapshot. -/
def lostSnapshot : StateSnapshot ℚ :=
  { timestampUs := 2, windowMs := 50, stale := false, lostEvents := 0
    metrics := MetricMap.default }

/-- Without failures the condition holds, and the wipe that reports success is
truthful. -/
theorem wipe_truthful_iff_healthy :
    ∃ trace final, Run step (new (.ok ()) (.ok .sqlite) none none (⟨[], []⟩ : DbFile ℚ))
      trace final ∧ trace.map Prod.snd = [.insertEvent storedEvent none, .wipe none none] ∧
      final.file.IsEmpty ∧ ∀ visit ∈ trace, TruthfulWipe visit := by
  have run : Run step (new (.ok ()) (.ok .sqlite) none none (⟨[], []⟩ : DbFile ℚ)) _ _ :=
    execute_sound [.insertEvent storedEvent none, .wipe none none] rfl
  refine ⟨_, _, run, rfl, ⟨rfl, rfl⟩,
    (wipe_truthful_iff (.ok ()) (.ok .sqlite) none none ⟨[], []⟩ run).mpr ?_⟩
  intro front back db first second htrace
  refine .inl ⟨⟨rfl, rfl, rfl, rfl⟩, ?_⟩
  intro visit hmem
  have hvisit : visit ∈ front ++ (db, Call.wipe first second) :: back :=
    List.mem_append_left _ hmem
  rw [← htrace] at hvisit
  simp only [List.mem_cons, List.not_mem_nil, or_false] at hvisit
  rcases hvisit with rfl | rfl <;> rfl

/-- One event is stored, the next write fails, and the wipe after it reports
success while the event is still in the file. -/
theorem wipe_not_always_truthful :
    ¬ ∀ (file : DbFile ℚ) (trace : List (Database ℚ × Call ℚ)) (final : Database ℚ),
      Run step (new (.ok ()) (.ok .sqlite) none none file) trace final →
        ∀ visit ∈ trace, TruthfulWipe visit := by
  intro always
  have htruthful := always ⟨[], []⟩ _ _
    (execute_sound [.insertEvent storedEvent none,
      .insertSnapshot lostSnapshot (some ⟨"disk I/O error"⟩), .wipe none none] rfl)
    _ (List.mem_cons_of_mem _ (List.mem_cons_of_mem _ List.mem_cons_self))
  have hempty := htruthful none none rfl rfl
  exact absurd hempty.1 (by decide)

end Database

end DaemonChoir.Conductor
