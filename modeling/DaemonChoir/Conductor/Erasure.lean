import DaemonChoir.Conductor.ControlApi
import DaemonChoir.Conductor.Provenance
set_option autoImplicit false

/-!
# Conductor: what comes back after a wipe

A wipe deletes rows.  What was received or accepted before it and has no row yet is
still on its way into the database, and the mutex of the connection only decides when it
gets there.

A wipe is final for an item when the item has its row already, which the wipe deletes, or
never gets one.  `EventsClean` and `SnapshotsClean` say that no row of an item from before
the wipe stands in the file; statements that insert nothing of the kind keep them, and an
insertion of an old item breaks them.  An old item without a row can always still get one:
`exists_run_writing` and the lemmas around it build the run.  So the condition for a wipe
to be final is exact, in every reachable state.
-/

namespace DaemonChoir.Conductor

open DaemonChoir.Common DaemonChoir.Foundation

/-! ## The property -/

section Property

variable {F : Type}

/-- Every row was made from an item that is younger than the first ledger. -/
structure Erased (before after : Ledger F) : Prop where
  events : ∀ entry ∈ after.events.rows,
    ∃ number, entry.1 = some number ∧ before.received.length ≤ number
  snapshots : ∀ entry ∈ after.snapshots.rows,
    ∃ number, entry.1 = some number ∧ before.accepted.length ≤ number

/-- No insertion that is on its way can succeed: the timestamp of every spawned event and
of the oldest waiting snapshot is beyond what SQLite can store. -/
def Tapped.Settled (tapped : Tapped F) : Prop :=
  (∀ event ∈ tapped.spawned, 2 ^ 63 ≤ event.timestampNs.toNat) ∧
    ∀ snapshot ∈ tapped.waiting.head?, 2 ^ 63 ≤ snapshot.timestampUs.toNat

theorem Erased.not_mem_events {before after : Ledger F} (erased : Erased before after)
    (numbered : before.Numbered) {tagged : Tagged RawEvent} (h : tagged ∈ before.spawned)
    (row : EventRow) : (some tagged.origin, row) ∉ after.events.rows := by
  intro hrow
  obtain ⟨number, hnumber, hyoung⟩ := erased.events _ hrow
  obtain rfl := Option.some.inj hnumber
  obtain ⟨hold, _⟩ := List.getElem?_eq_some_iff.mp (numbered.spawned tagged h)
  exact absurd hyoung (Nat.not_le.mpr hold)

theorem Erased.not_mem_snapshots {before after : Ledger F} (erased : Erased before after)
    (numbered : before.Numbered) {tagged : Tagged (StateSnapshot F)}
    (h : tagged ∈ before.waiting) (row : SnapshotRow F) :
    (some tagged.origin, row) ∉ after.snapshots.rows := by
  intro hrow
  obtain ⟨number, hnumber, hyoung⟩ := erased.snapshots _ hrow
  obtain rfl := Option.some.inj hnumber
  obtain ⟨hold, _⟩ := List.getElem?_eq_some_iff.mp (numbered.waiting tagged h)
  exact absurd hyoung (Nat.not_le.mpr hold)

/-! ## What stays away -/

/-- Of the first `bound` events none is in the table, and none can get there. -/
structure EventsClean (bound : ℕ) (ledger : Ledger F) : Prop where
  received : bound ≤ ledger.received.length
  spawned : ∀ tagged ∈ ledger.spawned, tagged.origin < bound →
    2 ^ 63 ≤ tagged.item.timestampNs.toNat
  rows : ∀ entry ∈ ledger.events.rows, ∃ number, entry.1 = some number ∧ bound ≤ number

theorem EventsClean.perform {bound : ℕ} {ledger : Ledger F} (clean : EventsClean bound ledger)
    (origin : Option ℕ) {statements : List (Statement F)}
    (hnone : ∀ row, Statement.insertEvent row ∉ statements) :
    EventsClean bound (ledger.perform origin statements) := by
  refine ⟨by simpa using clean.received, by simpa using clean.spawned, ?_⟩
  intro entry hmem
  rcases Ledger.mem_perform_events hmem with hmem | ⟨row, hrow, _⟩
  · exact clean.rows entry hmem
  · exact absurd hrow (hnone row)

theorem EventsClean.move {bound : ℕ} {ledger : Ledger F} (clean : EventsClean bound ledger)
    {movement : Movement F} (fits : ledger.Fits movement) :
    EventsClean bound (ledger.move movement) := by
  cases movement with
  | stay => exact clean
  | receive event =>
      refine ⟨?_, ?_, clean.rows⟩
      · simpa [Ledger.move] using clean.received.trans (Nat.le_succ _)
      · intro tagged hmem hold
        rcases List.mem_append.mp hmem with hmem | hmem
        · exact clean.spawned tagged hmem hold
        · obtain rfl := List.mem_singleton.mp hmem
          exact absurd clean.received (Nat.not_le.mpr hold)
  | accept snapshot => exact ⟨clean.received, clean.spawned, clean.rows⟩
  | insertEvent position statements =>
      obtain ⟨tagged, htagged, hstatements⟩ := fits
      simp only [Ledger.move, htagged, Option.map_some]
      refine ⟨by simpa using clean.received, ?_, ?_⟩
      · intro other hmem
        exact clean.spawned other (List.mem_of_mem_eraseIdx hmem)
      · intro entry hmem
        rcases Ledger.mem_perform_events hmem with hmem | ⟨row, hrow, rfl⟩
        · exact clean.rows entry hmem
        · -- an event whose insertion succeeds is not among the first ones
          refine ⟨tagged.origin, rfl, ?_⟩
          by_contra hold
          have hlarge := clean.spawned tagged (List.mem_of_getElem? htagged)
            (Nat.not_le.mp hold)
          have hsmall := (insertEventStatement_eq_ok_iff.mp (hstatements _ hrow)).1
          omega
  | insertSnapshot statements =>
      obtain ⟨tagged, rest, hwaiting, hstatements⟩ := fits
      have hnone : ∀ row, Statement.insertEvent row ∉ statements := by
        intro row hrow
        obtain ⟨_, heq⟩ := insertSnapshotStatement_eq_ok_iff.mp (hstatements _ hrow)
        cases heq
      have hperformed := clean.perform (ledger.waiting.head?.map Tagged.origin) hnone
      exact ⟨hperformed.received, hperformed.spawned, hperformed.rows⟩
  | drop => exact ⟨clean.received, clean.spawned, clean.rows⟩
  | delete statements =>
      apply clean.perform none
      intro row hrow
      exact absurd rfl ((fits _ hrow).1 row)

/-- Of the first `bound` snapshots none is in the table, and none can get there: the
connection is gone, or all that wait are younger, or the next insertion ends it. -/
structure SnapshotsClean (bound : ℕ) (ledger : Ledger F) (conn : Option Connection) :
    Prop where
  accepted : bound ≤ ledger.accepted.length
  waiting : conn = none ∨ (∀ tagged ∈ ledger.waiting, bound ≤ tagged.origin) ∨
    ∃ tagged ∈ ledger.waiting.head?, 2 ^ 63 ≤ tagged.item.timestampUs.toNat
  rows : ∀ entry ∈ ledger.snapshots.rows, ∃ number, entry.1 = some number ∧ bound ≤ number

theorem SnapshotsClean.perform {bound : ℕ} {ledger : Ledger F} {conn after : Option Connection}
    (clean : SnapshotsClean bound ledger conn) (hlost : conn = none → after = none)
    (origin : Option ℕ) {statements : List (Statement F)}
    (hnone : ∀ row, Statement.insertSnapshot row ∉ statements) :
    SnapshotsClean bound (ledger.perform origin statements) after := by
  refine ⟨by simpa using clean.accepted, ?_, ?_⟩
  · rw [Ledger.perform_waiting]
    exact clean.waiting.imp_left hlost
  · intro entry hmem
    rcases Ledger.mem_perform_snapshots hmem with hmem | ⟨row, hrow, _⟩
    · exact clean.rows entry hmem
    · exact absurd hrow (hnone row)

theorem SnapshotsClean.move {bound : ℕ} {ledger : Ledger F} {tapped next : Tapped F}
    {call : Option (Call F)} {movement : Movement F}
    (clean : SnapshotsClean bound ledger tapped.db.conn) (agrees : ledger.Agrees tapped)
    (stores : Tapped.Stores tapped next call movement) :
    SnapshotsClean bound (ledger.move movement) next.db.conn := by
  have hlost := stores.conn_eq_none
  cases stores with
  | stay hspawned hwaiting hdb => rwa [hdb]
  | receive event hspawned hwaiting hdb =>
      rw [hdb]
      exact ⟨clean.accepted, clean.waiting, clean.rows⟩
  | accept snapshot hspawned hwaiting hdb =>
      rw [hdb]
      refine ⟨?_, ?_, clean.rows⟩
      · simpa [Ledger.move] using clean.accepted.trans (Nat.le_succ _)
      · rcases clean.waiting with hnone | hyoung | ⟨tagged, hhead, hlarge⟩
        · exact .inl hnone
        · refine .inr (.inl ?_)
          intro tagged hmem
          rcases List.mem_append.mp hmem with hmem | hmem
          · exact hyoung tagged hmem
          · obtain rfl := List.mem_singleton.mp hmem
            exact clean.accepted
        · refine .inr (.inr ⟨tagged, ?_, hlarge⟩)
          simp only [Ledger.move, List.head?_append, Option.mem_def.mp hhead]
          rfl
  | insertEvent position event answer hevent hspawned hwaiting hdb =>
      have hnone : ∀ row, Statement.insertSnapshot row ∉
          tapped.db.performed (.insertEvent event answer) := by
        intro row hrow
        obtain ⟨_, heq⟩ := mem_performed_insertEvent hrow
        cases heq
      have hperformed :=
        clean.perform hlost (ledger.spawned[position]?.map Tagged.origin) hnone
      exact ⟨hperformed.accepted, hperformed.waiting, hperformed.rows⟩
  | insertSnapshot snapshot answer hspawned hwaiting hdb =>
      obtain ⟨origin, others, hledger, _⟩ := agrees.waiting_eq_cons hwaiting
      have hold := clean.waiting
      simp only [hledger, List.head?_cons, Option.mem_def, Option.some.injEq,
        exists_eq_left'] at hold
      simp only [Ledger.move, hledger, List.head?_cons, Option.map_some, List.tail_cons]
      refine ⟨by simpa using clean.accepted, ?_, ?_⟩
      · rcases hold with hnone | hyoung | hlarge
        · exact .inl (hlost hnone)
        · exact .inr (.inl fun other hmem => hyoung other (List.mem_cons_of_mem _ hmem))
        · -- the insertion fails, and the connection is given up
          refine .inl ?_
          rw [hdb]
          apply conn_of_performed_insertSnapshot
          apply List.eq_nil_iff_forall_not_mem.mpr
          intro statement hmem
          have hsmall := (mem_performed_insertSnapshot hmem).1
          omega
      · intro entry hmem
        rcases Ledger.mem_perform_snapshots hmem with hmem | ⟨row, hrow, rfl⟩
        · exact clean.rows entry hmem
        · refine ⟨origin, rfl, ?_⟩
          have hsmall := (mem_performed_insertSnapshot hrow).1
          rcases hold with hnone | hyoung | hlarge
          · rw [performed_of_conn_none hnone] at hrow
            cases hrow
          · exact hyoung _ List.mem_cons_self
          · omega
  | drop hspawned hwaiting hdb =>
      exact ⟨clean.accepted, .inr (.inl fun _ hmem => (by cases hmem)), clean.rows⟩
  | delete call hdeletes hspawned hwaiting hdb =>
      apply clean.perform hlost none
      intro row hrow
      exact absurd rfl ((hdeletes _ (performed_subset _ _ hrow)).2 row)

end Property

/-! ## Runs -/

namespace Tapped

variable {F : Type} [Float64 F]

theorem clean_follow {mid final : Tapped F} {back : List (Tapped F × TappedLabel)}
    (run : Run step mid back final) {ledger : Ledger F} (agrees : ledger.Agrees mid)
    {received accepted : ℕ} (events : EventsClean received ledger)
    (snapshots : SnapshotsClean accepted ledger mid.db.conn) :
    (ledger.follow back).Agrees final ∧ EventsClean received (ledger.follow back) ∧
      SnapshotsClean accepted (ledger.follow back) final.db.conn := by
  induction run with
  | nil => exact ⟨agrees, events, snapshots⟩
  | snoc _ taken ih =>
      obtain ⟨hagrees, hevents, hsnapshots⟩ := ih
      have stores := stores_of_step taken
      rw [Ledger.follow_append_singleton]
      exact ⟨hagrees.move stores, hevents.move (hagrees.fits stores),
        hsnapshots.move hagrees stores⟩

/-! ## The wipe -/

section Wipe

variable {db : Database F} {events snapshots : Answer}

omit [Float64 F] in
theorem wipe_of_status {guard : Option String}
    (h : (handlePrivacyWipe guard events snapshots db).1.status = 200) :
    (db.wipe events snapshots).1 = .ok () := by
  unfold handlePrivacyWipe at h
  split at h
  · split at h
    · cases h
    · rename_i hwipe
      rw [hwipe]
  · cases h

omit [Float64 F] in
/-- With a connection, a successful wipe has deleted both tables and keeps the
connection. -/
theorem performed_wipe (hconn : db.conn.isSome = true)
    (hok : (db.wipe events snapshots).1 = .ok ()) :
    db.performed (.wipe events snapshots) = [.deleteEvents, .deleteSnapshots] ∧
      (db.after (.wipe events snapshots)).conn = db.conn := by
  obtain ⟨conn, hconn⟩ := Option.isSome_iff_exists.mp hconn
  cases events with
  | some error => simp [Database.wipe, hconn, Database.executeBoth, execute] at hok
  | none =>
      cases snapshots with
      | some error => simp [Database.wipe, hconn, Database.executeBoth, execute] at hok
      | none =>
          refine ⟨by rw [Database.performed, hconn]; rfl, ?_⟩
          rw [Database.after_conn]
          rfl

omit [Float64 F] in
/-- After the wipe of a settled state the ledger is clean. -/
theorem clean_of_settled {ledger : Ledger F} {current : Tapped F}
    (agrees : ledger.Agrees current) (settled : current.Settled) (conn : Option Connection) :
    EventsClean ledger.received.length
        (ledger.perform none [.deleteEvents, .deleteSnapshots]) ∧
      SnapshotsClean ledger.accepted.length
        (ledger.perform none [.deleteEvents, .deleteSnapshots]) conn := by
  obtain ⟨hspawned, hwaiting⟩ := settled
  refine ⟨⟨le_refl _, ?_, ?_⟩, le_refl _, ?_, ?_⟩
  · intro tagged hmem _
    apply hspawned
    rw [← agrees.spawned]
    exact List.mem_map_of_mem hmem
  · intro entry hmem
    simp [Ledger.perform, Ledger.effect, Table.retain] at hmem
  · refine .inr ?_
    cases hledger : ledger.waiting with
    | nil => exact .inl fun _ hmem => (by simp [hledger] at hmem)
    | cons tagged rest =>
        refine .inr ⟨tagged, by simp [hledger], ?_⟩
        apply hwaiting
        rw [← agrees.waiting, hledger]
        rfl
  · intro entry hmem
    simp [Ledger.perform, Ledger.effect, Table.retain] at hmem

end Wipe

/-! ## Which wipes are final -/

variable {windowMs : UInt64} {db : Database F} {trace : List (Tapped F × TappedLabel)}
  {current : Tapped F} {events snapshots : Answer}

/-- After the wipe of a settled state nothing older comes back. -/
theorem erased_of_settled
    (run : Run step (started windowMs db (some (.empty _ _))) trace current)
    (hconn : current.db.conn.isSome = true)
    (hok : (current.db.wipe events snapshots).1 = .ok ()) (settled : current.Settled)
    {back : List (Tapped F × TappedLabel)} {final : Tapped F}
    (whole : Run step (started windowMs db (some (.empty _ _)))
      (trace ++ (current, .wipe events snapshots) :: back) final) :
    Erased (Ledger.after db.file trace)
      (Ledger.after db.file (trace ++ (current, .wipe events snapshots) :: back)) := by
  obtain ⟨agrees, _⟩ := Ledger.after_run run
  obtain ⟨hperformed, hkept⟩ := performed_wipe hconn hok
  obtain ⟨_, mid, taken, hrest⟩ := whole.at_visit
  have stores := stores_of_step taken
  have hmove : (Ledger.after db.file trace).move (movement (current, .wipe events snapshots)) =
      (Ledger.after db.file trace).perform none [.deleteEvents, .deleteSnapshots] :=
    congrArg _ hperformed
  obtain ⟨hevents, hsnapshots⟩ := clean_of_settled agrees settled mid.db.conn
  rw [← hmove] at hevents hsnapshots
  obtain ⟨_, hevents, hsnapshots⟩ :=
    clean_follow hrest (agrees.move stores) hevents hsnapshots
  rw [Ledger.after_append]
  exact ⟨hevents.rows, hsnapshots.rows⟩

omit [Float64 F] in
theorem mem_rows_insertEvent {ledger : Ledger F} (agrees : ledger.Agrees current)
    (hconn : current.db.conn.isSome = true) {position : ℕ} {event : RawEvent}
    (hevent : current.spawned[position]? = some event)
    (hfits : event.timestampNs.toNat < 2 ^ 63) :
    ∃ origin, ⟨origin, event⟩ ∈ ledger.spawned ∧ (some origin, eventRow event) ∈
      (ledger.move (movement (current, .insertEvent position none))).events.rows := by
  obtain ⟨origin, horigin⟩ := agrees.getElem?_spawned hevent
  have hperformed := performed_insertEvent hconn (not_fails_insertEvent hfits)
  refine ⟨origin, List.mem_of_getElem? horigin, ?_⟩
  simp only [movement, hevent, hperformed, Ledger.move, horigin]
  exact Table.mem_rows_append.mpr (.inr rfl)

omit [Float64 F] in
theorem mem_rows_insertSnapshot {ledger : Ledger F} (agrees : ledger.Agrees current)
    (hconn : current.db.conn.isSome = true) {snapshot : StateSnapshot F}
    (hwriting : current.writing = some snapshot)
    (hfits : snapshot.timestampUs.toNat < 2 ^ 63) :
    ∃ origin, ⟨origin, snapshot⟩ ∈ ledger.waiting ∧ (some origin, snapshotRow snapshot) ∈
      (ledger.move (movement (current, .insertSnapshot none))).snapshots.rows := by
  obtain ⟨rest, hwaiting⟩ : ∃ rest, current.waiting = snapshot :: rest :=
    ⟨_, by rw [waiting, hwriting]; rfl⟩
  obtain ⟨origin, others, hledger, _⟩ := agrees.waiting_eq_cons hwaiting
  have hperformed := performed_insertSnapshot hconn (not_fails_insertSnapshot hfits)
  refine ⟨origin, hledger ▸ List.mem_cons_self, ?_⟩
  simp only [movement, hwriting, hperformed, Ledger.move, hledger, List.head?_cons]
  exact Table.mem_rows_append.mpr (.inr rfl)

omit [Float64 F] in
/-- The head of the waiting snapshots is in the hands of the writer or can be taken. -/
theorem writing_or_takeSnapshot {snapshot : StateSnapshot F}
    (h : snapshot ∈ current.waiting.head?) :
    current.writing = some snapshot ∨
      ∃ next, current.takeSnapshot = some next ∧ next.writing = some snapshot ∧
        next.db = current.db := by
  cases hwriting : current.writing with
  | some held =>
      simp only [waiting, hwriting, Option.toList_some, List.singleton_append,
        List.head?_cons, Option.mem_def] at h
      exact .inl h
  | none =>
      refine .inr ?_
      simp only [waiting, hwriting, Option.toList_none, List.nil_append, Option.mem_def] at h
      cases hdbTx : current.dbTx with
      | none => simp [hdbTx] at h
      | some channel =>
          cases hgone : channel.receiverGone with
          | true => simp [hdbTx, hgone] at h
          | false =>
              simp only [hdbTx, hgone, Bool.false_eq_true, if_false] at h
              obtain ⟨rest, hqueue⟩ := List.head?_eq_some_iff.mp h
              obtain ⟨after, hrecv⟩ := Channel.recv_of_queue_eq_cons hqueue
              exact ⟨{ current with writing := some snapshot, dbTx := some after },
                by simp [takeSnapshot, hwriting, hdbTx, hgone, hrecv], rfl, rfl⟩

theorem exists_run_writing {start : Tapped F} (run : Run step start trace current)
    (file : DbFile F) {snapshot : StateSnapshot F} (h : snapshot ∈ current.waiting.head?) :
    ∃ between writing, Run step start (trace ++ between) writing ∧
      writing.writing = some snapshot ∧ writing.db = current.db ∧
      (Ledger.after file (trace ++ between)).waiting = (Ledger.after file trace).waiting := by
  rcases writing_or_takeSnapshot h with hwriting | ⟨next, htake, hwriting, hdb⟩
  · rw [← List.append_nil trace] at run
    exact ⟨[], current, run, hwriting, rfl, by rw [List.append_nil]⟩
  · have taken : step current .takeSnapshot = some next := htake
    refine ⟨_, next, run.snoc taken, hwriting, hdb, ?_⟩
    rw [Ledger.after_append_singleton]
    rfl

omit [Float64 F] in
theorem wipe_frame (file : DbFile F) (trace : List (Tapped F × TappedLabel))
    (current : Tapped F) (events snapshots : Answer) :
    (Ledger.after file (trace ++ [(current, .wipe events snapshots)])).spawned =
        (Ledger.after file trace).spawned ∧
      (Ledger.after file (trace ++ [(current, .wipe events snapshots)])).waiting =
        (Ledger.after file trace).waiting := by
  rw [Ledger.after_append_singleton]
  exact ⟨Ledger.perform_spawned _ _ _, Ledger.perform_waiting _ _ _⟩

/-- Where nothing older ever comes back, the state was settled. -/
theorem settled_of_erased
    (run : Run step (started windowMs db (some (.empty _ _))) trace current)
    (hconn : current.db.conn.isSome = true)
    (hok : (current.db.wipe events snapshots).1 = .ok ())
    (hall : ∀ back final, Run step (started windowMs db (some (.empty _ _)))
      (trace ++ (current, .wipe events snapshots) :: back) final →
        Erased (Ledger.after db.file trace)
          (Ledger.after db.file (trace ++ (current, .wipe events snapshots) :: back))) :
    current.Settled := by
  obtain ⟨_, numbered⟩ := Ledger.after_run run
  obtain ⟨hspawned, hwaiting⟩ := wipe_frame db.file trace current events snapshots
  have wiped : Run step _ (trace ++ [(current, .wipe events snapshots)])
      { current with db := current.db.after (.wipe events snapshots) } := run.snoc rfl
  have hconnected : (current.db.after (.wipe events snapshots)).conn.isSome = true := by
    rw [(performed_wipe hconn hok).2, hconn]
  constructor
  · intro event hmem
    by_contra hlarge
    -- the insertion runs right after the wipe
    obtain ⟨position, hevent⟩ := List.getElem?_of_mem hmem
    obtain ⟨agrees, _⟩ := Ledger.after_run wiped
    obtain ⟨origin, horigin, hrow⟩ :=
      mem_rows_insertEvent agrees hconnected hevent (Nat.not_le.mp hlarge)
    obtain ⟨next, taken⟩ : ∃ next,
        step { current with db := current.db.after (.wipe events snapshots) }
          (.insertEvent position none) = some next := by
      simp [step, insertEvent, hevent]
    have whole := wiped.snoc taken
    rw [List.append_assoc] at whole
    rw [← Ledger.after_append_singleton, List.append_assoc] at hrow
    rw [hspawned] at horigin
    exact (hall _ _ whole).not_mem_events numbered horigin _ hrow
  · intro snapshot hmem
    by_contra hlarge
    -- the writer takes the snapshot after the wipe, unless it holds it, and inserts it
    obtain ⟨between, writing, hrun, hwriting, hdb, hsame⟩ :=
      exists_run_writing wiped db.file hmem
    obtain ⟨agrees, _⟩ := Ledger.after_run hrun
    obtain ⟨origin, horigin, hrow⟩ :=
      mem_rows_insertSnapshot agrees (hdb ▸ hconnected) hwriting (Nat.not_le.mp hlarge)
    obtain ⟨next, taken⟩ : ∃ next, step writing (.insertSnapshot none) = some next := by
      simp [step, insertSnapshot, hwriting]
    have whole := hrun.snoc taken
    rw [List.append_assoc, List.append_assoc] at whole
    rw [← Ledger.after_append_singleton, List.append_assoc, List.append_assoc] at hrow
    rw [hsame, hwaiting] at horigin
    exact (hall _ _ whole).not_mem_snapshots numbered horigin _ hrow

/-- A wipe with a working connection that is answered with 200 is final, whatever happens
afterwards, exactly when no insertion that is on its way can succeed. -/
theorem wipe_final_iff {guard : Option String}
    (run : Run step (started windowMs db (some (.empty _ _))) trace current)
    (hconn : current.db.conn.isSome = true)
    (hanswer : (handlePrivacyWipe guard events snapshots current.db).1.status = 200) :
    (∀ back final, Run step (started windowMs db (some (.empty _ _)))
      (trace ++ (current, .wipe events snapshots) :: back) final →
        Erased (Ledger.after db.file trace)
          (Ledger.after db.file (trace ++ (current, .wipe events snapshots) :: back))) ↔
      current.Settled := by
  have hok := wipe_of_status hanswer
  constructor
  · intro hall
    exact settled_of_erased run hconn hok hall
  · intro settled back final whole
    exact erased_of_settled run hconn hok settled whole

/-- When the only insertion has run, the wipe is final. -/
theorem wipe_final_iff_inserted :
    ∃ trace current,
      Run step (started 50 emptyDb (some (.empty _ _))) trace current ∧
      current.db.file.events.length = 1 ∧
      ∀ back final, Run step (started 50 emptyDb (some (.empty _ _)))
        (trace ++ (current, .wipe none none) :: back) final →
          Erased (Ledger.after emptyDb.file trace)
            (Ledger.after emptyDb.file (trace ++ (current, .wipe none none) :: back)) := by
  have run : Run step (started 50 emptyDb (some (.empty _ _))) _ _ :=
    execute_sound [.receive (some sentEvent), .insertEvent 0 none] rfl
  have hanswer : (handlePrivacyWipe (some "wipe") none none
      (emptyDb.insertEvent sentEvent none)).1.status = 200 := rfl
  refine ⟨_, _, run, rfl, (wipe_final_iff run rfl hanswer).mpr ⟨?_, ?_⟩⟩
  · intro event hmem
    cases hmem
  · intro snapshot hmem
    cases hmem

/-- An insertion that runs after the wipe brings the event back. -/
theorem wipe_not_always_final :
    ¬ ∀ (windowMs : UInt64) (db : Database Ieee) (trace : List (Tapped Ieee × TappedLabel))
        (current : Tapped Ieee) (guard : Option String) (events snapshots : Answer),
        Run step (started windowMs db (some (.empty _ _))) trace current →
          current.db.conn.isSome = true →
            (handlePrivacyWipe guard events snapshots current.db).1.status = 200 →
              ∀ back final, Run step (started windowMs db (some (.empty _ _)))
                (trace ++ (current, .wipe events snapshots) :: back) final →
                  Erased (Ledger.after db.file trace)
                    (Ledger.after db.file
                      (trace ++ (current, .wipe events snapshots) :: back)) := by
  intro hclaim
  have run : Run step (started 50 emptyDb (some (.empty _ _))) _ _ :=
    execute_sound [.receive (some sentEvent)] rfl
  have wiped := run.snoc (rfl : step _ (.wipe none none) = some _)
  have whole := wiped.snoc (rfl : step _ (.insertEvent 0 none) = some _)
  have hanswer : (handlePrivacyWipe (some "wipe") none none emptyDb).1.status = 200 := rfl
  have erased := hclaim 50 emptyDb _ _ (some "wipe") none none run rfl hanswer _ _ whole
  obtain ⟨number, hnumber, hyoung⟩ :=
    erased.events (some 0, eventRow sentEvent) List.mem_cons_self
  obtain rfl := Option.some.inj hnumber
  cases hyoung

end Tapped

end DaemonChoir.Conductor
