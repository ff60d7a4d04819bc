import DaemonChoir.Conductor.Isolation
import DaemonChoir.Conductor.Wipe
set_option autoImplicit false

/-!
# Conductor: what a step does to storage

The steps of the two loops and of the tasks behind them, seen from the database: which
statements take effect, and what becomes of the spawned insertions and of the snapshots
that wait for theirs.

`Database.performed` lists the statements of a call that take effect, given which of them
fail; the file after a call is the fold of their effects.  `Stores` says for a step of the
tasks which call it makes and how the insertions that wait change, and `stores_of_step`
that every step fits one of its cases.  `Provenance`, `Erasure`, `Shutdown`, `StoredEvents`
and `History` start from there and never open the step function again.
-/

namespace DaemonChoir.Conductor

open DaemonChoir.Common DaemonChoir.Foundation

/-! ## Statements that take effect -/

section Statements

variable {F : Type}

/-- The statement, when it succeeds. -/
def succeeded (statement : Except SqliteError (Statement F)) (answer : Answer) :
    Option (Statement F) :=
  match statement, answer with
  | .ok bound, none => some bound
  | _, _ => none

/-- The second of two statements is issued only after the first has succeeded. -/
def succeededBoth (first second : Option (Statement F)) : List (Statement F) :=
  match first with
  | none => []
  | some statement => statement :: second.toList

/-- The statements of a call that take effect on an open connection. -/
def Call.performed : Call F → List (Statement F)
  | .insertEvent event answer =>
      (succeeded (Database.insertEventStatement event) answer).toList
  | .insertSnapshot snapshot answer =>
      (succeeded (Database.insertSnapshotStatement snapshot) answer).toList
  | .purgeOlderThan retention now events snapshots =>
      succeededBoth (succeeded (Database.purgeEventsStatement retention now) events)
        (succeeded (Database.purgeSnapshotsStatement retention now) snapshots)
  | .wipe events snapshots =>
      succeededBoth (succeeded (.ok .deleteEvents) events)
        (succeeded (.ok .deleteSnapshots) snapshots)

/-- The statements of a call that take effect. -/
def Database.performed (db : Database F) (call : Call F) : List (Statement F) :=
  match db.conn with
  | none => []
  | some _ => call.performed

theorem execute_of_succeeded (file : DbFile F)
    {statement : Except SqliteError (Statement F)} {answer : Answer} {bound : Statement F}
    (h : succeeded statement answer = some bound) :
    execute file statement answer = .ok (bound.effect file) := by
  unfold succeeded at h
  split at h
  · cases h
    rfl
  · cases h

theorem execute_of_not_succeeded (file : DbFile F)
    {statement : Except SqliteError (Statement F)} {answer : Answer}
    (h : succeeded statement answer = none) :
    ∃ error, execute file statement answer = .error error := by
  unfold succeeded at h
  split at h
  · cases h
  · rename_i hfails
    cases statement with
    | error error => exact ⟨error, rfl⟩
    | ok bound =>
        cases answer with
        | none => exact absurd rfl (hfails bound rfl)
        | some error => exact ⟨error, rfl⟩

theorem afterExecute_file (db : Database F) (statement : Except SqliteError (Statement F))
    (answer : Answer) :
    (db.afterExecute (execute db.file statement answer)).file =
      (succeeded statement answer).toList.foldl Statement.effect db.file := by
  cases hsucceeded : succeeded statement answer with
  | none =>
      obtain ⟨error, herror⟩ := execute_of_not_succeeded db.file hsucceeded
      rw [herror]
      rfl
  | some bound =>
      rw [execute_of_succeeded db.file hsucceeded]
      rfl

theorem executeBoth_file (db : Database F)
    (first second : Except SqliteError (Statement F)) (firstAnswer secondAnswer : Answer) :
    (db.executeBoth first second firstAnswer secondAnswer).2.file =
      (succeededBoth (succeeded first firstAnswer) (succeeded second secondAnswer)).foldl
        Statement.effect db.file := by
  unfold Database.executeBoth
  cases hfirst : succeeded first firstAnswer with
  | none =>
      obtain ⟨error, herror⟩ := execute_of_not_succeeded db.file hfirst
      rw [herror]
      rfl
  | some bound =>
      rw [execute_of_succeeded db.file hfirst]
      cases hsecond : succeeded second secondAnswer with
      | none =>
          obtain ⟨error, herror⟩ := execute_of_not_succeeded (bound.effect db.file) hsecond
          simp [herror, succeededBoth]
      | some next =>
          simp [execute_of_succeeded (bound.effect db.file) hsecond, succeededBoth]

theorem Database.after_file (db : Database F) (call : Call F) :
    (db.after call).file = (db.performed call).foldl Statement.effect db.file := by
  unfold Database.performed
  cases hconn : db.conn with
  | none =>
      cases call <;>
        simp [after, insertEvent, insertSnapshot, purgeOlderThan, wipe, hconn]
  | some conn =>
      cases call with
      | insertEvent event answer =>
          simp only [after, insertEvent, hconn, Call.performed, afterExecute_file]
      | insertSnapshot snapshot answer =>
          simp only [after, insertSnapshot, hconn, Call.performed, afterExecute_file]
      | purgeOlderThan retention now events snapshots =>
          simp only [after, purgeOlderThan, hconn, Call.performed, executeBoth_file]
      | wipe events snapshots =>
          simp only [after, wipe, hconn, Call.performed, executeBoth_file]

theorem mem_succeeded {statement : Except SqliteError (Statement F)} {answer : Answer}
    {bound : Statement F} (h : bound ∈ (succeeded statement answer).toList) :
    statement = .ok bound := by
  rw [Option.mem_toList] at h
  unfold succeeded at h
  split at h
  · rw [Option.some.inj h]
  · cases h

theorem performed_subset (db : Database F) (call : Call F) :
    db.performed call ⊆ call.performed := by
  unfold Database.performed
  split
  · exact List.nil_subset _
  · exact List.Subset.refl _

theorem performed_of_conn_none {db : Database F} (h : db.conn = none) (call : Call F) :
    db.performed call = [] := by
  rw [Database.performed, h]

theorem conn_of_performed_insertSnapshot {db : Database F} {snapshot : StateSnapshot F}
    {answer : Answer} (h : db.performed (.insertSnapshot snapshot answer) = []) :
    (db.after (.insertSnapshot snapshot answer)).conn = none := by
  cases hconn : db.conn with
  | none => simp [Database.after, Database.insertSnapshot, hconn]
  | some conn =>
      simp only [Database.performed, hconn, Call.performed, Option.toList_eq_nil_iff] at h
      obtain ⟨error, herror⟩ := execute_of_not_succeeded db.file h
      simp [Database.after, Database.insertSnapshot, hconn, herror, Database.afterExecute]

theorem mem_succeededBoth {first second : Option (Statement F)} {statement : Statement F}
    (h : statement ∈ succeededBoth first second) :
    first = some statement ∨ second = some statement := by
  cases first with
  | none => cases h
  | some head =>
      rcases List.mem_cons.mp h with rfl | hmem
      · exact .inl rfl
      · exact .inr (Option.mem_toList.mp hmem)

/-- The row of an event. -/
def eventRow (event : RawEvent) : EventRow where
  probe := event.probe.toString
  timestampNs := event.timestampNs.toNat
  payload := event.payload.toJson

/-- The row of a snapshot. -/
def snapshotRow (snapshot : StateSnapshot F) : SnapshotRow F where
  timestampUs := snapshot.timestampUs.toNat
  cpuLatency := snapshot.metrics.cpuSchedLatencyP95
  cpuRate := snapshot.metrics.cpuSchedContextRate
  memPressure := snapshot.metrics.memReclaimPressure
  netTx := snapshot.metrics.netTxBytesNorm
  netRx := snapshot.metrics.netRxBytesNorm
  procExec := snapshot.metrics.procExecRate

theorem insertEventStatement_eq_ok_iff {event : RawEvent} {statement : Statement F} :
    Database.insertEventStatement event = .ok statement ↔
      event.timestampNs.toNat < 2 ^ 63 ∧ statement = .insertEvent (eventRow event) := by
  unfold Database.insertEventStatement bindU64
  by_cases hfits : event.timestampNs.toNat < 2 ^ 63
  · simp only [hfits, true_and]
    exact ⟨fun h => (Except.ok.inj h).symm, fun h => congrArg Except.ok h.symm⟩
  · simp only [hfits, false_and, iff_false]
    exact nofun

theorem insertSnapshotStatement_eq_ok_iff {snapshot : StateSnapshot F}
    {statement : Statement F} :
    Database.insertSnapshotStatement snapshot = .ok statement ↔
      snapshot.timestampUs.toNat < 2 ^ 63 ∧
        statement = .insertSnapshot (snapshotRow snapshot) := by
  unfold Database.insertSnapshotStatement bindU64
  by_cases hfits : snapshot.timestampUs.toNat < 2 ^ 63
  · simp only [hfits, true_and]
    exact ⟨fun h => (Except.ok.inj h).symm, fun h => congrArg Except.ok h.symm⟩
  · simp only [hfits, false_and, iff_false]
    exact nofun

theorem mem_performed_insertEvent {db : Database F} {event : RawEvent} {answer : Answer}
    {statement : Statement F} (h : statement ∈ db.performed (.insertEvent event answer)) :
    event.timestampNs.toNat < 2 ^ 63 ∧ statement = .insertEvent (eventRow event) :=
  insertEventStatement_eq_ok_iff.mp (mem_succeeded (performed_subset _ _ h))

theorem mem_performed_insertSnapshot {db : Database F} {snapshot : StateSnapshot F}
    {answer : Answer} {statement : Statement F}
    (h : statement ∈ db.performed (.insertSnapshot snapshot answer)) :
    snapshot.timestampUs.toNat < 2 ^ 63 ∧
      statement = .insertSnapshot (snapshotRow snapshot) :=
  insertSnapshotStatement_eq_ok_iff.mp (mem_succeeded (performed_subset _ _ h))

theorem succeeded_of_not_fails {statement : Except SqliteError (Statement F)}
    {answer : Answer} (h : statementFails statement answer = false) :
    ∃ bound, statement = .ok bound ∧ succeeded statement answer = some bound := by
  obtain ⟨bound, rfl, _⟩ := execute_of_not_fails { events := [], snapshots := [] } h
  cases answer with
  | none => exact ⟨bound, rfl, rfl⟩
  | some error => cases h

theorem performed_insertEvent {db : Database F} {event : RawEvent} {answer : Answer}
    (hconn : db.conn.isSome = true)
    (hsucceeds : (Call.insertEvent event answer : Call F).fails = false) :
    db.performed (.insertEvent event answer) = [.insertEvent (eventRow event)] := by
  obtain ⟨conn, hconn⟩ := Option.isSome_iff_exists.mp hconn
  obtain ⟨bound, hbound, hsucceeded⟩ := succeeded_of_not_fails hsucceeds
  obtain ⟨_, rfl⟩ := insertEventStatement_eq_ok_iff.mp hbound
  simp [Database.performed, hconn, Call.performed, hsucceeded]

theorem performed_insertSnapshot {db : Database F} {snapshot : StateSnapshot F}
    {answer : Answer} (hconn : db.conn.isSome = true)
    (hsucceeds : (Call.insertSnapshot snapshot answer).fails = false) :
    db.performed (.insertSnapshot snapshot answer) =
      [.insertSnapshot (snapshotRow snapshot)] := by
  obtain ⟨conn, hconn⟩ := Option.isSome_iff_exists.mp hconn
  obtain ⟨bound, hbound, hsucceeded⟩ := succeeded_of_not_fails hsucceeds
  obtain ⟨_, rfl⟩ := insertSnapshotStatement_eq_ok_iff.mp hbound
  simp [Database.performed, hconn, Call.performed, hsucceeded]

theorem not_fails_insertEvent {event : RawEvent} (hfits : event.timestampNs.toNat < 2 ^ 63) :
    (Call.insertEvent event none : Call F).fails = false := by
  rw [Call.fails, insertEventStatement_eq_ok_iff.mpr ⟨hfits, rfl⟩]
  rfl

theorem not_fails_insertSnapshot {snapshot : StateSnapshot F}
    (hfits : snapshot.timestampUs.toNat < 2 ^ 63) :
    (Call.insertSnapshot snapshot none).fails = false := by
  rw [Call.fails, insertSnapshotStatement_eq_ok_iff.mpr ⟨hfits, rfl⟩]
  rfl

end Statements

/-! ## Deletions -/

section Deletions

variable {F : Type}

/-- Statements insert nothing. -/
def OnlyDeletes (statements : List (Statement F)) : Prop :=
  ∀ statement ∈ statements,
    (∀ row, statement ≠ .insertEvent row) ∧ ∀ row, statement ≠ .insertSnapshot row

theorem bind_eq_ok_iff {ε α β : Type} {first : Except ε α} {next : α → Except ε β} {b : β} :
    (first >>= next) = .ok b ↔ ∃ a, first = .ok a ∧ next a = .ok b := by
  cases first with
  | error error =>
      constructor
      · intro h
        cases h
      · rintro ⟨a, h, _⟩
        cases h
  | ok a =>
      constructor
      · intro h
        exact ⟨a, rfl, h⟩
      · rintro ⟨_, h, hnext⟩
        cases h
        exact hnext

theorem onlyDeletes_purge (retention : Duration) (now : SystemTime)
    (events snapshots : Answer) :
    OnlyDeletes (Call.performed (F := F) (.purgeOlderThan retention now events snapshots)) := by
  intro statement hmem
  rcases mem_succeededBoth hmem with h | h
  · have hbound := mem_succeeded (Option.mem_toList.mpr h)
    obtain ⟨cutoff, _, hpure⟩ := bind_eq_ok_iff.mp hbound
    obtain rfl := Except.ok.inj hpure
    exact ⟨nofun, nofun⟩
  · have hbound := mem_succeeded (Option.mem_toList.mpr h)
    obtain ⟨cutoff, _, hpure⟩ := bind_eq_ok_iff.mp hbound
    obtain rfl := Except.ok.inj hpure
    exact ⟨nofun, nofun⟩

theorem onlyDeletes_wipe (events snapshots : Answer) :
    OnlyDeletes (Call.performed (F := F) (.wipe events snapshots)) := by
  intro statement hmem
  rcases mem_succeededBoth hmem with h | h
  · obtain rfl := Except.ok.inj (mem_succeeded (Option.mem_toList.mpr h))
    exact ⟨nofun, nofun⟩
  · obtain rfl := Except.ok.inj (mem_succeeded (Option.mem_toList.mpr h))
    exact ⟨nofun, nofun⟩

end Deletions

/-- An empty database with a working connection. -/
def emptyDb : Database Ieee where
  conn := some .sqlite
  file := { events := [], snapshots := [] }

/-! ## What a step moves -/

/-- What a step does to the events and snapshots on their way into the database. -/
inductive Movement (F : Type) where
  | stay
  /-- The consumer has received an event and spawns its insertion. -/
  | receive (event : RawEvent)
  /-- The channel accepts a snapshot. -/
  | accept (snapshot : StateSnapshot F)
  /-- A spawned insertion runs, and these statements take effect. -/
  | insertEvent (position : ℕ) (statements : List (Statement F))
  /-- The oldest waiting snapshot is inserted. -/
  | insertSnapshot (statements : List (Statement F))
  /-- Nobody receives the waiting snapshots any more. -/
  | drop
  /-- Rows are deleted. -/
  | delete (statements : List (Statement F))

namespace Tapped

variable {F : Type}

/-- The snapshots that the channel has accepted and that will still be inserted, oldest
first. -/
def waiting (tapped : Tapped F) : List (StateSnapshot F) :=
  tapped.writing.toList ++
    match tapped.dbTx with
    | none => []
    | some channel => if channel.receiverGone then [] else channel.queue

/-- The call on the database that a step makes. -/
def call? : Tapped F × TappedLabel → Option (Call F)
  | (tapped, .insertEvent position answer) =>
      tapped.spawned[position]?.map fun event => .insertEvent event answer
  | (tapped, .insertSnapshot answer) =>
      tapped.writing.map fun snapshot => .insertSnapshot snapshot answer
  | (_, .purge retention now events snapshots) =>
      some (.purgeOlderThan retention now events snapshots)
  | (_, .wipe events snapshots) => some (.wipe events snapshots)
  | _ => none

/-- The movement of a step. -/
def movement : Tapped F × TappedLabel → Movement F
  | (_, .receive (some event)) => .receive event
  | (tapped, .tap) =>
      match tapped.pc, tapped.dbTx with
      | .tapping snapshot, some channel =>
          if (channel.trySend snapshot).1 = .ok then .accept snapshot else .stay
      | _, _ => .stay
  | (tapped, .insertEvent position answer) =>
      match tapped.spawned[position]? with
      | none => .stay
      | some event => .insertEvent position (tapped.db.performed (.insertEvent event answer))
  | (tapped, .insertSnapshot answer) =>
      match tapped.writing with
      | none => .stay
      | some snapshot => .insertSnapshot (tapped.db.performed (.insertSnapshot snapshot answer))
  | (_, .closeSnapshots) => .drop
  | (tapped, .purge retention now events snapshots) =>
      .delete (tapped.db.performed (.purgeOlderThan retention now events snapshots))
  | (tapped, .wipe events snapshots) =>
      .delete (tapped.db.performed (.wipe events snapshots))
  | _ => .stay

theorem movement_ne_drop {tapped : Tapped F} {label : TappedLabel}
    (h : label ≠ .closeSnapshots) : movement (tapped, label) ≠ .drop := by
  intro hdrop
  unfold movement at hdrop
  split at hdrop
  · cases hdrop
  · split at hdrop
    · split at hdrop <;> cases hdrop
    · cases hdrop
  · split at hdrop <;> cases hdrop
  · split at hdrop <;> cases hdrop
  · rename_i heq
    exact h (congrArg Prod.snd heq)
  · cases hdrop
  · cases hdrop
  · cases hdrop

/-- Everything a step can do to storage, with the call that it makes. -/
inductive Stores (tapped next : Tapped F) : Option (Call F) → Movement F → Prop
  | stay (hspawned : next.spawned = tapped.spawned)
      (hwaiting : next.waiting = tapped.waiting) (hdb : next.db = tapped.db) :
      Stores tapped next none .stay
  | receive (event : RawEvent) (hspawned : next.spawned = tapped.spawned ++ [event])
      (hwaiting : next.waiting = tapped.waiting) (hdb : next.db = tapped.db) :
      Stores tapped next none (.receive event)
  | accept (snapshot : StateSnapshot F) (hspawned : next.spawned = tapped.spawned)
      (hwaiting : next.waiting = tapped.waiting ++ [snapshot]) (hdb : next.db = tapped.db) :
      Stores tapped next none (.accept snapshot)
  | insertEvent (position : ℕ) (event : RawEvent) (answer : Answer)
      (hevent : tapped.spawned[position]? = some event)
      (hspawned : next.spawned = tapped.spawned.eraseIdx position)
      (hwaiting : next.waiting = tapped.waiting)
      (hdb : next.db = tapped.db.after (.insertEvent event answer)) :
      Stores tapped next (some (.insertEvent event answer))
        (.insertEvent position (tapped.db.performed (.insertEvent event answer)))
  | insertSnapshot (snapshot : StateSnapshot F) (answer : Answer)
      (hspawned : next.spawned = tapped.spawned)
      (hwaiting : tapped.waiting = snapshot :: next.waiting)
      (hdb : next.db = tapped.db.after (.insertSnapshot snapshot answer)) :
      Stores tapped next (some (.insertSnapshot snapshot answer))
        (.insertSnapshot (tapped.db.performed (.insertSnapshot snapshot answer)))
  | drop (hspawned : next.spawned = tapped.spawned) (hwaiting : next.waiting = [])
      (hdb : next.db = tapped.db) : Stores tapped next none .drop
  | delete (call : Call F) (hdeletes : OnlyDeletes call.performed)
      (hspawned : next.spawned = tapped.spawned) (hwaiting : next.waiting = tapped.waiting)
      (hdb : next.db = tapped.db.after call) :
      Stores tapped next (some call) (.delete (tapped.db.performed call))

variable {tapped next : Tapped F} {label : TappedLabel}

theorem waiting_stopAggregator (tapped : Tapped F) :
    tapped.stopAggregator.waiting = tapped.waiting := by
  unfold waiting stopAggregator
  cases tapped.dbTx <;> rfl

theorem stores_receive {maybeEvent : Option RawEvent}
    (taken : tapped.receive maybeEvent = some next) :
    Stores tapped next (call? (tapped, .receive maybeEvent))
      (movement (tapped, .receive maybeEvent)) := by
  unfold receive at taken
  split at taken
  · cases taken
  · rename_i consumer inserted hreceived
    cases taken
    unfold RingbufConsumer.received at hreceived
    split at hreceived
    · cases hreceived
      exact .receive _ rfl rfl rfl
    · cases hreceived
      exact .stay (List.append_nil _) rfl rfl
    · cases hreceived

/-- A snapshot that the channel accepts will be inserted after those before it. -/
theorem stores_tap (taken : tapped.tap = some next) :
    Stores tapped next (call? (tapped, .tap)) (movement (tapped, .tap)) := by
  unfold tap at taken
  split at taken
  · rename_i snapshot hpc
    cases taken
    cases hdbTx : tapped.dbTx with
    | none =>
        simp only [movement, call?, hpc, hdbTx]
        exact .stay rfl (by simp [waiting, hdbTx]) rfl
    | some channel =>
        rcases hsend : channel.trySend snapshot with ⟨answer, after⟩
        obtain ⟨rfl, hopen, _, hqueue, hafter, _⟩ | ⟨rfl, _, _, rfl⟩ | ⟨rfl, _, rfl⟩ :=
          Channel.trySend_cases hsend
        · simp only [movement, call?, hpc, hdbTx, hsend, if_true]
          exact .accept snapshot rfl
            (by simp [waiting, hdbTx, hsend, hopen, hqueue, hafter]) rfl
        · simp only [movement, call?, hpc, hdbTx, hsend, reduceCtorEq, if_false]
          exact .stay rfl (by simp [waiting, hdbTx, hsend]) rfl
        · simp only [movement, call?, hpc, hdbTx, hsend, reduceCtorEq, if_false]
          exact .stay rfl (by simp [waiting, hdbTx, hsend]) rfl
  · cases taken

/-- A snapshot in the hands of the writer is still waiting. -/
theorem stores_takeSnapshot (taken : tapped.takeSnapshot = some next) :
    Stores tapped next none .stay := by
  unfold takeSnapshot at taken
  split at taken
  · rename_i channel hwriting hdbTx
    split at taken
    · cases taken
    · rename_i hopen
      split at taken
      · rename_i snapshot rest hrecv
        obtain ⟨hqueue, hgone, _⟩ := Channel.recv_item hrecv
        cases taken
        exact .stay rfl (by simp [waiting, hwriting, hdbTx, hqueue, hgone, hopen]) rfl
      · rename_i hrecv
        cases taken
        have hempty : channel.queue = [] := by
          unfold Channel.recv at hrecv
          split at hrecv
          · cases hrecv
          · assumption
        exact .stay rfl (by simp [waiting, hwriting, hdbTx, hempty]) rfl
      · cases taken
  · cases taken

theorem Stores.conn_eq_none {call : Option (Call F)} {movement : Movement F}
    (stores : Stores tapped next call movement) (h : tapped.db.conn = none) :
    next.db.conn = none := by
  have hafter : ∀ call, (tapped.db.after call).conn = none := by
    intro call
    rw [Database.after_conn, h]
    split <;> rfl
  cases stores with
  | stay hspawned hwaiting hdb => rw [hdb, h]
  | receive event hspawned hwaiting hdb => rw [hdb, h]
  | accept snapshot hspawned hwaiting hdb => rw [hdb, h]
  | insertEvent position event answer hevent hspawned hwaiting hdb => rw [hdb, hafter]
  | insertSnapshot snapshot answer hspawned hwaiting hdb => rw [hdb, hafter]
  | drop hspawned hwaiting hdb => rw [hdb, h]
  | delete call hdeletes hspawned hwaiting hdb => rw [hdb, hafter]

variable [Float64 F]

/-- Every step does one of these. -/
theorem stores_of_step (taken : tapped.step label = some next) :
    Stores tapped next (call? (tapped, label)) (movement (tapped, label)) := by
  cases label with
  | receive maybeEvent => exact stores_receive taken
  | forward answer =>
      simp only [step, forward] at taken
      split at taken
      · cases taken
      · cases taken
        exact .stay rfl rfl rfl
  | aggregate maybeEvent =>
      simp only [step, aggregate] at taken
      split at taken
      · cases taken
        exact .stay rfl rfl rfl
      · cases taken
        exact .stay rfl (waiting_stopAggregator tapped) rfl
      · cases taken
  | tick nowUs lostEventsDelta =>
      simp only [step, tick] at taken
      split at taken
      · split at taken
        · cases taken
        · cases taken
          exact .stay rfl rfl rfl
      · cases taken
  | publish =>
      simp only [step, publish] at taken
      split at taken
      · cases taken
        exact .stay rfl rfl rfl
      · cases taken
  | offer answer =>
      simp only [step, offer] at taken
      split at taken
      · cases taken
        exact .stay rfl (waiting_stopAggregator tapped) rfl
      · cases taken
        exact .stay rfl rfl rfl
      · cases taken
  | tap => exact stores_tap taken
  | insertEvent position answer =>
      simp only [step, insertEvent] at taken
      split at taken
      · cases taken
      · rename_i event hevent
        cases taken
        simp only [movement, call?, hevent]
        exact .insertEvent position event answer hevent rfl rfl rfl
  | takeSnapshot => exact stores_takeSnapshot taken
  | insertSnapshot answer =>
      simp only [step, insertSnapshot] at taken
      split at taken
      · cases taken
      · rename_i snapshot hwriting
        cases taken
        simp only [movement, call?, hwriting]
        exact .insertSnapshot snapshot answer rfl (by simp [waiting, hwriting]) rfl
  | closeSnapshots =>
      cases taken
      exact .drop rfl (by cases tapped.dbTx <;> simp [waiting]) rfl
  | purge retention now events snapshots =>
      cases taken
      exact .delete _ (onlyDeletes_purge retention now events snapshots) rfl rfl rfl
  | wipe events snapshots =>
      cases taken
      exact .delete _ (onlyDeletes_wipe events snapshots) rfl rfl rfl

end Tapped

end DaemonChoir.Conductor
