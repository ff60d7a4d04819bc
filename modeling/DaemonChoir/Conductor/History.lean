import DaemonChoir.Conductor.Storage
import DaemonChoir.Foundation.Log
set_option autoImplicit false

/-!
# Conductor: what the tables keep

As long as no statement fails, the two tables are what the log of all calls makes of them: the
rows in the order in which they were inserted, less those that a later wipe took, or a later
purge found too old.  No interleaving of the loops, the spawned insertions, the writer, the
purge task and the handlers loses a row in any other way, or doubles one.
-/

namespace DaemonChoir.Conductor

open DaemonChoir.Common DaemonChoir.Foundation LogEntry

/-! ## One call -/

section Calls

variable {F : Type}

/-- What a call means to the table of events. -/
def Call.onEvents : Call F → LogEntry EventRow
  | .insertEvent event _ => { made := some (eventRow event), keeps := fun _ => true }
  | .insertSnapshot _ _ => { made := none, keeps := fun _ => true }
  | .purgeOlderThan retention now _ _ =>
      { made := none
        keeps := fun row =>
          !decide (row.timestampNs < ((Database.cutoffNs retention now).toNat : Int)) }
  | .wipe _ _ => { made := none, keeps := fun _ => false }

/-- What a call means to the table of snapshots. -/
def Call.onSnapshots : Call F → LogEntry (SnapshotRow F)
  | .insertEvent _ _ => { made := none, keeps := fun _ => true }
  | .insertSnapshot snapshot _ =>
      { made := some (snapshotRow snapshot), keeps := fun _ => true }
  | .purgeOlderThan retention now _ _ =>
      { made := none
        keeps := fun row =>
          !decide (row.timestampUs < ((Database.cutoffUs retention now).toNat : Int)) }
  | .wipe _ _ => { made := none, keeps := fun _ => false }

theorem bindU64_eq_ok {value : UInt64} {bound : Int} (h : bindU64 value = .ok bound) :
    bound = value.toNat := by
  unfold bindU64 at h
  split at h
  · exact (Except.ok.inj h).symm
  · cases h

theorem performed_purge {db : Database F} {retention : Duration} {now : SystemTime}
    {events snapshots : Answer} (hconn : db.conn.isSome = true)
    (hsucceeds :
      (Call.purgeOlderThan retention now events snapshots : Call F).fails = false) :
    db.performed (.purgeOlderThan retention now events snapshots) =
      [.deleteEventsBefore (Database.cutoffNs retention now).toNat,
        .deleteSnapshotsBefore (Database.cutoffUs retention now).toNat] := by
  obtain ⟨conn, hconn⟩ := Option.isSome_iff_exists.mp hconn
  obtain ⟨hevents, hsnapshots⟩ := Bool.or_eq_false_iff.mp hsucceeds
  obtain ⟨first, hfirst, hfirstDone⟩ := succeeded_of_not_fails hevents
  obtain ⟨second, hsecond, hsecondDone⟩ := succeeded_of_not_fails hsnapshots
  obtain ⟨cutoffNs, hns, hfirstPure⟩ := bind_eq_ok_iff.mp hfirst
  obtain ⟨cutoffUs, hus, hsecondPure⟩ := bind_eq_ok_iff.mp hsecond
  obtain rfl := Except.ok.inj hfirstPure
  obtain rfl := Except.ok.inj hsecondPure
  obtain rfl := bindU64_eq_ok hns
  obtain rfl := bindU64_eq_ok hus
  simp [Database.performed, hconn, Call.performed, hfirstDone, hsecondDone, succeededBoth]

theorem performed_wipe_of_not_fails {db : Database F} {events snapshots : Answer}
    (hconn : db.conn.isSome = true)
    (hsucceeds : (Call.wipe events snapshots : Call F).fails = false) :
    db.performed (.wipe events snapshots) = [.deleteEvents, .deleteSnapshots] := by
  obtain ⟨conn, hconn⟩ := Option.isSome_iff_exists.mp hconn
  obtain ⟨hevents, hsnapshots⟩ := Bool.or_eq_false_iff.mp hsucceeds
  rw [Option.isSome_eq_false_iff, Option.isNone_iff_eq_none] at hevents hsnapshots
  simp [Database.performed, hconn, Call.performed, hevents, hsnapshots, succeeded,
    succeededBoth]

/-- A call that leaves the connection open does to the tables what its entries say. -/
theorem after_tables {db : Database F} {call : Call F}
    (hopen : (db.after call).conn.isSome = true) :
    (db.after call).file.events = call.onEvents.apply db.file.events ∧
      (db.after call).file.snapshots = call.onSnapshots.apply db.file.snapshots := by
  rw [Database.after_conn] at hopen
  split at hopen
  · cases hopen
  · rename_i hfails
    have hsucceeds : call.fails = false := Bool.eq_false_iff.mpr hfails
    rw [Database.after_file]
    cases call with
    | insertEvent event answer =>
        rw [performed_insertEvent hopen hsucceeds]
        simp [Statement.effect, Call.onEvents, Call.onSnapshots, apply]
    | insertSnapshot snapshot answer =>
        rw [performed_insertSnapshot hopen hsucceeds]
        simp [Statement.effect, Call.onEvents, Call.onSnapshots, apply]
    | purgeOlderThan retention now events snapshots =>
        rw [performed_purge hopen hsucceeds]
        simp [Statement.effect, Call.onEvents, Call.onSnapshots, apply]
    | wipe events snapshots =>
        rw [performed_wipe_of_not_fails hopen hsucceeds]
        simp [Statement.effect, Call.onEvents, Call.onSnapshots, apply]

end Calls

/-! ## All calls of a run -/

namespace Tapped

variable {F : Type} [Float64 F] {tapped next start final : Tapped F} {label : TappedLabel}
  {trace : List (Tapped F × TappedLabel)}

theorem db_of_step (taken : tapped.step label = some next) :
    next.db = ((call? (tapped, label)).map tapped.db.after).getD tapped.db := by
  have stores := stores_of_step taken
  generalize call? (tapped, label) = call, movement (tapped, label) = moved at stores ⊢
  cases stores with
  | stay _ _ hdb => exact hdb
  | receive event _ _ hdb => exact hdb
  | accept snapshot _ _ hdb => exact hdb
  | insertEvent position event answer _ _ _ hdb => exact hdb
  | insertSnapshot snapshot answer _ _ hdb => exact hdb
  | drop _ _ hdb => exact hdb
  | delete call _ _ _ hdb => exact hdb

theorem conn_isSome_of_step (taken : tapped.step label = some next)
    (hopen : next.db.conn.isSome = true) : tapped.db.conn.isSome = true := by
  by_contra hclosed
  have hnone := (stores_of_step taken).conn_eq_none (Option.not_isSome_iff_eq_none.mp hclosed)
  rw [hnone] at hopen
  cases hopen

/-- A table on which each call acts by its entry is the outcome of all entries, as long as the
connection is open. -/
theorem table_of_run {ρ : Type} (table : DbFile F → List ρ) (entry : Call F → LogEntry ρ)
    (acts : ∀ {db : Database F} {call : Call F}, (db.after call).conn.isSome = true →
      table (db.after call).file = (entry call).apply (table db.file))
    (run : Run step start trace final) (hopen : final.db.conn.isSome = true) :
    table final.db.file =
      outcome (table start.db.file) ((trace.filterMap call?).map entry) := by
  rw [List.map_filterMap]
  refine run.table_eq_outcome (fun tapped => table tapped.db.file)
    (fun visit => (call? visit).map entry) (fun tapped => tapped.db.conn.isSome = true)
    conn_isSome_of_step ?_ hopen
  intro before after label taken hafter
  have hdb := db_of_step taken
  cases hcall : call? (before, label) with
  | none =>
      rw [hcall] at hdb
      rw [hdb]
      rfl
  | some call =>
      rw [hcall] at hdb
      rw [hdb] at hafter ⊢
      exact acts hafter

/-- As long as no statement has failed, each table is what all calls up to then make of it,
row by row and in the order of the insertions: a row is missing only after a wipe, or after a
purge whose cutoff it did not reach. -/
theorem tables_kept {windowMs : UInt64} {db : Database F}
    (run : Run step (started windowMs db (some (.empty _ _))) trace final)
    (hopen : final.db.conn.isSome = true) :
    final.db.file.events =
        outcome db.file.events ((trace.filterMap call?).map Call.onEvents) ∧
      final.db.file.snapshots =
        outcome db.file.snapshots ((trace.filterMap call?).map Call.onSnapshots) :=
  ⟨table_of_run DbFile.events Call.onEvents (fun hafter => (after_tables hafter).1) run hopen,
    table_of_run DbFile.snapshots Call.onSnapshots (fun hafter => (after_tables hafter).2) run
      hopen⟩

/-- An event with a timestamp. -/
def eventAt (timestampNs : UInt64) : RawEvent :=
  { probe := .memPressure, timestampNs := timestampNs
    payload := .memPressure { pagesReclaimed := 64, zone := 1 } }

/-- An event of 1970 and one of now arrive and are inserted; then a purge keeps one day. -/
def keepOneDay : List TappedLabel :=
  [.receive (some (eventAt 5)), .forward .ok, .receive (some (eventAt 1000000000000000000)),
    .insertEvent 0 none, .insertEvent 0 none,
    .purge ⟨86400000000000⟩ ⟨1000000000000000000⟩ none none]

/-- The old row is gone, the new one is kept. -/
theorem tables_kept_day :
    ∃ trace final, Run step
        (started 50 emptyDb (some (.empty dbSnapshotCapacity (StateSnapshot Ieee)))) trace
        final ∧
      final.db.file.events = [eventRow (eventAt 1000000000000000000)] := by
  have run : Run step
      (started 50 emptyDb (some (.empty dbSnapshotCapacity (StateSnapshot Ieee)))) _ _ :=
    execute_sound keepOneDay rfl
  exact ⟨_, _, run, (tables_kept run rfl).1.trans rfl⟩

end Tapped

end DaemonChoir.Conductor
