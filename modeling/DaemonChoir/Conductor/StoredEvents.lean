import DaemonChoir.Common.Serde
import DaemonChoir.Conductor.Shutdown
set_option autoImplicit false

/-!
# Conductor: what the table of events says (`conductor/src/db.rs`)

An event is stored as the name of its probe, its timestamp and the JSON text of its payload.
A reader of the table gets back the events that the consumer has received, each from one row
at most, and no others but those that were in the file before.
-/

namespace DaemonChoir.Conductor

open DaemonChoir.Common DaemonChoir.Foundation

/-! ## One row -/

/-- The probe that a text names. -/
def probeOfString (text : String) : Option ProbeId :=
  if text = "cpu_sched" then some .cpuSched
  else if text = "mem_pressure" then some .memPressure
  else if text = "net_io" then some .netIo
  else if text = "proc_lifecycle" then some .procLifecycle
  else none

/-- What a reader makes of a row. -/
def eventOfRow (row : EventRow) : Option RawEvent := do
  let probe ← probeOfString row.probe
  let payload ← (Json.ofText row.payload).bind EventPayload.ofValue
  if 0 ≤ row.timestampNs then
    return { probe := probe, timestampNs := UInt64.ofNat row.timestampNs.toNat, payload := payload }
  else none

theorem probeOfString_toString (probe : ProbeId) : probeOfString probe.toString = some probe := by
  cases probe <;> rfl

theorem eventOfRow_eventRow (event : RawEvent) : eventOfRow (eventRow event) = some event := by
  simp [eventOfRow, eventRow, probeOfString_toString, EventPayload.read_toJson]

/-! ## All rows -/

/-- The event that a step brings to the consumer. -/
def arrival {F : Type} : Tapped F × TappedLabel → Option RawEvent
  | (_, .receive (some event)) => some event
  | _ => none

namespace Ledger

variable {F : Type} {ledger : Ledger F} {tapped next : Tapped F} {call : Option (Call F)}
  {movement : Movement F}

/-- The event that a movement receives. -/
def arrived : Movement F → Option RawEvent
  | .receive event => some event
  | _ => none

theorem received_move (ledger : Ledger F) (movement : Movement F) :
    (ledger.move movement).received = ledger.received ++ (arrived movement).toList := by
  cases movement with
  | receive event => rfl
  | insertEvent position statements =>
      exact (perform_received _ _ _).trans (List.append_nil _).symm
  | insertSnapshot statements => exact (perform_received _ _ _).trans (List.append_nil _).symm
  | delete statements => exact (perform_received _ _ _).trans (List.append_nil _).symm
  | _ => exact (List.append_nil _).symm

theorem arrival_of_movement (visit : Tapped F × TappedLabel) :
    arrived (Tapped.movement visit) = arrival visit := by
  obtain ⟨tapped, label⟩ := visit
  cases label with
  | receive maybeEvent => cases maybeEvent <;> rfl
  | tap =>
      simp only [Tapped.movement]
      split
      · split <;> rfl
      · rfl
  | insertEvent position answer =>
      simp only [Tapped.movement]
      split <;> rfl
  | insertSnapshot answer =>
      simp only [Tapped.movement]
      split <;> rfl
  | _ => rfl

/-- Every number is given to one event, and stands for one insertion on its way, one row, or
one deleted row. -/
def Once (ledger : Ledger F) : Prop :=
  (ledger.spawned.map Tagged.origin ++ ledger.events.numbers).Subperm
    (List.range ledger.received.length)

theorem numbers_of_no_event {origin : Option ℕ} {statements : List (Statement F)}
    (h : ∀ row, .insertEvent row ∉ statements) :
    (ledger.perform origin statements).events.numbers.Perm ledger.events.numbers := by
  induction statements generalizing ledger with
  | nil => exact .refl _
  | cons statement statements ih =>
      have hrest : ∀ row, .insertEvent row ∉ statements :=
        fun row hmem => h row (List.mem_cons_of_mem _ hmem)
      have heffect : (ledger.effect origin statement).events.numbers.Perm
          ledger.events.numbers := by
        cases statement with
        | insertEvent row => exact absurd List.mem_cons_self (h row)
        | deleteEventsBefore cutoff => exact Table.numbers_retain _ _
        | deleteEvents => exact Table.numbers_retain _ _
        | _ => exact .refl _
      rw [perform, List.foldl_cons]
      exact (ih hrest).trans heffect

theorem performed_insertEvent_cases (db : Database F) (event : RawEvent) (answer : Answer) :
    db.performed (.insertEvent event answer) = [] ∨
      db.performed (.insertEvent event answer) = [.insertEvent (eventRow event)] := by
  unfold Database.performed
  split
  · exact .inl rfl
  · simp only [Call.performed]
    cases hsucceeded : succeeded (Database.insertEventStatement event) answer with
    | none => exact .inl rfl
    | some statement =>
        have hmem : statement ∈ (succeeded (Database.insertEventStatement event) answer).toList := by
          simp [hsucceeded]
        obtain ⟨_, rfl⟩ := insertEventStatement_eq_ok_iff.mp (mem_succeeded hmem)
        exact .inr rfl

/-- Every step keeps the numbers apart. -/
theorem Once.move (once : ledger.Once) (agrees : ledger.Agrees tapped)
    (stores : Tapped.Stores tapped next call movement) : (ledger.move movement).Once := by
  have hkeep : ∀ after : Ledger F, after.received = ledger.received →
      after.spawned = ledger.spawned → after.events.numbers.Perm ledger.events.numbers →
      after.Once := by
    intro after hreceived hspawned hnumbers
    rw [Once, hreceived, hspawned]
    exact (hnumbers.append_left _).subperm.trans once
  cases stores with
  | stay => exact once
  | receive event hspawned hwaiting hdb =>
      have hnext := List.Subperm.append once (List.Subperm.refl [ledger.received.length])
      rw [← List.range_succ] at hnext
      simp only [Ledger.move, Once, List.map_append, List.map_singleton, List.length_append,
        List.length_singleton]
      refine List.Perm.subperm ?_ |>.trans hnext
      rw [List.append_assoc, List.append_assoc]
      exact (List.perm_append_comm).append_left _
  | accept snapshot hspawned hwaiting hdb => exact hkeep _ rfl rfl (.refl _)
  | insertEvent position event answer hevent hspawned hwaiting hdb =>
      obtain ⟨origin, hledger⟩ := agrees.getElem?_spawned hevent
      obtain ⟨hlt, heq⟩ := List.getElem?_eq_some_iff.mp hledger
      have htaken := (List.getElem_cons_eraseIdx_perm hlt).map Tagged.origin
      rw [heq, List.map_cons] at htaken
      have hmoved : (origin :: ((ledger.spawned.eraseIdx position).map Tagged.origin ++
          ledger.events.numbers)).Subperm (List.range ledger.received.length) :=
        (htaken.append_right _).subperm.trans once
      rcases performed_insertEvent_cases tapped.db event answer with hnone | hrow
      · rw [hnone]
        simp only [Ledger.move, Once, perform, List.foldl_nil]
        exact (List.sublist_cons_self _ _).subperm.trans hmoved
      · rw [hrow]
        simp only [Ledger.move, Once, hledger, Option.map_some, perform, List.foldl_cons,
          List.foldl_nil, effect]
        refine List.Perm.subperm ?_ |>.trans hmoved
        exact ((Table.numbers_append _ origin _).append_left _).trans List.perm_middle
  | insertSnapshot snapshot answer hspawned hwaiting hdb =>
      refine hkeep _ (perform_received _ _ _) (perform_spawned _ _ _) (numbers_of_no_event ?_)
      intro row hmem
      have hrow := (mem_performed_insertSnapshot hmem).2
      cases hrow
  | drop hspawned hwaiting hdb => exact hkeep _ rfl rfl (.refl _)
  | delete made hdeletes hspawned hwaiting hdb =>
      refine hkeep _ (perform_received _ _ _) (perform_spawned _ _ _) (numbers_of_no_event ?_)
      intro row hmem
      exact (hdeletes _ (performed_subset _ _ hmem)).1 row rfl

/-- A row without a number was there before. -/
theorem old_of_move {file : DbFile F} (agrees : ledger.Agrees tapped)
    (stores : Tapped.Stores tapped next call movement)
    (hold : ∀ row, (none, row) ∈ ledger.events.rows → row ∈ file.events) {row : EventRow}
    (hmem : (none, row) ∈ (ledger.move movement).events.rows) : row ∈ file.events := by
  cases stores with
  | stay => exact hold row hmem
  | receive event hspawned hwaiting hdb => exact hold row hmem
  | accept snapshot hspawned hwaiting hdb => exact hold row hmem
  | drop hspawned hwaiting hdb => exact hold row hmem
  | insertEvent position event answer hevent hspawned hwaiting hdb =>
      obtain ⟨origin, hledger⟩ := agrees.getElem?_spawned hevent
      rcases mem_perform_events hmem with hmem | ⟨inserted, _, heq⟩
      · exact hold row hmem
      · rw [hledger] at heq
        cases heq
  | insertSnapshot snapshot answer hspawned hwaiting hdb =>
      rcases mem_perform_events hmem with hmem | ⟨inserted, hinserted, _⟩
      · exact hold row hmem
      · have hrow := (mem_performed_insertSnapshot hinserted).2
        cases hrow
  | delete made hdeletes hspawned hwaiting hdb =>
      rcases mem_perform_events hmem with hmem | ⟨inserted, hinserted, _⟩
      · exact hold row hmem
      · exact absurd rfl ((hdeletes _ (performed_subset _ _ hinserted)).1 inserted)

variable [Float64 F] {windowMs : UInt64} {db : Database F}
  {trace : List (Tapped F × TappedLabel)} {final : Tapped F}

omit [Float64 F] in
theorem received_after (file : DbFile F) (trace : List (Tapped F × TappedLabel)) :
    (after file trace).received = trace.filterMap arrival := by
  induction trace using List.reverseRecOn with
  | nil => rfl
  | append_singleton trace visit ih =>
      rw [after_append_singleton, received_move, arrival_of_movement, ih, List.filterMap_append]
      cases hvisit : arrival visit with
      | none => simp [hvisit]
      | some event => simp [hvisit]

/-- The numbers of a run are apart, and rows without one are old. -/
theorem once_of_run
    (run : Run Tapped.step (Tapped.started windowMs db (some (.empty _ _))) trace final) :
    (after db.file trace).Once ∧
      ∀ row, (none, row) ∈ (after db.file trace).events.rows → row ∈ db.file.events := by
  induction run with
  | nil =>
      refine ⟨by simp [after, follow, opened, Once], ?_⟩
      intro row hmem
      simpa [after, follow, opened, Table.ofRows] using hmem
  | @snoc history tapped next label run taken ih =>
      obtain ⟨agrees, _⟩ := after_run run
      have stores := Tapped.stores_of_step taken
      rw [after_append_singleton]
      exact ⟨ih.1.move agrees stores, fun _ => old_of_move agrees stores ih.2⟩

/-- Whoever reads the table of events, at any time, finds in each row that was not there
before an event that has arrived at the consumer, with every field as it was; and no two rows
are of the same arrival. -/
theorem events_read_back
    (run : Run Tapped.step (Tapped.started windowMs db (some (.empty _ _))) trace final) :
    ∃ rows : List (Option ℕ × EventRow), rows.map Prod.snd = final.db.file.events ∧
      (rows.filterMap Prod.fst).Nodup ∧
      (∀ row, (none, row) ∈ rows → row ∈ db.file.events) ∧
      ∀ number row, (some number, row) ∈ rows →
        ∃ event, (trace.filterMap arrival)[number]? = some event ∧
          eventOfRow row = some event := by
  obtain ⟨agrees, numbered⟩ := after_run run
  obtain ⟨once, hold⟩ := once_of_run run
  refine ⟨(after db.file trace).events.rows, congrArg DbFile.events agrees.file, ?_, hold, ?_⟩
  · obtain ⟨apart, hperm, hsub⟩ := once
    have hnodup := hperm.nodup_iff.mp (List.nodup_range.sublist hsub)
    have hnumbers : ((after db.file trace).events.rows.filterMap Prod.fst).Sublist
        ((after db.file trace).spawned.map Tagged.origin ++
          (after db.file trace).events.numbers) :=
      (List.sublist_append_right _ _).trans (List.sublist_append_right _ _)
    exact hnodup.sublist hnumbers
  · intro number row hmem
    obtain ⟨event, hevent, rfl⟩ := numbered.events number row hmem
    rw [received_after] at hevent
    exact ⟨event, hevent, eventOfRow_eventRow event⟩

/-- An event arrives and is inserted: the only row says what it was. -/
theorem events_read_back_inserted :
    ∃ trace final row, Run Tapped.step
        (Tapped.started 50 emptyDb (some (.empty dbSnapshotCapacity (StateSnapshot Ieee))))
        trace final ∧
      final.db.file.events = [row] ∧ eventOfRow row = some Tapped.sentEvent := by
  have run : Run Tapped.step
      (Tapped.started 50 emptyDb (some (.empty dbSnapshotCapacity (StateSnapshot Ieee)))) _ _ :=
    execute_sound [.receive (some Tapped.sentEvent), .insertEvent 0 none] rfl
  refine ⟨_, _, eventRow Tapped.sentEvent, run, rfl, ?_⟩
  obtain ⟨rows, hrows, _, hold, hnew⟩ := events_read_back run
  have hfile : rows.map Prod.snd = [eventRow Tapped.sentEvent] := hrows
  obtain ⟨⟨origin, row⟩, rfl, rfl⟩ := List.map_eq_singleton_iff.mp hfile
  cases origin with
  | none => exact absurd (hold _ (List.mem_singleton_self _)) List.not_mem_nil
  | some number =>
      obtain ⟨event, hevent, hread⟩ := hnew number _ (List.mem_singleton_self _)
      have harrived : event = Tapped.sentEvent :=
        List.mem_singleton.mp (List.mem_of_getElem? hevent)
      rw [hread, harrived]

end Ledger

end DaemonChoir.Conductor
