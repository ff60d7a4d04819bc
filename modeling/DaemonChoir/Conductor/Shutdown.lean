import DaemonChoir.Conductor.ControlApi
import DaemonChoir.Conductor.Provenance
set_option autoImplicit false

/-!
# Conductor: what is stored when `main` returns (`conductor/src/main.rs`)

`main` waits for a signal or for an accepted request, sets a flag, aborts the server and
returns; it waits for no insertion.  When it returns the runtime is dropped, and no task
takes another step.

The daemon here is `Tapped` with `main` beside it.  Everything that was received has its
place in the ledger of `Provenance`, as a row, as a deleted row, as a statement that
failed or as an insertion that was never run; the state in which `main` returns decides
what is what.  The runtime drops the tasks, so the last kind is lost, and it is empty only
if nothing was waiting.
-/

namespace DaemonChoir.Conductor

open DaemonChoir.Common DaemonChoir.Foundation

/-! ## The exit of `main` -/

/-- Where `main` stands once all tasks are launched. -/
inductive MainPc where
  /-- At `tokio::select!`. -/
  | selecting
  /-- Before `probe_manager.shutdown()`. -/
  | unloading
  /-- Before `server_handle.abort()`. -/
  | aborting
  /-- Before the last log line. -/
  | leaving
  | returned
  deriving DecidableEq, Repr, Inhabited

/-- The signals that `main` waits for. -/
inductive Signal where
  | sigterm
  | sigint
  deriving DecidableEq, Repr, Inhabited

/-- `handle_shutdown`, with the channel to `main` of capacity 1; `none` while it waits for
room. -/
def handleShutdown (guard : Option String) (shutdownTx : Channel 1 Unit) :
    Option (Response × Channel 1 Unit) :=
  match guard with
  | some "shutdown" =>
      match shutdownTx.trySend () with
      | (.full, _) => none
      | (_, after) => some (⟨202, "Shutdown requested"⟩, after)
  | _ => some (⟨403, "Forbidden: Missing or invalid X-Daemon-Choir header"⟩, shutdownTx)

/-- The tasks that lead to the database, and `main`. -/
structure Daemon (F : Type) where
  tasks : Tapped F
  /-- SIGTERM or SIGINT has arrived. -/
  signalled : Bool
  shutdownTx : Channel 1 Unit
  /-- `shutdown` of `ProbeManager`. -/
  probesShutdown : Bool
  /-- The task of the server was aborted. -/
  serverAborted : Bool
  main : MainPc

/-- What happens next. -/
inductive DaemonLabel where
  /-- A task takes a step. -/
  | task (label : TappedLabel)
  | signal (signal : Signal)
  /-- A request `POST /v1/shutdown`. -/
  | requestShutdown (guard : Option String)
  /-- A branch of `tokio::select!` is ready. -/
  | select
  /-- `probe_manager.shutdown()` -/
  | unloadProbes
  /-- `server_handle.abort()` -/
  | abortServer
  /-- `main` returns. -/
  | leave

namespace Daemon

section Steps

variable {F : Type} [Float64 F]

/-- The daemon when its tasks are launched and `main` goes on to `tokio::select!`. -/
def started (windowMs : UInt64) (db : Database F) : Daemon F where
  tasks := .started windowMs db (some (.empty _ _))
  signalled := false
  shutdownTx := .empty _ _
  probesShutdown := false
  serverAborted := false
  main := .selecting

/-- One step of a task.  The task behind the snapshot channel goes only with the last
sender. -/
def stepTask (daemon : Daemon F) (label : TappedLabel) : Option (Daemon F) :=
  match label with
  | .closeSnapshots => none
  | _ => (daemon.tasks.step label).map fun tasks => { daemon with tasks := tasks }

/-- One step of the daemon; none after `main` has returned. -/
def step (daemon : Daemon F) (label : DaemonLabel) : Option (Daemon F) :=
  match daemon.main, label with
  | .returned, _ => none
  | _, .task label => daemon.stepTask label
  | _, .signal _ => some { daemon with signalled := true }
  | _, .requestShutdown guard =>
      (handleShutdown guard daemon.shutdownTx).map fun (_, after) =>
        { daemon with shutdownTx := after }
  | .selecting, .select =>
      if daemon.signalled then some { daemon with main := .unloading }
      else
        match daemon.shutdownTx.recv with
        | .item () rest => some { daemon with shutdownTx := rest, main := .unloading }
        | _ => none
  | .unloading, .unloadProbes =>
      some { daemon with probesShutdown := true, main := .aborting }
  | .aborting, .abortServer => some { daemon with serverAborted := true, main := .leaving }
  | .leaving, .leave => some { daemon with main := .returned }
  | _, _ => none

end Steps

section Ledger

variable {F : Type}

/-- The step that a task takes. -/
def taskLabel : DaemonLabel → Option TappedLabel
  | .task label => some label
  | _ => none

/-- The steps of the tasks. -/
def taskTrace (trace : List (Daemon F × DaemonLabel)) : List (Tapped F × TappedLabel) :=
  Run.project tasks taskLabel trace

/-- The ledger of a run of the daemon. -/
def ledger (db : Database F) (trace : List (Daemon F × DaemonLabel)) : Ledger F :=
  .after db.file (taskTrace trace)

/-- SIGTERM, SIGINT or an accepted request. -/
def IsTrigger : DaemonLabel → Prop
  | .signal _ => True
  | .requestShutdown guard => guard = some "shutdown"
  | _ => False

/-- Every statement of the run succeeds. -/
def Succeeds (trace : List (Daemon F × DaemonLabel)) : Prop :=
  ∀ visit ∈ taskTrace trace, ∀ call, Tapped.call? visit = some call → call.fails = false

/-- Every event and every snapshot of the first ledger has its row in the second one. -/
structure Flushed (before after : Ledger F) : Prop where
  events : ∀ number event, before.received[number]? = some event →
    (some number, eventRow event) ∈ after.events.rows
  snapshots : ∀ number snapshot, before.accepted[number]? = some snapshot →
    (some number, snapshotRow snapshot) ∈ after.snapshots.rows

/-- Of the events and snapshots of the first ledger none is still on its way in the second
one, and no row of theirs was deleted. -/
structure Finished (before after : Ledger F) : Prop where
  spawned : ∀ tagged ∈ after.spawned, before.received.length ≤ tagged.origin
  waiting : ∀ tagged ∈ after.waiting, before.accepted.length ≤ tagged.origin
  events : ∀ number, some number ∈ after.events.deleted → before.received.length ≤ number
  snapshots : ∀ number, some number ∈ after.snapshots.deleted →
    before.accepted.length ≤ number

/-- If `main` has returned, the ledgers at the first trigger and at the end are related. -/
def AtReturn (relation : Ledger F → Ledger F → Prop) (db : Database F)
    (trace : List (Daemon F × DaemonLabel)) (final : Daemon F) : Prop :=
  final.main = .returned → ∀ front trigger back, trace = front ++ trigger :: back →
    IsTrigger trigger.2 → (∀ visit ∈ front, ¬ IsTrigger visit.2) →
      relation (ledger db front) (ledger db trace)

end Ledger

end Daemon

/-! ## Nothing is lost while statements succeed -/

section Accounts

variable {F : Type}

/-- Deletions keep the numbers of both tables. -/
theorem numbers_perform (ledger : Ledger F) {statements : List (Statement F)}
    (deletes : OnlyDeletes statements) :
    (ledger.perform none statements).events.numbers.Perm ledger.events.numbers ∧
      (ledger.perform none statements).snapshots.numbers.Perm ledger.snapshots.numbers := by
  induction statements generalizing ledger with
  | nil => exact ⟨.refl _, .refl _⟩
  | cons statement statements ih =>
      obtain ⟨hevents, hsnapshots⟩ := ih (ledger.effect none statement)
        fun other hmem => deletes other (List.mem_cons_of_mem _ hmem)
      obtain ⟨hnoEvent, hnoSnapshot⟩ := deletes statement List.mem_cons_self
      have heffect : (ledger.effect none statement).events.numbers.Perm ledger.events.numbers ∧
          (ledger.effect none statement).snapshots.numbers.Perm ledger.snapshots.numbers := by
        cases statement with
        | insertEvent row => exact absurd rfl (hnoEvent row)
        | insertSnapshot row => exact absurd rfl (hnoSnapshot row)
        | deleteEventsBefore cutoff => exact ⟨Table.numbers_retain _ _, .refl _⟩
        | deleteSnapshotsBefore cutoff => exact ⟨.refl _, Table.numbers_retain _ _⟩
        | deleteEvents => exact ⟨Table.numbers_retain _ _, .refl _⟩
        | deleteSnapshots => exact ⟨.refl _, Table.numbers_retain _ _⟩
        | _ => exact ⟨.refl _, .refl _⟩
      exact ⟨hevents.trans heffect.1, hsnapshots.trans heffect.2⟩

/-- Every number is on its way, in the table, or among the deleted ones, and only one of
these. -/
structure Accounted (ledger : Ledger F) : Prop where
  events : (ledger.spawned.map Tagged.origin ++ ledger.events.numbers).Perm
    (List.range ledger.received.length)
  snapshots : (ledger.waiting.map Tagged.origin ++ ledger.snapshots.numbers).Perm
    (List.range ledger.accepted.length)

theorem accounted_opened (file : DbFile F) : Accounted (.opened file) where
  events := by simp [Ledger.opened]
  snapshots := by simp [Ledger.opened]

theorem perm_range_succ {front back : List ℕ} {count : ℕ}
    (h : (front ++ back).Perm (List.range count)) :
    ((front ++ [count]) ++ back).Perm (List.range (count + 1)) := by
  rw [List.range_succ, List.append_assoc]
  refine (List.Perm.append_left front List.perm_append_comm).trans ?_
  rw [← List.append_assoc]
  exact h.append_right _

theorem perm_of_moved {front rest back after : List ℕ} {number : ℕ} {all : List ℕ}
    (h : (front ++ back).Perm all) (hfront : (number :: rest).Perm front)
    (hafter : after.Perm (number :: back)) : (rest ++ after).Perm all := by
  calc
    List.Perm (rest ++ after) (rest ++ number :: back) := hafter.append_left rest
    List.Perm _ (number :: rest ++ back) := List.perm_middle
    List.Perm _ (front ++ back) := hfront.append_right back
    List.Perm _ all := h

/-- A step whose call succeeds keeps the connection and loses no number. -/
theorem Accounted.move {ledger : Ledger F} (accounted : Accounted ledger) {tapped next : Tapped F}
    {call : Option (Call F)} {movement : Movement F} (agrees : ledger.Agrees tapped)
    (stores : Tapped.Stores tapped next call movement) (hconn : tapped.db.conn.isSome = true)
    (hsucceeds : ∀ made, call = some made → made.fails = false) (hkept : movement ≠ .drop) :
    Accounted (ledger.move movement) ∧ next.db.conn.isSome = true := by
  have hafter : ∀ made, call = some made → (tapped.db.after made).conn.isSome = true := by
    intro made hmade
    rw [Database.after_conn, hsucceeds made hmade]
    exact hconn
  cases stores with
  | stay hspawned hwaiting hdb => exact ⟨accounted, by rw [hdb, hconn]⟩
  | receive event hspawned hwaiting hdb =>
      refine ⟨⟨?_, accounted.snapshots⟩, by rw [hdb, hconn]⟩
      simpa [Ledger.move] using perm_range_succ accounted.events
  | accept snapshot hspawned hwaiting hdb =>
      refine ⟨⟨accounted.events, ?_⟩, by rw [hdb, hconn]⟩
      simpa [Ledger.move] using perm_range_succ accounted.snapshots
  | insertEvent position event answer hevent hspawned hwaiting hdb =>
      refine ⟨?_, by rw [hdb, hafter _ rfl]⟩
      obtain ⟨origin, hledger⟩ := agrees.getElem?_spawned hevent
      rw [performed_insertEvent hconn (hsucceeds _ rfl)]
      simp only [Ledger.move, hledger, Option.map_some]
      refine ⟨perm_of_moved accounted.events ?_ (Table.numbers_append _ origin _),
        accounted.snapshots⟩
      obtain ⟨hlt, heq⟩ := List.getElem?_eq_some_iff.mp hledger
      have htaken := (List.getElem_cons_eraseIdx_perm hlt).map Tagged.origin
      rwa [heq] at htaken
  | insertSnapshot snapshot answer hspawned hwaiting hdb =>
      refine ⟨?_, by rw [hdb, hafter _ rfl]⟩
      obtain ⟨origin, others, hledger, _⟩ := agrees.waiting_eq_cons hwaiting
      have hsnapshots := accounted.snapshots
      rw [hledger] at hsnapshots
      rw [performed_insertSnapshot hconn (hsucceeds _ rfl)]
      simp only [Ledger.move, hledger, List.head?_cons, Option.map_some, List.tail_cons]
      exact ⟨accounted.events,
        perm_of_moved hsnapshots (.refl _) (Table.numbers_append _ origin _)⟩
  | drop hspawned hwaiting hdb => exact absurd rfl hkept
  | delete made hdeletes hspawned hwaiting hdb =>
      refine ⟨?_, by rw [hdb, hafter _ rfl]⟩
      have hperformed : OnlyDeletes (tapped.db.performed made) :=
        fun statement hmem => hdeletes statement (performed_subset _ _ hmem)
      obtain ⟨hevents, hsnapshots⟩ := numbers_perform ledger hperformed
      refine ⟨?_, ?_⟩
      · simpa [Ledger.move] using (hevents.append_left _).trans accounted.events
      · simpa [Ledger.move] using (hsnapshots.append_left _).trans accounted.snapshots

end Accounts

namespace Daemon

/-- Where nothing is lost, the early items are all stored exactly when none of them is on its
way and none was deleted. -/
theorem flushed_iff_finished {F : Type} {before after : Ledger F} (accounted : Accounted after)
    (numbered : after.Numbered) (hreceived : before.received <+: after.received)
    (haccepted : before.accepted <+: after.accepted) :
    Flushed before after ↔ Finished before after := by
  have hevents := Table.stored_iff accounted.events numbered.events hreceived
  have hsnapshots := Table.stored_iff accounted.snapshots numbered.snapshots haccepted
  simp only [List.forall_mem_map] at hevents hsnapshots
  constructor
  · intro flushed
    obtain ⟨hspawned, hdeletedEvents⟩ := hevents.mp flushed.events
    obtain ⟨hwaiting, hdeletedSnapshots⟩ := hsnapshots.mp flushed.snapshots
    exact ⟨hspawned, hwaiting, hdeletedEvents, hdeletedSnapshots⟩
  · intro finished
    exact ⟨hevents.mpr ⟨finished.spawned, finished.events⟩,
      hsnapshots.mpr ⟨finished.waiting, finished.snapshots⟩⟩

/-! ## Runs -/

section Runs

variable {F : Type} [Float64 F] {daemon next : Daemon F} {label : DaemonLabel}

/-- `main` and the handlers leave the tasks alone. -/
theorem tasks_of_hidden (hlow : taskLabel label = none) (taken : daemon.step label = some next) :
    next.tasks = daemon.tasks := by
  unfold step at taken
  split at taken
  · cases taken
  · cases hlow
  · cases taken
    rfl
  · obtain ⟨_, _, rfl⟩ := Option.map_eq_some_iff.mp taken
    rfl
  · split at taken
    · cases taken
      rfl
    · split at taken
      · cases taken
        rfl
      · cases taken
  · cases taken
    rfl
  · cases taken
    rfl
  · cases taken
    rfl
  · cases taken

/-- The step of a task is its own, and not the end of the task behind the snapshot
channel. -/
theorem tasks_of_shown {image : TappedLabel} (hlow : taskLabel label = some image)
    (taken : daemon.step label = some next) :
    daemon.tasks.step image = some next.tasks ∧ image ≠ .closeSnapshots := by
  cases label with
  | task label =>
      obtain rfl := Option.some.inj hlow
      have hstep : daemon.stepTask label = some next := by
        cases hmain : daemon.main with
        | returned => simp [step, hmain] at taken
        | _ => simpa only [step, hmain] using taken
      unfold stepTask at hstep
      split at hstep
      · cases hstep
      · rename_i hopen
        obtain ⟨tasks, htasks, rfl⟩ := Option.map_eq_some_iff.mp hstep
        exact ⟨htasks, hopen⟩
  | _ => cases hlow

variable {windowMs : UInt64} {db : Database F} {trace : List (Daemon F × DaemonLabel)}
  {final : Daemon F}

theorem tasks_run (run : Run step (started windowMs db) trace final) :
    Run Tapped.step (.started windowMs db (some (.empty _ _))) (taskTrace trace) final.tasks :=
  run.projected tasks_of_hidden fun hlow taken => (tasks_of_shown hlow taken).1

theorem snapshots_open (run : Run step (started windowMs db) trace final) :
    ∀ visit ∈ taskTrace trace, visit.2 ≠ .closeSnapshots := by
  intro visit hmem
  obtain ⟨whole, hwhole, himage⟩ := List.mem_filterMap.mp hmem
  obtain ⟨image, hlow, rfl⟩ := Option.map_eq_some_iff.mp himage
  obtain ⟨_, _, _, _, _, taken, _⟩ := run.of_mem hwhole
  exact (tasks_of_shown hlow taken).2

/-- While every statement succeeds, every event and every snapshot is accounted for. -/
theorem accounted_run {history : List (Tapped F × TappedLabel)} {tapped : Tapped F}
    (run : Run Tapped.step (.started windowMs db (some (.empty _ _))) history tapped)
    (hconn : db.conn.isSome = true)
    (hsucceeds : ∀ visit ∈ history, ∀ call, Tapped.call? visit = some call →
      call.fails = false)
    (hopen : ∀ visit ∈ history, visit.2 ≠ .closeSnapshots) :
    Accounted (Ledger.after db.file history) ∧ tapped.db.conn.isSome = true := by
  induction run with
  | nil => exact ⟨accounted_opened db.file, hconn⟩
  | @snoc history tapped next label run taken ih =>
      obtain ⟨agrees, _⟩ := Ledger.after_run run
      obtain ⟨accounted, hconnected⟩ := ih
        (fun visit hmem => hsucceeds visit (List.mem_append_left _ hmem))
        (fun visit hmem => hopen visit (List.mem_append_left _ hmem))
      have hlast := List.mem_append_right history (List.mem_singleton_self (tapped, label))
      have hkept : Tapped.movement (tapped, label) ≠ .drop :=
        Tapped.movement_ne_drop (hopen _ hlast)
      rw [Ledger.after_append_singleton]
      exact accounted.move agrees (Tapped.stores_of_step taken) hconnected
        (hsucceeds _ hlast) hkept

/-- In a run whose statements all succeed, everything from before the first trigger is stored
when `main` returns exactly when by then all of it has come to the database and stayed
there. -/
theorem flushed_iff (run : Run step (started windowMs db) trace final)
    (hconn : db.conn.isSome = true) (succeeds : Succeeds trace) :
    AtReturn Flushed db trace final ↔ AtReturn Finished db trace final := by
  have tasks := tasks_run run
  obtain ⟨_, numbered⟩ := Ledger.after_run tasks
  obtain ⟨accounted, _⟩ := accounted_run tasks hconn succeeds (snapshots_open run)
  have hrelated : ∀ front trigger back, trace = front ++ trigger :: back →
      (Flushed (ledger db front) (ledger db trace) ↔
        Finished (ledger db front) (ledger db trace)) := by
    intro front trigger back htrace
    have hledger : ledger db trace = (ledger db front).follow (taskTrace (trigger :: back)) := by
      rw [ledger, htrace, taskTrace, Run.project, List.filterMap_append]
      exact Ledger.after_append _ _ _
    obtain ⟨hreceived, haccepted⟩ :=
      (ledger db front).prefix_of_follow (taskTrace (trigger :: back))
    rw [← hledger] at hreceived haccepted
    exact flushed_iff_finished accounted numbered hreceived haccepted
  constructor
  · intro flushed hmain front trigger back htrace htrigger hfirst
    exact (hrelated _ _ _ htrace).mp (flushed hmain _ _ _ htrace htrigger hfirst)
  · intro finished hmain front trigger back htrace htrigger hfirst
    exact (hrelated _ _ _ htrace).mpr (finished hmain _ _ _ htrace htrigger hfirst)

theorem returns_at_once {start : Daemon F} (run : Run step start trace daemon)
    (hmain : daemon.main = .selecting) (signal : Signal) :
    ∃ back returned, Run step start (trace ++ (daemon, .signal signal) :: back) returned ∧
      returned.main = .returned ∧ returned.tasks = daemon.tasks ∧
      taskTrace (trace ++ (daemon, .signal signal) :: back) = taskTrace trace := by
  obtain ⟨tasks, signalled, shutdownTx, probesShutdown, serverAborted, main⟩ := daemon
  subst hmain
  have rest : Run step (⟨tasks, signalled, shutdownTx, probesShutdown, serverAborted,
      .selecting⟩ : Daemon F) _ _ :=
    execute_sound [.signal signal, .select, .unloadProbes, .abortServer, .leave] rfl
  refine ⟨_, _, run.append rest, rfl, rfl, ?_⟩
  rw [taskTrace, Run.project, List.filterMap_append]
  exact List.append_nil _

end Runs

/-! ## A signal while an insertion is pending -/

/-- A signal that arrives when the only insertion has run. -/
theorem flushed_iff_inserted :
    ∃ trace final, Run step (started 50 emptyDb) trace final ∧ final.main = .returned ∧
      final.tasks.db.file.events.length = 1 ∧ AtReturn Flushed emptyDb trace final := by
  have run : Run step (started 50 emptyDb) _ _ :=
    execute_sound [.task (.receive (some Tapped.sentEvent)), .task (.insertEvent 0 none),
      .signal .sigterm, .select, .unloadProbes, .abortServer, .leave] rfl
  refine ⟨_, _, run, rfl, rfl, (flushed_iff run rfl ?_).mpr ?_⟩
  · intro visit hmem call hcall
    rcases hmem with _ | ⟨_, _ | ⟨_, hmem⟩⟩
    · cases hcall
    · cases hcall
      rfl
    · cases hmem
  · intro _ front trigger back _ _ _
    exact ⟨fun _ hmem => (by cases hmem), fun _ hmem => (by cases hmem),
      fun _ hmem => (by cases hmem), fun _ hmem => (by cases hmem)⟩

/-- A signal that arrives before the insertion has run: `main` returns, and the event is not
stored. -/
theorem not_always_flushed :
    ¬ ∀ (windowMs : UInt64) (db : Database Ieee) (trace : List (Daemon Ieee × DaemonLabel))
        (final : Daemon Ieee), Run step (started windowMs db) trace final →
          db.conn.isSome = true → Succeeds trace → AtReturn Flushed db trace final := by
  intro hclaim
  have run : Run step (started 50 emptyDb) _ _ :=
    execute_sound [.task (.receive (some Tapped.sentEvent))] rfl
  obtain ⟨back, final, whole, hmain, _, htasks⟩ := returns_at_once run rfl .sigterm
  have flushed := hclaim 50 emptyDb _ final whole rfl
    (by
      intro visit hmem call hcall
      rw [htasks] at hmem
      rcases hmem with _ | ⟨_, hmem⟩
      · cases hcall
      · cases hmem)
    hmain _ _ back rfl trivial
    (by
      intro visit hmem htrigger
      rcases hmem with _ | ⟨_, hmem⟩
      · cases htrigger
      · cases hmem)
  have hrow := flushed.events 0 Tapped.sentEvent rfl
  rw [ledger, htasks] at hrow
  cases hrow

end Daemon

end DaemonChoir.Conductor
