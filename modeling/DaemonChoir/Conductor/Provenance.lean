import DaemonChoir.Conductor.Storage
import DaemonChoir.Foundation.Pipeline
import DaemonChoir.Foundation.Table
set_option autoImplicit false

/-!
# Conductor: what the rows of the database were made from

The ledger of a run numbers the events that the consumer has received and the snapshots
that the channel has accepted, and follows each number from the spawned insertion or the
queue into its row.  It is read off the run; no step of the tasks looks at it.

Why numbers are needed: two events may be equal, and then the rows alone do not say which
of them is still missing.  The ledger has a number for every arrival and every row
remembers the number it was made from (`Foundation.Table`).  Three predicates tie it to the
state of the tasks: it agrees with what is waiting, its items fit the signed columns of the
file, and its numbers stand in one place each.

`after_run` gives all three for every reachable state.  What comes back after a wipe, what
is missing when `main` returns and what the tables hold in the end are read off there.
-/

namespace DaemonChoir.Conductor

open DaemonChoir.Common DaemonChoir.Foundation

/-! ## The ledger -/

/-- Everything that was ever received or accepted, and where it is now. -/
structure Ledger (F : Type) where
  /-- The events that the consumer has received, in order. -/
  received : List RawEvent
  /-- The snapshots that the channel has accepted, in order. -/
  accepted : List (StateSnapshot F)
  spawned : List (Tagged RawEvent)
  waiting : List (Tagged (StateSnapshot F))
  events : Table EventRow
  snapshots : Table (SnapshotRow F)

namespace Ledger

variable {F : Type}

/-- The ledger of a database that was opened on a file. -/
def opened (file : DbFile F) : Ledger F where
  received := []
  accepted := []
  spawned := []
  waiting := []
  events := .ofRows file.events
  snapshots := .ofRows file.snapshots

/-- The effect of a statement, with the number of the item it inserts. -/
def effect (origin : Option ℕ) (ledger : Ledger F) : Statement F → Ledger F
  | .createEvents => ledger
  | .createSnapshots => ledger
  | .insertEvent row => { ledger with events := ledger.events.append origin row }
  | .insertSnapshot row => { ledger with snapshots := ledger.snapshots.append origin row }
  | .deleteEventsBefore cutoff =>
      { ledger with
        events := ledger.events.retain fun row => !decide (row.timestampNs < cutoff) }
  | .deleteSnapshotsBefore cutoff =>
      { ledger with
        snapshots := ledger.snapshots.retain fun row => !decide (row.timestampUs < cutoff) }
  | .deleteEvents => { ledger with events := ledger.events.retain fun _ => false }
  | .deleteSnapshots => { ledger with snapshots := ledger.snapshots.retain fun _ => false }

/-- The effect of statements in order. -/
def perform (ledger : Ledger F) (origin : Option ℕ) (statements : List (Statement F)) :
    Ledger F :=
  statements.foldl (effect origin) ledger

/-- The entry of a movement. -/
def move (ledger : Ledger F) : Movement F → Ledger F
  | .stay => ledger
  | .receive event =>
      { ledger with
        received := ledger.received ++ [event]
        spawned := ledger.spawned ++ [⟨ledger.received.length, event⟩] }
  | .accept snapshot =>
      { ledger with
        accepted := ledger.accepted ++ [snapshot]
        waiting := ledger.waiting ++ [⟨ledger.accepted.length, snapshot⟩] }
  | .insertEvent position statements =>
      { ledger.perform (ledger.spawned[position]?.map Tagged.origin) statements with
        spawned := ledger.spawned.eraseIdx position }
  | .insertSnapshot statements =>
      { ledger.perform (ledger.waiting.head?.map Tagged.origin) statements with
        waiting := ledger.waiting.tail }
  | .drop => { ledger with waiting := [] }
  | .delete statements => ledger.perform none statements

/-- The file without the numbers. -/
def file (ledger : Ledger F) : DbFile F where
  events := ledger.events.content
  snapshots := ledger.snapshots.content

@[simp] theorem file_opened (file : DbFile F) : (opened file).file = file := by
  simp [Ledger.file, opened]

theorem file_effect (origin : Option ℕ) (ledger : Ledger F) (statement : Statement F) :
    (ledger.effect origin statement).file = statement.effect ledger.file := by
  cases statement <;> simp [effect, Ledger.file, Statement.effect]

theorem file_perform (origin : Option ℕ) (statements : List (Statement F))
    (ledger : Ledger F) :
    (ledger.perform origin statements).file = statements.foldl Statement.effect ledger.file := by
  induction statements generalizing ledger with
  | nil => rfl
  | cons statement statements ih =>
      rw [perform, List.foldl_cons]
      exact (ih _).trans (by rw [file_effect, List.foldl_cons])

theorem perform_frame (origin : Option ℕ) (statements : List (Statement F))
    (ledger : Ledger F) :
    (ledger.perform origin statements).received = ledger.received ∧
      (ledger.perform origin statements).accepted = ledger.accepted ∧
      (ledger.perform origin statements).spawned = ledger.spawned ∧
      (ledger.perform origin statements).waiting = ledger.waiting := by
  induction statements generalizing ledger with
  | nil => exact ⟨rfl, rfl, rfl, rfl⟩
  | cons statement statements ih =>
      obtain ⟨hreceived, haccepted, hspawned, hwaiting⟩ := ih (ledger.effect origin statement)
      rw [perform, List.foldl_cons]
      rw [perform] at hreceived haccepted hspawned hwaiting
      rw [hreceived, haccepted, hspawned, hwaiting]
      cases statement <;> exact ⟨rfl, rfl, rfl, rfl⟩

@[simp] theorem perform_received (origin : Option ℕ) (statements : List (Statement F))
    (ledger : Ledger F) : (ledger.perform origin statements).received = ledger.received :=
  (perform_frame origin statements ledger).1

@[simp] theorem perform_accepted (origin : Option ℕ) (statements : List (Statement F))
    (ledger : Ledger F) : (ledger.perform origin statements).accepted = ledger.accepted :=
  (perform_frame origin statements ledger).2.1

@[simp] theorem perform_spawned (origin : Option ℕ) (statements : List (Statement F))
    (ledger : Ledger F) : (ledger.perform origin statements).spawned = ledger.spawned :=
  (perform_frame origin statements ledger).2.2.1

@[simp] theorem perform_waiting (origin : Option ℕ) (statements : List (Statement F))
    (ledger : Ledger F) : (ledger.perform origin statements).waiting = ledger.waiting :=
  (perform_frame origin statements ledger).2.2.2

/-! ## What statements do to the rows -/

variable {ledger : Ledger F} {tapped next : Tapped F} {call : Option (Call F)}
  {movement : Movement F}

/-- Statements add the rows that they insert, and no others. -/
theorem mem_perform_events {origin : Option ℕ} {statements : List (Statement F)}
    {entry : Option ℕ × EventRow}
    (h : entry ∈ (ledger.perform origin statements).events.rows) :
    entry ∈ ledger.events.rows ∨
      ∃ row, Statement.insertEvent row ∈ statements ∧ entry = (origin, row) := by
  induction statements generalizing ledger with
  | nil => exact .inl h
  | cons statement statements ih =>
      have hrest : entry ∈
          ((ledger.effect origin statement).perform origin statements).events.rows := h
      rcases ih hrest with hmem | ⟨row, hrow, heq⟩
      · cases statement with
        | insertEvent row =>
            rcases Table.mem_rows_append.mp hmem with hmem | heq
            · exact .inl hmem
            · exact .inr ⟨row, List.mem_cons_self, heq⟩
        | deleteEventsBefore cutoff => exact .inl (Table.mem_rows_of_retain hmem)
        | deleteEvents => exact .inl (Table.mem_rows_of_retain hmem)
        | _ => exact .inl hmem
      · exact .inr ⟨row, List.mem_cons_of_mem _ hrow, heq⟩

@[inherit_doc mem_perform_events]
theorem mem_perform_snapshots {origin : Option ℕ} {statements : List (Statement F)}
    {entry : Option ℕ × SnapshotRow F}
    (h : entry ∈ (ledger.perform origin statements).snapshots.rows) :
    entry ∈ ledger.snapshots.rows ∨
      ∃ row, Statement.insertSnapshot row ∈ statements ∧ entry = (origin, row) := by
  induction statements generalizing ledger with
  | nil => exact .inl h
  | cons statement statements ih =>
      have hrest : entry ∈
          ((ledger.effect origin statement).perform origin statements).snapshots.rows := h
      rcases ih hrest with hmem | ⟨row, hrow, heq⟩
      · cases statement with
        | insertSnapshot row =>
            rcases Table.mem_rows_append.mp hmem with hmem | heq
            · exact .inl hmem
            · exact .inr ⟨row, List.mem_cons_self, heq⟩
        | deleteSnapshotsBefore cutoff => exact .inl (Table.mem_rows_of_retain hmem)
        | deleteSnapshots => exact .inl (Table.mem_rows_of_retain hmem)
        | _ => exact .inl hmem
      · exact .inr ⟨row, List.mem_cons_of_mem _ hrow, heq⟩

/-! ## The ledger and the state -/

/-- Without its numbers, the ledger is the state of the tasks and of the database. -/
structure Agrees (ledger : Ledger F) (tapped : Tapped F) : Prop where
  spawned : ledger.spawned.map Tagged.item = tapped.spawned
  waiting : ledger.waiting.map Tagged.item = tapped.waiting
  file : ledger.file = tapped.db.file

theorem Agrees.getElem?_spawned (agrees : ledger.Agrees tapped) {position : ℕ}
    {event : RawEvent} (h : tapped.spawned[position]? = some event) :
    ∃ origin, ledger.spawned[position]? = some ⟨origin, event⟩ := by
  rw [← agrees.spawned, List.getElem?_map] at h
  obtain ⟨tagged, htagged, rfl⟩ := Option.map_eq_some_iff.mp h
  exact ⟨tagged.origin, htagged⟩

theorem Agrees.waiting_eq_cons (agrees : ledger.Agrees tapped) {snapshot : StateSnapshot F}
    {rest : List (StateSnapshot F)} (h : tapped.waiting = snapshot :: rest) :
    ∃ origin others, ledger.waiting = ⟨origin, snapshot⟩ :: others ∧
      others.map Tagged.item = rest := by
  rw [← agrees.waiting] at h
  obtain ⟨tagged, others, hledger, rfl, hothers⟩ := List.map_eq_cons_iff.mp h
  exact ⟨tagged.origin, others, hledger, hothers⟩

theorem Agrees.perform_file (agrees : ledger.Agrees tapped) (origin : Option ℕ)
    (call : Call F) :
    (ledger.perform origin (tapped.db.performed call)).file = (tapped.db.after call).file := by
  rw [file_perform, agrees.file, Database.after_file]

/-- Every step moves the ledger as it moves the state. -/
theorem Agrees.move (agrees : ledger.Agrees tapped)
    (stores : Tapped.Stores tapped next call movement) : (ledger.move movement).Agrees next := by
  cases stores with
  | stay hspawned hwaiting hdb =>
      exact ⟨agrees.spawned.trans hspawned.symm, agrees.waiting.trans hwaiting.symm,
        agrees.file.trans (by rw [hdb])⟩
  | receive event hspawned hwaiting hdb =>
      refine ⟨?_, agrees.waiting.trans hwaiting.symm, agrees.file.trans (by rw [hdb])⟩
      simp [Ledger.move, agrees.spawned, hspawned]
  | accept snapshot hspawned hwaiting hdb =>
      refine ⟨agrees.spawned.trans hspawned.symm, ?_, agrees.file.trans (by rw [hdb])⟩
      simp [Ledger.move, agrees.waiting, hwaiting]
  | insertEvent position event answer hevent hspawned hwaiting hdb =>
      refine ⟨?_, ?_, ?_⟩
      · rw [hspawned, ← agrees.spawned, List.eraseIdx_map]
        rfl
      · rw [hwaiting, ← agrees.waiting]
        exact congrArg _ (perform_waiting _ _ _)
      · rw [hdb]
        exact agrees.perform_file _ _
  | insertSnapshot snapshot answer hspawned hwaiting hdb =>
      refine ⟨?_, ?_, ?_⟩
      · rw [hspawned, ← agrees.spawned]
        exact congrArg _ (perform_spawned _ _ _)
      · obtain ⟨origin, others, hledger, hothers⟩ := agrees.waiting_eq_cons hwaiting
        simp only [Ledger.move, hledger, List.tail_cons]
        exact hothers
      · rw [hdb]
        exact agrees.perform_file _ _
  | drop hspawned hwaiting hdb =>
      exact ⟨agrees.spawned.trans hspawned.symm, by rw [hwaiting]; rfl,
        agrees.file.trans (by rw [hdb])⟩
  | delete call hdeletes hspawned hwaiting hdb =>
      refine ⟨?_, ?_, ?_⟩
      · rw [hspawned, ← agrees.spawned]
        exact congrArg _ (perform_spawned _ _ _)
      · rw [hwaiting, ← agrees.waiting]
        exact congrArg _ (perform_waiting _ _ _)
      · rw [hdb]
        exact agrees.perform_file _ _

/-! ## The numbers and their items -/

/-- A movement inserts the item that it takes away, if anything. -/
def Fits (ledger : Ledger F) : Movement F → Prop
  | .insertEvent position statements =>
      ∃ tagged, ledger.spawned[position]? = some tagged ∧
        ∀ statement ∈ statements, Database.insertEventStatement tagged.item = .ok statement
  | .insertSnapshot statements =>
      ∃ tagged rest, ledger.waiting = tagged :: rest ∧
        ∀ statement ∈ statements, Database.insertSnapshotStatement tagged.item = .ok statement
  | .delete statements => OnlyDeletes statements
  | _ => True

theorem Agrees.fits (agrees : ledger.Agrees tapped)
    (stores : Tapped.Stores tapped next call movement) : ledger.Fits movement := by
  cases stores with
  | insertEvent position event answer hevent hspawned hwaiting hdb =>
      obtain ⟨origin, hledger⟩ := agrees.getElem?_spawned hevent
      refine ⟨_, hledger, ?_⟩
      intro statement hmem
      exact mem_succeeded (performed_subset _ _ hmem)
  | insertSnapshot snapshot answer hspawned hwaiting hdb =>
      obtain ⟨origin, others, hledger, _⟩ := agrees.waiting_eq_cons hwaiting
      refine ⟨_, _, hledger, ?_⟩
      intro statement hmem
      exact mem_succeeded (performed_subset _ _ hmem)
  | delete call hdeletes hspawned hwaiting hdb =>
      intro statement hmem
      exact hdeletes statement (performed_subset _ _ hmem)
  | _ => trivial

/-- Every number names the item that it was given to. -/
structure Numbered (ledger : Ledger F) : Prop where
  spawned : ∀ tagged ∈ ledger.spawned, ledger.received[tagged.origin]? = some tagged.item
  waiting : ∀ tagged ∈ ledger.waiting, ledger.accepted[tagged.origin]? = some tagged.item
  events : ∀ number row, (some number, row) ∈ ledger.events.rows →
    ∃ event, ledger.received[number]? = some event ∧ row = eventRow event
  snapshots : ∀ number row, (some number, row) ∈ ledger.snapshots.rows →
    ∃ snapshot, ledger.accepted[number]? = some snapshot ∧ row = snapshotRow snapshot

theorem numbered_opened (file : DbFile F) : (opened file).Numbered where
  spawned _ h := by cases h
  waiting _ h := by cases h
  events number row h := by simp [opened, Table.ofRows] at h
  snapshots number row h := by simp [opened, Table.ofRows] at h

theorem getElem?_snoc_of_eq_some {α : Type} {items : List α} {number : ℕ} {item : α}
    (h : items[number]? = some item) (later : α) : (items ++ [later])[number]? = some item := by
  obtain ⟨hlt, _⟩ := List.getElem?_eq_some_iff.mp h
  rw [List.getElem?_append_left hlt, h]

/-- Statements keep the numbers right when every row that they insert is that of the item
they insert it for. -/
theorem Numbered.perform (numbered : ledger.Numbered) {origin : Option ℕ}
    {statements : List (Statement F)}
    (hevents : ∀ row, .insertEvent row ∈ statements → ∀ number, origin = some number →
      ∃ event, ledger.received[number]? = some event ∧ row = eventRow event)
    (hsnapshots : ∀ row, .insertSnapshot row ∈ statements → ∀ number, origin = some number →
      ∃ snapshot, ledger.accepted[number]? = some snapshot ∧ row = snapshotRow snapshot) :
    (ledger.perform origin statements).Numbered where
  spawned := by simpa using numbered.spawned
  waiting := by simpa using numbered.waiting
  events number row hmem := by
    rw [perform_received]
    rcases mem_perform_events hmem with hmem | ⟨inserted, hinserted, heq⟩
    · exact numbered.events number row hmem
    · obtain ⟨hnumber, rfl⟩ := Prod.mk.inj heq
      exact hevents row hinserted number hnumber.symm
  snapshots number row hmem := by
    rw [perform_accepted]
    rcases mem_perform_snapshots hmem with hmem | ⟨inserted, hinserted, heq⟩
    · exact numbered.snapshots number row hmem
    · obtain ⟨hnumber, rfl⟩ := Prod.mk.inj heq
      exact hsnapshots row hinserted number hnumber.symm

/-- Every movement gives the next number, or keeps the numbers with their items. -/
theorem Numbered.move (numbered : ledger.Numbered) (fits : ledger.Fits movement) :
    (ledger.move movement).Numbered := by
  cases movement with
  | stay => exact numbered
  | receive event =>
      refine ⟨?_, numbered.waiting, ?_, numbered.snapshots⟩
      · intro tagged hmem
        rcases List.mem_append.mp hmem with hmem | hmem
        · exact getElem?_snoc_of_eq_some (numbered.spawned tagged hmem) event
        · obtain rfl := List.mem_singleton.mp hmem
          simp [Ledger.move]
      · intro number row hmem
        obtain ⟨found, hfound, hrow⟩ := numbered.events number row hmem
        exact ⟨found, getElem?_snoc_of_eq_some hfound event, hrow⟩
  | accept snapshot =>
      refine ⟨numbered.spawned, ?_, numbered.events, ?_⟩
      · intro tagged hmem
        rcases List.mem_append.mp hmem with hmem | hmem
        · exact getElem?_snoc_of_eq_some (numbered.waiting tagged hmem) snapshot
        · obtain rfl := List.mem_singleton.mp hmem
          simp [Ledger.move]
      · intro number row hmem
        obtain ⟨found, hfound, hrow⟩ := numbered.snapshots number row hmem
        exact ⟨found, getElem?_snoc_of_eq_some hfound snapshot, hrow⟩
  | insertEvent position statements =>
      obtain ⟨tagged, htagged, hstatements⟩ := fits
      have performed : (ledger.perform (some tagged.origin) statements).Numbered := by
        apply numbered.perform
        · intro row hinserted number hnumber
          obtain rfl := Option.some.inj hnumber
          obtain ⟨_, hrow⟩ := insertEventStatement_eq_ok_iff.mp (hstatements _ hinserted)
          exact ⟨tagged.item, numbered.spawned tagged (List.mem_of_getElem? htagged),
            Statement.insertEvent.inj hrow⟩
        · intro row hinserted
          obtain ⟨_, heq⟩ := insertEventStatement_eq_ok_iff.mp (hstatements _ hinserted)
          cases heq
      simp only [Ledger.move, htagged, Option.map_some]
      refine ⟨?_, performed.waiting, performed.events, performed.snapshots⟩
      intro other hmem
      rw [perform_received]
      exact numbered.spawned other (List.mem_of_mem_eraseIdx hmem)
  | insertSnapshot statements =>
      obtain ⟨tagged, rest, hwaiting, hstatements⟩ := fits
      have performed : (ledger.perform (some tagged.origin) statements).Numbered := by
        apply numbered.perform
        · intro row hinserted
          obtain ⟨_, heq⟩ := insertSnapshotStatement_eq_ok_iff.mp (hstatements _ hinserted)
          cases heq
        · intro row hinserted number hnumber
          obtain rfl := Option.some.inj hnumber
          obtain ⟨_, hrow⟩ := insertSnapshotStatement_eq_ok_iff.mp (hstatements _ hinserted)
          exact ⟨tagged.item, numbered.waiting tagged (hwaiting ▸ List.mem_cons_self),
            Statement.insertSnapshot.inj hrow⟩
      simp only [Ledger.move, hwaiting, List.head?_cons, Option.map_some, List.tail_cons]
      refine ⟨performed.spawned, ?_, performed.events, performed.snapshots⟩
      intro other hmem
      rw [perform_accepted]
      exact numbered.waiting other (hwaiting ▸ List.mem_cons_of_mem _ hmem)
  | drop => exact ⟨numbered.spawned, fun _ hmem => (by cases hmem), numbered.events,
      numbered.snapshots⟩
  | delete statements =>
      apply numbered.perform
      · intro row hinserted
        exact absurd rfl ((fits _ hinserted).1 row)
      · intro row hinserted
        exact absurd rfl ((fits _ hinserted).2 row)

/-! ## The ledger of a run -/

/-- The ledger after some more steps. -/
def follow (ledger : Ledger F) (history : List (Tapped F × TappedLabel)) : Ledger F :=
  history.foldl (fun ledger visit => ledger.move (Tapped.movement visit)) ledger

/-- The ledger after a history, for a database opened on a file. -/
def after (file : DbFile F) (history : List (Tapped F × TappedLabel)) : Ledger F :=
  (opened file).follow history

theorem follow_append_singleton (ledger : Ledger F)
    (history : List (Tapped F × TappedLabel)) (visit : Tapped F × TappedLabel) :
    ledger.follow (history ++ [visit]) =
      (ledger.follow history).move (Tapped.movement visit) := by
  rw [follow, List.foldl_append]
  rfl

theorem after_append (file : DbFile F) (front back : List (Tapped F × TappedLabel)) :
    after file (front ++ back) = (after file front).follow back :=
  List.foldl_append

theorem after_append_singleton (file : DbFile F)
    (history : List (Tapped F × TappedLabel)) (visit : Tapped F × TappedLabel) :
    after file (history ++ [visit]) = (after file history).move (Tapped.movement visit) :=
  follow_append_singleton (opened file) history visit

theorem prefix_of_move (ledger : Ledger F) (movement : Movement F) :
    ledger.received <+: (ledger.move movement).received ∧
      ledger.accepted <+: (ledger.move movement).accepted := by
  cases movement with
  | receive event => exact ⟨List.prefix_append _ _, List.prefix_rfl⟩
  | accept snapshot => exact ⟨List.prefix_rfl, List.prefix_append _ _⟩
  | _ => simp [move]

theorem prefix_of_follow (ledger : Ledger F) (history : List (Tapped F × TappedLabel)) :
    ledger.received <+: (ledger.follow history).received ∧
      ledger.accepted <+: (ledger.follow history).accepted := by
  induction history using List.reverseRecOn with
  | nil => exact ⟨List.prefix_rfl, List.prefix_rfl⟩
  | append_singleton history visit ih =>
      obtain ⟨hreceived, haccepted⟩ :=
        prefix_of_move (ledger.follow history) (Tapped.movement visit)
      rw [follow_append_singleton]
      exact ⟨ih.1.trans hreceived, ih.2.trans haccepted⟩

variable [Float64 F] {windowMs : UInt64} {db : Database F}
  {trace : List (Tapped F × TappedLabel)} {final : Tapped F}

theorem agrees_started (windowMs : UInt64) (db : Database F) :
    (opened db.file).Agrees
      (Tapped.started windowMs db (some (.empty dbSnapshotCapacity (StateSnapshot F)))) :=
  ⟨rfl, rfl, file_opened db.file⟩

/-- The ledger of a run is right about where everything is and what it was made from. -/
theorem after_run
    (run : Run Tapped.step (Tapped.started windowMs db (some (.empty _ _))) trace final) :
    (after db.file trace).Agrees final ∧ (after db.file trace).Numbered := by
  induction run with
  | nil => exact ⟨agrees_started windowMs db, numbered_opened db.file⟩
  | snoc _ taken ih =>
      obtain ⟨agrees, numbered⟩ := ih
      have stores := Tapped.stores_of_step taken
      rw [after_append_singleton]
      exact ⟨agrees.move stores, numbered.move (agrees.fits stores)⟩

end Ledger

end DaemonChoir.Conductor
