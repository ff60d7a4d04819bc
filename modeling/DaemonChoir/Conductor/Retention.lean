import DaemonChoir.Conductor.Storage
import DaemonChoir.Foundation.Table
set_option autoImplicit false

/-!
# Conductor: the retention purge

The two tables keep time in different units, and one cutoff is converted for both.  As far
as no conversion saturates, the purge deletes the history before one microsecond from both
tables, and of several purges only the one with the latest clock counts.

A purge computes one cutoff in microseconds and one in nanoseconds, each with saturating
operations and a conversion to the signed integers of SQLite.  Where nothing saturates the
two are the same moment.  A purge is then a deletion below a cutoff in both tables, and
`Foundation.Table` says that of several such deletions only the highest cutoff counts; the
clock may step back between them.
-/

namespace DaemonChoir.Conductor

open DaemonChoir.Common DaemonChoir.Foundation

variable {F : Type}

/-! ## The cutoff -/

/-- The microsecond at which the kept history begins. -/
def retainedFrom (retention : Duration) (now : SystemTime) : Int :=
  max 0 ((now.nowUs.toNat : Int) - retention.asMicros)

/-- The file without the history before a microsecond. -/
def DbFile.historyFrom (file : DbFile F) (cutoffUs : Int) : DbFile F where
  events := rowsFrom (fun row => row.timestampNs / 1000) cutoffUs file.events
  snapshots := rowsFrom SnapshotRow.timestampUs cutoffUs file.snapshots

/-- The later of two clock readings. -/
def later (now₁ now₂ : SystemTime) : SystemTime :=
  if now₁.nowUs ≤ now₂.nowUs then now₂ else now₁

namespace Database

theorem saturatingSub_toNat (a b : UInt64) :
    (saturatingSub a b).toNat = a.toNat - b.toNat := by
  unfold saturatingSub
  split
  · rename_i hle
    exact UInt64.toNat_sub_of_le _ _ hle
  · rename_i hlt
    have hlt := UInt64.lt_iff_toNat_lt.mp (UInt64.not_le.mp hlt)
    rw [Nat.sub_eq_zero_of_le (Nat.le_of_lt hlt)]
    rfl

theorem saturatingMul_toNat {a b : UInt64} (h : a.toNat * b.toNat < 2 ^ 64) :
    (saturatingMul a b).toNat = a.toNat * b.toNat := by
  rw [saturatingMul, if_pos h, UInt64.toNat_mul, Nat.mod_eq_of_lt h]

variable {retention : Duration} {now : SystemTime}

theorem cutoffUs_toNat (hretention : retention.asMicros < 2 ^ 64) :
    (cutoffUs retention now).toNat = now.nowUs.toNat - retention.asMicros := by
  rw [cutoffUs, saturatingSub_toNat, UInt64.toNat_ofNat', Nat.mod_eq_of_lt hretention]

theorem cutoffUs_eq (hretention : retention.asMicros < 2 ^ 64) :
    ((cutoffUs retention now).toNat : Int) = retainedFrom retention now := by
  rw [cutoffUs_toNat hretention, retainedFrom]
  omega

theorem cutoffNs_eq (hretention : retention.asMicros < 2 ^ 64)
    (hnow : now.nowUs.toNat * 1000 < 2 ^ 63) :
    ((cutoffNs retention now).toNat : Int) = retainedFrom retention now * 1000 := by
  have hthousand : (1000 : UInt64).toNat = 1000 := rfl
  have hcutoff : (cutoffUs retention now).toNat = now.nowUs.toNat - retention.asMicros :=
    cutoffUs_toNat hretention
  have hfits : (cutoffUs retention now).toNat * (1000 : UInt64).toNat < 2 ^ 64 :=
    calc (cutoffUs retention now).toNat * (1000 : UInt64).toNat
        = (now.nowUs.toNat - retention.asMicros) * 1000 := by rw [hcutoff, hthousand]
      _ ≤ now.nowUs.toNat * 1000 := Nat.mul_le_mul_right _ (Nat.sub_le ..)
      _ < 2 ^ 64 := Nat.lt_trans hnow (by decide)
  rw [cutoffNs, saturatingMul_toNat hfits, hthousand, ← cutoffUs_eq hretention]
  omega

end Database

/-! ## The file after a purge -/

theorem historyFrom_historyFrom (file : DbFile F) (first second : Int) :
    (file.historyFrom first).historyFrom second = file.historyFrom (max first second) := by
  simp only [DbFile.historyFrom, rowsFrom_rowsFrom]

theorem effect_deleteEventsBefore (file : DbFile F) (cutoff : Int) :
    Statement.effect file (.deleteEventsBefore (cutoff * 1000)) =
      { file with
        events := rowsFrom (fun row => row.timestampNs / 1000) cutoff file.events } := by
  have hsame : ∀ row : EventRow,
      row.timestampNs < cutoff * 1000 ↔ row.timestampNs / 1000 < cutoff := by
    intro row
    omega
  simp only [Statement.effect, rowsFrom, hsame]

section Purge

variable {retention : Duration} {now : SystemTime}

theorem purgeEventsStatement_eq (hretention : retention.asMicros < 2 ^ 64)
    (hnow : now.nowUs.toNat * 1000 < 2 ^ 63) :
    Database.purgeEventsStatement (F := F) retention now =
      .ok (.deleteEventsBefore (retainedFrom retention now * 1000)) := by
  have hcutoff := Database.cutoffNs_eq hretention hnow
  have hbound : retainedFrom retention now ≤ now.nowUs.toNat := by
    unfold retainedFrom
    omega
  have hfits : (Database.cutoffNs retention now).toNat < 2 ^ 63 := by omega
  rw [Database.purgeEventsStatement, bindU64, if_pos hfits, hcutoff]
  rfl

theorem purgeSnapshotsStatement_eq (hretention : retention.asMicros < 2 ^ 64)
    (hnow : now.nowUs.toNat * 1000 < 2 ^ 63) :
    Database.purgeSnapshotsStatement (F := F) retention now =
      .ok (.deleteSnapshotsBefore (retainedFrom retention now)) := by
  have hcutoff : (Database.cutoffUs retention now).toNat =
      now.nowUs.toNat - retention.asMicros := Database.cutoffUs_toNat hretention
  have hfits : (Database.cutoffUs retention now).toNat < 2 ^ 63 := by omega
  rw [Database.purgeSnapshotsStatement, bindU64, if_pos hfits,
    Database.cutoffUs_eq hretention]
  rfl

/-- A purge whose statements succeed keeps the history from its cutoff on, and the
connection. -/
theorem purgeOlderThan_eq {db : Database F} (hconn : db.conn.isSome = true)
    (hretention : retention.asMicros < 2 ^ 64) (hnow : now.nowUs.toNat * 1000 < 2 ^ 63) :
    db.purgeOlderThan retention now none none =
      { db with file := db.file.historyFrom (retainedFrom retention now) } := by
  obtain ⟨conn, hconn⟩ := Option.isSome_iff_exists.mp hconn
  simp only [Database.purgeOlderThan, hconn, purgeEventsStatement_eq hretention hnow,
    purgeSnapshotsStatement_eq hretention hnow, Database.executeBoth, execute,
    effect_deleteEventsBefore]
  rfl

end Purge

/-! ## Timestamps of the daemon -/

/-- No timestamp is negative. -/
structure DbFile.Stamped (file : DbFile F) : Prop where
  events : ∀ row ∈ file.events, 0 ≤ row.timestampNs
  snapshots : ∀ row ∈ file.snapshots, 0 ≤ row.timestampUs

/-- A row comes with a timestamp that was unsigned. -/
theorem stamped_effect {file : DbFile F} (h : file.Stamped) {statement : Statement F}
    (hevent : ∀ row, statement = .insertEvent row → 0 ≤ row.timestampNs)
    (hsnapshot : ∀ row, statement = .insertSnapshot row → 0 ≤ row.timestampUs) :
    (statement.effect file).Stamped := by
  cases statement with
  | createEvents => exact h
  | createSnapshots => exact h
  | insertEvent row =>
      refine ⟨?_, h.snapshots⟩
      intro other hmem
      rcases List.mem_append.mp hmem with hmem | hmem
      · exact h.events other hmem
      · obtain rfl := List.mem_singleton.mp hmem
        exact hevent other rfl
  | insertSnapshot row =>
      refine ⟨h.events, ?_⟩
      intro other hmem
      rcases List.mem_append.mp hmem with hmem | hmem
      · exact h.snapshots other hmem
      · obtain rfl := List.mem_singleton.mp hmem
        exact hsnapshot other rfl
  | deleteEventsBefore cutoff =>
      exact ⟨fun row hmem => h.events row (List.mem_of_mem_filter hmem), h.snapshots⟩
  | deleteSnapshotsBefore cutoff =>
      exact ⟨h.events, fun row hmem => h.snapshots row (List.mem_of_mem_filter hmem)⟩
  | deleteEvents => exact ⟨nofun, h.snapshots⟩
  | deleteSnapshots => exact ⟨h.events, nofun⟩

theorem stamped_foldl_effect {statements : List (Statement F)}
    (hevent : ∀ row, .insertEvent row ∈ statements → 0 ≤ row.timestampNs)
    (hsnapshot : ∀ row, .insertSnapshot row ∈ statements → 0 ≤ row.timestampUs)
    {file : DbFile F} (h : file.Stamped) : (statements.foldl Statement.effect file).Stamped := by
  induction statements generalizing file with
  | nil => exact h
  | cons statement rest ih =>
      rw [List.foldl_cons]
      apply ih
      · intro row hmem
        exact hevent row (List.mem_cons_of_mem _ hmem)
      · intro row hmem
        exact hsnapshot row (List.mem_cons_of_mem _ hmem)
      · apply stamped_effect h
        · intro row heq
          exact hevent row (heq ▸ List.mem_cons_self)
        · intro row heq
          exact hsnapshot row (heq ▸ List.mem_cons_self)

/-- No call of the daemon writes a negative timestamp. -/
theorem stamped_after {db : Database F} (h : db.file.Stamped) (call : Call F) :
    (db.after call).file.Stamped := by
  rw [Database.after_file]
  apply stamped_foldl_effect _ _ h
  · intro row hmem
    cases call with
    | insertEvent event answer =>
        obtain ⟨_, heq⟩ := mem_performed_insertEvent hmem
        obtain rfl := Statement.insertEvent.inj heq
        exact Int.natCast_nonneg _
    | insertSnapshot snapshot answer => cases (mem_performed_insertSnapshot hmem).2
    | purgeOlderThan retention now events snapshots =>
        exact absurd rfl ((onlyDeletes_purge _ _ _ _ _ (performed_subset _ _ hmem)).1 row)
    | wipe events snapshots =>
        exact absurd rfl ((onlyDeletes_wipe _ _ _ (performed_subset _ _ hmem)).1 row)
  · intro row hmem
    cases call with
    | insertEvent event answer => cases (mem_performed_insertEvent hmem).2
    | insertSnapshot snapshot answer =>
        obtain ⟨_, heq⟩ := mem_performed_insertSnapshot hmem
        obtain rfl := Statement.insertSnapshot.inj heq
        exact Int.natCast_nonneg _
    | purgeOlderThan retention now events snapshots =>
        exact absurd rfl ((onlyDeletes_purge _ _ _ _ _ (performed_subset _ _ hmem)).2 row)
    | wipe events snapshots =>
        exact absurd rfl ((onlyDeletes_wipe _ _ _ (performed_subset _ _ hmem)).2 row)

/-- Nor does a run of them. -/
theorem stamped_of_run {first final : Database F} {trace : List (Database F × Call F)}
    (run : Run Database.step first trace final) (h : first.file.Stamped) :
    final.file.Stamped := by
  apply run.state_invariant (fun db => db.file.Stamped) h
  intro db next call hstamped taken
  cases taken
  exact stamped_after hstamped call

/-! ## Which purge counts -/

section Purges

variable {retention : Duration} {now₁ now₂ : SystemTime}

theorem later_fits (h₁ : now₁.nowUs.toNat * 1000 < 2 ^ 63)
    (h₂ : now₂.nowUs.toNat * 1000 < 2 ^ 63) :
    (later now₁ now₂).nowUs.toNat * 1000 < 2 ^ 63 := by
  unfold later
  split
  · exact h₂
  · exact h₁

theorem retainedFrom_later (retention : Duration) (now₁ now₂ : SystemTime) :
    retainedFrom retention (later now₁ now₂) =
      max (retainedFrom retention now₁) (retainedFrom retention now₂) := by
  unfold later retainedFrom
  split
  · rename_i hle
    have hle := UInt64.le_iff_toNat_le.mp hle
    omega
  · rename_i hlt
    have hlt := UInt64.lt_iff_toNat_lt.mp (UInt64.not_le.mp hlt)
    omega

/-- Two purges leave what the one with the later clock leaves alone. -/
theorem purge_purge {db : Database F} (hconn : db.conn.isSome = true)
    (hretention : retention.asMicros < 2 ^ 64) (h₁ : now₁.nowUs.toNat * 1000 < 2 ^ 63)
    (h₂ : now₂.nowUs.toNat * 1000 < 2 ^ 63) :
    (db.purgeOlderThan retention now₁ none none).purgeOlderThan retention now₂ none none =
      db.purgeOlderThan retention (later now₁ now₂) none none := by
  have hfirst := purgeOlderThan_eq hconn hretention h₁
  have hstill : (db.purgeOlderThan retention now₁ none none).conn.isSome = true := by
    rw [hfirst]
    exact hconn
  rw [purgeOlderThan_eq hstill hretention h₂, hfirst,
    purgeOlderThan_eq hconn hretention (later_fits h₁ h₂), historyFrom_historyFrom,
    retainedFrom_later]

/-- So the hourly purges of the retention task leave what the one with the latest clock
leaves alone. -/
theorem foldl_purge {db : Database F} (hconn : db.conn.isSome = true)
    (hretention : retention.asMicros < 2 ^ 64) {now : SystemTime} {nows : List SystemTime}
    (hnow : now.nowUs.toNat * 1000 < 2 ^ 63)
    (hnows : ∀ other ∈ nows, other.nowUs.toNat * 1000 < 2 ^ 63) :
    (now :: nows).foldl (fun db now => db.purgeOlderThan retention now none none) db =
      db.purgeOlderThan retention (nows.foldl later now) none none := by
  induction nows generalizing now with
  | nil => rfl
  | cons next rest ih =>
      have hnext := hnows next List.mem_cons_self
      have hrest := fun other hmem => hnows other (List.mem_cons_of_mem _ hmem)
      rw [List.foldl_cons, List.foldl_cons, purge_purge hconn hretention hnow hnext,
        List.foldl_cons, ← ih (later_fits hnow hnext) hrest, List.foldl_cons]

end Purges

/-! ## One cutoff for both tables -/

/-- The events and the snapshots before a microsecond are removed, and nothing else. -/
structure Removes (before after : DbFile F) (cutoffUs : Int) : Prop where
  events : after.events =
    before.events.filter fun row => !decide (row.timestampNs / 1000 < cutoffUs)
  snapshots : after.snapshots =
    before.snapshots.filter fun row => !decide (row.timestampUs < cutoffUs)
  together : ∀ event ∈ before.events, ∀ snapshot ∈ before.snapshots,
    event.timestampNs / 1000 = snapshot.timestampUs →
      (event ∈ after.events ↔ snapshot ∈ after.snapshots)

theorem removes_historyFrom (file : DbFile F) (cutoffUs : Int) :
    Removes file (file.historyFrom cutoffUs) cutoffUs where
  events := rfl
  snapshots := rfl
  together := by
    intro event hevent snapshot hsnapshot hsame
    rw [DbFile.historyFrom, mem_rowsFrom, mem_rowsFrom, hsame]
    simp only [hevent, hsnapshot]

theorem historyFrom_zero_eq_self_iff (file : DbFile F) :
    file.historyFrom 0 = file ↔ file.Stamped := by
  have hfloor : ∀ row : EventRow, 0 ≤ row.timestampNs / 1000 ↔ 0 ≤ row.timestampNs := by
    intro row
    omega
  cases file
  rw [DbFile.historyFrom, DbFile.mk.injEq, rowsFrom_eq_self_iff, rowsFrom_eq_self_iff]
  simp only [hfloor]
  exact ⟨fun h => ⟨h.1, h.2⟩, fun h => ⟨h.events, h.snapshots⟩⟩

/-- A purge whose statements succeed has one cutoff for both tables, none while the clock
reads less than the retention, and of two purges the later one counts. -/
theorem purge_one_cutoff {db : Database F} (hconn : db.conn.isSome = true)
    {retention : Duration} (hretention : retention.asMicros < 2 ^ 64)
    {now₁ now₂ : SystemTime} (h₁ : now₁.nowUs.toNat * 1000 < 2 ^ 63)
    (h₂ : now₂.nowUs.toNat * 1000 < 2 ^ 63) :
    Removes db.file (db.purgeOlderThan retention now₁ none none).file
        (max 0 ((now₁.nowUs.toNat : Int) - retention.asMicros)) ∧
      (now₁.nowUs.toNat < retention.asMicros →
        ((db.purgeOlderThan retention now₁ none none).file = db.file ↔ db.file.Stamped)) ∧
      (db.purgeOlderThan retention now₁ none none).purgeOlderThan retention now₂ none none =
        db.purgeOlderThan retention (later now₁ now₂) none none := by
  refine ⟨?_, ?_, purge_purge hconn hretention h₁ h₂⟩
  · rw [purgeOlderThan_eq hconn hretention h₁]
    exact removes_historyFrom db.file _
  · intro hearly
    have hzero : retainedFrom retention now₁ = 0 := by
      unfold retainedFrom
      omega
    rw [purgeOlderThan_eq hconn hretention h₁, hzero]
    exact historyFrom_zero_eq_self_iff db.file

/-- An event and a snapshot of the same microsecond. -/
def oneMicrosecond : Database ℚ where
  conn := some .sqlite
  file :=
    { events := [{ probe := "cpu_sched", timestampNs := 4999999, payload := "" }]
      snapshots :=
        [{ timestampUs := 4999, cpuLatency := 0, cpuRate := 0, memPressure := 0,
           netTx := 0, netRx := 0, procExec := 0 }] }

/-- With a retention of a millisecond, a clock that steps back from 6 ms to 3 ms. -/
theorem purge_one_cutoff_stepping_back :
    (oneMicrosecond.purgeOlderThan ⟨1000000⟩ ⟨6000000⟩ none none).file.events = [] ∧
      (oneMicrosecond.purgeOlderThan ⟨1000000⟩ ⟨6000000⟩ none none).file.snapshots = [] ∧
      (oneMicrosecond.purgeOlderThan ⟨1000000⟩ ⟨6000000⟩ none none).purgeOlderThan
          ⟨1000000⟩ ⟨3000000⟩ none none =
        oneMicrosecond.purgeOlderThan ⟨1000000⟩ ⟨6000000⟩ none none := by
  have hconn : oneMicrosecond.conn.isSome = true := rfl
  have hretention : (⟨1000000⟩ : Duration).asMicros < 2 ^ 64 := by decide
  have hforward : (⟨6000000⟩ : SystemTime).nowUs.toNat * 1000 < 2 ^ 63 := by decide
  have hback : (⟨3000000⟩ : SystemTime).nowUs.toNat * 1000 < 2 ^ 63 := by decide
  obtain ⟨hremoves, _, hlater⟩ := purge_one_cutoff hconn hretention hforward hback
  exact ⟨hremoves.events, hremoves.snapshots, hlater⟩

end DaemonChoir.Conductor
