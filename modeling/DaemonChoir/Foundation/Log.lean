import DaemonChoir.Foundation.Run
set_option autoImplicit false

/-!
# Foundation: a table as the outcome of a log

Every entry of a log may make one row and decides which of the earlier rows are kept.  What a
table holds in the end can be told from the log row by row: a row is there when it was made and
every later entry has kept it.
-/

namespace DaemonChoir.Foundation

universe u v w

/-- What one operation means to a table. -/
structure LogEntry (ρ : Type u) where
  made : Option ρ
  keeps : ρ → Bool

namespace LogEntry

variable {ρ : Type u}

/-- A table after an operation. -/
def apply (entry : LogEntry ρ) (rows : List ρ) : List ρ :=
  rows.filter entry.keeps ++ entry.made.toList

/-- Every entry of the log keeps the row. -/
def outlives (log : List (LogEntry ρ)) (row : ρ) : Bool := log.all fun entry => entry.keeps row

/-- The rows that a log makes and keeps, in the order in which they were made. -/
def survivors : List (LogEntry ρ) → List ρ
  | [] => []
  | entry :: later => entry.made.toList.filter (outlives later) ++ survivors later

/-- What a log leaves of a table. -/
def outcome (rows : List ρ) (log : List (LogEntry ρ)) : List ρ :=
  rows.filter (outlives log) ++ survivors log

/-- The rows that outlive the first part of a log go into the second. -/
theorem filter_outlives_append (rows : List ρ) (front back : List (LogEntry ρ)) :
    rows.filter (outlives (front ++ back)) =
      (rows.filter (outlives front)).filter (outlives back) := by
  rw [List.filter_filter]
  refine List.filter_congr fun row _ => ?_
  rw [outlives, List.all_append, Bool.and_comm]
  rfl

theorem filter_outlives_singleton (rows : List ρ) (entry : LogEntry ρ) :
    rows.filter (outlives [entry]) = rows.filter entry.keeps :=
  List.filter_congr fun _ _ => Bool.and_true _

theorem survivors_append (front back : List (LogEntry ρ)) :
    survivors (front ++ back) = (survivors front).filter (outlives back) ++ survivors back := by
  induction front with
  | nil => rfl
  | cons entry front ih =>
      rw [List.cons_append, survivors, ih, survivors, List.filter_append,
        filter_outlives_append, List.append_assoc]

/-- The outcome of a log goes into the rest of it. -/
theorem outcome_append (rows : List ρ) (front back : List (LogEntry ρ)) :
    outcome rows (front ++ back) = outcome (outcome rows front) back := by
  rw [outcome, filter_outlives_append, survivors_append, outcome, outcome, List.filter_append,
    List.append_assoc]

/-- The empty log leaves the table. -/
theorem outcome_nil (rows : List ρ) : outcome rows [] = rows := by
  rw [outcome, survivors, List.append_nil]
  exact List.filter_eq_self.mpr fun _ _ => rfl

/-- A log of one entry does what the entry does. -/
theorem outcome_singleton (rows : List ρ) (entry : LogEntry ρ) :
    outcome rows [entry] = entry.apply rows := by
  have hmade : entry.made.toList.filter (outlives []) = entry.made.toList :=
    List.filter_eq_self.mpr fun _ _ => rfl
  rw [outcome, filter_outlives_singleton, survivors, survivors, hmade, List.append_nil, apply]

end LogEntry

open LogEntry in
/-- Where every step up to some failure does to a table what its entry says, if it has one, a
run without the failure does what its log says. -/
theorem Run.table_eq_outcome {σ : Type v} {α : Type w} {ρ : Type u} {step : σ → α → Option σ}
    (table : σ → List ρ) (entry : σ × α → Option (LogEntry ρ)) (ok : σ → Prop)
    (back : ∀ {t next label}, step t label = some next → ok next → ok t)
    (acts : ∀ {t next label}, step t label = some next → ok next →
      table next = ((entry (t, label)).map fun entry => entry.apply (table t)).getD (table t))
    {s final : σ} {trace : List (σ × α)} (run : Run step s trace final) (hok : ok final) :
    table final = outcome (table s) (trace.filterMap entry) := by
  induction run with
  | nil => rw [List.filterMap_nil, outcome_nil]
  | @snoc trace t next label _ taken ih =>
      rw [acts taken hok, List.filterMap_append, outcome_append, ← ih (back taken hok)]
      cases hentry : entry (t, label) with
      | none => simp [hentry, outcome_nil]
      | some made => simp [hentry, outcome_singleton]

end DaemonChoir.Foundation
