import DaemonChoir.Foundation.Run
import Mathlib.Data.List.Perm.Basic
import Mathlib.Order.Lattice
set_option autoImplicit false

/-!
# Foundation: rows that remember what they were made from

A table whose rows carry the number of the item they were made from, with a record of
the numbers whose rows were deleted.  The numbers are bookkeeping: the content of the
table is what a table without them would hold.

Rows with a key can also be deleted below a cutoff.  Of several such deletions only the one
with the highest cutoff counts, whatever their order.
-/

namespace DaemonChoir.Foundation

universe u

/-- Rows with the number of their item; `none` for rows that were there before. -/
structure Table (ρ : Type u) where
  rows : List (Option ℕ × ρ)
  /-- The numbers of the deleted rows. -/
  deleted : List (Option ℕ)
  deriving Repr

namespace Table

variable {ρ : Type u}

/-- A table that was there before. -/
def ofRows (rows : List ρ) : Table ρ :=
  { rows := rows.map fun row => (none, row), deleted := [] }

/-- Append the row of an item. -/
def append (table : Table ρ) (origin : Option ℕ) (row : ρ) : Table ρ :=
  { table with rows := table.rows ++ [(origin, row)] }

/-- Delete all rows but those that are to be kept. -/
def retain (table : Table ρ) (keep : ρ → Bool) : Table ρ where
  rows := table.rows.filter fun entry => keep entry.2
  deleted := table.deleted ++ (table.rows.filter fun entry => !keep entry.2).map Prod.fst

/-- The table without the numbers. -/
def content (table : Table ρ) : List ρ := table.rows.map Prod.snd

/-- The numbers of the items that a row was ever made of. -/
def numbers (table : Table ρ) : List ℕ :=
  table.deleted.filterMap id ++ table.rows.filterMap Prod.fst

@[simp] theorem content_ofRows (rows : List ρ) : (ofRows rows).content = rows := by
  rw [content, ofRows, List.map_map]
  exact List.map_id rows

@[simp] theorem content_append (table : Table ρ) (origin : Option ℕ) (row : ρ) :
    (table.append origin row).content = table.content ++ [row] := by
  simp [content, append]

@[simp] theorem content_retain (table : Table ρ) (keep : ρ → Bool) :
    (table.retain keep).content = table.content.filter keep := by
  simp only [content, retain, List.filter_map]
  rfl

@[simp] theorem numbers_ofRows (rows : List ρ) : (ofRows rows).numbers = [] := by
  simp [numbers, ofRows]

/-- A new row adds its number. -/
theorem numbers_append (table : Table ρ) (number : ℕ) (row : ρ) :
    (table.append (some number) row).numbers.Perm (number :: table.numbers) := by
  rw [numbers, append, List.filterMap_append, ← List.append_assoc]
  exact List.perm_append_singleton number _

/-- Deletion forgets no number. -/
theorem numbers_retain (table : Table ρ) (keep : ρ → Bool) :
    (table.retain keep).numbers.Perm table.numbers := by
  have hsplit := (List.filter_append_perm (fun entry => keep entry.2) table.rows).filterMap
    Prod.fst
  have hdeleted : ((table.rows.filter fun entry => !keep entry.2).map Prod.fst).filterMap id =
      (table.rows.filter fun entry => !keep entry.2).filterMap Prod.fst := by
    rw [List.filterMap_map]
    rfl
  rw [List.filterMap_append] at hsplit
  rw [numbers, retain, List.filterMap_append, hdeleted, List.append_assoc]
  exact (List.perm_append_comm.trans hsplit).append_left _

theorem mem_rows_append {table : Table ρ} {origin : Option ℕ} {row : ρ}
    {entry : Option ℕ × ρ} :
    entry ∈ (table.append origin row).rows ↔ entry ∈ table.rows ∨ entry = (origin, row) := by
  simp [append]

theorem mem_rows_of_retain {table : Table ρ} {keep : ρ → Bool} {entry : Option ℕ × ρ}
    (h : entry ∈ (table.retain keep).rows) : entry ∈ table.rows :=
  List.mem_of_mem_filter h

/-- The number of an item stands in the table or among the deleted ones. -/
theorem mem_numbers {table : Table ρ} {number : ℕ} :
    number ∈ table.numbers ↔
      (∃ row, (some number, row) ∈ table.rows) ∨ some number ∈ table.deleted := by
  rw [or_comm]
  simp [numbers]

/-- Where every number is pending, in the table or deleted, and only one of these, the early
items all have their rows exactly when none of their numbers is pending or deleted. -/
theorem stored_iff {α : Type u} {table : Table ρ} {pending : List ℕ} {early items : List α}
    {rowOf : α → ρ} (accounted : (pending ++ table.numbers).Perm (List.range items.length))
    (named : ∀ number row, (some number, row) ∈ table.rows →
      ∃ item, items[number]? = some item ∧ row = rowOf item)
    (hearly : early <+: items) :
    (∀ number item, early[number]? = some item → (some number, rowOf item) ∈ table.rows) ↔
      (∀ number ∈ pending, early.length ≤ number) ∧
        ∀ number, some number ∈ table.deleted → early.length ≤ number := by
  have hnodup := accounted.nodup_iff.mpr List.nodup_range
  obtain ⟨_, hnumbers, hdisjoint⟩ := List.nodup_append.mp hnodup
  obtain ⟨_, _, hseparate⟩ := List.nodup_append.mp hnumbers
  constructor
  · intro hstored
    have hrow : ∀ number < early.length, ∃ row, (some number, row) ∈ table.rows := by
      intro number hlt
      exact ⟨_, hstored number _ (List.getElem?_eq_getElem hlt)⟩
    constructor
    · intro number hpending
      by_contra hlt
      obtain ⟨row, hmem⟩ := hrow number (Nat.not_le.mp hlt)
      exact hdisjoint number hpending number (mem_numbers.mpr (.inl ⟨row, hmem⟩)) rfl
    · intro number hdeleted
      by_contra hlt
      obtain ⟨row, hmem⟩ := hrow number (Nat.not_le.mp hlt)
      exact hseparate number (List.mem_filterMap.mpr ⟨_, hdeleted, rfl⟩) number
        (List.mem_filterMap.mpr ⟨_, hmem, rfl⟩) rfl
  · intro ⟨hpending, hdeleted⟩ number item hitem
    obtain ⟨hlt, rfl⟩ := List.getElem?_eq_some_iff.mp hitem
    have hmem : number ∈ pending ++ table.numbers :=
      accounted.mem_iff.mpr (List.mem_range.mpr (Nat.lt_of_lt_of_le hlt hearly.length_le))
    rcases List.mem_append.mp hmem with hmem | hmem
    · exact absurd (hpending number hmem) (Nat.not_le.mpr hlt)
    · rcases mem_numbers.mp hmem with ⟨row, hrow⟩ | hmem
      · obtain ⟨found, hfound, rfl⟩ := named number row hrow
        rw [List.prefix_iff_getElem?.mp hearly number hlt] at hfound
        obtain rfl := Option.some.inj hfound
        exact hrow
      · exact absurd (hdeleted number hmem) (Nat.not_le.mpr hlt)

end Table

/-! ## Rows from a cutoff on -/

section Cutoff

variable {ρ τ : Type u} [LinearOrder τ]

/-- The rows whose key is not below the cutoff. -/
def rowsFrom (key : ρ → τ) (cutoff : τ) (rows : List ρ) : List ρ :=
  rows.filter fun row => !decide (key row < cutoff)

theorem mem_rowsFrom {key : ρ → τ} {cutoff : τ} {rows : List ρ} {row : ρ} :
    row ∈ rowsFrom key cutoff rows ↔ row ∈ rows ∧ cutoff ≤ key row := by
  simp [rowsFrom]

theorem rowsFrom_eq_self_iff {key : ρ → τ} {cutoff : τ} {rows : List ρ} :
    rowsFrom key cutoff rows = rows ↔ ∀ row ∈ rows, cutoff ≤ key row := by
  rw [rowsFrom, List.filter_eq_self]
  simp

theorem rowsFrom_rowsFrom (key : ρ → τ) (first second : τ) (rows : List ρ) :
    rowsFrom key second (rowsFrom key first rows) = rowsFrom key (max first second) rows := by
  rw [rowsFrom, rowsFrom, rowsFrom, List.filter_filter]
  apply List.filter_congr
  intro row _
  simp [Bool.and_comm]

end Cutoff

end DaemonChoir.Foundation
