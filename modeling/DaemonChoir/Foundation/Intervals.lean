import Mathlib.Data.List.Induction
set_option autoImplicit false

/-!
# Foundation: histories cut into intervals

Some elements of a history cut it into intervals, the last of which is still open; others
mark the interval they lie in.  How many of the last intervals are unmarked can be said
by pointing at where they begin, or counted while the history grows.
-/

namespace DaemonChoir.Foundation

universe u

variable {α : Type u} (cut mark : α → Bool)

/-- An interval begins where the history ends. -/
def Opens (history : List α) : Prop :=
  history = [] ∨ ∃ earlier last, history = earlier ++ [last] ∧ cut last = true

/-- Neither the open interval nor the last `n` before it are marked. -/
def Quiet (n : Nat) (history : List α) : Prop :=
  ∃ front recent, history = front ++ recent ∧ Opens cut front ∧ recent.countP cut = n ∧
    ∀ x ∈ recent, mark x = false

theorem countP_append_singleton (p : α → Bool) (history : List α) (x : α) :
    (history ++ [x]).countP p = history.countP p + (p x).toNat := by
  rw [List.countP_append, List.countP_singleton]
  cases p x <;> rfl

/-- The last element with a property, when there is one. -/
theorem exists_last {p : α → Bool} {history : List α} (h : 0 < history.countP p) :
    ∃ front x back, history = front ++ x :: back ∧ p x = true ∧ back.countP p = 0 := by
  induction history using List.reverseRecOn with
  | nil => cases h
  | append_singleton history last ih =>
      cases hlast : p last with
      | true => exact ⟨history, last, [], rfl, hlast, rfl⟩
      | false =>
          rw [countP_append_singleton, hlast] at h
          obtain ⟨front, x, back, rfl, hx, hback⟩ := ih h
          refine ⟨front, x, back ++ [last], by simp, hx, ?_⟩
          rw [countP_append_singleton, hlast, hback]
          rfl

/-- An element of a history lies in the second of two parts or in the first. -/
theorem cons_split {front back first second : List α} {x : α}
    (h : front ++ x :: back = first ++ second) :
    (∃ before, second = before ++ x :: back) ∨
      ∃ between, first = front ++ x :: between ∧ back = between ++ second := by
  rcases List.append_eq_append_iff.mp h with ⟨rest, hfirst, hrest⟩ | ⟨before, _, hsecond⟩
  · cases rest with
    | nil => exact .inl ⟨[], hrest.symm⟩
    | cons y between =>
        obtain ⟨rfl, hback⟩ := List.cons.inj hrest
        exact .inr ⟨between, hfirst, hback⟩
  · exact .inl ⟨before, hsecond⟩

/-! ## One more element -/

section Steps

variable {cut mark} {history : List α} {x : α} {n : Nat}

theorem quiet_nil_iff : Quiet cut mark n [] ↔ n = 0 := by
  constructor
  · intro hquiet
    obtain ⟨front, recent, hsplit, _, hcount, _⟩ := hquiet
    obtain ⟨_, rfl⟩ := List.append_eq_nil_iff.mp hsplit.symm
    exact hcount.symm
  · intro hn
    exact ⟨[], [], rfl, .inl rfl, hn.symm, by simp⟩

/-- A cut opens a new interval. -/
theorem quiet_zero_append_of_cut (hcut : cut x = true) :
    Quiet cut mark 0 (history ++ [x]) :=
  ⟨history ++ [x], [], by simp, .inr ⟨history, x, rfl, hcut⟩, rfl, by simp⟩

/-- The last element of a history with a quiet end: it is a cut before the quiet part, or it
belongs to it. -/
theorem quiet_append_singleton (hquiet : Quiet cut mark n (history ++ [x])) :
    (n = 0 ∧ cut x = true) ∨ mark x = false ∧
      ∃ front recent, history = front ++ recent ∧ Opens cut front ∧
        (recent ++ [x]).countP cut = n ∧ ∀ y ∈ recent, mark y = false := by
  obtain ⟨front, recent, hsplit, hopens, hcount, hunmarked⟩ := hquiet
  induction recent using List.reverseRecOn with
  | nil =>
      left
      rw [List.append_nil] at hsplit
      rcases hopens with rfl | ⟨earlier, last, rfl, hcut⟩
      · simp at hsplit
      · obtain ⟨_, hlast⟩ := List.append_inj' hsplit rfl
        obtain rfl := List.singleton_inj.mp hlast
        exact ⟨hcount.symm, hcut⟩
  | append_singleton recent last _ =>
      right
      rw [← List.append_assoc] at hsplit
      obtain ⟨rfl, hlast⟩ := List.append_inj' hsplit rfl
      obtain rfl := List.singleton_inj.mp hlast
      exact ⟨hunmarked x (by simp), front, recent, rfl, hopens, hcount,
        fun y hmem => hunmarked y (List.mem_append_left _ hmem)⟩

/-- An unmarked element ends an interval or belongs to the open one. -/
theorem Quiet.append_singleton (hquiet : Quiet cut mark n history) (hmark : mark x = false) :
    Quiet cut mark (n + (cut x).toNat) (history ++ [x]) := by
  obtain ⟨front, recent, rfl, hopens, hcount, hunmarked⟩ := hquiet
  refine ⟨front, recent ++ [x], by simp, hopens, ?_, ?_⟩
  · rw [countP_append_singleton, hcount]
  · intro y hmem
    rcases List.mem_append.mp hmem with hmem | hmem
    · exact hunmarked y hmem
    · rw [List.mem_singleton.mp hmem]
      exact hmark

theorem quiet_succ_append_of_cut (hcut : cut x = true) (hmark : mark x = false) :
    Quiet cut mark (n + 1) (history ++ [x]) ↔ Quiet cut mark n history := by
  constructor
  · intro hquiet
    rcases quiet_append_singleton hquiet with ⟨hzero, _⟩ | ⟨_, front, recent, hsplit, hopens,
        hcount, hunmarked⟩
    · omega
    · refine ⟨front, recent, hsplit, hopens, ?_, hunmarked⟩
      rw [countP_append_singleton, hcut] at hcount
      exact Nat.succ_inj.mp hcount
  · intro hquiet
    have hlonger := hquiet.append_singleton hmark
    rw [hcut] at hlonger
    exact hlonger

theorem not_quiet_append_of_mark (hcut : cut x = false) (hmark : mark x = true) :
    ¬ Quiet cut mark n (history ++ [x]) := by
  intro hquiet
  rcases quiet_append_singleton hquiet with ⟨_, hx⟩ | ⟨hx, _⟩
  · rw [hcut] at hx
    cases hx
  · rw [hmark] at hx
    cases hx

theorem quiet_append_of_neither (hcut : cut x = false) (hmark : mark x = false) :
    Quiet cut mark n (history ++ [x]) ↔ Quiet cut mark n history := by
  constructor
  · intro hquiet
    rcases quiet_append_singleton hquiet with ⟨_, hx⟩ | ⟨_, front, recent, hsplit, hopens,
        hcount, hunmarked⟩
    · rw [hcut] at hx
      cases hx
    · refine ⟨front, recent, hsplit, hopens, ?_, hunmarked⟩
      rw [countP_append_singleton, hcut] at hcount
      exact hcount
  · intro hquiet
    have hlonger := hquiet.append_singleton hmark
    rw [hcut] at hlonger
    exact hlonger

end Steps

/-! ## Counting -/

/-- The unmarked intervals at the end, and whether the open one is unmarked so far. -/
structure QuietCount where
  closed : Nat
  openQuiet : Bool
  deriving DecidableEq, Repr, Inhabited

/-- The count after one more element. -/
def QuietCount.follow (count : QuietCount) (x : α) : QuietCount :=
  if cut x then { closed := if count.openQuiet then count.closed + 1 else 0, openQuiet := true }
  else if mark x then { count with openQuiet := false }
  else count

/-- The count of a history. -/
def quietCount (history : List α) : QuietCount :=
  history.foldl (QuietCount.follow cut mark) { closed := 0, openQuiet := true }

theorem quietCount_append_singleton (history : List α) (x : α) :
    quietCount cut mark (history ++ [x]) =
      (quietCount cut mark history).follow cut mark x := by
  simp [quietCount]

/-- The count tells how long the quiet end is. -/
theorem quiet_iff (hdisjoint : ∀ x, cut x = true → mark x = false) (n : Nat)
    (history : List α) :
    Quiet cut mark n history ↔
      (quietCount cut mark history).openQuiet = true ∧
        n ≤ (quietCount cut mark history).closed := by
  induction history using List.reverseRecOn generalizing n with
  | nil => simp [quiet_nil_iff, quietCount]
  | append_singleton history x ih =>
      rw [quietCount_append_singleton, QuietCount.follow]
      cases hcut : cut x with
      | true =>
          rw [if_pos rfl]
          cases n with
          | zero => simp [quiet_zero_append_of_cut hcut]
          | succ n =>
              rw [quiet_succ_append_of_cut hcut (hdisjoint x hcut), ih n]
              cases (quietCount cut mark history).openQuiet <;> simp
      | false =>
          rw [if_neg (by simp)]
          cases hmark : mark x with
          | true => simp [not_quiet_append_of_mark hcut hmark]
          | false => rw [if_neg (by simp), quiet_append_of_neither hcut hmark, ih n]

/-- A quiet end is shorter before its last cut. -/
theorem Quiet.exists_cut {n : Nat} {history : List α} (h : Quiet cut mark (n + 1) history) :
    ∃ earlier last recent, history = earlier ++ last :: recent ∧ cut last = true ∧
      Quiet cut mark n earlier ∧ recent.countP cut = 0 := by
  induction history using List.reverseRecOn with
  | nil => cases quiet_nil_iff.mp h
  | append_singleton history x ih =>
      cases hcut : cut x with
      | true =>
          rcases quiet_append_singleton h with ⟨hzero, _⟩ | ⟨hmark, _⟩
          · omega
          · exact ⟨history, x, [], rfl, hcut, (quiet_succ_append_of_cut hcut hmark).mp h, rfl⟩
      | false =>
          cases hmark : mark x with
          | true => exact absurd h (not_quiet_append_of_mark hcut hmark)
          | false =>
              obtain ⟨earlier, last, recent, rfl, hlast, hquiet, hrecent⟩ :=
                ih ((quiet_append_of_neither hcut hmark).mp h)
              refine ⟨earlier, last, recent ++ [x], by simp, hlast, hquiet, ?_⟩
              rw [countP_append_singleton, hrecent, hcut]
              rfl

end DaemonChoir.Foundation
