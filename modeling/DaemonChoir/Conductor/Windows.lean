import DaemonChoir.Conductor.Aggregator
import Mathlib.Algebra.Order.Floor.Ring
import Mathlib.Tactic.NormNum
set_option autoImplicit false

/-!
# Conductor: the aggregator over a sequence of windows

A window is what one turn of the interval sees: the events received since the last
tick, the clock and the loss counter.  The loop state after any sequence of windows
is described by two statistics of the sequence: the length of the trailing run of
empty windows, and the moving average of each raw metric.

The loop state is a fold over the windows, so both statistics are proved by induction on
the sequence, from its end: a step lemma says what one window does to them, and the run
lemma gives them after every prefix.  The `k`-th snapshot is then what the tick of the
`k`-th window returns in the state after the windows before it.

What the modules on top need of this one is only that: the flag of the `k`-th snapshot
(`snapshot_stale`), its metrics (`snapshot_metrics`), and that nothing else of a window
outlives its tick (`afterWindows_currentWindowEvents`).
-/

namespace DaemonChoir.Conductor

open DaemonChoir.Common DaemonChoir.Foundation Float64

/-- One window of `Aggregator::run`. -/
structure Window where
  /-- The events received before the tick. -/
  events : List RawEvent
  /-- The clock at the tick. -/
  nowUs : UInt64
  /-- What the loss counter held at the tick. -/
  lostEvents : UInt64
  /-- A `Vec` holds fewer elements than `usize` counts. -/
  length_lt : events.length < 2 ^ 64

/-- The window is empty. -/
def Window.isEmpty (window : Window) : Bool := window.events.isEmpty

/-- The length of the run of empty windows at the end. -/
def emptyRun (windows : List Window) : Nat := trailing Window.isEmpty windows

section Runs

variable {F : Type} [Float64 F]

namespace Aggregator

/-- Receive the events of a window one after another. -/
def receive (aggregator : Aggregator F) (events : List RawEvent) : Aggregator F :=
  events.foldl push aggregator

/-- The turns of the loop up to and including the tick of the window. -/
def runWindow (aggregator : Aggregator F) (window : Window) :
    Option (Aggregator F × StateSnapshot F) :=
  (aggregator.receive window.events).tick window.nowUs window.lostEvents

/-- The snapshots emitted over a sequence of windows; a panic would end it. -/
def snapshots (aggregator : Aggregator F) : List Window → List (StateSnapshot F)
  | [] => []
  | window :: rest =>
      match aggregator.runWindow window with
      | none => []
      | some (next, snapshot) => snapshot :: next.snapshots rest

/-- The loop state after a sequence of windows. -/
def afterWindows (aggregator : Aggregator F) (windows : List Window) : Aggregator F :=
  windows.foldl (fun state window => (state.receive window.events).advance) aggregator

@[simp] theorem afterWindows_append_singleton (aggregator : Aggregator F)
    (windows : List Window) (window : Window) :
    aggregator.afterWindows (windows ++ [window]) =
      ((aggregator.afterWindows windows).receive window.events).advance := by
  simp [afterWindows]

omit [Float64 F] in
theorem receive_eq (aggregator : Aggregator F) (events : List RawEvent) :
    aggregator.receive events =
      { aggregator with
        currentWindowEvents := aggregator.currentWindowEvents ++ events } := by
  unfold receive
  induction events generalizing aggregator with
  | nil => simp
  | cons event rest ih =>
      rw [List.foldl_cons, ih]
      simp [push]

/-- Every window emits one snapshot: the tick of the state the earlier windows left. -/
theorem snapshots_getElem (aggregator : Aggregator F) (front back : List Window)
    (window : Window) :
    ∃ snapshot,
      (aggregator.snapshots (front ++ window :: back))[front.length]? = some snapshot ∧
        ((aggregator.afterWindows front).receive window.events).tick
            window.nowUs window.lostEvents =
          some (aggregator.afterWindows (front ++ [window]), snapshot) := by
  induction front generalizing aggregator with
  | nil =>
      obtain ⟨metrics, _, htick⟩ :=
        (aggregator.receive window.events).tick_eq window.nowUs window.lostEvents
      refine ⟨_, ?_, htick⟩
      simp [snapshots, runWindow, htick]
  | cons first front ih =>
      obtain ⟨metrics, _, htick⟩ :=
        (aggregator.receive first.events).tick_eq first.nowUs first.lostEvents
      obtain ⟨snapshot, hget, hlast⟩ := ih (aggregator.receive first.events).advance
      refine ⟨snapshot, ?_, hlast⟩
      simpa [snapshots, runWindow, htick] using hget

theorem afterWindows_currentWindowEvents (windowMs : UInt64) (windows : List Window) :
    ((new windowMs : Aggregator F).afterWindows windows).currentWindowEvents = [] := by
  induction windows using List.reverseRecOn with
  | nil => rfl
  | append_singleton windows window _ =>
      rw [afterWindows_append_singleton]
      rfl

theorem receive_currentWindowEvents (windowMs : UInt64) (windows : List Window)
    (events : List RawEvent) :
    (((new windowMs : Aggregator F).afterWindows windows).receive events).currentWindowEvents =
      events := by
  rw [receive_eq, afterWindows_currentWindowEvents, List.nil_append]

/-! ## The counter of empty windows -/

theorem consecutiveEmptyWindows_eq (windowMs : UInt64) (windows : List Window) :
    ((new windowMs : Aggregator F).afterWindows windows).consecutiveEmptyWindows =
      Int32.ofNat (emptyRun windows) := by
  induction windows using List.reverseRecOn with
  | nil => rfl
  | append_singleton windows window ih =>
      have hevents := receive_currentWindowEvents (F := F) windowMs windows window.events
      rw [afterWindows_append_singleton, emptyRun, trailing_append_singleton]
      show countEmpty _ = _
      rw [countEmpty, hevents, Window.isEmpty]
      cases window.events.isEmpty with
      | false => simp
      | true =>
          rw [if_pos rfl, if_pos rfl, Int32.ofNat_add, receive_eq, ← ih.symm]
          rfl

theorem five_le_int32_iff (run : Nat) :
    (5 : Int32) ≤ Int32.ofNat run ↔ 5 ≤ run % 2 ^ 32 ∧ run % 2 ^ 32 < 2 ^ 31 := by
  have hbmod : (Int32.ofNat run).toInt = (run : Int).bmod (2 ^ 32) := Int32.toInt_ofNat'
  have hfive : (5 : Int32).toInt = 5 := rfl
  rw [Int32.le_iff_toInt_le, hbmod, hfive, Int.bmod_def]
  split <;> omega

theorem snapshots_position (windowMs : UInt64) {windows : List Window} {k : Nat}
    (hlow : 1 ≤ k) (hhigh : k ≤ windows.length) :
    ∃ (snapshot : StateSnapshot F) (state : Aggregator F) (window : Window),
      ((new windowMs : Aggregator F).snapshots windows)[k - 1]? = some snapshot ∧
        state.tick window.nowUs window.lostEvents =
          some ((new windowMs : Aggregator F).afterWindows (windows.take k), snapshot) := by
  obtain ⟨front, window, back, rfl, hlength, htake⟩ := exists_split hlow hhigh
  obtain ⟨snapshot, hget, htick⟩ :=
    (new windowMs : Aggregator F).snapshots_getElem front back window
  rw [hlength] at hget
  rw [← htake] at htick
  exact ⟨snapshot, _, window, hget, htick⟩

/-- The flag of the `k`-th snapshot, by the run of empty windows that ends with the
`k`-th. -/
theorem snapshot_stale (windowMs : UInt64) (windows : List Window) (k : Nat)
    (hlow : 1 ≤ k) (hhigh : k ≤ windows.length) :
    ∃ snapshot,
      ((new windowMs : Aggregator F).snapshots windows)[k - 1]? = some snapshot ∧
        (snapshot.stale = true ↔
          5 ≤ emptyRun (windows.take k) % 2 ^ 32 ∧
            emptyRun (windows.take k) % 2 ^ 32 < 2 ^ 31) := by
  obtain ⟨snapshot, state, window, hget, htick⟩ :=
    snapshots_position (F := F) windowMs hlow hhigh
  obtain ⟨metrics, _, heq⟩ := state.tick_eq window.nowUs window.lostEvents
  rw [heq] at htick
  obtain ⟨hnext, rfl⟩ := Prod.mk.inj (Option.some.inj htick)
  have hcounter := consecutiveEmptyWindows_eq (F := F) windowMs (windows.take k)
  have hstate : state.countEmpty = Int32.ofNat (emptyRun (windows.take k)) := by
    rw [← hcounter, ← hnext]
    rfl
  refine ⟨_, hget, ?_⟩
  rw [decide_eq_true_iff, hstate]
  exact five_le_int32_iff _

theorem snapshot_metrics (windowMs : UInt64) (windows : List Window) (k : Nat)
    (hlow : 1 ≤ k) (hhigh : k ≤ windows.length) :
    ∃ snapshot,
      ((new windowMs : Aggregator F).snapshots windows)[k - 1]? = some snapshot ∧
        ((new windowMs : Aggregator F).afterWindows (windows.take k)).metrics =
          some snapshot.metrics := by
  obtain ⟨snapshot, state, window, hget, htick⟩ :=
    snapshots_position (F := F) windowMs hlow hhigh
  obtain ⟨metrics, hmetrics, heq⟩ := state.tick_eq window.nowUs window.lostEvents
  rw [heq] at htick
  obtain ⟨hnext, rfl⟩ := Prod.mk.inj (Option.some.inj htick)
  refine ⟨_, hget, ?_⟩
  rw [← hnext]
  exact hmetrics

/-! ## The stale flag -/

/-- Counting windows from 1: `k` is at least 5 and the windows `k - 4, ..., k` were
all empty. -/
def FiveEmpty (windows : List Window) (k : Nat) : Prop :=
  5 ≤ k ∧ ∀ i, k - 4 ≤ i → i ≤ k → ∀ window, windows[i - 1]? = some window →
    window.events = []

omit [Float64 F] in
/-- Five empty windows are a trailing run of at least five. -/
theorem fiveEmpty_iff {windows : List Window} {k : Nat} (hk : k ≤ windows.length) :
    FiveEmpty windows k ↔ 5 ≤ emptyRun (windows.take k) := by
  have hlength : (windows.take k).length = k := List.length_take_of_le hk
  rw [emptyRun, le_trailing_iff, hlength, FiveEmpty]
  apply and_congr_right
  intro hfive
  constructor
  · intro hempty i hi window hwindow
    have hlt : i < k := by
      have h := (List.getElem?_eq_some_iff.mp hwindow).1
      omega
    rw [List.getElem?_take_of_lt hlt] at hwindow
    have hevents := hempty (i + 1) (by omega) (by omega) window (by simpa using hwindow)
    simp [Window.isEmpty, hevents]
  · intro hempty i hlow hhigh window hwindow
    have hwithin : (windows.take k)[i - 1]? = some window := by
      rw [List.getElem?_take_of_lt (by omega), hwindow]
    have h := hempty (i - 1) (by omega) window hwithin
    simpa [Window.isEmpty] using h

/-- The `k`-th snapshot exists, and its flag is right exactly when the run of empty
windows that ends with the `k`-th is shorter than five or leaves a positive counter
of at least five in 32 bits. -/
theorem stale_exact_iff (windowMs : UInt64) (windows : List Window) (k : Nat)
    (hlow : 1 ≤ k) (hhigh : k ≤ windows.length) :
    ∃ snapshot,
      ((new windowMs : Aggregator F).snapshots windows)[k - 1]? = some snapshot ∧
        ((snapshot.stale = true ↔ FiveEmpty windows k) ↔
          emptyRun (windows.take k) < 5 ∨
            5 ≤ emptyRun (windows.take k) % 2 ^ 32 ∧
              emptyRun (windows.take k) % 2 ^ 32 < 2 ^ 31) := by
  obtain ⟨snapshot, hget, hstale⟩ := snapshot_stale (F := F) windowMs windows k hlow hhigh
  refine ⟨snapshot, hget, ?_⟩
  rw [hstale, fiveEmpty_iff hhigh]
  omega

/-- A window without events. -/
def silentWindow : Window :=
  { events := [], nowUs := 0, lostEvents := 0, length_lt := by decide }

omit [Float64 F] in
theorem emptyRun_silent (n : Nat) : emptyRun (List.replicate n silentWindow) = n :=
  trailing_replicate rfl n

/-- After seven windows without events the flag is right. -/
theorem stale_exact_iff_seven :
    ∃ snapshot,
      ((new 50 : Aggregator ℚ).snapshots (List.replicate 7 silentWindow))[6]? =
          some snapshot ∧
        (snapshot.stale = true ↔ FiveEmpty (List.replicate 7 silentWindow) 7) := by
  have hrun : emptyRun ((List.replicate 7 silentWindow).take 7) = 7 :=
    emptyRun_silent 7
  obtain ⟨snapshot, hget, hexact⟩ :=
    stale_exact_iff (F := ℚ) 50 (List.replicate 7 silentWindow) 7 (by decide) (by decide)
  refine ⟨snapshot, hget, hexact.mpr (.inr ?_)⟩
  rw [hrun]
  decide

/-- After `2 ^ 31` windows without events the counter is negative and the flag off. -/
theorem stale_not_always_exact :
    ¬ ∀ (windowMs : UInt64) (windows : List Window) (k : Nat), 1 ≤ k → k ≤ windows.length →
        ∃ snapshot,
          ((new windowMs : Aggregator ℚ).snapshots windows)[k - 1]? = some snapshot ∧
            (snapshot.stale = true ↔ FiveEmpty windows k) := by
  intro hclaim
  have hlength : 2 ^ 31 ≤ (List.replicate (2 ^ 31) silentWindow).length :=
    List.length_replicate.ge
  have hrun : emptyRun ((List.replicate (2 ^ 31) silentWindow).take (2 ^ 31)) = 2 ^ 31 := by
    rw [List.take_of_length_le List.length_replicate.le, emptyRun_silent]
  obtain ⟨snapshot, hget, hexact⟩ :=
    hclaim 50 (List.replicate (2 ^ 31) silentWindow) (2 ^ 31) (by omega) hlength
  obtain ⟨actual, hactual, hstale⟩ :=
    snapshot_stale (F := ℚ) 50 (List.replicate (2 ^ 31) silentWindow) (2 ^ 31) (by omega)
      hlength
  obtain rfl : actual = snapshot := Option.some.inj (hactual.symm.trans hget)
  have hempty : FiveEmpty (List.replicate (2 ^ 31) silentWindow) (2 ^ 31) := by
    rw [fiveEmpty_iff hlength, hrun]
    omega
  have hnot := (hstale.mp (hexact.mpr hempty)).2
  rw [hrun] at hnot
  omega

end Aggregator

end Runs

end DaemonChoir.Conductor
