import DaemonChoir.Conductor.Reconfiguration
set_option autoImplicit false

/-!
# Conductor: the window after a reload

A reload replaces `current_config`, and with it the window that the API reports as
configured.  The aggregator keeps the window it was created with, and its interval the
period.
-/

namespace DaemonChoir.Conductor

open DaemonChoir.Common DaemonChoir.Foundation

namespace Running

variable {F : Type}

/-- The configuration of a successful reload. -/
def reloaded (parsers : Parsers F) (visit : Running F × RunningLabel) : Option (Config F) :=
  match accepted parsers visit.2 with
  | some (.reload newCfg) => some newCfg
  | _ => none

/-- The configuration that was last read from disk. -/
def lastRead (parsers : Parsers F) (config : Config F)
    (trace : List (Running F × RunningLabel)) : Config F :=
  (lastWrite (reloaded parsers) trace).getD config

theorem serve_daemon {cells : ConfigCells F} (healthy : cells.Healthy)
    (request : UpdateRequest F) :
    (request.serve cells).currentConfig.value.daemon =
      match request with
      | .reload newCfg => newCfg.daemon
      | .backends _ => cells.currentConfig.value.daemon := by
  cases request with
  | reload newCfg => rw [(UpdateRequest.serve_reload healthy newCfg).1]
  | backends list => rw [(UpdateRequest.serve_backends healthy list).1]

variable [Float64 F] {parsers : Parsers F} {config : Config F}
  {trace : List (Running F × RunningLabel)} {final : Running F}

theorem currentConfig_daemon (run : Run (step parsers) (launched config) trace final) :
    final.cells.currentConfig.value.daemon = (lastRead parsers config trace).daemon := by
  induction run with
  | nil => rfl
  | @snoc trace before next label earlier taken ih =>
      have healthy := healthy_of_run earlier
      rw [step_cells taken, lastRead, lastWrite_append_singleton]
      unfold lastRead at ih
      cases haccepted : accepted parsers label with
      | none => simpa [reloaded, haccepted] using ih
      | some request =>
          cases request with
          | reload newCfg => simpa [reloaded, haccepted] using serve_daemon healthy (.reload newCfg)
          | backends list =>
              simpa [reloaded, haccepted] using (serve_daemon healthy (.backends list)).trans ih

/-- The window and the period stay what they were at startup, at every visit. -/
theorem window_of_run (run : Run (step parsers) (launched config) trace final) :
    (∀ visit ∈ trace,
      visit.1.aggregator.windowMs = Aggregator.clampWindow config.daemon.windowMs) ∧
    final.aggregator.windowMs = Aggregator.clampWindow config.daemon.windowMs ∧
      final.interval = .fromMillis (Aggregator.clampWindow config.daemon.windowMs) := by
  induction run with
  | nil => exact ⟨by simp, rfl, rfl⟩
  | @snoc trace before next label _ taken ih =>
      obtain ⟨hvisits, hwindow, hinterval⟩ := ih
      obtain ⟨hkept, hperiod⟩ := step_window taken
      refine ⟨?_, hkept.trans hwindow, hperiod.trans hinterval⟩
      rw [List.forall_mem_append, List.forall_mem_singleton]
      exact ⟨hvisits, hwindow⟩

/-- The snapshots emitted after the last reload and the period of the ticks show the
window that is configured. -/
structure WindowAgrees (parsers : Parsers F) (trace : List (Running F × RunningLabel))
    (final : Running F) : Prop where
  snapshots : ∀ front back, trace = front ++ back →
    (∀ visit ∈ back, reloaded parsers visit = none) →
      ∀ snapshot ∈ back.filterMap emitted, snapshot.windowMs =
        Aggregator.clampWindow final.cells.currentConfig.value.daemon.windowMs
  period : final.interval =
    .fromMillis (Aggregator.clampWindow final.cells.currentConfig.value.daemon.windowMs)

/-- Reported and effective window agree exactly when the last window read from disk clamps
to the value that the first one clamped to. -/
theorem window_agrees_iff (run : Run (step parsers) (launched config) trace final) :
    WindowAgrees parsers trace final ↔
      Aggregator.clampWindow (lastRead parsers config trace).daemon.windowMs =
        Aggregator.clampWindow config.daemon.windowMs := by
  obtain ⟨hvisits, _, hinterval⟩ := window_of_run run
  rw [← currentConfig_daemon run]
  constructor
  · intro agrees
    have hperiod := agrees.period
    rw [hinterval] at hperiod
    exact (Duration.fromMillis_inj hperiod).symm
  · intro heq
    constructor
    · intro front back htrace _ snapshot hmem
      obtain ⟨visit, hvisit, hemitted⟩ := List.mem_filterMap.mp hmem
      rw [heq, emitted_windowMs hemitted]
      apply hvisits
      rw [htrace]
      exact List.mem_append_right front hvisit
    · rw [hinterval, heq]

/-- A file that asks for windows of another length. -/
def windowText (digits : String) : String := "[daemon]\nwindow_ms = " ++ digits ++ "\n"

/-- The defaults with that window. -/
def windowConfig (windowMs : UInt64) : Config ℚ :=
  { (Config.default : Config ℚ) with
    daemon := { DaemonConfig.default with windowMs := windowMs } }

/-- The parsers on an empty file and on three of those files. -/
def windowParsers : Parsers ℚ where
  fromStr text :=
    if text = "" then .ok Config.default
    else if text = windowText "100" then .ok (windowConfig 100)
    else if text = windowText "600" then .ok (windowConfig 600)
    else if text = windowText "700" then .ok (windowConfig 700)
    else .error "TOML parse error"
  extract _ := .error ⟨422, "Failed to deserialize the JSON body into the target type"⟩

/-- Two windows above the bound agree, since both are clamped to it. -/
theorem window_agrees_iff_clamped :
    ∃ trace final, Run (step windowParsers) (launched (windowConfig 600)) trace final ∧
      trace.map Prod.snd = [.tick 7 0, .reload (.ok (windowText "700")), .tick 8 0] ∧
        final.cells.currentConfig.value.daemon.windowMs = 700 ∧
          WindowAgrees windowParsers trace final := by
  have run : Run (step windowParsers) (launched (windowConfig 600)) _ _ :=
    execute_sound [.tick 7 0, .reload (.ok (windowText "700")), .tick 8 0] rfl
  exact ⟨_, _, run, rfl, rfl, (window_agrees_iff run).mpr rfl⟩

/-- After a reload with a longer window the old one stays in force. -/
theorem window_not_always_agrees :
    ¬ ∀ (parsers : Parsers ℚ) (config : Config ℚ)
        (trace : List (Running ℚ × RunningLabel)) (final : Running ℚ),
        Run (step parsers) (launched config) trace final →
          WindowAgrees parsers trace final := by
  intro hclaim
  have run : Run (step windowParsers) (launched Config.default) _ _ :=
    execute_sound [.reload (.ok (windowText "100")), .tick 7 0] rfl
  have hperiod := (hclaim _ _ _ _ run).period
  exact absurd (Duration.fromMillis_inj hperiod) (by decide)

end Running

end DaemonChoir.Conductor
