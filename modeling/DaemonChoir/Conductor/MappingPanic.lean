import DaemonChoir.Common.Ieee
import DaemonChoir.Conductor.ControlApi
import DaemonChoir.Conductor.Mapping
import DaemonChoir.Foundation.Run
set_option autoImplicit false

/-!
# Conductor: which rules the mapping engine survives

The engine reads whatever rule list the handlers last wrote, and nothing between the
TOML parser and `apply_transform` looks at the numbers.  The guard `in_min >= in_max`
lets through every pair of bounds that is not ordered the other way, which is more
than `f64::clamp` accepts.

The run has the engine in the middle; the handlers' writes and the received snapshots come
from outside.  Over IEEE comparisons a bound that is not a number passes the guard, and
`f64::clamp` panics on it.  The engine survives a run exactly when at every receive the
bounds of the rules in force are numbers where the metric is known; neither the order of
the bounds nor the values of the snapshot matter.
-/

namespace DaemonChoir.Conductor

open DaemonChoir.Common DaemonChoir.Foundation Float64

/-- The mapping task, the cells it reads and what it has produced. -/
structure MappingTask (F : Type) where
  cells : ConfigCells F
  panicked : Bool
  produced : List (List (MappedParam F))

/-- What happens around the task: a handler writes a cell, or a snapshot arrives. -/
inductive MappingLabel (F : Type) where
  | write (write : CellWrite F)
  | receive (snapshot : StateSnapshot F)

/-- The snapshots received in a run. -/
def receivedSnapshots {F σ : Type} (trace : List (σ × MappingLabel F)) :
    List (StateSnapshot F) :=
  trace.filterMap fun visit =>
    match visit.2 with
    | .receive snapshot => some snapshot
    | .write _ => none

namespace MappingTask

section Task

variable {F : Type}

/-- The task as `main` starts it from the startup configuration. -/
def start (config : Config F) : MappingTask F where
  cells := .new config
  panicked := false
  produced := []

/-- The task produced one parameter list for each snapshot and is still running. -/
def Survives (trace : List (MappingTask F × MappingLabel F)) (task : MappingTask F) :
    Prop :=
  task.panicked = false ∧ task.produced.length = (receivedSnapshots trace).length

variable [Float64 F] [Libm F]

/-- One step; a task that has panicked receives nothing more. -/
def step (task : MappingTask F) : MappingLabel F → Option (MappingTask F)
  | .write write => some { task with cells := task.cells.perform write }
  | .receive snapshot =>
      if task.panicked then none
      else
        match mappingFrame task.cells.mappingRules snapshot with
        | .skipped => some task
        | .panicked => some { task with panicked := true }
        | .mapped params => some { task with produced := task.produced ++ [params] }

/-- No run poisons a lock. -/
theorem healthy_of_run {config : Config F} {trace : List (MappingTask F × MappingLabel F)}
    {task : MappingTask F} (run : Run step (start config) trace task) :
    task.cells.Healthy := by
  refine run.state_invariant (fun task => task.cells.Healthy)
    (ConfigCells.healthy_new config) ?_
  intro before next label hbefore taken
  cases label with
  | write write =>
      cases taken
      exact hbefore.perform write
  | receive snapshot =>
      simp only [step] at taken
      split at taken
      · cases taken
      · split at taken <;> cases taken <;> exact hbefore

/-- A panic is never undone. -/
theorem panicked_of_step {task next : MappingTask F} {label : MappingLabel F}
    (taken : task.step label = some next) (hnext : next.panicked = false) :
    task.panicked = false := by
  cases label with
  | write write =>
      cases taken
      exact hnext
  | receive snapshot =>
      simp only [step] at taken
      cases hpanicked : task.panicked with
      | true => simp [hpanicked] at taken
      | false => rfl

end Task

section Ieee

variable {F : Type} [IeeeFloat F] [Libm F]

/-- No rule with a known metric has an input bound that is not a number. -/
def BoundsAreNumbers (rules : List (MappingRule F)) : Prop :=
  ∀ rule ∈ rules, rule.sourceMetric ∈ metricNames →
    ¬ IeeeFloat.IsNan rule.inputRange.1 ∧ ¬ IeeeFloat.IsNan rule.inputRange.2

/-- What receiving a snapshot does, by the rules in force. -/
theorem step_receive {task next : MappingTask F} {snapshot : StateSnapshot F}
    (healthy : task.cells.Healthy) (taken : task.step (.receive snapshot) = some next) :
    (BoundsAreNumbers task.cells.mappingRules.value ∧ next.panicked = false ∧
      ∃ params, next.produced = task.produced ++ [params]) ∨
    (¬ BoundsAreNumbers task.cells.mappingRules.value ∧ next.panicked = true) := by
  have hrules : task.cells.mappingRules.read = some task.cells.mappingRules.value :=
    RwLock.read_eq_some healthy.mappingRules
  have hsome := mapRules_isSome_iff snapshot.metrics task.cells.mappingRules.value
  simp only [IeeeFloat.ge_or_le_iff] at hsome
  simp only [step, mappingFrame, hrules] at taken
  split at taken
  · cases taken
  · rename_i hrunning
    cases hmapped : mapRules snapshot.metrics task.cells.mappingRules.value with
    | none =>
        simp only [hmapped, Option.some.injEq] at taken
        rw [← taken]
        refine .inr ⟨fun hnumbers => ?_, rfl⟩
        have hfinished := hsome.mpr hnumbers
        rw [hmapped] at hfinished
        cases hfinished
    | some params =>
        simp only [hmapped, Option.some.injEq] at taken
        rw [← taken]
        have hnumbers := hsome.mp (by rw [hmapped]; rfl)
        exact .inl ⟨hnumbers, Bool.eq_false_iff.mpr hrunning, params, rfl⟩

/-- The task survives a run exactly when, at each snapshot, no rule in force with a known
metric has an input bound that is not a number. -/
theorem survives_iff {config : Config F} {trace : List (MappingTask F × MappingLabel F)}
    {final : MappingTask F} (run : Run step (start config) trace final) :
    Survives trace final ↔
      ∀ visit ∈ trace, ∀ snapshot, visit.2 = .receive snapshot →
        BoundsAreNumbers visit.1.cells.mappingRules.value := by
  constructor
  · intro hsurvives visit hmem snapshot hreceive
    obtain ⟨hrunning, _⟩ := hsurvives
    obtain ⟨before, label⟩ := visit
    cases hreceive
    obtain ⟨front, back, next, rfl, hfront, taken, hrest⟩ := run.of_mem hmem
    have hnext : next.panicked = false :=
      (hrest.of_antitone (fun task => task.panicked = false) hrunning
        panicked_of_step).1
    rcases step_receive (healthy_of_run hfront) taken with ⟨hnumbers, _⟩ | ⟨_, hpanicked⟩
    · exact hnumbers
    · rw [hnext] at hpanicked
      cases hpanicked
  · induction run with
    | nil => exact fun _ => ⟨rfl, rfl⟩
    | @snoc trace before next label earlier taken ih =>
        intro hnumbers
        obtain ⟨hrunning, hproduced⟩ :=
          ih fun visit hmem => hnumbers visit (List.mem_append_left _ hmem)
        have hreceived : receivedSnapshots (trace ++ [(before, label)]) =
            receivedSnapshots trace ++ receivedSnapshots [(before, label)] :=
          List.filterMap_append
        rw [Survives, hreceived, List.length_append, ← hproduced]
        cases label with
        | write write =>
            cases taken
            exact ⟨hrunning, rfl⟩
        | receive snapshot =>
            have hnow := hnumbers (before, .receive snapshot) (by simp) snapshot rfl
            rcases step_receive (healthy_of_run earlier) taken with
              ⟨_, hnext, params, hparams⟩ | ⟨hnot, _⟩
            · exact ⟨hnext, by rw [hparams]; simp [receivedSnapshots]⟩
            · exact absurd hnow hnot

end Ieee

/-! ## Two configurations -/

/-- A configuration whose only rule reads the context rate through the given bounds. -/
def configWith (inMin inMax : Ieee) : Config Ieee :=
  { (Config.default : Config Ieee) with
    mapping := [{ sourceMetric := "cpu.sched.context_rate"
                  oscAddress := "/choir/voice/0/amplitude"
                  transform := "linear"
                  inputRange := (inMin, inMax)
                  outputRange := (.finite 0, .finite 1) }] }

/-- A snapshot whose metrics are all zero. -/
def quietSnapshot : StateSnapshot Ieee :=
  { timestampUs := 0, windowMs := 50, stale := false, lostEvents := 0
    metrics := MetricMap.default }

/-- With the bounds 0 and 1 a snapshot is mapped. -/
theorem survives_iff_unit :
    ∃ trace final, Run step (start (configWith (.finite 0) (.finite 1))) trace final ∧
      receivedSnapshots trace = [quietSnapshot] ∧ Survives trace final := by
  have run : Run step (start (configWith (.finite 0) (.finite 1))) _ _ :=
    execute_sound [.receive quietSnapshot] rfl
  refine ⟨_, _, run, rfl, (survives_iff run).mpr ?_⟩
  intro visit hmem snapshot _
  rw [List.mem_singleton.mp hmem]
  intro rule hrule _
  rw [List.mem_singleton.mp hrule]
  decide

/-- With NaN as lower bound the first snapshot ends the task. -/
theorem not_always_survives :
    ¬ ∀ (config : Config Ieee) (trace : List (MappingTask Ieee × MappingLabel Ieee))
        (final : MappingTask Ieee),
        Run step (start config) trace final → Survives trace final := by
  intro hclaim
  have run : Run step (start (configWith .nan (.finite 1))) _ _ :=
    execute_sound [.receive quietSnapshot] rfl
  have hrunning := (hclaim _ _ _ run).1
  cases hrunning

end MappingTask

end DaemonChoir.Conductor
