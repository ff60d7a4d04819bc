import DaemonChoir.Conductor.Cascade
set_option autoImplicit false

/-!
# Conductor: probe tasks that panic over the clock (`conductor/src/probe_manager.rs`)

Both probe loops read the clock with `duration_since(UNIX_EPOCH).unwrap()`, where every
other task of the daemon puts zero for a clock before 1970.  A probe task that reads such a
clock panics at the head of its loop.  It takes nothing along: `ProbeManager` keeps a sender
of the raw channel, nobody joins the task, and no lock is held.

So the daemon with this panic is the daemon without it, in which a task that has panicked
takes no more steps: the visits of the tasks are a run of `Tasks.step`, and everything that
holds of those runs holds here.  What a panic changes is only which loops are still turning.
-/

namespace DaemonChoir.Conductor

open DaemonChoir.Common DaemonChoir.Foundation

/-- The tasks, and the probe tasks that have panicked over the clock. -/
structure Clocked (ι F : Type) where
  tasks : Tasks ι F
  panicked : ι → Bool

/-- What happens next. -/
inductive ClockedLabel (ι F : Type) where
  /-- A step of one task. -/
  | task (label : TasksLabel ι F)
  /-- A probe task reads a clock before 1970. -/
  | beforeEpoch (probe : ι)

/-- The probe task that the label moves. -/
def IngestLabel.mover? {ι : Type} : IngestLabel ι → Option ι
  | .generate probe _ => some probe
  | .send probe => some probe
  | .account probe => some probe
  | .leave probe => some probe
  | _ => none

/-- The probe task that the label moves. -/
def TasksLabel.mover? {ι F : Type} : TasksLabel ι F → Option ι
  | .probe label => label.mover?
  | _ => none

/-- The step of a task, if it is one. -/
def ClockedLabel.task? {ι F : Type} : ClockedLabel ι F → Option (TasksLabel ι F)
  | .task label => some label
  | .beforeEpoch _ => none

namespace Clocked

variable {ι F : Type} [Float64 F]

/-- The tasks as `main` starts them. -/
def started (kinds : ι → ProbeKind) (config : Config F) (db : Database F) : Clocked ι F where
  tasks := .started kinds config db
  panicked _ := false

variable [Libm F] [DecidableEq ι]

/-- One step.  The clock is read at the head of a loop. -/
def step (encode : OscBundle F → Option (List UInt8)) (clocked : Clocked ι F) :
    ClockedLabel ι F → Option (Clocked ι F)
  | .task label =>
      if label.mover?.any clocked.panicked then none
      else (clocked.tasks.step encode label).map fun tasks => { clocked with tasks := tasks }
  | .beforeEpoch probe =>
      if (clocked.tasks.probes probe).pc = .looping ∧ clocked.panicked probe = false then
        some { clocked with panicked := Function.update clocked.panicked probe true }
      else none

/-- A probe task has left its loop, one way or the other. -/
def Left (clocked : Clocked ι F) (probe : ι) : Prop :=
  (clocked.tasks.probes probe).pc = .stopped ∨ clocked.panicked probe = true

/-- The engine maps a snapshot and panics. -/
def EnginePanics (visit : Clocked ι F × ClockedLabel ι F) : Prop :=
  ∃ label, visit.2 = .task label ∧ Tasks.Panics (visit.1.tasks, label)

/-- No loop of the pipeline was left, and a simulator only on shutdown or over its clock. -/
structure Intact (trace : List (Clocked ι F × ClockedLabel ι F)) (final : Clocked ι F) :
    Prop where
  pipeline : final.tasks.Intact
  simulators : ∀ probe, (final.tasks.probes probe).kind = .simulated → final.Left probe →
    final.tasks.shutdown = true ∨ ∃ visit ∈ trace, visit.2 = .beforeEpoch probe

variable {encode : OscBundle F → Option (List UInt8)} {clocked next : Clocked ι F}
  {label : ClockedLabel ι F}

/-- What one step does. -/
theorem step_cases (taken : clocked.step encode label = some next) :
    (∃ move, label = .task move ∧ clocked.tasks.step encode move = some next.tasks ∧
      next.panicked = clocked.panicked) ∨
    (∃ probe, label = .beforeEpoch probe ∧ (clocked.tasks.probes probe).pc = .looping ∧
      next.tasks = clocked.tasks ∧
      next.panicked = Function.update clocked.panicked probe true) := by
  cases label with
  | task move =>
      simp only [step] at taken
      split at taken
      · cases taken
      · obtain ⟨tasks, hstep, rfl⟩ := Option.map_eq_some_iff.mp taken
        exact .inl ⟨move, rfl, hstep, rfl⟩
  | beforeEpoch probe =>
      simp only [step] at taken
      split at taken
      · rename_i hguard
        cases taken
        exact .inr ⟨probe, rfl, hguard.1, rfl, rfl⟩
      · cases taken

variable {kinds : ι → ProbeKind} {config : Config F} {db : Database F}
  {trace : List (Clocked ι F × ClockedLabel ι F)} {final : Clocked ι F}

/-- The steps of the tasks are a run of the tasks. -/
theorem tasks_run (run : Run (step encode) (started kinds config db) trace final) :
    Run (Tasks.step encode) (Tasks.started kinds config db)
      (Run.project Clocked.tasks ClockedLabel.task? trace) final.tasks := by
  have hidden : ∀ {before next : Clocked ι F} {label : ClockedLabel ι F},
      label.task? = none → before.step encode label = some next →
        next.tasks = before.tasks := by
    intro before next label hlow taken
    rcases step_cases taken with ⟨move, rfl, _⟩ | ⟨probe, rfl, _, htasks, _⟩
    · cases hlow
    · exact htasks
  have shown : ∀ {before next : Clocked ι F} {label : ClockedLabel ι F}
      {image : TasksLabel ι F}, label.task? = some image →
        before.step encode label = some next →
          before.tasks.step encode image = some next.tasks := by
    intro before next label image hlow taken
    rcases step_cases taken with ⟨move, rfl, hstep, _⟩ | ⟨probe, rfl, _⟩
    · cases hlow
      exact hstep
    · cases hlow
  exact Run.projected hidden shown run

omit [Float64 F] [Libm F] [DecidableEq ι] in
theorem mem_project_iff {tasks : Tasks ι F} {move : TasksLabel ι F} :
    (tasks, move) ∈ Run.project Clocked.tasks ClockedLabel.task? trace ↔
      ∃ clocked : Clocked ι F, (clocked, ClockedLabel.task move) ∈ trace ∧
        clocked.tasks = tasks := by
  unfold Run.project
  rw [List.mem_filterMap]
  constructor
  · rintro ⟨⟨clocked, label⟩, hmem, himage⟩
    cases label with
    | task moved =>
        obtain ⟨rfl, rfl⟩ := Prod.mk.inj (Option.some.inj himage)
        exact ⟨clocked, hmem, rfl⟩
    | beforeEpoch probe => cases himage
  · rintro ⟨clocked, hmem, rfl⟩
    exact ⟨_, hmem, rfl⟩

theorem beforeEpoch_of_panicked
    (run : Run (step encode) (started kinds config db) trace final) {probe : ι}
    (hpanicked : final.panicked probe = true) :
    ∃ visit ∈ trace, visit.2 = .beforeEpoch probe := by
  induction run with
  | nil => cases hpanicked
  | @snoc trace before next label _ taken ih =>
      rcases step_cases taken with ⟨move, _, _, hsame⟩ | ⟨reader, rfl, _, _, hupdate⟩
      · obtain ⟨visit, hmem, hlabel⟩ := ih (hsame ▸ hpanicked)
        exact ⟨visit, List.mem_append_left _ hmem, hlabel⟩
      · by_cases hreader : probe = reader
        · subst hreader
          exact ⟨_, List.mem_append_right _ (List.mem_singleton_self _), rfl⟩
        · rw [hupdate, Function.update_of_ne hreader] at hpanicked
          obtain ⟨visit, hmem, hlabel⟩ := ih hpanicked
          exact ⟨visit, List.mem_append_left _ hmem, hlabel⟩

theorem engine_stopped_iff (run : Run (step encode) (started kinds config db) trace final) :
    final.tasks.engine = .stopped ↔ ∃ visit ∈ trace, EnginePanics visit := by
  rw [Tasks.engine_stopped_of_run (tasks_run run)]
  constructor
  · rintro ⟨⟨tasks, move⟩, hmem, hpanics⟩
    obtain ⟨clocked, hvisit, rfl⟩ := mem_project_iff.mp hmem
    exact ⟨_, hvisit, move, rfl, hpanics⟩
  · rintro ⟨⟨clocked, label⟩, hmem, move, hlabel, hpanics⟩
    obtain rfl : label = .task move := hlabel
    exact ⟨_, mem_project_iff.mpr ⟨clocked, hmem, rfl⟩, hpanics⟩

theorem intact_of_engine (run : Run (step encode) (started kinds config db) trace final)
    (hengine : final.tasks.engine ≠ .stopped) : Intact trace final where
  pipeline := Tasks.intact_of_engine (tasks_run run) hengine
  simulators := by
    intro probe hkind hleft
    rcases hleft with hstopped | hpanicked
    · exact .inl (Tasks.shutdown_of_simulator (tasks_run run) hengine hkind hstopped)
    · exact .inr (beforeEpoch_of_panicked run hpanicked)

/-- The tasks are intact exactly as long as the engine has not panicked: that panic is the
one cause for which a loop of the pipeline is ever left. -/
theorem intact_iff_no_panic
    (run : Run (step encode) (started kinds config db) trace final) :
    Intact trace final ↔ ∀ visit ∈ trace, ¬ EnginePanics visit := by
  have hnone : (∀ visit ∈ trace, ¬ EnginePanics visit) ↔ final.tasks.engine ≠ .stopped := by
    rw [ne_eq, engine_stopped_iff run]
    push Not
    rfl
  rw [hnone]
  exact ⟨fun intact => intact.pipeline.engine, intact_of_engine run⟩

/-- Two simulators, and a rule whose lower bound is NaN. -/
def withNan : Clocked Bool Ieee :=
  started (fun _ => .simulated) (MappingTask.configWith .nan (.finite 1))
    ⟨some .sqlite, ⟨[], []⟩⟩

/-- One simulator panics over its clock, and a tick later everything else is still there;
then the first snapshot is mapped. -/
theorem intact_iff_no_panic_nan :
    (∃ trace final, Run (step Delivery.encodeZeros) withNan trace final ∧
      final.Left true ∧ final.tasks.shutdown = false ∧ Intact trace final) ∧
    ∃ trace final, Run (step Delivery.encodeZeros) withNan trace final ∧
      final.Left true ∧ ¬ Intact trace final := by
  have clock : Run (step Delivery.encodeZeros) withNan [_, _, _] _ :=
    execute_sound [.beforeEpoch true, .task (.tick 1000000), .task .publish] rfl
  have panic : Run (step Delivery.encodeZeros) withNan [_, _, _, _, _, _] _ :=
    execute_sound (.beforeEpoch true :: Tasks.untilPanic.map .task) rfl
  constructor
  · refine ⟨_, _, clock, .inr rfl, rfl, (intact_iff_no_panic clock).mpr ?_⟩
    simp [EnginePanics, Tasks.Panics]
  · refine ⟨_, _, panic, .inr rfl, fun intact => ?_⟩
    exact (intact_iff_no_panic panic).mp intact _ (List.mem_append_right [_, _, _, _, _]
      (List.mem_singleton_self _)) ⟨_, rfl, rfl, _, rfl, rfl⟩

end Clocked

end DaemonChoir.Conductor
