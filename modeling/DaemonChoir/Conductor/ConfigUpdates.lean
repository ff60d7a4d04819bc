import DaemonChoir.Foundation.Interleaving
import DaemonChoir.Conductor.ControlApi
set_option autoImplicit false

/-!
# Conductor: concurrent configuration updates

Each request is a thread of atomic writes to the three cells, and no lock is held
from one write to the next.  `updates_serialise_iff` says exactly which
interleavings end as if the requests had been served one after another.

A thread is the list of writes of one handler, in program order, and a schedule is any
interleaving of any number of threads (`Foundation.Interleaving`).  What a cell holds in
the end is its last write.  Taken alone, `current_config` always ends as in some serial
order, which is built by moving its last writers to the end; the other two cells follow
that order exactly when their own last writers agree with those.

A request that is served alone makes its writes without anything in between, which is the
link to the handlers of `ControlApi` and, over `Server`, to their scripts.
-/

namespace DaemonChoir.Conductor

open DaemonChoir.Common DaemonChoir.Foundation

/-! ## Requests -/

/-- The requests that change the configuration. -/
inductive UpdateRequest (F : Type) where
  /-- `POST /v1/config/reload` that has parsed the file to `config`. -/
  | reload (config : Config F)
  /-- `PUT /v1/config/backends`. -/
  | backends (backends : List OscBackendConfig)
  deriving DecidableEq, Repr, Inhabited

namespace UpdateRequest

variable {F : Type}

/-- The writes of a request, in source order. -/
def writes : UpdateRequest F → List (CellWrite F)
  | .reload cfg => reloadWrites cfg
  | .backends list => backendsWrites list

/-- Serve one request without interruption. -/
def serve (cells : ConfigCells F) (request : UpdateRequest F) : ConfigCells F :=
  request.writes.foldl ConfigCells.perform cells

end UpdateRequest

section Handlers

variable {F : Type}

theorem handleConfigReload_serve {text : String} {newCfg : Config F}
    {fromStr : String → Except String (Config F)} (hparse : fromStr text = .ok newCfg)
    (cells : ConfigCells F) :
    (handleConfigReload (.ok text) fromStr cells).2 =
      UpdateRequest.serve cells (.reload newCfg) := by
  simp [handleConfigReload, hparse, UpdateRequest.serve, UpdateRequest.writes]

theorem handleConfigBackends_serve (newBackends : List OscBackendConfig)
    (cells : ConfigCells F) :
    (handleConfigBackends newBackends cells).2 =
      UpdateRequest.serve cells (.backends newBackends) := rfl

end Handlers

/-! ## What each cell holds after a sequence of writes -/

namespace CellWrite

variable {F : Type}

/-- The configuration a write installs. -/
def config? : CellWrite F → Option (Config F)
  | .config cfg => some cfg
  | _ => none

/-- The mapping rules a write puts into `current_config`. -/
def configMapping? : CellWrite F → Option (List (MappingRule F))
  | .config cfg => some cfg.mapping
  | _ => none

/-- The rules a write puts into `mapping_rules`. -/
def rules? : CellWrite F → Option (List (MappingRule F))
  | .rules list => some list
  | _ => none

/-- The backends a write puts into `current_config`. -/
def configBackends? : CellWrite F → Option (List OscBackendConfig)
  | .config cfg => some cfg.backends.osc
  | .configBackends list => some list
  | _ => none

/-- The backends a write puts into `osc_backends`. -/
def backends? : CellWrite F → Option (List OscBackendConfig)
  | .backends list => some list
  | _ => none

/-- A configuration without its backends. -/
def frame (cfg : Config F) : Config F := { cfg with backends := { osc := [] } }

/-- The rest of the configuration a write puts into `current_config`. -/
def configFrame? : CellWrite F → Option (Config F)
  | .config cfg => some (frame cfg)
  | _ => none

end CellWrite

namespace ConfigCells

variable {F : Type}

theorem foldl_perform {β : Type} (register : ConfigCells F → β)
    (value : CellWrite F → Option β)
    (law : ∀ (cells : ConfigCells F) (write : CellWrite F), cells.Healthy →
      register (cells.perform write) = (value write).getD (register cells))
    {cells : ConfigCells F} (healthy : cells.Healthy) (writes : List (CellWrite F)) :
    (writes.foldl perform cells).Healthy ∧
      register (writes.foldl perform cells) =
        (lastWrite value writes).getD (register cells) :=
  register_foldl (fun _ write h => h.perform write) law healthy writes

theorem healthy_foldl {cells : ConfigCells F} (healthy : cells.Healthy)
    (writes : List (CellWrite F)) : (writes.foldl perform cells).Healthy :=
  (foldl_perform (fun _ => ()) (fun _ => none)
    (fun _ _ _ => rfl) healthy writes).1

theorem rules_foldl {cells : ConfigCells F} (healthy : cells.Healthy)
    (writes : List (CellWrite F)) :
    (writes.foldl perform cells).mappingRules.value =
      (lastWrite CellWrite.rules? writes).getD cells.mappingRules.value := by
  refine (foldl_perform (fun cells => cells.mappingRules.value)
    CellWrite.rules? ?_ healthy writes).2
  intro cells write h
  cases write <;> simp [perform, CellWrite.rules?, RwLock.write_value h.mappingRules]

theorem backends_foldl {cells : ConfigCells F} (healthy : cells.Healthy)
    (writes : List (CellWrite F)) :
    (writes.foldl perform cells).oscBackends.value =
      (lastWrite CellWrite.backends? writes).getD cells.oscBackends.value := by
  refine (foldl_perform (fun cells => cells.oscBackends.value)
    CellWrite.backends? ?_ healthy writes).2
  intro cells write h
  cases write <;> simp [perform, CellWrite.backends?, RwLock.write_value h.oscBackends]

theorem configMapping_foldl {cells : ConfigCells F} (healthy : cells.Healthy)
    (writes : List (CellWrite F)) :
    (writes.foldl perform cells).currentConfig.value.mapping =
      (lastWrite CellWrite.configMapping? writes).getD
        cells.currentConfig.value.mapping := by
  refine (foldl_perform (fun cells => cells.currentConfig.value.mapping)
    CellWrite.configMapping? ?_ healthy writes).2
  intro cells write h
  cases write <;>
    simp [perform, CellWrite.configMapping?, RwLock.write_value h.currentConfig]

theorem configBackends_foldl {cells : ConfigCells F} (healthy : cells.Healthy)
    (writes : List (CellWrite F)) :
    (writes.foldl perform cells).currentConfig.value.backends.osc =
      (lastWrite CellWrite.configBackends? writes).getD
        cells.currentConfig.value.backends.osc := by
  refine (foldl_perform (fun cells => cells.currentConfig.value.backends.osc)
    CellWrite.configBackends? ?_ healthy writes).2
  intro cells write h
  cases write <;>
    simp [perform, CellWrite.configBackends?, RwLock.write_value h.currentConfig]

theorem configFrame_foldl {cells : ConfigCells F} (healthy : cells.Healthy)
    (writes : List (CellWrite F)) :
    CellWrite.frame (writes.foldl perform cells).currentConfig.value =
      (lastWrite CellWrite.configFrame? writes).getD
        (CellWrite.frame cells.currentConfig.value) := by
  refine (foldl_perform (fun cells => CellWrite.frame cells.currentConfig.value)
    CellWrite.configFrame? ?_ healthy writes).2
  intro cells write h
  cases write <;>
    simp [perform, CellWrite.configFrame?, CellWrite.frame,
      RwLock.write_value h.currentConfig]

end ConfigCells

/-! ## Serial orders -/

namespace UpdateRequest

variable {F : Type}

/-- Serve the requests one after another from the cells of a startup
configuration. -/
def sequential (startup : Config F) (order : List (UpdateRequest F)) : ConfigCells F :=
  order.foldl serve (.new startup)

theorem sequential_eq (startup : Config F) (order : List (UpdateRequest F)) :
    sequential startup order =
      (order.flatMap writes).foldl ConfigCells.perform (.new startup) := by
  rw [sequential, List.foldl_flatMap]
  rfl

theorem serve_agree {cells : ConfigCells F} (healthy : cells.Healthy)
    (agree : cells.Agree) (request : UpdateRequest F) : (serve cells request).Agree := by
  unfold ConfigCells.Agree serve
  rw [ConfigCells.rules_foldl healthy, ConfigCells.configMapping_foldl healthy,
    ConfigCells.backends_foldl healthy, ConfigCells.configBackends_foldl healthy]
  cases request with
  | reload cfg => exact ⟨rfl, rfl⟩
  | backends list => exact ⟨agree.1, rfl⟩

theorem sequential_agree (startup : Config F) (order : List (UpdateRequest F)) :
    (sequential startup order).Agree := by
  induction order using List.reverseRecOn with
  | nil => exact ConfigCells.agree_new startup
  | append_singleton order request ih =>
      have healthy : (sequential startup order).Healthy := by
        rw [sequential_eq]
        exact ConfigCells.healthy_foldl (ConfigCells.healthy_new startup) _
      rw [sequential, List.foldl_append]
      exact serve_agree healthy ih request

theorem mem_of_config_mem {requests : List (UpdateRequest F)} {cfg : Config F}
    (h : CellWrite.config cfg ∈ requests.flatMap writes) : .reload cfg ∈ requests := by
  obtain ⟨request, hmem, hwrite⟩ := List.mem_flatMap.mp h
  cases request with
  | reload other =>
      simp only [writes, reloadWrites, List.mem_cons, CellWrite.config.injEq, reduceCtorEq,
        List.not_mem_nil, or_false] at hwrite
      exact hwrite ▸ hmem
  | backends list => simp [writes, backendsWrites] at hwrite

theorem mem_of_configBackends_mem {requests : List (UpdateRequest F)}
    {list : List OscBackendConfig}
    (h : CellWrite.configBackends list ∈ requests.flatMap writes) :
    .backends list ∈ requests := by
  obtain ⟨request, hmem, hwrite⟩ := List.mem_flatMap.mp h
  cases request with
  | reload other => simp [writes, reloadWrites] at hwrite
  | backends other =>
      simp only [writes, backendsWrites, List.mem_cons, CellWrite.configBackends.injEq,
        reduceCtorEq, List.not_mem_nil, or_false, false_or] at hwrite
      exact hwrite ▸ hmem

theorem perm_snoc_of_mem {requests : List (UpdateRequest F)} {request : UpdateRequest F}
    (h : request ∈ requests) : ∃ others, (others ++ [request]).Perm requests := by
  obtain ⟨front, back, rfl⟩ := List.append_of_mem h
  refine ⟨front ++ back, ?_⟩
  rw [List.append_assoc]
  exact (List.perm_append_singleton request back).append_left front

end UpdateRequest

section Serialisation

variable {F : Type}

open UpdateRequest

theorem lastWrite_configFrame (ws : List (CellWrite F)) :
    lastWrite CellWrite.configFrame? ws =
      (lastWrite CellWrite.config? ws).map CellWrite.frame := by
  rw [← lastWrite_map]
  congr 1
  funext write
  cases write <;> rfl

/-- The last backends in `current_config` come from the last configuration written
there, or from a later update of the backends alone. -/
theorem lastWrite_configBackends_cases (ws : List (CellWrite F)) :
    lastWrite CellWrite.configBackends? ws =
        (lastWrite CellWrite.config? ws).map (·.backends.osc) ∨
      ∃ list, CellWrite.configBackends list ∈ ws ∧
        lastWrite CellWrite.configBackends? ws = some list := by
  induction ws using List.reverseRecOn with
  | nil => exact .inl rfl
  | append_singleton ws write ih =>
      rw [lastWrite_append_singleton, lastWrite_append_singleton]
      cases write with
      | config cfg => exact .inl rfl
      | configBackends list => exact .inr ⟨list, by simp, rfl⟩
      | rules list =>
          rcases ih with ih | ⟨list, hmem, ih⟩
          · exact .inl ih
          · exact .inr ⟨list, by simp [hmem], ih⟩
      | backends list =>
          rcases ih with ih | ⟨list, hmem, ih⟩
          · exact .inl ih
          · exact .inr ⟨list, by simp [hmem], ih⟩

/-- Taken alone, `current_config` always ends as in a serial order: the last
configuration that was written to it comes last but for the last update of its
backends. -/
theorem exists_order_of_config {requests : List (UpdateRequest F)}
    {ws : List (CellWrite F)} (hperm : ws.Perm (requests.flatMap writes)) :
    ∃ order : List (UpdateRequest F), order.Perm requests ∧
      lastWrite CellWrite.config? (order.flatMap writes) =
        lastWrite CellWrite.config? ws ∧
      lastWrite CellWrite.configBackends? (order.flatMap writes) =
        lastWrite CellWrite.configBackends? ws := by
  have hreload : ∀ cfg, CellWrite.config cfg ∈ ws → .reload cfg ∈ requests :=
    fun cfg h => mem_of_config_mem (hperm.mem_iff.mp h)
  have hput : ∀ list, CellWrite.configBackends list ∈ ws → .backends list ∈ requests :=
    fun list h => mem_of_configBackends_mem (hperm.mem_iff.mp h)
  cases hconfig : lastWrite CellWrite.config? ws with
  | some cfg =>
      obtain ⟨write, hmem, hwrite⟩ := mem_of_lastWrite hconfig
      have hcfg : .reload cfg ∈ requests := by
        cases write with
        | config other =>
            obtain rfl : other = cfg := Option.some.inj hwrite
            exact hreload other hmem
        | _ => cases hwrite
      rcases lastWrite_configBackends_cases ws with hlast | ⟨list, hlist, hlast⟩
      · obtain ⟨others, horder⟩ := perm_snoc_of_mem hcfg
        refine ⟨others ++ [.reload cfg], horder, ?_, ?_⟩
        · rw [List.flatMap_append, lastWrite_append]
          rfl
        · rw [List.flatMap_append, lastWrite_append, hlast, hconfig]
          rfl
      · -- the reload goes last but one: the put is another request
        obtain ⟨others, horder⟩ := perm_snoc_of_mem (hput list hlist)
        have hothers : .reload cfg ∈ others := by
          have hmem := horder.mem_iff.mpr hcfg
          rw [List.mem_append, List.mem_singleton] at hmem
          exact hmem.resolve_right (by simp)
        obtain ⟨rest, hrest⟩ := perm_snoc_of_mem hothers
        refine ⟨rest ++ [.reload cfg] ++ [.backends list],
          (hrest.append_right _).trans horder, ?_, ?_⟩
        · rw [List.flatMap_append, lastWrite_append, List.flatMap_append, lastWrite_append]
          rfl
        · rw [List.flatMap_append, lastWrite_append, hlast]
          rfl
  | none =>
      have hnone : ∀ order : List (UpdateRequest F), order.Perm requests →
          lastWrite CellWrite.config? (order.flatMap writes) = none := by
        intro order horder
        rw [lastWrite_eq_none_iff] at hconfig ⊢
        intro write hmem
        exact hconfig write (hperm.mem_iff.mpr ((horder.flatMap_right _).mem_iff.mp hmem))
      rcases lastWrite_configBackends_cases ws with hlast | ⟨list, hlist, hlast⟩
      · refine ⟨requests, .refl _, hnone _ (.refl _), ?_⟩
        rw [hconfig, Option.map_none] at hlast
        rw [hlast]
        rw [lastWrite_eq_none_iff] at hlast ⊢
        exact fun write hmem => hlast write (hperm.mem_iff.mpr hmem)
      · obtain ⟨others, horder⟩ := perm_snoc_of_mem (hput list hlist)
        refine ⟨others ++ [.backends list], horder, hnone _ horder, ?_⟩
        rw [List.flatMap_append, lastWrite_append, hlast]
        rfl

theorem eq_of_agree {left right : ConfigCells F} (hleft : left.Healthy)
    (hright : right.Healthy) (leftAgree : left.Agree) (rightAgree : right.Agree)
    (hframe : CellWrite.frame left.currentConfig.value =
      CellWrite.frame right.currentConfig.value)
    (hbackends : left.currentConfig.value.backends.osc =
      right.currentConfig.value.backends.osc) : left = right := by
  have hconfig : left.currentConfig.value = right.currentConfig.value := by
    generalize left.currentConfig.value = one at hframe hbackends
    generalize right.currentConfig.value = other at hframe hbackends
    obtain ⟨_, _, ⟨_⟩, _, _⟩ := one
    obtain ⟨_, _, ⟨_⟩, _, _⟩ := other
    simp only [CellWrite.frame, Config.mk.injEq] at hframe
    obtain ⟨rfl, rfl, _, rfl, rfl⟩ := hframe
    simp only at hbackends
    rw [hbackends]
  refine ConfigCells.eq_of_values hleft hright hconfig ?_ ?_
  · rw [leftAgree.1, rightAgree.1, hconfig]
  · rw [leftAgree.2, rightAgree.2, hconfig]

/-- The two reloads that come last in `current_config` and in `mapping_rules` carry
the same rules, and the two requests that come last in `current_config` and in
`osc_backends` carry the same backends. -/
def LastWritersAgree (ws : List (CellWrite F)) : Prop :=
  lastWrite CellWrite.configMapping? ws = lastWrite CellWrite.rules? ws ∧
    lastWrite CellWrite.configBackends? ws = lastWrite CellWrite.backends? ws

instance [DecidableEq F] (ws : List (CellWrite F)) : Decidable (LastWritersAgree ws) :=
  inferInstanceAs (Decidable (_ ∧ _))

/-- Complete requests write two cells or none, so a default does not matter. -/
theorem getD_eq_iff_of_complete {β : Type} {requests : List (UpdateRequest F)}
    {ws : List (CellWrite F)} (hperm : ws.Perm (requests.flatMap writes))
    {first second : CellWrite F → Option β}
    (hboth : ∀ request : UpdateRequest F,
      (∀ write ∈ request.writes, first write = none) ↔
        ∀ write ∈ request.writes, second write = none) (default : β) :
    (lastWrite first ws).getD default = (lastWrite second ws).getD default ↔
      lastWrite first ws = lastWrite second ws := by
  have hspread : ∀ value : CellWrite F → Option β,
      lastWrite value ws = none ↔
        ∀ request ∈ requests, ∀ write ∈ request.writes, value write = none := by
    intro value
    rw [lastWrite_eq_none_iff]
    constructor
    · intro h request hmem write hwrite
      exact h write (hperm.mem_iff.mpr (List.mem_flatMap.mpr ⟨request, hmem, hwrite⟩))
    · intro h write hmem
      obtain ⟨request, hrequest, hwrite⟩ := List.mem_flatMap.mp (hperm.mem_iff.mp hmem)
      exact h request hrequest write hwrite
  have hnone : lastWrite first ws = none ↔ lastWrite second ws = none := by
    rw [hspread, hspread]
    exact forall₂_congr fun request _ => hboth request
  cases hfirst : lastWrite first ws with
  | none => simp [hnone.mp hfirst]
  | some one =>
      cases hsecond : lastWrite second ws with
      | none => simp [hnone.mpr hsecond] at hfirst
      | some other => simp

/-- After complete requests the cells agree exactly when their last writers do. -/
theorem agree_iff_lastWritersAgree (startup : Config F)
    {requests : List (UpdateRequest F)} {ws : List (CellWrite F)}
    (hperm : ws.Perm (requests.flatMap writes)) :
    (ws.foldl ConfigCells.perform (.new startup)).Agree ↔ LastWritersAgree ws := by
  have healthy := ConfigCells.healthy_new startup
  unfold ConfigCells.Agree LastWritersAgree
  rw [ConfigCells.rules_foldl healthy, ConfigCells.configMapping_foldl healthy,
    ConfigCells.backends_foldl healthy, ConfigCells.configBackends_foldl healthy,
    eq_comm (a := Option.getD (lastWrite CellWrite.rules? ws) _),
    eq_comm (a := Option.getD (lastWrite CellWrite.backends? ws) _)]
  refine and_congr (getD_eq_iff_of_complete hperm ?_ _)
    (getD_eq_iff_of_complete hperm ?_ _)
  · intro request
    cases request <;>
      simp [writes, reloadWrites, backendsWrites, CellWrite.configMapping?,
        CellWrite.rules?]
  · intro request
    cases request <;>
      simp [writes, reloadWrites, backendsWrites, CellWrite.configBackends?,
        CellWrite.backends?]

/-- All requests at the start: each has all its writes still to do. -/
def concurrent (startup : Config F) (requests : List (UpdateRequest F)) :
    Threads (ConfigCells F) (CellWrite F) where
  memory := .new startup
  pending := requests.map writes

/-- An interleaving of complete requests ends in agreement and as some serial order
would exactly when the last writers of the cells agree. -/
theorem updates_serialise_iff (startup : Config F) (requests : List (UpdateRequest F))
    {trace : List (Threads (ConfigCells F) (CellWrite F) × Nat)}
    {final : Threads (ConfigCells F) (CellWrite F)}
    (run : Run (Threads.step ConfigCells.perform) (concurrent startup requests) trace final)
    (complete : final.Complete) :
    ((∃ order : List (UpdateRequest F), order.Perm requests ∧
        final.memory = sequential startup order) ∧ final.memory.Agree) ↔
      LastWritersAgree (Threads.executed trace) := by
  have healthy := ConfigCells.healthy_new startup
  have hmemory : final.memory =
      (Threads.executed trace).foldl ConfigCells.perform (.new startup) :=
    Threads.memory_eq run
  have hperm : (Threads.executed trace).Perm (requests.flatMap writes) := by
    simpa [concurrent, List.flatMap_def] using
      Threads.executed_perm_of_complete run complete
  rw [hmemory, ← agree_iff_lastWritersAgree startup hperm]
  refine ⟨And.right, fun agree => ⟨?_, agree⟩⟩
  obtain ⟨order, horder, hconfig, hbackends⟩ := exists_order_of_config hperm
  refine ⟨order, horder, ?_⟩
  rw [sequential_eq]
  refine eq_of_agree (ConfigCells.healthy_foldl healthy _)
    (ConfigCells.healthy_foldl healthy _) agree ?_ ?_ ?_
  · rw [← sequential_eq]
    exact sequential_agree startup order
  · rw [ConfigCells.configFrame_foldl healthy, ConfigCells.configFrame_foldl healthy,
      lastWrite_configFrame, lastWrite_configFrame, hconfig]
  · rw [ConfigCells.configBackends_foldl healthy, ConfigCells.configBackends_foldl healthy,
      hbackends]

end Serialisation

/-! ### A put between the writes of a reload -/

/-- The file a reload has read. -/
def reloadedConfig : Config ℚ :=
  { Config.default with backends := { osc := [⟨"supercollider", "127.0.0.1:57120"⟩] } }

/-- The list a put carries. -/
def putBackends : List OscBackendConfig := [⟨"puredata", "127.0.0.1:57121"⟩]

/-- A reload that is served before the put starts. -/
theorem updates_serialise_iff_in_turn :
    ∃ trace final, Run (Threads.step ConfigCells.perform)
        (concurrent Config.default [.reload reloadedConfig, .backends putBackends])
        trace final ∧
      final.Complete ∧ trace.map Prod.snd = [0, 0, 0, 1, 1] ∧ final.memory.Agree := by
  have run : Run (Threads.step ConfigCells.perform)
      (concurrent Config.default [.reload reloadedConfig, .backends putBackends]) _ _ :=
    execute_sound [0, 0, 0, 1, 1] rfl
  have agree := (updates_serialise_iff Config.default
    [.reload reloadedConfig, .backends putBackends] run (by decide)).mpr (by decide)
  exact ⟨_, _, run, by decide, rfl, agree.2⟩

/-- The put runs between the first and the last write of the reload: its backends
stay in `current_config` and those of the file in `osc_backends`. -/
theorem updates_not_always_serialise :
    ¬ ∀ (startup : Config ℚ) (requests : List (UpdateRequest ℚ))
        (trace : List (Threads (ConfigCells ℚ) (CellWrite ℚ) × Nat))
        (final : Threads (ConfigCells ℚ) (CellWrite ℚ)),
      Run (Threads.step ConfigCells.perform) (concurrent startup requests) trace final →
        final.Complete →
          (∃ order : List (UpdateRequest ℚ), order.Perm requests ∧
            final.memory = UpdateRequest.sequential startup order) ∧ final.memory.Agree := by
  intro always
  have hagree := (always Config.default [.reload reloadedConfig, .backends putBackends] _ _
    (execute_sound [0, 1, 1, 0, 0] rfl) (by decide)).2.2
  exact absurd hagree (by decide)

end DaemonChoir.Conductor
