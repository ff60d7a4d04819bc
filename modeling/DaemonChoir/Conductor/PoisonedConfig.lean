import DaemonChoir.Conductor.ControlApi
set_option autoImplicit false

/-!
# Conductor: configuration updates behind poisoned locks

The handlers skip a cell whose lock is poisoned and answer as if they had written it.
Their answer is true exactly when every cell they skip holds the new value already.
-/

namespace DaemonChoir.Conductor

open DaemonChoir.Common DaemonChoir.Foundation

namespace ConfigCells

variable {F : Type}

/-- The cells show the configuration. -/
structure Holds (cells : ConfigCells F) (config : Config F) : Prop where
  currentConfig : cells.currentConfig.value = config
  mappingRules : cells.mappingRules.value = config.mapping
  oscBackends : cells.oscBackends.value = config.backends.osc

/-- The cells show the list of backends. -/
structure HoldsBackends (cells : ConfigCells F) (backends : List OscBackendConfig) :
    Prop where
  oscBackends : cells.oscBackends.value = backends
  currentConfig : cells.currentConfig.value.backends.osc = backends

/-- Every cell behind a poisoned lock shows the configuration already. -/
structure Reloadable (cells : ConfigCells F) (config : Config F) : Prop where
  currentConfig : cells.currentConfig.poisoned = true → cells.currentConfig.value = config
  mappingRules : cells.mappingRules.poisoned = true →
    cells.mappingRules.value = config.mapping
  oscBackends : cells.oscBackends.poisoned = true →
    cells.oscBackends.value = config.backends.osc

/-- Every cell behind a poisoned lock shows the list of backends already. -/
structure Replaceable (cells : ConfigCells F) (backends : List OscBackendConfig) :
    Prop where
  oscBackends : cells.oscBackends.poisoned = true → cells.oscBackends.value = backends
  currentConfig : cells.currentConfig.poisoned = true →
    cells.currentConfig.value.backends.osc = backends

theorem holds_reloadWrites_iff (cells : ConfigCells F) (config : Config F) :
    ((reloadWrites config).foldl perform cells).Holds config ↔ cells.Reloadable config := by
  have hconfig := cells.currentConfig.write_const_eq_iff config
  have hrules := cells.mappingRules.write_const_eq_iff config.mapping
  have hbackends := cells.oscBackends.write_const_eq_iff config.backends.osc
  constructor
  · intro h
    exact ⟨hconfig.mp h.currentConfig, hrules.mp h.mappingRules, hbackends.mp h.oscBackends⟩
  · intro h
    exact ⟨hconfig.mpr h.currentConfig, hrules.mpr h.mappingRules,
      hbackends.mpr h.oscBackends⟩

theorem holds_backendsWrites_iff (cells : ConfigCells F) (backends : List OscBackendConfig) :
    ((backendsWrites backends).foldl perform cells).HoldsBackends backends ↔
      cells.Replaceable backends := by
  have hbackends := cells.oscBackends.write_const_eq_iff backends
  have hconfig :
      (cells.currentConfig.write fun config =>
          { config with backends := { config.backends with osc := backends } }).value.backends.osc =
        backends ↔
      (cells.currentConfig.poisoned = true →
        cells.currentConfig.value.backends.osc = backends) := by
    cases hpoisoned : cells.currentConfig.poisoned with
    | true => simp [RwLock.write, hpoisoned]
    | false => simp [RwLock.write, hpoisoned]
  constructor
  · intro h
    exact ⟨hbackends.mp h.oscBackends, hconfig.mp h.currentConfig⟩
  · intro h
    exact ⟨hbackends.mpr h.oscBackends, hconfig.mpr h.currentConfig⟩

end ConfigCells

section Handlers

variable {F : Type}

/-- A reload answers 202 only when all three cells show the parsed file, and otherwise
leaves them alone. -/
def ReloadHonest (content : Except String String)
    (fromStr : String → Except String (Config F)) (cells : ConfigCells F) : Prop :=
  let (response, after) := handleConfigReload content fromStr cells
  (response.status = 202 → ∃ text newCfg, content = .ok text ∧ fromStr text = .ok newCfg ∧
    after.Holds newCfg) ∧
  (response.status ≠ 202 → after = cells)

/-- A new list of backends is answered with 200 only when both places show it, and
otherwise changes neither. -/
def BackendsHonest (newBackends : List OscBackendConfig) (cells : ConfigCells F) : Prop :=
  let (response, after) := handleConfigBackends newBackends cells
  (response.status = 200 → after.HoldsBackends newBackends) ∧
  (response.status ≠ 200 → after = cells)

theorem reloadHonest_iff (content : Except String String)
    (fromStr : String → Except String (Config F)) (cells : ConfigCells F) :
    ReloadHonest content fromStr cells ↔
      ∀ text newCfg, content = .ok text → fromStr text = .ok newCfg →
        cells.Reloadable newCfg := by
  cases content with
  | error error => simp [ReloadHonest, handleConfigReload]
  | ok text =>
      cases hparsed : fromStr text with
      | error error =>
          have hanswer : handleConfigReload (.ok text) fromStr cells =
              (⟨409, "Config parse error: " ++ error⟩, cells) := by
            simp only [handleConfigReload, hparsed]
          rw [ReloadHonest, hanswer]
          constructor
          · intro _ other newCfg hother hnew
            obtain rfl := Except.ok.inj hother
            rw [hparsed] at hnew
            cases hnew
          · intro _
            have hconflict : (409 : Nat) ≠ 202 := by decide
            exact ⟨fun hstatus => absurd hstatus hconflict, fun _ => rfl⟩
      | ok newCfg =>
          have hwrites := cells.holds_reloadWrites_iff newCfg
          have hanswer : handleConfigReload (.ok text) fromStr cells =
              (⟨202, "Config reloaded successfully"⟩,
                (reloadWrites newCfg).foldl ConfigCells.perform cells) := by
            simp only [handleConfigReload, hparsed]
          rw [ReloadHonest, hanswer]
          constructor
          · intro h other parsed hother hnew
            obtain ⟨read, config, hread, hconfig, hholds⟩ := h.1 rfl
            obtain rfl := Except.ok.inj hread
            obtain rfl := Except.ok.inj hother
            obtain rfl := Except.ok.inj (hparsed.symm.trans hconfig)
            obtain rfl := Except.ok.inj (hparsed.symm.trans hnew)
            exact hwrites.mp hholds
          · intro h
            have hholds := hwrites.mpr (h text newCfg rfl hparsed)
            exact ⟨fun _ => ⟨text, newCfg, rfl, hparsed, hholds⟩,
              fun hstatus => absurd rfl hstatus⟩

theorem backendsHonest_iff (newBackends : List OscBackendConfig) (cells : ConfigCells F) :
    BackendsHonest newBackends cells ↔ cells.Replaceable newBackends := by
  simp only [BackendsHonest, handleConfigBackends, ne_eq, not_true_eq_false, false_implies,
    and_true, true_implies, cells.holds_backendsWrites_iff]

/-- Each handler is honest about an update exactly when every cell that it skips shows the new
value already. -/
theorem updates_honest_iff (content : Except String String)
    (fromStr : String → Except String (Config F)) (newBackends : List OscBackendConfig)
    (cells : ConfigCells F) :
    (ReloadHonest content fromStr cells ↔
      ∀ text newCfg, content = .ok text → fromStr text = .ok newCfg →
        cells.Reloadable newCfg) ∧
    (BackendsHonest newBackends cells ↔ cells.Replaceable newBackends) :=
  ⟨reloadHonest_iff content fromStr cells, backendsHonest_iff newBackends cells⟩

end Handlers

/-- The lock of the rules is poisoned while they are empty. -/
def poisonedRules : ConfigCells ℚ :=
  { ConfigCells.new Config.default with mappingRules := { value := [], poisoned := true } }

/-- A configuration with one rule. -/
def ruleConfig : Config ℚ :=
  { (Config.default : Config ℚ) with
    mapping := [{ sourceMetric := "proc.exec.rate", oscAddress := "/choir/voice/0/gate"
                  transform := "step", inputRange := (0, 1), outputRange := (0, 1) }] }

/-- The reload is accepted although the rules stay empty. -/
theorem updates_not_always_honest :
    ¬ ∀ (content : Except String String) (fromStr : String → Except String (Config ℚ))
        (newBackends : List OscBackendConfig) (cells : ConfigCells ℚ),
        ReloadHonest content fromStr cells ∧ BackendsHonest newBackends cells := by
  intro hclaim
  obtain ⟨hreload, _⟩ := hclaim (.ok "") (fun _ => .ok ruleConfig) [] poisonedRules
  have hreloadable := (reloadHonest_iff _ _ _).mp hreload "" ruleConfig rfl rfl
  cases hreloadable.mappingRules rfl

end DaemonChoir.Conductor
