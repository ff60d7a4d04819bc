import DaemonChoir.Foundation.Sync
import DaemonChoir.Common.Config
import DaemonChoir.Conductor.Db
set_option autoImplicit false

/-!
# Conductor: the handlers that change state (`conductor/src/control_api.rs`)

A configuration handler takes one lock at a time: its effect on the shared cells is
a sequence of atomic writes, and each write is skipped when its lock is poisoned.
-/

namespace DaemonChoir.Conductor

open DaemonChoir.Common DaemonChoir.Foundation

/-- An HTTP response: status code and body. -/
structure Response where
  status : Nat
  body : String
  deriving DecidableEq, Repr, Inhabited

/-! ## The cells of the configuration -/

/-- `current_config`, `mapping_rules` and `osc_backends` of `AppState`. -/
structure ConfigCells (F : Type) where
  currentConfig : RwLock (Config F)
  mappingRules : RwLock (List (MappingRule F))
  oscBackends : RwLock (List OscBackendConfig)
  deriving DecidableEq, Repr, Inhabited

/-- The cells as `main` creates them from the startup configuration. -/
def ConfigCells.new {F : Type} (config : Config F) : ConfigCells F where
  currentConfig := .new config
  mappingRules := .new config.mapping
  oscBackends := .new config.backends.osc

/-- One `if let Ok(mut lock) = cell.write() { .. }`. -/
inductive CellWrite (F : Type) where
  /-- `*current_config = config` -/
  | config (config : Config F)
  /-- `*mapping_rules = rules` -/
  | rules (rules : List (MappingRule F))
  /-- `*osc_backends = backends` -/
  | backends (backends : List OscBackendConfig)
  /-- `current_config.backends.osc = backends` -/
  | configBackends (backends : List OscBackendConfig)
  deriving DecidableEq, Repr, Inhabited

/-- The effect of a write. -/
def ConfigCells.perform {F : Type} (cells : ConfigCells F) : CellWrite F → ConfigCells F
  | .config config =>
      { cells with currentConfig := cells.currentConfig.write fun _ => config }
  | .rules rules =>
      { cells with mappingRules := cells.mappingRules.write fun _ => rules }
  | .backends backends =>
      { cells with oscBackends := cells.oscBackends.write fun _ => backends }
  | .configBackends backends =>
      { cells with
        currentConfig := cells.currentConfig.write fun config =>
          { config with backends := { config.backends with osc := backends } } }

/-- The writes of `handle_config_reload` for a parsed file, in source order. -/
def reloadWrites {F : Type} (newCfg : Config F) : List (CellWrite F) :=
  [.config newCfg, .rules newCfg.mapping, .backends newCfg.backends.osc]

/-- The writes of `handle_config_backends`, in source order. -/
def backendsWrites {F : Type} (newBackends : List OscBackendConfig) :
    List (CellWrite F) :=
  [.backends newBackends, .configBackends newBackends]

/-- `handle_config_reload`.  The content of the file and the TOML parser are
inputs. -/
def handleConfigReload {F : Type} (content : Except String String)
    (fromStr : String → Except String (Config F)) (cells : ConfigCells F) :
    Response × ConfigCells F :=
  match content with
  | .error _ => (⟨409, "Failed to read config file from disk"⟩, cells)
  | .ok text =>
      match fromStr text with
      | .error error => (⟨409, "Config parse error: " ++ error⟩, cells)
      | .ok newCfg =>
          (⟨202, "Config reloaded successfully"⟩,
            (reloadWrites newCfg).foldl ConfigCells.perform cells)

/-- `handle_config_backends`. -/
def handleConfigBackends {F : Type} (newBackends : List OscBackendConfig)
    (cells : ConfigCells F) : Response × ConfigCells F :=
  (⟨200, "Backends updated successfully"⟩,
    (backendsWrites newBackends).foldl ConfigCells.perform cells)

/-! ## Privacy wipe -/

/-- `handle_privacy_wipe`; `guard` is the header `X-Daemon-Choir`. -/
def handlePrivacyWipe {F : Type} (guard : Option String) (events snapshots : Answer)
    (db : Database F) : Response × Database F :=
  match guard with
  | some "wipe" =>
      match db.wipe events snapshots with
      | (.error _, after) => (⟨500, "Database wipe failed"⟩, after)
      | (.ok (), after) => (⟨200, "Privacy wipe complete"⟩, after)
  | _ => (⟨403, "Forbidden: Missing or invalid X-Daemon-Choir header"⟩, db)

theorem handlePrivacyWipe_ok_iff {F : Type} (guard : Option String)
    (events snapshots : Answer) (db : Database F) :
    (handlePrivacyWipe guard events snapshots db).1 = ⟨200, "Privacy wipe complete"⟩ ↔
      guard = some "wipe" ∧ (db.wipe events snapshots).1 = .ok () := by
  unfold handlePrivacyWipe
  split
  · split
    · rename_i hwipe
      simp [hwipe]
    · rename_i hwipe
      simp [hwipe]
  · rename_i hguard
    constructor
    · intro hresponse
      simp at hresponse
    · intro hwiped
      obtain ⟨hwipe, _⟩ := hwiped
      exact absurd hwipe hguard

/-! ## What the writes keep -/

namespace ConfigCells

variable {F : Type}

/-- No lock is poisoned. -/
structure Healthy (cells : ConfigCells F) : Prop where
  currentConfig : cells.currentConfig.poisoned = false
  mappingRules : cells.mappingRules.poisoned = false
  oscBackends : cells.oscBackends.poisoned = false

theorem healthy_new (config : Config F) : (new config).Healthy := ⟨rfl, rfl, rfl⟩

theorem Healthy.perform {cells : ConfigCells F} (healthy : cells.Healthy)
    (write : CellWrite F) : (cells.perform write).Healthy := by
  obtain ⟨hconfig, hrules, hbackends⟩ := healthy
  cases write <;> exact ⟨by simp [ConfigCells.perform, hconfig],
    by simp [ConfigCells.perform, hrules], by simp [ConfigCells.perform, hbackends]⟩

theorem Healthy.of_perform {cells : ConfigCells F} {write : CellWrite F}
    (healthy : (cells.perform write).Healthy) : cells.Healthy := by
  obtain ⟨hconfig, hrules, hbackends⟩ := healthy
  cases write <;> exact ⟨by simpa [ConfigCells.perform] using hconfig,
    by simpa [ConfigCells.perform] using hrules,
    by simpa [ConfigCells.perform] using hbackends⟩

theorem eq_of_values {left right : ConfigCells F} (hleft : left.Healthy)
    (hright : right.Healthy)
    (hconfig : left.currentConfig.value = right.currentConfig.value)
    (hrules : left.mappingRules.value = right.mappingRules.value)
    (hbackends : left.oscBackends.value = right.oscBackends.value) : left = right := by
  have h₁ := RwLock.eq_of_value hleft.currentConfig hright.currentConfig hconfig
  have h₂ := RwLock.eq_of_value hleft.mappingRules hright.mappingRules hrules
  have h₃ := RwLock.eq_of_value hleft.oscBackends hright.oscBackends hbackends
  cases left
  cases right
  simp_all

/-- The three cells show one configuration. -/
def Agree (cells : ConfigCells F) : Prop :=
  cells.mappingRules.value = cells.currentConfig.value.mapping ∧
    cells.oscBackends.value = cells.currentConfig.value.backends.osc

theorem agree_new (config : Config F) : (new config).Agree := ⟨rfl, rfl⟩

end ConfigCells

end DaemonChoir.Conductor
