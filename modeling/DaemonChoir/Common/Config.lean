set_option autoImplicit false

/-!
# Common: the configuration (`daemon-choir-common/src/config.rs`)
-/

namespace DaemonChoir.Common

/-- `DaemonConfig`. -/
structure DaemonConfig where
  windowMs : UInt64
  logLevel : String
  logFormat : String
  controlApiPort : UInt16
  simulate : Bool
  deriving DecidableEq, Repr, Inhabited

/-- `impl Default for DaemonConfig`. -/
def DaemonConfig.default : DaemonConfig where
  windowMs := 50
  logLevel := "info"
  logFormat := "json"
  controlApiPort := 9876
  simulate := true

/-- `ProbesConfig`. -/
structure ProbesConfig where
  enabled : List String
  deriving DecidableEq, Repr, Inhabited

/-- `impl Default for ProbesConfig`. -/
def ProbesConfig.default : ProbesConfig where
  enabled := ["cpu_sched", "mem_pressure", "net_io", "proc_lifecycle"]

/-- `OscBackendConfig`. -/
structure OscBackendConfig where
  name : String
  address : String
  deriving DecidableEq, Repr, Inhabited

/-- `BackendsConfig`. -/
structure BackendsConfig where
  osc : List OscBackendConfig
  deriving DecidableEq, Repr, Inhabited

/-- `MappingRule`; the two ranges are the arrays `[f64; 2]`. -/
structure MappingRule (F : Type) where
  sourceMetric : String
  oscAddress : String
  transform : String
  inputRange : F × F
  outputRange : F × F
  deriving DecidableEq, Repr, Inhabited

/-- `MetaConfig`. -/
structure MetaConfig where
  schemaVersion : String
  deriving DecidableEq, Repr, Inhabited

/-- `Config`. -/
structure Config (F : Type) where
  daemon : DaemonConfig
  probes : ProbesConfig
  backends : BackendsConfig
  mapping : List (MappingRule F)
  meta_ : MetaConfig
  deriving DecidableEq, Repr, Inhabited

/-- `impl Default for Config`. -/
def Config.default {F : Type} : Config F where
  daemon := DaemonConfig.default
  probes := ProbesConfig.default
  backends := { osc := [] }
  mapping := []
  meta_ := { schemaVersion := "1" }

end DaemonChoir.Common
