import DaemonChoir.Common.Config
import DaemonChoir.Common.Events
import DaemonChoir.Common.Metrics
import DaemonChoir.Foundation.Records
set_option autoImplicit false

/-!
# Common: the JSON forms of the common types (derived `Serialize` and `Deserialize`)

A structure is an object with its fields in declaration order, an enum an object with the
name of the variant.  An `f64` that is infinite or not a number is written as `null`, and
`null` is not read as an `f64`.
-/

namespace DaemonChoir.Common

open DaemonChoir.Foundation

/-! ## Numbers -/

/-- How `serde_json` writes an `f64`, and how it reads one. -/
class JsonFloat (F : Type) where
  /-- `none` for the infinities and for what is not a number. -/
  write : F → Option NumberLiteral
  /-- The value of a literal, not always the nearest one; `none` out of range. -/
  read : NumberLiteral → Option F
  /-- What was written is in range. -/
  exists_read : ∀ {value : F} {literal : NumberLiteral}, write value = some literal →
    ∃ near, read literal = some near

section Numbers

variable {F : Type} [JsonFloat F]

/-- An `f64` as a value. -/
def ofF64 (value : F) : Json :=
  match JsonFloat.write value with
  | some literal => .number literal
  | none => .null

/-- A value as an `f64`. -/
def f64? : Json → Option F
  | .number literal => JsonFloat.read literal
  | _ => none

/-- What becomes of an `f64` on its way through JSON. -/
def reread (value : F) : Option F := (JsonFloat.write value).bind JsonFloat.read

@[simp] theorem f64?_ofF64 (value : F) : f64? (ofF64 value) = reread value := by
  unfold ofF64 reread
  cases JsonFloat.write value with
  | none => rfl
  | some literal => rfl

theorem reread_isSome_iff (value : F) :
    (reread value).isSome = true ↔ (JsonFloat.write value).isSome = true := by
  unfold reread
  cases hwrite : JsonFloat.write value with
  | none => exact Iff.rfl
  | some literal =>
      obtain ⟨near, hread⟩ := JsonFloat.exists_read hwrite
      simp [hread]

end Numbers

/-- `u32` -/
def u32? (json : Json) : Option UInt32 :=
  match json.nat? with
  | some n => if n < UInt32.size then some (UInt32.ofNat n) else none
  | none => none

@[simp] theorem u32?_ofNat (n : UInt32) : u32? (.ofNat n.toNat) = some n := by
  simp [u32?, n.toNat_lt_size]

/-! ## Snapshots -/

section Snapshots

variable {F : Type} [JsonFloat F]

/-- `Serialize` for `MetricMap`. -/
def MetricMap.toValue (metrics : MetricMap F) : Json :=
  .object (metricNames.zip
    [ofF64 metrics.cpuSchedLatencyP95, ofF64 metrics.cpuSchedContextRate,
      ofF64 metrics.memReclaimPressure, ofF64 metrics.netTxBytesNorm,
      ofF64 metrics.netRxBytesNorm, ofF64 metrics.procExecRate])

/-- `Deserialize` for `MetricMap`. -/
def MetricMap.ofValue (json : Json) : Option (MetricMap F) := do
  let [latency, rate, pressure, tx, rx, exec] ← json.fields metricNames | none
  return {
    cpuSchedLatencyP95 := ← f64? latency
    cpuSchedContextRate := ← f64? rate
    memReclaimPressure := ← f64? pressure
    netTxBytesNorm := ← f64? tx
    netRxBytesNorm := ← f64? rx
    procExecRate := ← f64? exec }

/-- Metrics on their way through JSON. -/
def MetricMap.reread (metrics : MetricMap F) : Option (MetricMap F) := do
  return {
    cpuSchedLatencyP95 := ← Common.reread metrics.cpuSchedLatencyP95
    cpuSchedContextRate := ← Common.reread metrics.cpuSchedContextRate
    memReclaimPressure := ← Common.reread metrics.memReclaimPressure
    netTxBytesNorm := ← Common.reread metrics.netTxBytesNorm
    netRxBytesNorm := ← Common.reread metrics.netRxBytesNorm
    procExecRate := ← Common.reread metrics.procExecRate }

theorem MetricMap.ofValue_toValue (metrics : MetricMap F) :
    MetricMap.ofValue metrics.toValue = metrics.reread := by
  have hnodup : metricNames.Nodup := by decide
  have hfields := Json.fields_zip hnodup
    [ofF64 metrics.cpuSchedLatencyP95, ofF64 metrics.cpuSchedContextRate,
      ofF64 metrics.memReclaimPressure, ofF64 metrics.netTxBytesNorm,
      ofF64 metrics.netRxBytesNorm, ofF64 metrics.procExecRate] rfl
  simp [MetricMap.ofValue, MetricMap.toValue, hfields, MetricMap.reread]

/-- The names of the fields of `StateSnapshot`. -/
def StateSnapshot.names : List String :=
  ["timestamp_us", "window_ms", "stale", "lost_events", "metrics"]

/-- `Serialize` for `StateSnapshot`. -/
def StateSnapshot.toValue (snapshot : StateSnapshot F) : Json :=
  .object (names.zip
    [.ofNat snapshot.timestampUs.toNat, .ofNat snapshot.windowMs.toNat, .bool snapshot.stale,
      .ofNat snapshot.lostEvents.toNat, snapshot.metrics.toValue])

/-- `Deserialize` for `StateSnapshot`. -/
def StateSnapshot.ofValue (json : Json) : Option (StateSnapshot F) := do
  let [timestamp, window, stale, lost, metrics] ← json.fields names | none
  return {
    timestampUs := ← timestamp.u64?
    windowMs := ← window.u64?
    stale := ← stale.bool?
    lostEvents := ← lost.u64?
    metrics := ← MetricMap.ofValue metrics }

/-- A snapshot on its way through JSON. -/
def StateSnapshot.reread (snapshot : StateSnapshot F) : Option (StateSnapshot F) :=
  snapshot.metrics.reread.map fun metrics => { snapshot with metrics := metrics }

theorem StateSnapshot.ofValue_toValue (snapshot : StateSnapshot F) :
    StateSnapshot.ofValue snapshot.toValue = snapshot.reread := by
  have hnodup : names.Nodup := by decide
  have hfields := Json.fields_zip hnodup
    [.ofNat snapshot.timestampUs.toNat, .ofNat snapshot.windowMs.toNat, .bool snapshot.stale,
      .ofNat snapshot.lostEvents.toNat, snapshot.metrics.toValue] rfl
  simp [StateSnapshot.ofValue, StateSnapshot.toValue, hfields, MetricMap.ofValue_toValue,
    StateSnapshot.reread, Option.map_eq_bind]

end Snapshots

/-! ## Configuration -/

/-- The names of the fields of `OscBackendConfig`. -/
def OscBackendConfig.names : List String := ["name", "address"]

/-- `Serialize` for `OscBackendConfig`. -/
def OscBackendConfig.toValue (backend : OscBackendConfig) : Json :=
  .object (names.zip [.string backend.name, .string backend.address])

/-- `Deserialize` for `OscBackendConfig`. -/
def OscBackendConfig.ofValue (json : Json) : Option OscBackendConfig := do
  let [name, address] ← json.fields names | none
  return { name := ← name.string?, address := ← address.string? }

theorem OscBackendConfig.ofValue_toValue (backend : OscBackendConfig) :
    OscBackendConfig.ofValue backend.toValue = some backend := by
  have hnodup : names.Nodup := by decide
  have hfields := Json.fields_zip hnodup [.string backend.name, .string backend.address] rfl
  simp [OscBackendConfig.ofValue, OscBackendConfig.toValue, hfields]

/-- `Serialize` for `BackendsConfig`. -/
def BackendsConfig.toValue (backends : BackendsConfig) : Json :=
  .object [("osc", .array (backends.osc.map OscBackendConfig.toValue))]

/-- `Serialize` for `DaemonConfig`. -/
def DaemonConfig.toValue (daemon : DaemonConfig) : Json :=
  .object
    [("window_ms", .ofNat daemon.windowMs.toNat), ("log_level", .string daemon.logLevel),
      ("log_format", .string daemon.logFormat),
      ("control_api_port", .ofNat daemon.controlApiPort.toNat), ("simulate", .bool daemon.simulate)]

/-- `Serialize` for `ProbesConfig`. -/
def ProbesConfig.toValue (probes : ProbesConfig) : Json :=
  .object [("enabled", .array (probes.enabled.map .string))]

/-- `Serialize` for `MetaConfig`. -/
def MetaConfig.toValue (config : MetaConfig) : Json :=
  .object [("schema_version", .string config.schemaVersion)]

section Configuration

variable {F : Type} [JsonFloat F]

/-- `Serialize` for `[f64; 2]`. -/
def rangeToValue (range : F × F) : Json := .array [ofF64 range.1, ofF64 range.2]

/-- `Serialize` for `MappingRule`. -/
def MappingRule.toValue (rule : MappingRule F) : Json :=
  .object
    [("source_metric", .string rule.sourceMetric), ("osc_address", .string rule.oscAddress),
      ("transform", .string rule.transform), ("input_range", rangeToValue rule.inputRange),
      ("output_range", rangeToValue rule.outputRange)]

/-- `Serialize` for `Config`. -/
def Config.toValue (config : Config F) : Json :=
  .object
    [("daemon", config.daemon.toValue), ("probes", config.probes.toValue),
      ("backends", config.backends.toValue),
      ("mapping", .array (config.mapping.map MappingRule.toValue)),
      ("meta", config.meta_.toValue)]

end Configuration

/-! ## Payloads -/

/-- The names of the fields of `CpuSchedEvent`. -/
def CpuSchedEvent.names : List String :=
  ["prev_comm_hash", "next_comm_hash", "latency_ns", "cpu_id"]

/-- `Serialize` for `CpuSchedEvent`. -/
def CpuSchedEvent.toValue (event : CpuSchedEvent) : Json :=
  .object (names.zip
    [.ofNat event.prevCommHash.toNat, .ofNat event.nextCommHash.toNat,
      .ofNat event.latencyNs.toNat, .ofNat event.cpuId.toNat])

/-- `Deserialize` for `CpuSchedEvent`. -/
def CpuSchedEvent.ofValue (json : Json) : Option CpuSchedEvent := do
  let [prev, next, latency, cpu] ← json.fields names | none
  return {
    prevCommHash := ← prev.u64?
    nextCommHash := ← next.u64?
    latencyNs := ← latency.u64?
    cpuId := ← u32? cpu }

theorem CpuSchedEvent.ofValue_toValue (event : CpuSchedEvent) :
    CpuSchedEvent.ofValue event.toValue = some event := by
  have hnodup : names.Nodup := by decide
  have hfields := Json.fields_zip hnodup
    [.ofNat event.prevCommHash.toNat, .ofNat event.nextCommHash.toNat,
      .ofNat event.latencyNs.toNat, .ofNat event.cpuId.toNat] rfl
  simp [CpuSchedEvent.ofValue, CpuSchedEvent.toValue, hfields]

/-- The names of the fields of `MemPressureEvent`. -/
def MemPressureEvent.names : List String := ["pages_reclaimed", "zone"]

/-- `Serialize` for `MemPressureEvent`. -/
def MemPressureEvent.toValue (event : MemPressureEvent) : Json :=
  .object (names.zip [.ofNat event.pagesReclaimed.toNat, .ofNat event.zone.toNat])

/-- `Deserialize` for `MemPressureEvent`. -/
def MemPressureEvent.ofValue (json : Json) : Option MemPressureEvent := do
  let [pages, zone] ← json.fields names | none
  return { pagesReclaimed := ← pages.u64?, zone := ← u32? zone }

theorem MemPressureEvent.ofValue_toValue (event : MemPressureEvent) :
    MemPressureEvent.ofValue event.toValue = some event := by
  have hnodup : names.Nodup := by decide
  have hfields := Json.fields_zip hnodup
    [.ofNat event.pagesReclaimed.toNat, .ofNat event.zone.toNat] rfl
  simp [MemPressureEvent.ofValue, MemPressureEvent.toValue, hfields]

/-- The names of the fields of `NetIoEvent`. -/
def NetIoEvent.names : List String := ["bytes_tx", "bytes_rx", "dev_name_hash"]

/-- `Serialize` for `NetIoEvent`. -/
def NetIoEvent.toValue (event : NetIoEvent) : Json :=
  .object (names.zip
    [.ofNat event.bytesTx.toNat, .ofNat event.bytesRx.toNat, .ofNat event.devNameHash.toNat])

/-- `Deserialize` for `NetIoEvent`. -/
def NetIoEvent.ofValue (json : Json) : Option NetIoEvent := do
  let [tx, rx, device] ← json.fields names | none
  return { bytesTx := ← tx.u64?, bytesRx := ← rx.u64?, devNameHash := ← device.u64? }

theorem NetIoEvent.ofValue_toValue (event : NetIoEvent) :
    NetIoEvent.ofValue event.toValue = some event := by
  have hnodup : names.Nodup := by decide
  have hfields := Json.fields_zip hnodup
    [.ofNat event.bytesTx.toNat, .ofNat event.bytesRx.toNat, .ofNat event.devNameHash.toNat] rfl
  simp [NetIoEvent.ofValue, NetIoEvent.toValue, hfields]

/-- The names of the fields of `ProcLifecycleEvent`. -/
def ProcLifecycleEvent.names : List String := ["comm_hash", "uid_hash"]

/-- `Serialize` for `ProcLifecycleEvent`. -/
def ProcLifecycleEvent.toValue (event : ProcLifecycleEvent) : Json :=
  .object (names.zip [.ofNat event.commHash.toNat, .ofNat event.uidHash.toNat])

/-- `Deserialize` for `ProcLifecycleEvent`. -/
def ProcLifecycleEvent.ofValue (json : Json) : Option ProcLifecycleEvent := do
  let [comm, uid] ← json.fields names | none
  return { commHash := ← comm.u64?, uidHash := ← uid.u64? }

theorem ProcLifecycleEvent.ofValue_toValue (event : ProcLifecycleEvent) :
    ProcLifecycleEvent.ofValue event.toValue = some event := by
  have hnodup : names.Nodup := by decide
  have hfields := Json.fields_zip hnodup
    [.ofNat event.commHash.toNat, .ofNat event.uidHash.toNat] rfl
  simp [ProcLifecycleEvent.ofValue, ProcLifecycleEvent.toValue, hfields]

/-- `Serialize` for `EventPayload`. -/
def EventPayload.toValue : EventPayload → Json
  | .cpuSched event => .object [("CpuSched", event.toValue)]
  | .memPressure event => .object [("MemPressure", event.toValue)]
  | .netIo event => .object [("NetIo", event.toValue)]
  | .procLifecycle event => .object [("ProcLifecycle", event.toValue)]

/-- `Deserialize` for `EventPayload`. -/
def EventPayload.ofValue : Json → Option EventPayload
  | .object [(tag, value)] =>
      match tag with
      | "CpuSched" => (CpuSchedEvent.ofValue value).map .cpuSched
      | "MemPressure" => (MemPressureEvent.ofValue value).map .memPressure
      | "NetIo" => (NetIoEvent.ofValue value).map .netIo
      | "ProcLifecycle" => (ProcLifecycleEvent.ofValue value).map .procLifecycle
      | _ => none
  | _ => none

theorem EventPayload.ofValue_toValue (payload : EventPayload) :
    EventPayload.ofValue payload.toValue = some payload := by
  cases payload with
  | cpuSched event =>
      simp [EventPayload.toValue, EventPayload.ofValue, CpuSchedEvent.ofValue_toValue]
  | memPressure event =>
      simp [EventPayload.toValue, EventPayload.ofValue, MemPressureEvent.ofValue_toValue]
  | netIo event =>
      simp [EventPayload.toValue, EventPayload.ofValue, NetIoEvent.ofValue_toValue]
  | procLifecycle event =>
      simp [EventPayload.toValue, EventPayload.ofValue, ProcLifecycleEvent.ofValue_toValue]

/-! ### The text of a payload -/

/-- A name is plain when no character of it needs escaping. -/
def isPlainName (name : String) : Bool :=
  name.toList.all fun c => (JsonText.escape c).isNone

theorem writeString_of_plain {name : String} (h : isPlainName name = true) :
    JsonText.writeString name.toList = name.toList ++ ['"'] := by
  have hplain : ∀ c ∈ name.toList, JsonText.writeChar c = [c] := by
    intro c hmem
    have hc := Option.isNone_iff_eq_none.mp (List.all_eq_true.mp h c hmem)
    rw [JsonText.writeChar, hc]
  rw [JsonText.writeString, List.flatMap_congr hplain, List.flatMap_singleton']

/-- A member as `jsonObject` writes it. -/
def memberText (field : String × Nat) : String := "\"" ++ field.1 ++ "\":" ++ Nat.repr field.2

theorem toList_memberText {field : String × Nat} (h : isPlainName field.1 = true) :
    (memberText field).toList =
      '"' :: (JsonText.writeString field.1.toList ++ ':' :: JsonText.write (.ofNat field.2)) := by
  rw [writeString_of_plain h]
  simp [memberText, JsonText.write, Json.ofNat, Nat.toList_repr]

theorem toList_intercalate_members (first : String) {fields : List (String × Nat)}
    (hnames : ∀ field ∈ fields, isPlainName field.1 = true) :
    (String.intercalate "," (first :: fields.map memberText)).toList ++ ['}'] =
      first.toList ++ JsonText.writeMembers (fields.map fun field => (field.1, .ofNat field.2)) := by
  induction fields generalizing first with
  | nil => simp [JsonText.writeMembers]
  | cons field fields ih =>
      obtain ⟨hfield, hrest⟩ := List.forall_mem_cons.mp hnames
      have hlater := ih (memberText field) hrest
      rw [toList_memberText hfield] at hlater
      simp only [List.map_cons, String.intercalate_cons_cons, String.toList_append,
        List.append_assoc, hlater, JsonText.writeMembers]
      simp

/-- `jsonObject` puts the text of a value together. -/
theorem jsonObject_eq {tag : String} {fields : List (String × Nat)}
    (hplain : (tag :: fields.map Prod.fst).all isPlainName = true) (hnonempty : fields ≠ []) :
    jsonObject tag fields =
      (Json.object [(tag, .object (fields.map fun field => (field.1, .ofNat field.2)))]).toText := by
  obtain ⟨htag, hnames⟩ := List.forall_mem_cons.mp (List.all_eq_true.mp hplain)
  obtain ⟨field, rest, rfl⟩ := List.exists_cons_of_ne_nil hnonempty
  obtain ⟨hfield, hrest⟩ :=
    List.forall_mem_cons.mp fun (member : String × Nat) hmem =>
      hnames member.1 (List.mem_map_of_mem hmem)
  have htext : ∀ inner : String, ("\x7b\"" ++ tag ++ "\":\x7b" ++ inner ++ "\x7d\x7d").toList =
      '{' :: '"' :: (tag.toList ++ '"' :: ':' :: '{' :: ((inner.toList ++ ['}']) ++ ['}'])) := by
    intro inner
    simp
  have hinner := toList_intercalate_members (memberText field) hrest
  rw [toList_memberText hfield] at hinner
  have hobject : jsonObject tag (field :: rest) = "\x7b\"" ++ tag ++ "\":\x7b" ++
      String.intercalate "," (memberText field :: rest.map memberText) ++ "\x7d\x7d" := rfl
  apply String.toList_injective
  rw [hobject, htext, hinner, Json.toText, String.toList_ofList]
  simp [JsonText.write, JsonText.writeMembers, writeString_of_plain htag]

/-- `serde_json::to_string` writes the value of a payload. -/
theorem EventPayload.toJson_eq (payload : EventPayload) :
    payload.toJson = payload.toValue.toText := by
  cases payload with
  | cpuSched event =>
      have hplain : ["CpuSched", "prev_comm_hash", "next_comm_hash", "latency_ns", "cpu_id"].all
          isPlainName = true := by decide
      exact jsonObject_eq hplain (List.cons_ne_nil _ _)
  | memPressure event =>
      have hplain : ["MemPressure", "pages_reclaimed", "zone"].all
          isPlainName = true := by decide
      exact jsonObject_eq hplain (List.cons_ne_nil _ _)
  | netIo event =>
      have hplain : ["NetIo", "bytes_tx", "bytes_rx", "dev_name_hash"].all
          isPlainName = true := by decide
      exact jsonObject_eq hplain (List.cons_ne_nil _ _)
  | procLifecycle event =>
      have hplain : ["ProcLifecycle", "comm_hash", "uid_hash"].all
          isPlainName = true := by decide
      exact jsonObject_eq hplain (List.cons_ne_nil _ _)

theorem EventPayload.read_toJson (payload : EventPayload) :
    (Json.ofText payload.toJson).bind EventPayload.ofValue = some payload := by
  rw [EventPayload.toJson_eq, Json.ofText_toText, Option.bind_some, EventPayload.ofValue_toValue]

end DaemonChoir.Common
