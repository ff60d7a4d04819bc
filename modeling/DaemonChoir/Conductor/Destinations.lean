import DaemonChoir.Common.Schema
import DaemonChoir.Conductor.OscOutput
set_option autoImplicit false

/-!
# Conductor: where telemetry is addressed to

`socket.send_to` is given the address of a backend as it stands in the list that the
dispatcher took.  No list is ever checked, so a destination is as local as the startup
file and the updates make it.
-/

namespace DaemonChoir.Conductor

open DaemonChoir.Common DaemonChoir.Foundation

/-- The number that decimal digits denote. -/
def decimal? (digits : List Char) : Option ℕ :=
  if digits.isEmpty || !digits.all Char.isDigit then none
  else some (digits.foldl (fun value digit => 10 * value + (digit.toNat - 48)) 0)

/-- A port of 16 bits. -/
def isPort (digits : List Char) : Bool :=
  (decimal? digits).any fun port => decide (port < 65536)

/-- An octet of an IPv4 address, without leading zeros. -/
def isOctet (digits : List Char) : Bool :=
  ((decimal? digits).any fun octet => decide (octet < 256)) &&
    (digits.length == 1 || !"0".toList.isPrefixOf digits)

/-- An IPv4 address in 127.0.0.0/8. -/
def isLoopbackV4 (host : List Char) : Bool :=
  match host.splitOn ( '.') with
  | [first, second, third, fourth] =>
      first == "127".toList && isOctet second && isOctet third && isOctet fourth
  | _ => false

/-- A socket address of this machine: an IPv4 address in 127.0.0.0/8, the IPv6 loopback, or
the name `localhost`, with a port. -/
def isLoopback (address : String) : Bool :=
  if "[::1]:".toList.isPrefixOf address.toList then isPort (address.toList.drop 6)
  else
    match address.toList.splitOn ( ':') with
    | [host, port] => (isLoopbackV4 host || host == "localhost".toList) && isPort port
    | _ => false

example : isLoopback "127.0.0.1:57120" = true ∧ isLoopback "[::1]:9000" = true ∧
    isLoopback "127.999.0.1:9000" = false ∧ isLoopback "localhost:" = false ∧
    isLoopback "127.0.0.1:99999" = false ∧ isLoopback "localhost:evil.example.com:1" = false := by
  decide

/-- The backends of one bundle that the dispatcher has still to send to. -/
def OscDispatcher.targets {F : Type} : OscDispatcher F → List OscBackendConfig
  | .stamping _ backends => backends
  | .offering _ _ backends => backends
  | .sending _ _ backend rest => backend :: rest
  | .crediting _ _ rest => rest
  | _ => []

namespace Delivery

section Destinations

variable {F : Type}

/-- The backend whose address is passed to `socket.send_to`. -/
def destination : Delivery F × DeliveryLabel F → Option OscBackendConfig
  | (delivery, .sendTo _) =>
      match delivery.dispatcher with
      | .sending _ _ backend _ => some backend
      | _ => none
  | _ => none

/-- The list that an update writes to `osc_backends`. -/
def installed : Delivery F × DeliveryLabel F → Option (List OscBackendConfig)
  | (_, .write (.backends list)) => some list
  | _ => none

/-- The backend stood in the list that the dispatcher took. -/
def WasTaken (history : List (Delivery F × DeliveryLabel F)) (backend : OscBackendConfig) :
    Prop :=
  ∃ visit ∈ history, visit.2 = .readBackends ∧ backend ∈ visit.1.cells.oscBackends.value

/-- The backend stands in the startup file or in a list that an update has installed. -/
def WasInstalled (config : Config F) (history : List (Delivery F × DeliveryLabel F))
    (backend : OscBackendConfig) : Prop :=
  backend ∈ config.backends.osc ∨
    ∃ visit ∈ history, ∃ list, installed visit = some list ∧ backend ∈ list

theorem WasTaken.snoc {history : List (Delivery F × DeliveryLabel F)}
    {backend : OscBackendConfig} (h : WasTaken history backend)
    (visit : Delivery F × DeliveryLabel F) : WasTaken (history ++ [visit]) backend := by
  obtain ⟨earlier, hmem, hread⟩ := h
  exact ⟨earlier, List.mem_append_left _ hmem, hread⟩

theorem WasInstalled.append {config : Config F}
    {history : List (Delivery F × DeliveryLabel F)} {backend : OscBackendConfig}
    (h : WasInstalled config history backend)
    (later : List (Delivery F × DeliveryLabel F)) :
    WasInstalled config (history ++ later) backend := by
  rcases h with h | ⟨visit, hmem, hlist⟩
  · exact .inl h
  · exact .inr ⟨visit, List.mem_append_left _ hmem, hlist⟩

variable [Float64 F] [Libm F] {encode : OscBundle F → Option (List UInt8)}
  {delivery next : Delivery F} {label : DeliveryLabel F}

/-- A step takes targets from the list in force or from those it already had. -/
theorem Moves.targets (moves : Moves encode delivery label next) {backend : OscBackendConfig}
    (h : backend ∈ next.dispatcher.targets) :
    backend ∈ delivery.dispatcher.targets ∨
      label = .readBackends ∧ backend ∈ delivery.cells.oscBackends.value := by
  cases moves with
  | stamping params hdispatcher => exact .inr ⟨rfl, h⟩
  | stamped now params backends packet hdispatcher =>
      rw [hdispatcher]
      exact .inl h
  | offered origin packet first rest hdispatcher =>
      rw [hdispatcher]
      exact .inl h
  | sendToOk origin packet first rest hdispatcher =>
      rw [hdispatcher]
      exact .inl (List.mem_cons_of_mem first h)
  | sendToErr origin packet first rest hdispatcher =>
      rw [hdispatcher]
      exact .inl (List.mem_cons_of_mem first h)
  | credited origin packet rest hdispatcher =>
      rw [hdispatcher]
      exact .inl h
  | recorded operation rest hdispatcher => cases rest <;> cases h
  | _ =>
      -- the dispatcher is as it was, or outside the loop over the backends
      first | exact .inl h | cases h

theorem Moves.oscBackends (moves : Moves encode delivery label next)
    {backend : OscBackendConfig} (h : backend ∈ next.cells.oscBackends.value) :
    backend ∈ delivery.cells.oscBackends.value ∨
      ∃ list, installed (delivery, label) = some list ∧ backend ∈ list := by
  cases moves with
  | written write =>
      cases write with
      | backends list =>
          simp only [ConfigCells.perform, RwLock.write] at h
          split at h
          · exact .inl h
          · exact .inr ⟨list, rfl, h⟩
      | _ => exact .inl h
  | _ => exact .inl h

/-! ## Runs -/

variable {config : Config F} {trace : List (Delivery F × DeliveryLabel F)}
  {final : Delivery F}

theorem wasInstalled_of_mem (run : Run (step encode) (started config) trace final)
    {backend : OscBackendConfig} (h : backend ∈ final.cells.oscBackends.value) :
    WasInstalled config trace backend := by
  induction run with
  | nil => exact .inl h
  | @snoc trace before next label _ taken ih =>
      rcases (step_moves taken).oscBackends h with hbefore | ⟨list, hlist, hmem⟩
      · exact (ih hbefore).append _
      · exact .inr ⟨(before, label), by simp, list, hlist, hmem⟩

theorem wasTaken_of_targets (run : Run (step encode) (started config) trace final)
    {backend : OscBackendConfig} (h : backend ∈ final.dispatcher.targets) :
    WasTaken trace backend := by
  induction run with
  | nil => cases h
  | @snoc trace before next label _ taken ih =>
      rcases (step_moves taken).targets h with hbefore | ⟨hlabel, hmem⟩
      · exact (ih hbefore).snoc _
      · exact ⟨(before, label), by simp, hlabel, hmem⟩

omit [Float64 F] [Libm F] in
theorem mem_targets_of_destination {visit : Delivery F × DeliveryLabel F}
    {backend : OscBackendConfig} (h : destination visit = some backend) :
    backend ∈ visit.1.dispatcher.targets := by
  obtain ⟨delivery, label⟩ := visit
  cases label with
  | sendTo ok =>
      simp only [destination] at h
      split at h
      · rename_i origin packet first rest hdispatcher
        cases h
        rw [hdispatcher]
        exact List.mem_cons_self
      · cases h
  | _ => cases h

/-- Every destination is a backend of the list that was in force when the dispatcher took
it, and so of the startup file or of an update made before; it is a loopback address when
all of these are. -/
theorem destinations_installed (run : Run (step encode) (started config) trace final) :
    (∀ front visit back backend, trace = front ++ visit :: back →
      destination visit = some backend →
        WasTaken front backend ∧ WasInstalled config front backend) ∧
    ((∀ backend, WasInstalled config trace backend → isLoopback backend.address = true) →
      ∀ visit ∈ trace, ∀ backend, destination visit = some backend →
        isLoopback backend.address = true) := by
  have hsource : ∀ front visit back backend, trace = front ++ visit :: back →
      destination visit = some backend →
        WasTaken front backend ∧ WasInstalled config front backend := by
    intro front visit back backend htrace hdestination
    subst htrace
    obtain ⟨hfront, _⟩ := run.at_visit
    have htaken := wasTaken_of_targets hfront (mem_targets_of_destination hdestination)
    refine ⟨htaken, ?_⟩
    obtain ⟨reading, hmem, _, hlist⟩ := htaken
    obtain ⟨earlier, later, _, rfl, hearlier, _, _⟩ := hfront.of_mem hmem
    exact (wasInstalled_of_mem hearlier hlist).append _
  refine ⟨hsource, ?_⟩
  intro hlocal visit hmem backend hdestination
  obtain ⟨front, back, rfl⟩ := List.append_of_mem hmem
  obtain ⟨_, hinstalled⟩ := hsource front visit back backend rfl hdestination
  exact hlocal backend (hinstalled.append _)

end Destinations

/-! ## Two startup files -/

/-- A backend on the same machine, under its name. -/
def namedBackend : OscBackendConfig := { name := "puredata", address := "localhost:57121" }

/-- A snapshot is sent to the backend of the startup file, the backends are replaced, and
another one is sent to the new one. -/
def twoSent : List (DeliveryLabel Ieee) :=
  oneSent ++ [.readClock 999000, .load] ++ (backendsWrites [namedBackend]).map .write ++
    [.tick 1050000 0, .emit, .receiveSnapshot, .readRules, .sendParams, .receiveParams,
      .readBackends, .stamp ⟨1051000000⟩, .offer, .sendTo true]

/-- Both stay on the machine, since all backends that were ever installed do. -/
theorem destinations_installed_two :
    ∃ trace final, Run (step encodeZeros) (started (oneRule : Config Ieee)) trace final ∧
      (trace.filterMap destination).map OscBackendConfig.address =
        ["127.0.0.1:57120", "localhost:57121"] ∧
      (∀ front visit back backend, trace = front ++ visit :: back →
        destination visit = some backend →
          WasTaken front backend ∧ WasInstalled oneRule front backend) ∧
      ∀ visit ∈ trace, ∀ backend, destination visit = some backend →
        isLoopback backend.address = true := by
  have run : Run (step encodeZeros) (started (oneRule : Config Ieee)) _ _ :=
    execute_sound twoSent rfl
  obtain ⟨hsource, hlocal⟩ := destinations_installed run
  refine ⟨_, _, run, rfl, hsource, hlocal fun backend hinstalled => ?_⟩
  rcases hinstalled with hstartup | ⟨visit, hmem, list, hlist, hbackend⟩
  · rw [List.mem_singleton.mp hstartup]
    decide
  · have hlists : list ∈ [[namedBackend]] := List.mem_filterMap.mpr ⟨visit, hmem, hlist⟩
    rw [List.mem_singleton.mp hlists] at hbackend
    rw [List.mem_singleton.mp hbackend]
    decide

/-- `oneRule` with a backend on another machine. -/
def elsewhere {F : Type} [Float64 F] : Config F :=
  { (oneRule : Config F) with
    backends := { osc := [{ name := "synth", address := "192.0.2.7:57120" }] } }

/-- An address of another machine in the startup file is passed to `send_to`. -/
theorem not_always_loopback :
    ¬ ∀ (config : Config Ieee) (trace : List (Delivery Ieee × DeliveryLabel Ieee))
        (final : Delivery Ieee), Run (step encodeZeros) (started config) trace final →
          ∀ visit ∈ trace, ∀ backend, destination visit = some backend →
            isLoopback backend.address = true := by
  intro hclaim
  have run : Run (step encodeZeros) (started (elsewhere : Config Ieee)) _ _ :=
    execute_sound oneSent rfl
  have hlocal := hclaim _ _ _ run _
    (List.mem_of_getElem? (i := 9) rfl) { name := "synth", address := "192.0.2.7:57120" } rfl
  exact absurd hlocal (by decide)

end Delivery

end DaemonChoir.Conductor
