import DaemonChoir.Conductor.Authority
import DaemonChoir.Tui.Client
import DaemonChoir.Tui.Dashboard
set_option autoImplicit false

/-!
# Tui: a session (`daemon-choir-tui/src/main.rs`)

The client waits for a line of the user or for an answer of the daemon, never for both.  What it
asks of the daemon with a power over it is what the lines order, whatever the daemon answers.

The client is a small state machine: at the menu it waits for a line, after a request for
an answer, and some commands ask a question first.  The terminal and the network are
inputs, in any order and with any content; what is shown is modelled as far as the source
prints it from data of the daemon.

Which requests with a power are sent is a function of the lines alone.  Together with
`Authority` this says what a session can do to the daemon, whatever else runs beside it.
-/

namespace DaemonChoir.Tui

open DaemonChoir.Common DaemonChoir.Conductor DaemonChoir.Foundation

/-! ## Lines -/

/-- `char::is_whitespace`: the property `White_Space`. -/
def isWhitespace (c : Char) : Bool :=
  let n := c.toNat
  (9 ≤ n && n ≤ 13) || n == 0x20 || n == 0x85 || n == 0xa0 || n == 0x1680 ||
    (0x2000 ≤ n && n ≤ 0x200a) || n == 0x2028 || n == 0x2029 || n == 0x202f || n == 0x205f ||
    n == 0x3000

/-- `str::trim`. -/
def trim (text : String) : String :=
  String.ofList
    ((text.toList.dropWhile isWhitespace).reverse.dropWhile isWhitespace).reverse

/-- `confirm.trim().to_lowercase() == "y"`; no other character has that lower case. -/
def isYes (confirm : String) : Bool := trim confirm == "y" || trim confirm == "Y"

/-! ## The states of a session -/

/-- Where the client stands: at `read_line`, at the `send` of a request, or at its end. -/
inductive TuiPc where
  /-- The first request, before the menu. -/
  | connecting
  | menu
  | dashboardStatus
  | dashboardProbes (status : Option Status)
  | dashboardState (status : Option Status) (probes : Option (List ProbeInfo))
  /-- `view_config` -/
  | viewing
  /-- `trigger_reload` -/
  | reloading
  /-- The question of `trigger_wipe`. -/
  | confirming
  /-- The request of `trigger_wipe`. -/
  | wiping
  /-- `trigger_shutdown` -/
  | stopping
  | exited (code : ℕ)
  | panicked
  deriving DecidableEq, Repr, Inhabited

/-- What becomes of a request. -/
inductive NetAnswer where
  /-- `send` fails. -/
  | failed (details : String)
  /-- There is a status, but the body breaks off. -/
  | broken (status : ℕ)
  | full (response : Response)
  deriving DecidableEq, Repr, Inhabited

/-- The response, when all of it has arrived. -/
def NetAnswer.response? : NetAnswer → Option Response
  | .full response => some response
  | _ => none

/-- What the client waits for. -/
inductive TuiInput where
  /-- `read_line`: a line, the empty string at the end of the input, or an error. -/
  | line (text : Except String String)
  | answer (answer : NetAnswer)

/-- A request of the client, as far as the daemon looks at it. -/
def clientRequest (method : Method) (path : String) (headers : List (String × String)) :
    HttpRequest where
  method := method
  path := path
  headers := headers
  body := []

/-- The request that is sent on the way to a state, and answered in it. -/
def TuiPc.request? : TuiPc → Option HttpRequest
  | .connecting | .dashboardStatus => some (clientRequest .get "/v1/status" [])
  | .dashboardProbes _ => some (clientRequest .get "/v1/probes" [])
  | .dashboardState _ _ => some (clientRequest .get "/v1/state" [])
  | .viewing => some (clientRequest .get "/v1/voices" [])
  | .reloading => some (clientRequest .post "/v1/config/reload" [])
  | .wiping => some (clientRequest .post "/v1/privacy/wipe" [("x-daemon-choir", "wipe")])
  | .stopping => some (clientRequest .post "/v1/shutdown" [("x-daemon-choir", "shutdown")])
  | _ => none

/-! ## What is printed -/

/-- How numbers and status codes are printed. -/
structure Terminal (F : Type) where
  /-- `{:.2}` -/
  twoPlaces : F → String
  /-- `{}` of a `StatusCode`. -/
  statusText : ℕ → String

/-- `is_success` -/
def isSuccess (status : ℕ) : Bool := 200 ≤ status && status < 300

/-- What the three functions that trigger something print of its answer. -/
def verdict (statusText : ℕ → String) (done failed error : String) :
    NetAnswer → List String
  | .failed details => [error ++ details]
  | .broken status | .full ⟨status, _⟩ =>
      if isSuccess status then [done] else [failed ++ statusText status]

/-- A horizontal rule of the dashboard. -/
def rule (left right : String) : String := left ++ repeatChar '─' 56 ++ right

/-- The line of a probe. -/
def probeLine (probe : ProbeInfo) : String :=
  "│ " ++ padded 14 probe.name ++ " | Loaded: " ++
    padded 5 (if probe.loaded then "true" else "false") ++ " | Events: " ++
    padded 6 (Nat.repr probe.eventsTotal.toNat) ++ " | Lost: " ++
    padded 3 (Nat.repr probe.eventsLost.toNat) ++ " │"

/-- The lines of one turn of the dashboard; `none` when drawing a bar panics. -/
def frame {F : Type} [Float64 F] [Round F] (terminal : Terminal F) (status : Status)
    (probes : List ProbeInfo) (snapshot : StateSnapshot F) : Option (List String) :=
  (drawBars terminal.twoPlaces snapshot).map fun drawn =>
    [rule "┌" "┐", "│ DAEMON CHOIR (Conductor v" ++ status.version ++ ") STATUS               │",
      rule "├" "┤",
      "│ State: " ++ padded 10 status.state ++ " | Uptime: " ++
        padded 8 (Nat.repr status.uptimeSecs.toNat) ++ "s | Backends: " ++
        padded 5 (Nat.repr status.backendsActive.toNat) ++ " │",
      rule "├" "┤", "│ ACTIVE KERNEL TELEMETRY METRICS (Normalized 0.0 - 1.0) │",
      rule "├" "┤"] ++
    drawn ++
    [rule "├" "┤", "│ EBPF PROBES / TELEMETRY RING BUFFER METRIC COUNTERS    │",
      rule "├" "┤"] ++
    probes.map probeLine ++
    [rule "└" "┘", "  Press Ctrl+C to go back to CLI menu."]

/-! ## The steps of a session -/

/-- A command of the menu. -/
def command (cmd : String) : TuiPc × List String :=
  match cmd with
  | "1" => (.dashboardStatus, [])
  | "2" => (.viewing, ["Fetching voice mappings from daemon..."])
  | "3" => (.reloading, ["Sending hot reload request to daemon..."])
  | "4" =>
      (.confirming,
        ["⚠️ WARNING: This will delete all SQLite records and session logs.",
          "Are you sure? (y/N): "])
  | "5" => (.stopping, ["Sending graceful shutdown request..."])
  | "6" => (.exited 0, ["Exiting TUI. Goodbye!"])
  | _ => (.menu, ["Invalid selection, please select a number between 1 and 6."])

section Steps

variable {F : Type} [Float64 F] [Round F] [JsonFloat F]

/-- What the client does with a line or an answer, and what it prints. -/
def respond (terminal : Terminal F) : TuiPc → TuiInput → Option (TuiPc × List String)
  | .connecting, .answer (.failed details) =>
      some (.exited 1,
        ["Error: Could not connect to daemon-choir at http://127.0.0.1:9876.",
          "Is the conductor running? Start it first using:", "  cargo run --bin conductor",
          "Details: " ++ details])
  | .connecting, .answer _ => some (.menu, ["Connection established!"])
  | .menu, .line (.ok input) => some (command (trim input))
  | .menu, .line (.error _) => some (.panicked, [])
  | .dashboardStatus, .answer answer =>
      some (.dashboardProbes (fetch Status.ofValue answer.response?), [])
  | .dashboardProbes status, .answer answer =>
      some (.dashboardState status (fetch (Json.list? ProbeInfo.ofValue) answer.response?), [])
  | .dashboardState status probes, .answer answer =>
      match status, probes, fetch (StateSnapshot.ofValue (F := F)) answer.response? with
      | some status, some probes, some snapshot =>
          match frame terminal status probes snapshot with
          | some drawn => some (.dashboardStatus, drawn)
          | none => some (.panicked, [])
      | _, _, _ =>
          some (.menu,
            ["⚠️ Connection lost or error communicating with daemon-choir. Exiting dashboard."])
  | .viewing, .answer answer =>
      some (.menu,
        match answer with
        | .failed details => ["Error getting voice maps: " ++ details]
        | .broken _ => []
        | .full response => ["Active Voice Mapping Map:", response.body])
  | .reloading, .answer answer =>
      some (.menu, verdict terminal.statusText
        "✅ Hot reload trigger ACCEPTED! Mapping rules updated."
        "❌ Error: Received status code " "Error during hot reload: " answer)
  | .confirming, .line (.ok confirm) =>
      if isYes confirm then some (.wiping, []) else some (.menu, ["Aborted."])
  | .confirming, .line (.error _) => some (.panicked, [])
  | .wiping, .answer answer =>
      some (.menu, verdict terminal.statusText "✅ Privacy wipe completed successfully."
        "❌ Error: Received status code " "Error sending wipe request: " answer)
  | .stopping, .answer answer =>
      some (.exited 0, verdict terminal.statusText
        "✅ Shutdown command sent. Conductor is shutting down."
        "❌ Failed to shut down. Status: " "Error during shutdown: " answer)
  | _, _ => none

/-- One step of a session. -/
def sessionStep (terminal : Terminal F) (pc : TuiPc) (input : TuiInput) : Option TuiPc :=
  (respond terminal pc input).map Prod.fst

end Steps

/-! ## What the lines order -/

/-- The lines that have been read. -/
def linesRead (trace : List (TuiPc × TuiInput)) : List String :=
  trace.filterMap fun visit =>
    match visit.2 with
    | .line (.ok text) => some text
    | _ => none

/-- The requests that have been sent. -/
def requestsSent (trace : List (TuiPc × TuiInput)) (final : TuiPc) : List HttpRequest :=
  (trace.map Prod.fst ++ [final]).filterMap TuiPc.request?

/-- What the lines order, at the menu or at the question of a wipe: a reload, a wipe that the
next line confirms, or a shutdown, which ends the session. -/
def ordersAt : (asked : Bool) → List String → List Power
  | _, [] => []
  | false, cmd :: rest =>
      match trim cmd with
      | "3" => .configure :: ordersAt false rest
      | "4" => ordersAt true rest
      | "5" => [.stop]
      | "6" => []
      | _ => ordersAt false rest
  | true, confirm :: rest =>
      if isYes confirm then .wipe :: ordersAt false rest else ordersAt false rest

/-- What the lines of a session order. -/
def orders (lines : List String) : List Power := ordersAt false lines

/-- What the lines order that are still to come in a state. -/
def ordersFrom : TuiPc → List String → List Power
  | .confirming, lines => ordersAt true lines
  | .stopping, _ | .exited _, _ | .panicked, _ => []
  | _, lines => ordersAt false lines

/-- The session is over. -/
def TuiPc.isEnd : TuiPc → Bool
  | .exited _ | .panicked => true
  | _ => false

/-- The power of the request that a state waits for. -/
def TuiPc.power? (pc : TuiPc) : Option Power := pc.request?.bind HttpRequest.power?

/-- The line of an input. -/
def TuiInput.line? : TuiInput → Option String
  | .line (.ok text) => some text
  | _ => none

section Orders

variable {F : Type} [Float64 F] [Round F] [JsonFloat F] {terminal : Terminal F}

omit [Float64 F] [Round F] [JsonFloat F] in
theorem orders_command (input : String) (rest : List String) :
    ordersAt false (input :: rest) =
      (command (trim input)).1.power?.toList ++ ordersFrom (command (trim input)).1 rest := by
  unfold ordersAt
  generalize trim input = cmd
  split
  case h_5 hreload hwipe hstop hexit =>
    unfold command
    split
    case h_3 => exact absurd rfl hreload
    case h_4 => exact absurd rfl hwipe
    case h_5 => exact absurd rfl hstop
    case h_6 => exact absurd rfl hexit
    all_goals rfl
  all_goals rfl

/-- One step sends the request that its line has ordered. -/
theorem orders_step {pc next : TuiPc} {input : TuiInput}
    (h : sessionStep terminal pc input = some next) {lines : List String}
    (hend : next.isEnd = true → lines = []) :
    ordersFrom pc (input.line?.toList ++ lines) =
      next.power?.toList ++ ordersFrom next lines := by
  obtain ⟨⟨_, printed⟩, hrespond, rfl⟩ := Option.map_eq_some_iff.mp h
  dsimp only at hend ⊢
  cases pc with
  | connecting =>
      cases input with
      | line text => cases hrespond
      | answer answer =>
          cases answer with
          | failed details =>
              cases hrespond
              rw [hend rfl]
              rfl
          | broken status =>
              cases hrespond
              rfl
          | full response =>
              cases hrespond
              rfl
  | menu =>
      cases input with
      | line text =>
          cases text with
          | error error =>
              cases hrespond
              rw [hend rfl]
              rfl
          | ok text =>
              have hnext := congrArg Prod.fst (Option.some.inj hrespond)
              dsimp only at hnext
              rw [← hnext]
              exact orders_command text lines
      | answer answer => cases hrespond
  | confirming =>
      cases input with
      | line text =>
          cases text with
          | error error =>
              cases hrespond
              rw [hend rfl]
              rfl
          | ok confirm =>
              unfold respond at hrespond
              dsimp only at hrespond
              have horders : ordersFrom .confirming (confirm :: lines) =
                  if isYes confirm then .wipe :: ordersAt false lines
                  else ordersAt false lines := rfl
              refine horders.trans ?_
              split at hrespond
              · rename_i hyes
                cases hrespond
                rw [if_pos hyes]
                rfl
              · rename_i hno
                cases hrespond
                rw [if_neg hno]
                rfl
      | answer answer => cases hrespond
  | dashboardState status probes =>
      cases input with
      | line text => cases hrespond
      | answer answer =>
          unfold respond at hrespond
          dsimp only at hrespond
          split at hrespond
          · split at hrespond
            · cases hrespond
              rfl
            · cases hrespond
              rw [hend rfl]
              rfl
          · cases hrespond
            rfl
  | exited code => cases hrespond
  | panicked => cases hrespond
  | _ =>
      cases input with
      | line text => cases hrespond
      | answer answer =>
          cases hrespond
          rfl

theorem eq_nil_of_isEnd {start final : TuiPc} {trace : List (TuiPc × TuiInput)}
    (run : Run (sessionStep terminal) start trace final) (hend : start.isEnd = true) :
    trace = [] := by
  cases trace with
  | nil => rfl
  | cons visit rest =>
      obtain ⟨rfl, next, taken, _⟩ := run.uncons
      obtain ⟨pc, input⟩ := visit
      cases pc with
      | exited code => cases taken
      | panicked => cases taken
      | _ => cases hend

/-- From any state on, the requests with a power are the one it waits for and those that the
lines order from there. -/
theorem requests_of_run {start final : TuiPc} {trace : List (TuiPc × TuiInput)}
    (run : Run (sessionStep terminal) start trace final) :
    (requestsSent trace final).filterMap HttpRequest.power? =
      start.power?.toList ++ ordersFrom start (linesRead trace) := by
  induction trace generalizing start with
  | nil =>
      obtain rfl := run.eq_of_nil
      have hnothing : ordersFrom final [] = [] := by
        cases final <;> rfl
      rw [linesRead, List.filterMap_nil, hnothing, List.append_nil, requestsSent, List.map_nil,
        List.nil_append, List.filterMap_filterMap]
      unfold TuiPc.power?
      cases hpower : final.request?.bind HttpRequest.power? with
      | none => simp [hpower]
      | some power => simp [hpower]
  | cons visit rest ih =>
      obtain ⟨rfl, next, taken, later⟩ := run.uncons
      have hlines : linesRead (visit :: rest) = visit.2.line?.toList ++ linesRead rest := by
        obtain ⟨pc, input⟩ := visit
        cases input with
        | answer answer => rfl
        | line text => cases text <;> rfl
      have hend : next.isEnd = true → linesRead rest = [] := by
        intro hover
        rw [eq_nil_of_isEnd later hover]
        rfl
      rw [hlines, orders_step taken hend, ← ih later]
      unfold requestsSent TuiPc.power?
      rw [List.map_cons, List.cons_append, List.filterMap_cons]
      cases visit.1.request? with
      | none => rfl
      | some request =>
          rw [List.filterMap_cons]
          cases hpower : request.power? with
          | none => simp [hpower]
          | some power => simp [hpower]

/-- Whatever the daemon answers, and whenever the user stops looking: the requests of a session
that have a power over the daemon are, in order, those that the lines read so far order. -/
theorem orders_obeyed {final : TuiPc} {trace : List (TuiPc × TuiInput)}
    (run : Run (sessionStep terminal) .connecting trace final) :
    (requestsSent trace final).filterMap HttpRequest.power? = orders (linesRead trace) :=
  requests_of_run run

/-- How the numbers of the examples are printed. -/
def plainTerminal : Terminal ℚ where
  twoPlaces _ := "0.00"
  statusText := Nat.repr

/-- A wipe that is refused at first, confirmed later, and then a shutdown. -/
theorem orders_obeyed_wipe : ∃ trace final,
    Run (sessionStep plainTerminal) .connecting trace final ∧
      linesRead trace = ["4\n", "no\n", " 4\n", "Y\r\n", "5\n"] ∧
      (requestsSent trace final).filterMap HttpRequest.power? = [.wipe, .stop] := by
  have run : Run (sessionStep plainTerminal) .connecting _ _ :=
    execute_sound [.answer (.broken 500), .line (.ok "4\n"), .line (.ok "no\n"),
      .line (.ok " 4\n"), .line (.ok "Y\r\n"), .answer (.failed "connection reset"),
      .line (.ok "5\n")] rfl
  exact ⟨_, _, run, rfl, orders_obeyed run⟩

/-! ## A session beside the daemon -/

/-- When a session is all that asks the daemon, nothing happens that its lines have not ordered:
each part of the daemon that none of its orders is about goes on as if nobody was there. -/
theorem session_authority {api : Api F} {last : TuiPc} {inputs : List (TuiPc × TuiInput)}
    (session : Run (sessionStep terminal) .connecting inputs last) [Display F]
    {start final : Server F} {trace : List (Server F × ServerLabel F)}
    (run : Run (Server.step api) start trace final) (hstart : start.calls = [])
    (hclient : ∀ request ∈ Service.arrivals trace, request ∈ requestsSent inputs last) :
    (.configure ∉ orders (linesRead inputs) → final.state.cells = start.state.cells) ∧
    (.wipe ∉ orders (linesRead inputs) → final.state.db =
      ((moves trace).filterMap TaskMove.dbCall?).foldl Database.after start.state.db) ∧
    (.stop ∉ orders (linesRead inputs) → start.state.shutdownTx.queue = [] →
      .receiveShutdown ∉ moves trace) ∧
    (orders (linesRead inputs) = [] →
      Run AppState.task start.state.untimed (taskTrace AppState.untimed trace)
        final.state.untimed) := by
  have hsent : (requestsSent inputs last).filterMap HttpRequest.power? =
      orders (linesRead inputs) := requests_of_run session
  have hwithout : ∀ power, power ∉ orders (linesRead inputs) → Without power trace := by
    intro power hnot request hmem hpower
    rw [← hsent] at hnot
    exact hnot (List.mem_filterMap.mpr ⟨request, hclient request hmem, hpower⟩)
  refine ⟨fun hnot => cells_of_without run hstart (hwithout _ hnot),
    fun hnot => db_of_without run hstart (hwithout _ hnot),
    fun hnot => stop_of_without run hstart (hwithout _ hnot), fun hnone => ?_⟩
  rw [← hsent] at hnone
  exact tasks_of_powerless run hstart fun request hmem =>
    List.filterMap_eq_nil_iff.mp hnone request (hclient request hmem)

/-- A wipe is asked for and confirmed, while the aggregator publishes: the daemon wipes, and
neither its configuration nor its running on is touched. -/
theorem session_authority_wipe : ∃ trace final,
    Run (Server.step Api.bare) Server.idle trace final ∧
      Service.arrivals trace = [clientRequest .get "/v1/status" [],
        clientRequest .post "/v1/privacy/wipe" [("x-daemon-choir", "wipe")]] ∧
      (final.calls[1]?.map fun call => call.1.power?) = some (some .wipe) ∧
      final.state.cells = Server.idle.state.cells ∧ .receiveShutdown ∉ moves trace := by
  have session : Run (sessionStep plainTerminal) .connecting _ _ :=
    execute_sound [.answer (.broken 200), .line (.ok "4\n"), .line (.ok "y\n"),
      .answer (.failed "connection reset")] rfl
  have run : Run (Server.step Api.bare) Server.idle _ _ :=
    execute_sound [.call (clientRequest .get "/v1/status" []), .advance 0 threeMs,
      .call (clientRequest .post "/v1/privacy/wipe" [("x-daemon-choir", "wipe")]),
      .advance 1 threeMs, .task (.publish (Tapped.initialSnapshot 50)), .advance 1 threeMs,
      .advance 0 threeMs] rfl
  have hclient : ∀ request ∈ [clientRequest .get "/v1/status" [],
        clientRequest .post "/v1/privacy/wipe" [("x-daemon-choir", "wipe")]],
      request ∈ [clientRequest .get "/v1/status" [],
        clientRequest .post "/v1/privacy/wipe" [("x-daemon-choir", "wipe")]] :=
    fun _ hmem => hmem
  have horders : ∀ power, power ≠ .wipe → power ∉ [Power.wipe] := by
    intro power hne hmem
    exact hne (List.mem_singleton.mp hmem)
  obtain ⟨hcells, _, hstop, _⟩ := session_authority session run rfl hclient
  exact ⟨_, _, run, rfl, rfl, hcells (horders .configure nofun), hstop (horders .stop nofun) rfl⟩

end Orders

end DaemonChoir.Tui
