import Esp32Wiimote.Web.Router

/-!
# The forms of the handlers

The handlers of the route table come to their answers in few ways. A POST handler refuses its arguments,
or makes the call that they ask for, at once or by way of the queue; which it does is the same at every
size of the response buffer. What is shown of the forms is shown of every route.
-/

namespace Esp32Wiimote.Web

open CText

variable {σ : Type}

/-! ## The calls that are asked for -/

/-- The call that sets the LEDs, if the mask can be read. -/
def ledsCall (cmd : WebParsedCommand) : Option WebApiCall :=
  ((findField cmd (ascii "mask")).bind parseU8).map .setLeds

/-- The call that sets the reporting mode. -/
def reportingModeCall (cmd : WebParsedCommand) : Option WebApiCall :=
  ((findField cmd (ascii "mode")).bind parseU8).map fun mode =>
    .setReportingMode mode ((findField cmd (ascii "continuous")).elim false parseBool)

/-- A call that takes the field `enabled`. -/
def enabledCall (call : Bool → WebApiCall) (cmd : WebParsedCommand) : Option WebApiCall :=
  (findField cmd (ascii "enabled")).map fun enabled => call (parseBool enabled)

/-- The start or the stop of a discovery, by the verb. -/
def discoveryCall (cmd : WebParsedCommand) : Option WebApiCall :=
  if cmd.verb = ascii "discovery_start" then some .startDiscovery
  else if cmd.verb = ascii "discovery_stop" then some .stopDiscovery
  else none

/-- The disconnect, with a reason of its own where none is given. -/
def disconnectCall (cmd : WebParsedCommand) : Option WebApiCall :=
  ((findField cmd (ascii "reason")).elim (some 0x16) parseU8).map .disconnect

/-- The call that sets the delivery mode. -/
def wifiModeCall (cmd : WebParsedCommand) : Option WebApiCall :=
  (findField cmd (ascii "mode")).bind fun mode =>
    if mode = ascii "rest" then some (.setWifiDeliveryMode false)
    else if mode = ascii "rest-ws" ∨ mode = ascii "rest-websocket" then some (.setWifiDeliveryMode true)
    else none

/-- The call that sets the network, if neither text is empty. -/
def wifiNetworkCall (cmd : WebParsedCommand) : Option WebApiCall :=
  (findField cmd (ascii "ssid")).bind fun ssid =>
    (findField cmd (ascii "password")).bind fun password =>
      if ssid = [] ∨ password = [] then none else some (.setWifiNetwork ssid password)

/-- The call that sets the token, where that is allowed. -/
def wifiTokenCall (allowed : Bool) (cmd : WebParsedCommand) : Option WebApiCall :=
  if allowed then
    (findField cmd (ascii "token")).bind fun token => if token = [] then none else some (.setWifiApiToken token)
  else none

/-- The calls without a result. -/
def WebApiCall.isVoid : WebApiCall → Bool
  | .setScanEnabled _ | .setAutoReconnect _ => true
  | _ => false

/-! ## Forms -/

/-- The reasons to refuse the arguments of a command. -/
def argumentReasons : List CommandDispatchReason := [.MissingArgument, .BadArgument, .InvalidVerb, .PolicyBlocked]

/-- The reasons why a call is refused. -/
def callReasons : List CommandDispatchReason :=
  [.NotConnected, .NoActiveConnection, .ControllerNotInitialized, .DiscoveryAlreadyActive,
    .DiscoveryNotActive, .WifiControlDisabled, .Rejected]

/-- The ways to find out why a call was refused. -/
inductive IsRejectReason (ctx : WebApiContext σ) : RejectReason σ → Prop
  | wiimoteCommand : IsRejectReason ctx (wiimoteCommandRejectReason ctx)
  | discoveryStart : IsRejectReason ctx (discoveryStartRejectReason ctx)
  | discoveryStop : IsRejectReason ctx (discoveryStopRejectReason ctx)
  | disconnect : IsRejectReason ctx (disconnectRejectReason ctx)
  | rejected : IsRejectReason ctx (fixedReason .Rejected)
  | wifiControlDisabled : IsRejectReason ctx (fixedReason .WifiControlDisabled)

/-- A reason is found by asking for at most both statuses. -/
theorem IsRejectReason.form {ctx : WebApiContext σ} {rejected : RejectReason σ}
    (h : IsRejectReason ctx rejected) (s : WebApiState σ) :
    (rejected s).1 ∈ callReasons ∧
      ((rejected s).2 = s ∨ (rejected s).2 = (ctx.readWiimoteStatus s).2 ∨
        (rejected s).2 = (ctx.readControllerStatus s).2 ∨
        (rejected s).2 = (ctx.readControllerStatus (ctx.readWiimoteStatus s).2).2) := by
  cases h with
  | wiimoteCommand =>
    unfold wiimoteCommandRejectReason
    dsimp only
    split_ifs
    · exact ⟨by simp [callReasons], .inr (.inl rfl)⟩
    · exact ⟨by simp [callReasons], .inr (.inr (.inr rfl))⟩
    · exact ⟨by simp [callReasons], .inr (.inr (.inr rfl))⟩
  | discoveryStart =>
    unfold discoveryStartRejectReason
    dsimp only
    split_ifs <;> exact ⟨by simp [callReasons], .inr (.inr (.inl rfl))⟩
  | discoveryStop =>
    unfold discoveryStopRejectReason
    dsimp only
    split_ifs <;> exact ⟨by simp [callReasons], .inr (.inr (.inl rfl))⟩
  | disconnect =>
    unfold disconnectRejectReason
    dsimp only
    split_ifs <;> exact ⟨by simp [callReasons], .inr (.inr (.inl rfl))⟩
  | rejected => exact ⟨by simp [callReasons, fixedReason], .inl rfl⟩
  | wifiControlDisabled => exact ⟨by simp [callReasons, fixedReason], .inl rfl⟩

/-- The answers of a POST handler: the call that it answers with Ok, where one is asked for, whether that
goes to a configured queue, and the answer at each size of the response buffer. A scan is not answered with
Ok but with an answer of its own. -/
inductive PostForm (ctx : WebApiContext σ) (s : WebApiState σ) :
    Option WebApiCall → Bool → (ℕ → WebApiRouteResult × WebApiState σ) → Prop
  | refused {queues : Bool} {reason : CommandDispatchReason}
      (hreason : reason ∈ argumentReasons)
      (message : CString) :
      PostForm ctx s none queues fun size => reasonResponse size reason (some message) s
  | called {call : WebApiCall} (hvoid : call.isVoid = false) {rejected : RejectReason σ}
      (hrejected : IsRejectReason ctx rejected) :
      PostForm ctx s (some call) false fun size => callOrReject ctx call rejected size s
  | reconnectPolicy (enabled : Bool) :
      PostForm ctx s (some (.setAutoReconnect enabled)) false fun size =>
        okResponse size (ctx.invokeVoid (.setAutoReconnect enabled) s)
  | scan {command : CString} (hcommand : command ∈ [ascii "scan_start", ascii "scan_stop"]) (enabled : Bool) :
      PostForm ctx s none false fun size =>
        scanCommandResponse size command enabled (ctx.invokeVoid (.setScanEnabled enabled) s)
  | queued (path verb : CString) {asked : Option WebApiCall}
      {direct : ℕ → WebApiState σ → WebApiRouteResult × WebApiState σ}
      (hdirect : PostForm ctx s asked false fun size => direct size s) :
      PostForm ctx s asked true fun size => queueOr path verb size (direct size) s

section Handlers

variable (ctx : WebApiContext σ) (cmd : WebParsedCommand) (s : WebApiState σ)

/-- A message about a field is the same at every size of the response buffer. -/
theorem form_fieldResponse {reason : CommandDispatchReason}
    (hreason : reason ∈ argumentReasons)
    (template : CommandDispatchFieldMessage) (messageSize : ℕ) (fallback : CommandDispatchMessageTemplate)
    (field : CString) (queues : Bool) :
    PostForm ctx s none queues fun size => fieldResponse size reason template messageSize fallback field s := by
  unfold fieldResponse
  dsimp only
  split
  · exact .refused hreason _
  · exact .refused hreason _

/-- A missing field asks for no call. -/
theorem form_missingField (queues : Bool) (field : CString) :
    PostForm ctx s none queues fun size => missingFieldResponse size field s :=
  form_fieldResponse ctx s (by decide) _ _ _ field queues

/-- Nor does an invalid one. -/
theorem form_invalidField (queues : Bool) (field : CString) :
    PostForm ctx s none queues fun size => invalidFieldResponse size field s :=
  form_fieldResponse ctx s (by decide) _ _ _ field queues

/-- Nor does an empty one. -/
theorem form_emptyField (queues : Bool) (field : CString) :
    PostForm ctx s none queues fun size => emptyFieldResponse size field s :=
  form_fieldResponse ctx s (by decide) _ _ _ field queues

/-- The form of the LED handler. -/
theorem form_handlePostLeds :
    PostForm ctx s (ledsCall cmd) true fun size => handlePostLeds ctx cmd size s := by
  unfold handlePostLeds ledsCall
  cases findField cmd (ascii "mask") with
  | none => exact form_missingField ctx s true _
  | some maskVal =>
    dsimp only [Option.bind_some]
    cases parseU8 maskVal with
    | none => exact form_invalidField ctx s true _
    | some mask => exact .queued _ _ (.called rfl .wiimoteCommand)

/-- The form of the reporting-mode handler. -/
theorem form_handlePostReportingMode :
    PostForm ctx s (reportingModeCall cmd) true fun size => handlePostReportingMode ctx cmd size s := by
  unfold handlePostReportingMode reportingModeCall
  cases findField cmd (ascii "mode") with
  | none => exact form_missingField ctx s true _
  | some modeVal =>
    dsimp only [Option.bind_some]
    cases parseU8 modeVal with
    | none => exact form_invalidField ctx s true _
    | some mode => exact .queued _ _ (.called rfl .wiimoteCommand)

/-- The form of the accelerometer handler. -/
theorem form_handlePostAccelerometer :
    PostForm ctx s (enabledCall .setAccelEnabled cmd) true fun size =>
      handlePostAccelerometer ctx cmd size s := by
  unfold handlePostAccelerometer enabledCall
  cases findField cmd (ascii "enabled") with
  | none => exact form_missingField ctx s true _
  | some enabledVal => exact .queued _ _ (.called rfl .wiimoteCommand)

/-- The form of the status request's handler. -/
theorem form_handlePostRequestStatus :
    PostForm ctx s (some .requestStatus) true fun size => handlePostRequestStatus ctx cmd size s :=
  .queued _ _ (.called rfl .wiimoteCommand)

/-- A scan asks for no call that is answered with Ok. -/
theorem form_handlePostScan : PostForm ctx s none true fun size => handlePostScan ctx cmd size s := by
  unfold handlePostScan
  split
  · exact .queued _ _ (.scan (.head _) true)
  · split
    · exact .queued _ _ (.scan (.tail _ (.head _)) false)
    · exact .refused (by decide) _

/-- The form of the discovery handler. -/
theorem form_handlePostDiscovery :
    PostForm ctx s (discoveryCall cmd) true fun size => handlePostDiscovery ctx cmd size s := by
  unfold handlePostDiscovery discoveryCall
  split
  · exact .queued _ _ (.called rfl .discoveryStart)
  · split
    · exact .queued _ _ (.called rfl .discoveryStop)
    · exact .refused (by decide) _

/-- The form of the disconnect handler. -/
theorem form_handlePostDisconnect :
    PostForm ctx s (disconnectCall cmd) true fun size => handlePostDisconnect ctx cmd size s := by
  unfold handlePostDisconnect disconnectCall
  cases (findField cmd (ascii "reason")).elim (some 0x16) parseU8 with
  | none => exact form_invalidField ctx s true _
  | some reason => exact .queued _ _ (.called rfl .disconnect)

/-- The form of the reconnect-policy handler. -/
theorem form_handlePostReconnectPolicy :
    PostForm ctx s (enabledCall .setAutoReconnect cmd) true fun size =>
      handlePostReconnectPolicy ctx cmd size s := by
  unfold handlePostReconnectPolicy enabledCall
  cases findField cmd (ascii "enabled") with
  | none => exact form_missingField ctx s true _
  | some enabledVal => exact .queued _ _ (.reconnectPolicy _)

/-- The form of the Wi-Fi control handler, which does not queue. -/
theorem form_handlePostWifiControl :
    PostForm ctx s (enabledCall .setWifiControlEnabled cmd) false fun size =>
      handlePostWifiControl ctx cmd size s := by
  unfold handlePostWifiControl enabledCall
  cases findField cmd (ascii "enabled") with
  | none => exact form_missingField ctx s false _
  | some enabledVal => exact .called rfl .rejected

/-- The form of the delivery-mode handler. -/
theorem form_handlePostWifiMode :
    PostForm ctx s (wifiModeCall cmd) false fun size => handlePostWifiMode ctx cmd size s := by
  unfold handlePostWifiMode wifiModeCall
  cases findField cmd (ascii "mode") with
  | none => exact form_missingField ctx s false _
  | some modeVal =>
    dsimp only [Option.bind_some]
    split
    · exact .called rfl .rejected
    · split
      · exact .called rfl .rejected
      · exact .refused (by decide) _

/-- The form of the network handler. -/
theorem form_handlePostWifiNetwork :
    PostForm ctx s (wifiNetworkCall cmd) false fun size => handlePostWifiNetwork ctx cmd size s := by
  unfold handlePostWifiNetwork wifiNetworkCall
  cases findField cmd (ascii "ssid") with
  | none => exact form_missingField ctx s false _
  | some ssid =>
    cases findField cmd (ascii "password") with
    | none => exact form_missingField ctx s false _
    | some password =>
      dsimp only [Option.bind_some]
      by_cases hssid : ssid = []
      · simp only [hssid, true_or, if_true]
        exact form_emptyField ctx s false _
      by_cases hpassword : password = []
      · simp only [hssid, hpassword, or_true, if_true, if_false]
        exact form_emptyField ctx s false _
      simp only [hssid, hpassword, or_self, if_false]
      exact .called rfl .rejected

/-- The form of the restart handler. -/
theorem form_handlePostWifiRestart :
    PostForm ctx s (some .restartWifiControl) false fun size => handlePostWifiRestart ctx cmd size s :=
  .called rfl .wifiControlDisabled

/-- The form of the token handler. -/
theorem form_handlePostWifiToken :
    PostForm ctx s (wifiTokenCall ctx.allowWifiApiTokenMutation cmd) false fun size =>
      handlePostWifiToken ctx cmd size s := by
  unfold handlePostWifiToken wifiTokenCall
  cases ctx.allowWifiApiTokenMutation with
  | false => exact .refused (by decide) _
  | true =>
    simp only [Bool.not_true, Bool.false_eq_true, if_false, if_true]
    cases findField cmd (ascii "token") with
    | none => exact form_missingField ctx s false _
    | some token =>
      dsimp only [Option.bind_some]
      split
      · exact form_emptyField ctx s false _
      · exact .called rfl .rejected

end Handlers

/-- The status of a command is of another route, refused, or the one of an entry of the queue. -/
theorem handleGetCommandStatus_form (path : CString) (s : WebApiState σ) :
    (∀ size, handleGetCommandStatus path size s = none) ∨
      (∃ reason ∈ [CommandDispatchReason.BadArgument, .NotFound], ∃ message, ∀ size,
        handleGetCommandStatus path size s = some (reasonResponse size reason message s)) ∨
      ∃ entry : WebCommandQueueEntry, ∀ size, handleGetCommandStatus path size s =
        some (formattedResponse size 200
          (ascii "\x7b\"commandId\":" ++ decimal entry.id.toNat ++ ascii ",\"status\":\""
            ++ queueStatusToString entry.status ++ ascii "\",\"result\":\""
            ++ queueResultToString entry.result ++ ascii "\"\x7d") s) := by
  unfold handleGetCommandStatus
  cases parseCommandStatusPath path with
  | none => exact .inl fun _ => rfl
  | some parsed =>
    cases parsed with
    | none => exact .inr (.inl ⟨_, .head _, _, fun _ => rfl⟩)
    | some commandId =>
      cases s.commandQueue with
      | none => exact .inr (.inl ⟨_, .tail _ (.head _), none, fun _ => rfl⟩)
      | some queue =>
        dsimp only
        cases webCommandQueueGet queue commandId with
        | none => exact .inr (.inl ⟨_, .tail _ (.head _), _, fun _ => rfl⟩)
        | some entry => exact .inr (.inr ⟨entry, fun _ => rfl⟩)

/-! ## Routes -/

/-- A path whose commands are answered with Ok: whether they go to a configured queue, and the call that
they ask for. -/
structure CommandRoute where
  path : CString
  queues : Bool
  asked : WebParsedCommand → Option WebApiCall

/-- The paths of the commands, whether they queue, and the calls they ask for. -/
def commandRoutes (ctx : WebApiContext σ) : List CommandRoute :=
  [⟨ascii "/api/wiimote/commands/leds", true, ledsCall⟩,
    ⟨ascii "/api/wiimote/commands/reporting-mode", true, reportingModeCall⟩,
    ⟨ascii "/api/wiimote/commands/accelerometer", true, enabledCall .setAccelEnabled⟩,
    ⟨ascii "/api/wiimote/commands/request-status", true, fun _ => some .requestStatus⟩,
    ⟨ascii "/api/wiimote/commands/discovery", true, discoveryCall⟩,
    ⟨ascii "/api/wiimote/commands/disconnect", true, disconnectCall⟩,
    ⟨ascii "/api/wiimote/commands/reconnect-policy", true, enabledCall .setAutoReconnect⟩,
    ⟨ascii "/api/wifi/control", false, enabledCall .setWifiControlEnabled⟩,
    ⟨ascii "/api/wifi/delivery-mode", false, wifiModeCall⟩,
    ⟨ascii "/api/wifi/network", false, wifiNetworkCall⟩,
    ⟨ascii "/api/wifi/restart", false, fun _ => some .restartWifiControl⟩,
    ⟨ascii "/api/wifi/token", false, wifiTokenCall ctx.allowWifiApiTokenMutation⟩]

/-- The call that a command on the path is answered with Ok for, and whether it goes to a configured
queue. -/
def commandOn (ctx : WebApiContext σ) (path : CString) (cmd : WebParsedCommand) : Option WebApiCall × Bool :=
  (((commandRoutes ctx).find? fun route => route.path == path).map fun route =>
    (route.asked cmd, route.queues)).getD (none, true)

/-- The handlers of the route table: three that are read and take no body, and POST handlers, each of which
takes a body and has the form of the commands on its path. -/
theorem route_form (ctx : WebApiContext σ) {route : RouteEntry σ} (hroute : route ∈ kRoutes) :
    (route.method = ascii "GET" ∧ route.requiresBody = false ∧
        route.handler ∈ [handleGetStatus, handleGetConfig, handleGetWifiControl]) ∨
      (route.method = ascii "POST" ∧ route.requiresBody = true ∧ ∀ cmd s,
        PostForm ctx s (commandOn ctx route.path cmd).1 (commandOn ctx route.path cmd).2 fun size =>
          route.handler ctx cmd size s) := by
  simp only [kRoutes, List.mem_cons, List.not_mem_nil, or_false] at hroute
  rcases hroute with rfl | rfl | rfl | rfl | rfl | rfl | rfl | rfl | rfl | rfl | rfl | rfl | rfl |
    rfl | rfl | rfl
  · exact .inl ⟨rfl, rfl, .head _⟩
  · exact .inl ⟨rfl, rfl, .tail _ (.head _)⟩
  · exact .inl ⟨rfl, rfl, .tail _ (.tail _ (.head _))⟩
  · exact .inr ⟨rfl, rfl, form_handlePostLeds ctx⟩
  · exact .inr ⟨rfl, rfl, form_handlePostReportingMode ctx⟩
  · exact .inr ⟨rfl, rfl, form_handlePostAccelerometer ctx⟩
  · exact .inr ⟨rfl, rfl, form_handlePostRequestStatus ctx⟩
  · exact .inr ⟨rfl, rfl, form_handlePostScan ctx⟩
  · exact .inr ⟨rfl, rfl, form_handlePostDiscovery ctx⟩
  · exact .inr ⟨rfl, rfl, form_handlePostDisconnect ctx⟩
  · exact .inr ⟨rfl, rfl, form_handlePostReconnectPolicy ctx⟩
  · exact .inr ⟨rfl, rfl, form_handlePostWifiControl ctx⟩
  · exact .inr ⟨rfl, rfl, form_handlePostWifiMode ctx⟩
  · exact .inr ⟨rfl, rfl, form_handlePostWifiNetwork ctx⟩
  · exact .inr ⟨rfl, rfl, form_handlePostWifiRestart ctx⟩
  · exact .inr ⟨rfl, rfl, form_handlePostWifiToken ctx⟩

end Esp32Wiimote.Web
