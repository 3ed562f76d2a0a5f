import Esp32Wiimote.DispatchReason
import Esp32Wiimote.Web.CommandQueue
import Esp32Wiimote.Web.RequestParser
import Esp32Wiimote.Web.Serializer

/-!
# The route handlers of the web API

The router calls the device through the callbacks of a context. Every invocation of a
callback is recorded, a command with whether it was accepted, so that what a request did
can be told from the record and the command queue. The response buffer is part of the
state: a handler that does not write it leaves what the caller put there.
-/

namespace Esp32Wiimote.Web

open CText

/-- The commands behind the mutating callbacks. -/
inductive WebApiCall
  | setLeds (ledMask : UInt8)
  | setReportingMode (mode : UInt8) (continuous : Bool)
  | setAccelEnabled (enabled : Bool)
  | requestStatus
  | setScanEnabled (enabled : Bool)
  | startDiscovery
  | stopDiscovery
  | disconnect (reason : UInt8)
  | setAutoReconnect (enabled : Bool)
  | setWifiControlEnabled (enabled : Bool)
  | setWifiDeliveryMode (restAndWebSocket : Bool)
  | setWifiNetwork (ssid password : CString)
  | restartWifiControl
  | setWifiApiToken (token : CString)
  deriving DecidableEq, Repr

/-- The read callbacks. -/
inductive WebApiRead
  | getWiimoteStatus
  | getControllerStatus
  | getConfig
  | getWifiControlState
  deriving DecidableEq, Repr

/-- A callback that was invoked: a snapshot that was read, or a command with its answer. -/
inductive WebApiInvocation
  | read (callback : WebApiRead)
  | command (call : WebApiCall) (accepted : Bool)
  deriving DecidableEq, Repr

/-- The context of a request: the token, the callbacks over the user data, whether the token
may be changed, and whether an event stream is set. -/
structure WebApiContext (σ : Type) where
  wifiApiToken : Option CString
  getWiimoteStatus : σ → WebWiimoteStatusSnapshot × σ
  getControllerStatus : σ → WebControllerStatusSnapshot × σ
  getConfig : σ → WebConfigSnapshot × σ
  getWifiControlState : σ → WebWifiControlStateSnapshot × σ
  call : WebApiCall → σ → Bool × σ
  allowWifiApiTokenMutation : Bool
  hasEventStream : Bool

/-- What a request may change: the user data, the optional command queue, the record of the
invocations, and the response buffer. -/
structure WebApiState (σ : Type) where
  userData : σ
  commandQueue : Option WebCommandQueue
  invoked : List WebApiInvocation
  responseBuf : CString

/-- The channels of the event stream. -/
inductive WebEventStreamChannel
  | Input
  | Status
  deriving DecidableEq, Repr

/-- The answer of a route. -/
structure WebApiRouteResult where
  httpStatus : ℕ
  contentType : CString
  upgradeChannel : WebEventStreamChannel
  deriving DecidableEq, Repr

variable {σ : Type}

/-! ## Callbacks -/

/-- Read the status of the controller. -/
def WebApiContext.readWiimoteStatus (ctx : WebApiContext σ) (s : WebApiState σ) :
    WebWiimoteStatusSnapshot × WebApiState σ :=
  ((ctx.getWiimoteStatus s.userData).1,
    { s with userData := (ctx.getWiimoteStatus s.userData).2,
             invoked := s.invoked ++ [.read .getWiimoteStatus] })

/-- Read the state of the Bluetooth controller. -/
def WebApiContext.readControllerStatus (ctx : WebApiContext σ) (s : WebApiState σ) :
    WebControllerStatusSnapshot × WebApiState σ :=
  ((ctx.getControllerStatus s.userData).1,
    { s with userData := (ctx.getControllerStatus s.userData).2,
             invoked := s.invoked ++ [.read .getControllerStatus] })

/-- Read the configuration. -/
def WebApiContext.readConfig (ctx : WebApiContext σ) (s : WebApiState σ) :
    WebConfigSnapshot × WebApiState σ :=
  ((ctx.getConfig s.userData).1,
    { s with userData := (ctx.getConfig s.userData).2,
             invoked := s.invoked ++ [.read .getConfig] })

/-- Read the Wi-Fi state. -/
def WebApiContext.readWifiControlState (ctx : WebApiContext σ) (s : WebApiState σ) :
    WebWifiControlStateSnapshot × WebApiState σ :=
  ((ctx.getWifiControlState s.userData).1,
    { s with userData := (ctx.getWifiControlState s.userData).2,
             invoked := s.invoked ++ [.read .getWifiControlState] })

/-- Invoke a callback that may refuse. -/
def WebApiContext.invoke (ctx : WebApiContext σ) (call : WebApiCall) (s : WebApiState σ) :
    Bool × WebApiState σ :=
  ((ctx.call call s.userData).1,
    { s with userData := (ctx.call call s.userData).2,
             invoked := s.invoked ++ [.command call (ctx.call call s.userData).1] })

/-- Invoke a callback without a result, which counts as accepted. -/
def WebApiContext.invokeVoid (ctx : WebApiContext σ) (call : WebApiCall) (s : WebApiState σ) :
    WebApiState σ :=
  { s with userData := (ctx.call call s.userData).2, invoked := s.invoked ++ [.command call true] }

/-! ## Responses -/

/-- Write the response buffer, unless nothing is written. -/
def WebApiState.respond (s : WebApiState σ) (written : Option CString) : WebApiState σ :=
  { s with responseBuf := written.getD s.responseBuf }

/-- An answer with a status and a content type; the channel is the default. -/
def makeResult (status : ℕ) (contentType : CString) : WebApiRouteResult :=
  ⟨status, contentType, .Input⟩

/-- The content type of the answers. -/
def applicationJson : CString := ascii "application/json"

/-- An error with its message. -/
def errorResponse (size : ℕ) (status : ℕ) (msg : CString) (s : WebApiState σ) :
    WebApiRouteResult × WebApiState σ :=
  (makeResult status applicationJson, s.respond (serializeError size msg).2)

/-- A reason, with its own message or another. -/
def reasonResponse (size : ℕ) (reason : CommandDispatchReason) (messageOverride : Option CString)
    (s : WebApiState σ) : WebApiRouteResult × WebApiState σ :=
  errorResponse size (commandDispatchReasonToHttpStatus reason)
    (messageOverride.getD (commandDispatchReasonToWebMessage reason)) s

/-- A message about a field, or the fixed text where it does not fit in its buffer. -/
def fieldResponse (size : ℕ) (reason : CommandDispatchReason)
    (template : CommandDispatchFieldMessage) (messageSize : ℕ)
    (fallback : CommandDispatchMessageTemplate) (field : CString) (s : WebApiState σ) :
    WebApiRouteResult × WebApiState σ :=
  let message := commandDispatchFormatMessage template field messageSize
  if !message.1 then reasonResponse size reason (some (commandDispatchMessageText fallback)) s
  else reasonResponse size reason (some message.2) s

/-- A field is missing. -/
def missingFieldResponse (size : ℕ) (field : CString) (s : WebApiState σ) :
    WebApiRouteResult × WebApiState σ :=
  fieldResponse size .MissingArgument .MissingField 64 .MissingRequiredField field s

/-- A field is invalid. -/
def invalidFieldResponse (size : ℕ) (field : CString) (s : WebApiState σ) :
    WebApiRouteResult × WebApiState σ :=
  fieldResponse size .BadArgument .InvalidField 64 .InvalidRequestField field s

/-- A field is empty. -/
def emptyFieldResponse (size : ℕ) (field : CString) (s : WebApiState σ) :
    WebApiRouteResult × WebApiState σ :=
  fieldResponse size .BadArgument .EmptyField 96 .FieldMustNotBeEmpty field s

/-- A snapshot did not fit. -/
def internalSerializeFailureResponse (size : ℕ) (message : CString) (s : WebApiState σ) :
    WebApiRouteResult × WebApiState σ :=
  reasonResponse size .InternalError (some message) s

/-- The verb is not one of the path's. -/
def invalidVerbResponse (size : ℕ) (message : CString) (s : WebApiState σ) :
    WebApiRouteResult × WebApiState σ :=
  reasonResponse size .InvalidVerb (some message) s

/-- Format an answer; where it does not fit, the answer is an internal error instead. -/
def formattedResponse (size status : ℕ) (text : CString) (s : WebApiState σ) :
    WebApiRouteResult × WebApiState σ :=
  let written := snprintf size text
  if written.1 < 0 ∨ (size : ℤ) ≤ written.1 then
    reasonResponse size .InternalError (some (commandDispatchMessageText .ResponseBufferTooSmall))
      (s.respond (some written.2))
  else (makeResult status applicationJson, s.respond (some written.2))

/-- The command was queued under a number. -/
def acceptedResponse (size : ℕ) (commandId : UInt32) (s : WebApiState σ) :
    WebApiRouteResult × WebApiState σ :=
  formattedResponse size (commandDispatchReasonToHttpStatus .Queued)
    (ascii "\x7b\"status\":\"accepted\",\"commandId\":" ++ decimal commandId.toNat ++ ascii "\x7d") s

/-- A scan was switched. -/
def scanCommandResponse (size : ℕ) (command : CString) (scanEnabled : Bool) (s : WebApiState σ) :
    WebApiRouteResult × WebApiState σ :=
  formattedResponse size 200
    (ascii "\x7b\"status\":\"ok\",\"command\":\"" ++ command ++ ascii "\",\"scanEnabled\":"
      ++ boolStr scanEnabled ++ ascii "\x7d") s

/-- The answer to a command that was carried out. -/
def okResponse (size : ℕ) (s : WebApiState σ) : WebApiRouteResult × WebApiState σ :=
  (makeResult 200 applicationJson, s.respond (serializeOk size).2)

/-! ## Arguments -/

/-- The value of the first field with the key. -/
def findField (cmd : WebParsedCommand) (key : CString) : Option CString :=
  (cmd.fields.find? fun field => field.key == key).map WebParsedField.value

/-- Every other text is false. -/
def parseBool (val : CString) : Bool := val == ascii "true" || val == ascii "1"

/-- A whole decimal number up to 255. -/
def parseU8 (val : CString) : Option UInt8 :=
  let read := strtoul val 10
  if read.2 = val ∨ read.2 ≠ [] ∨ 255 < read.1 then none else some (UInt8.ofNat read.1)

/-! ## Queued commands -/

/-- Put the command into the queue, where one is configured. -/
def enqueueCommandIfConfigured (path verb : CString) (size : ℕ) (s : WebApiState σ) :
    Option (WebApiRouteResult × WebApiState σ) :=
  match s.commandQueue with
  | none => none
  | some queue =>
    let enqueued := webCommandQueueEnqueue queue path verb
    match enqueued.1 with
    | none => some (reasonResponse size .QueueFull none { s with commandQueue := some enqueued.2 })
    | some commandId =>
      some (acceptedResponse size commandId { s with commandQueue := some enqueued.2 })

/-- Queue the command, or run it at once. -/
def queueOr (path verb : CString) (size : ℕ)
    (direct : WebApiState σ → WebApiRouteResult × WebApiState σ) (s : WebApiState σ) :
    WebApiRouteResult × WebApiState σ :=
  (enqueueCommandIfConfigured path verb size s).getD (direct s)

/-- The text of a status. -/
def queueStatusToString : WebCommandQueueStatus → CString
  | .Queued => ascii "queued"
  | .Running => ascii "running"
  | .Completed => ascii "completed"

/-- The text of a result. -/
def queueResultToString : WebCommandQueueResult → CString
  | .Pending => ascii "pending"
  | .Accepted => ascii "accepted"
  | .Rejected => ascii "rejected"

/-- A path of the form `/api/commands/<id>/status`: `none` for any other path, and an inner
`none` where the identifier is not valid. -/
def parseCommandStatusPath (path : CString) : Option (Option UInt32) :=
  let kPrefix := ascii "/api/commands/"
  let kSuffix := ascii "/status"
  if path.length < kPrefix.length + kSuffix.length + 1 then none
  else if path.take kPrefix.length ≠ kPrefix then none
  else if path.drop (path.length - kSuffix.length) ≠ kSuffix then none
  else
    let idLen := path.length - kPrefix.length - kSuffix.length
    if idLen = 0 ∨ 10 < idLen then some none
    else
      let idBuf := (path.drop kPrefix.length).take idLen
      if idBuf.all isdigit = false then some none
      else
        let parsed := strtoul idBuf 10
        if parsed.2 = idBuf ∨ parsed.2 ≠ [] ∨ parsed.1 = 0 ∨ 0xFFFFFFFF < parsed.1 then some none
        else some (some (UInt32.ofNat parsed.1))

/-- The status of a queued command; `none` where the path is not of this route. -/
def handleGetCommandStatus (path : CString) (size : ℕ) (s : WebApiState σ) :
    Option (WebApiRouteResult × WebApiState σ) :=
  match parseCommandStatusPath path with
  | none => none
  | some none =>
    some (reasonResponse size .BadArgument (some (commandDispatchMessageText .InvalidCommandId)) s)
  | some (some commandId) =>
    match s.commandQueue with
    | none => some (reasonResponse size .NotFound none s)
    | some queue =>
      match webCommandQueueGet queue commandId with
      | none =>
        some (reasonResponse size .NotFound (some (commandDispatchMessageText .CommandNotFound)) s)
      | some entry =>
        some (formattedResponse size 200
          (ascii "\x7b\"commandId\":" ++ decimal entry.id.toNat ++ ascii ",\"status\":\""
            ++ queueStatusToString entry.status ++ ascii "\",\"result\":\""
            ++ queueResultToString entry.result ++ ascii "\"\x7d") s)

/-! ## Rejections -/

/-- A reason found by asking the device. -/
abbrev RejectReason (σ : Type) : Type := WebApiState σ → CommandDispatchReason × WebApiState σ

/-- Why the controller did not take a command. -/
def wiimoteCommandRejectReason (ctx : WebApiContext σ) : RejectReason σ := fun s =>
  let wiimoteStatus := ctx.readWiimoteStatus s
  if !wiimoteStatus.1.connected then (.NotConnected, wiimoteStatus.2)
  else
    let controllerStatus := ctx.readControllerStatus wiimoteStatus.2
    if controllerStatus.1.activeConnectionHandle = 0 then (.NoActiveConnection, controllerStatus.2)
    else (.Rejected, controllerStatus.2)

/-- Why a discovery was not started. -/
def discoveryStartRejectReason (ctx : WebApiContext σ) : RejectReason σ := fun s =>
  let controllerStatus := ctx.readControllerStatus s
  if !controllerStatus.1.started then (.ControllerNotInitialized, controllerStatus.2)
  else if controllerStatus.1.connected then (.Rejected, controllerStatus.2)
  else if controllerStatus.1.scanning then (.DiscoveryAlreadyActive, controllerStatus.2)
  else (.Rejected, controllerStatus.2)

/-- Why a discovery was not stopped. -/
def discoveryStopRejectReason (ctx : WebApiContext σ) : RejectReason σ := fun s =>
  let controllerStatus := ctx.readControllerStatus s
  if !controllerStatus.1.started then (.ControllerNotInitialized, controllerStatus.2)
  else if !controllerStatus.1.scanning then (.DiscoveryNotActive, controllerStatus.2)
  else (.Rejected, controllerStatus.2)

/-- Why a disconnect was refused. -/
def disconnectRejectReason (ctx : WebApiContext σ) : RejectReason σ := fun s =>
  let controllerStatus := ctx.readControllerStatus s
  if !controllerStatus.1.started then (.ControllerNotInitialized, controllerStatus.2)
  else if !controllerStatus.1.connected then (.NotConnected, controllerStatus.2)
  else if controllerStatus.1.activeConnectionHandle = 0 then
    (.NoActiveConnection, controllerStatus.2)
  else (.Rejected, controllerStatus.2)

/-- A reason that does not depend on the device. -/
def fixedReason (reason : CommandDispatchReason) : RejectReason σ := fun s => (reason, s)

/-- Invoke a callback, and answer with the reason where it refuses. -/
def callOrReject (ctx : WebApiContext σ) (call : WebApiCall) (rejected : RejectReason σ) (size : ℕ)
    (s : WebApiState σ) : WebApiRouteResult × WebApiState σ :=
  let result := ctx.invoke call s
  if !result.1 then
    let reason := rejected result.2
    reasonResponse size reason.1 none reason.2
  else okResponse size result.2

/-! ## GET handlers -/

/-- A handler: the context, the parsed body, the size of the response buffer and the state. -/
abbrev RouteHandler (σ : Type) : Type :=
  WebApiContext σ → WebParsedCommand → ℕ → WebApiState σ → WebApiRouteResult × WebApiState σ

/-- Answer with a serialized snapshot, or with the error that it does not fit. -/
def snapshotResponse (size : ℕ) (serialized : WebSerializeResult × Option CString)
    (failure : CommandDispatchMessageTemplate) (s : WebApiState σ) :
    WebApiRouteResult × WebApiState σ :=
  if serialized.1 ≠ .Ok then
    internalSerializeFailureResponse size (commandDispatchMessageText failure)
      (s.respond serialized.2)
  else (makeResult 200 applicationJson, s.respond serialized.2)

/-- GET of the status. -/
def handleGetStatus : RouteHandler σ := fun ctx _ size s =>
  let st := ctx.readWiimoteStatus s
  snapshotResponse size (serializeWiimoteStatus size st.1) .FailedSerializeWiimoteStatus st.2

/-- GET of the configuration. -/
def handleGetConfig : RouteHandler σ := fun ctx _ size s =>
  let cfg := ctx.readConfig s
  snapshotResponse size (serializeConfig size cfg.1) .FailedSerializeRuntimeConfig cfg.2

/-- GET of the Wi-Fi state. -/
def handleGetWifiControl : RouteHandler σ := fun ctx _ size s =>
  let state := ctx.readWifiControlState s
  snapshotResponse size (serializeWifiControlState size state.1) .FailedSerializeWifiControlState
    state.2

/-! ## POST handlers -/

/-- POST of the LED mask. -/
def handlePostLeds : RouteHandler σ := fun ctx cmd size s =>
  match findField cmd (ascii "mask") with
  | none => missingFieldResponse size (ascii "mask") s
  | some maskVal =>
    match parseU8 maskVal with
    | none => invalidFieldResponse size (ascii "mask") s
    | some mask =>
      queueOr (ascii "/api/wiimote/commands/leds") cmd.verb size
        (callOrReject ctx (.setLeds mask) (wiimoteCommandRejectReason ctx) size) s

/-- POST of the reporting mode; `continuous` may be missing. -/
def handlePostReportingMode : RouteHandler σ := fun ctx cmd size s =>
  match findField cmd (ascii "mode") with
  | none => missingFieldResponse size (ascii "mode") s
  | some modeVal =>
    match parseU8 modeVal with
    | none => invalidFieldResponse size (ascii "mode") s
    | some mode =>
      let continuous := (findField cmd (ascii "continuous")).elim false parseBool
      queueOr (ascii "/api/wiimote/commands/reporting-mode") cmd.verb size
        (callOrReject ctx (.setReportingMode mode continuous) (wiimoteCommandRejectReason ctx) size) s

/-- POST of the accelerometer's switch. -/
def handlePostAccelerometer : RouteHandler σ := fun ctx cmd size s =>
  match findField cmd (ascii "enabled") with
  | none => missingFieldResponse size (ascii "enabled") s
  | some enabledVal =>
    queueOr (ascii "/api/wiimote/commands/accelerometer") cmd.verb size
      (callOrReject ctx (.setAccelEnabled (parseBool enabledVal)) (wiimoteCommandRejectReason ctx)
        size) s

/-- POST of a status request, which takes no field. -/
def handlePostRequestStatus : RouteHandler σ := fun ctx _ size s =>
  queueOr (ascii "/api/wiimote/commands/request-status") [] size
    (callOrReject ctx .requestStatus (wiimoteCommandRejectReason ctx) size) s

/-- POST of a scan command, by its verb. -/
def handlePostScan : RouteHandler σ := fun ctx cmd size s =>
  if cmd.verb = ascii "scan_start" then
    queueOr (ascii "/api/wiimote/commands/scan") cmd.verb size
      (fun s => scanCommandResponse size (ascii "scan_start") true
        (ctx.invokeVoid (.setScanEnabled true) s)) s
  else if cmd.verb = ascii "scan_stop" then
    queueOr (ascii "/api/wiimote/commands/scan") cmd.verb size
      (fun s => scanCommandResponse size (ascii "scan_stop") false
        (ctx.invokeVoid (.setScanEnabled false) s)) s
  else invalidVerbResponse size (commandDispatchMessageText .UnknownScanVerb) s

/-- POST of a discovery command, by its verb. -/
def handlePostDiscovery : RouteHandler σ := fun ctx cmd size s =>
  if cmd.verb = ascii "discovery_start" then
    queueOr (ascii "/api/wiimote/commands/discovery") cmd.verb size
      (callOrReject ctx .startDiscovery (discoveryStartRejectReason ctx) size) s
  else if cmd.verb = ascii "discovery_stop" then
    queueOr (ascii "/api/wiimote/commands/discovery") cmd.verb size
      (callOrReject ctx .stopDiscovery (discoveryStopRejectReason ctx) size) s
  else invalidVerbResponse size (commandDispatchMessageText .UnknownDiscoveryVerb) s

/-- The default reason is LocalHostTerminated. -/
def handlePostDisconnect : RouteHandler σ := fun ctx cmd size s =>
  match (findField cmd (ascii "reason")).elim (some 0x16) parseU8 with
  | none => invalidFieldResponse size (ascii "reason") s
  | some reason =>
    queueOr (ascii "/api/wiimote/commands/disconnect") cmd.verb size
      (callOrReject ctx (.disconnect reason) (disconnectRejectReason ctx) size) s

/-- POST of the reconnect policy, which is never rejected. -/
def handlePostReconnectPolicy : RouteHandler σ := fun ctx cmd size s =>
  match findField cmd (ascii "enabled") with
  | none => missingFieldResponse size (ascii "enabled") s
  | some enabledVal =>
    queueOr (ascii "/api/wiimote/commands/reconnect-policy") cmd.verb size
      (fun s => okResponse size (ctx.invokeVoid (.setAutoReconnect (parseBool enabledVal)) s)) s

/-- POST of the Wi-Fi switch; it is never queued. -/
def handlePostWifiControl : RouteHandler σ := fun ctx cmd size s =>
  match findField cmd (ascii "enabled") with
  | none => missingFieldResponse size (ascii "enabled") s
  | some enabledVal =>
    callOrReject ctx (.setWifiControlEnabled (parseBool enabledVal)) (fixedReason .Rejected) size s

/-- POST of the delivery mode. -/
def handlePostWifiMode : RouteHandler σ := fun ctx cmd size s =>
  match findField cmd (ascii "mode") with
  | none => missingFieldResponse size (ascii "mode") s
  | some modeVal =>
    if modeVal = ascii "rest" then
      callOrReject ctx (.setWifiDeliveryMode false) (fixedReason .Rejected) size s
    else if modeVal = ascii "rest-ws" ∨ modeVal = ascii "rest-websocket" then
      callOrReject ctx (.setWifiDeliveryMode true) (fixedReason .Rejected) size s
    else reasonResponse size .BadArgument (some (commandDispatchMessageText .InvalidWifiMode)) s

/-- POST of the network; both fields are looked for first. -/
def handlePostWifiNetwork : RouteHandler σ := fun ctx cmd size s =>
  match findField cmd (ascii "ssid"), findField cmd (ascii "password") with
  | none, _ => missingFieldResponse size (ascii "ssid") s
  | some _, none => missingFieldResponse size (ascii "password") s
  | some ssid, some password =>
    if ssid = [] then emptyFieldResponse size (ascii "ssid") s
    else if password = [] then emptyFieldResponse size (ascii "password") s
    else callOrReject ctx (.setWifiNetwork ssid password) (fixedReason .Rejected) size s

/-- POST of a restart. -/
def handlePostWifiRestart : RouteHandler σ := fun ctx _ size s =>
  callOrReject ctx .restartWifiControl (fixedReason .WifiControlDisabled) size s

/-- POST of the token, where the policy allows it. -/
def handlePostWifiToken : RouteHandler σ := fun ctx cmd size s =>
  if !ctx.allowWifiApiTokenMutation then
    reasonResponse size .PolicyBlocked
      (some (commandDispatchMessageText .WifiApiTokenMutationDisabledByPolicy)) s
  else
    match findField cmd (ascii "token") with
    | none => missingFieldResponse size (ascii "token") s
    | some token =>
      if token = [] then emptyFieldResponse size (ascii "token") s
      else callOrReject ctx (.setWifiApiToken token) (fixedReason .Rejected) size s

end Esp32Wiimote.Web
