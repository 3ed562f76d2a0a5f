import Esp32Wiimote.Device.ArgumentReadings
import Esp32Wiimote.Device.HttpHandler
import Esp32Wiimote.Web.RequestLaw

/-!
# The arguments of the two surfaces

A command of the serial line and a request of the web API name the same device call and bring
its argument as a text. What each surface does is a function of the text alone: the call with
what it reads, or a refusal. So the surfaces agree on a text exactly where their readings do.
-/

namespace Esp32Wiimote.Device

open CText Serial StateProgram Web

/-! ## The shared arguments -/

/-- A reporting mode that both surfaces read. -/
structure SharedMode where
  text : CString
  value : UInt8
  serial_eq : serialParseUint8 text = some value
  web_eq : parseU8 text = some value

/-- The arguments of the actions that exist on both surfaces. The reporting mode has a second,
optional one. -/
inductive SharedArgument
  | ledMask
  | reportingMode
  | continuous (mode : SharedMode)
  | accelerometer
  | disconnectReason
  | reconnectPolicy
  | wifiControl
  | wifiDeliveryMode

namespace SharedArgument

/-- The tokens of the serial line that brings the argument. -/
def serialTokens (argument : CString) : SharedArgument → List CString
  | ledMask => [ascii "wm", ascii "led", argument]
  | reportingMode => [ascii "wm", ascii "mode", argument]
  | continuous mode => [ascii "wm", ascii "mode", mode.text, argument]
  | accelerometer => [ascii "wm", ascii "accel", argument]
  | disconnectReason => [ascii "wm", ascii "disconnect", argument]
  | reconnectPolicy => [ascii "wm", ascii "reconnect", argument]
  | wifiControl => [ascii "wm", ascii "wifi-control", argument]
  | wifiDeliveryMode => [ascii "wm", ascii "wifi-mode", argument]

/-- The path of the request that brings the argument. -/
def path : SharedArgument → CString
  | ledMask => ascii "/api/wiimote/commands/leds"
  | reportingMode | continuous _ => ascii "/api/wiimote/commands/reporting-mode"
  | accelerometer => ascii "/api/wiimote/commands/accelerometer"
  | disconnectReason => ascii "/api/wiimote/commands/disconnect"
  | reconnectPolicy => ascii "/api/wiimote/commands/reconnect-policy"
  | wifiControl => ascii "/api/wifi/control"
  | wifiDeliveryMode => ascii "/api/wifi/delivery-mode"

/-- The fields of its body, and that a field is missing. -/
def webFields (argument : CString) : SharedArgument → List (CString × Option CString)
  | ledMask => [(ascii "mask", some argument)]
  | reportingMode => [(ascii "mode", some argument), (ascii "continuous", none)]
  | continuous mode => [(ascii "mode", some mode.text), (ascii "continuous", some argument)]
  | accelerometer | reconnectPolicy | wifiControl => [(ascii "enabled", some argument)]
  | disconnectReason => [(ascii "reason", some argument)]
  | wifiDeliveryMode => [(ascii "mode", some argument)]

/-- The texts on which the surfaces agree. -/
def AgreesOn (argument : CString) : SharedArgument → Prop
  | ledMask | reportingMode | disconnectReason => ¬HexByte argument ∧ ¬WrappedNegative argument
  | continuous _ | accelerometer | reconnectPolicy | wifiControl => argument ∈ plainBooleans
  | wifiDeliveryMode => True

end SharedArgument

/-- The serial command brings the argument. -/
def SerialPasses (shared : SharedArgument) (argument : CString) (cmd : SerialParsedCommand) : Prop :=
  (List.range cmd.tokenCount).map cmd.token = shared.serialTokens argument

/-- The body of the request is accepted and brings the argument. -/
def WebPasses (shared : SharedArgument) (argument : CString) (request : WebRequestBody) : Prop :=
  (webRequestParse request.body request.bodyLen .empty).1 = .Ok ∧
    ∀ field ∈ shared.webFields argument,
      findField (webRequestParse request.body request.bodyLen .empty).2.1 field.1 = field.2

/-! ## What a surface does -/

/-- One device call, or the refusal of the argument. -/
inductive Handling
  | called (call : SerialTargetCall)
  | badArgument
  deriving DecidableEq, Repr

/-- The device call behind a callback. -/
def deviceCall : WebApiCall → SerialTargetCall
  | .setLeds ledMask => .setLeds ledMask
  | .setReportingMode mode continuous => .setReportingMode mode continuous
  | .setAccelEnabled enabled => .setAccelerometerEnabled enabled
  | .requestStatus => .requestStatus
  | .setScanEnabled enabled => .setScanEnabled enabled
  | .startDiscovery => .startDiscovery
  | .stopDiscovery => .stopDiscovery
  | .disconnect reason => .disconnectActiveController reason
  | .setAutoReconnect enabled => .setAutoReconnectEnabled enabled
  | .setWifiControlEnabled enabled => .setWifiControlEnabled enabled
  | .setWifiDeliveryMode restAndWebSocket => .setWifiDeliveryMode (if restAndWebSocket then 1 else 0)
  | .setWifiNetwork ssid password => .setWifiNetworkCredentials ssid password
  | .restartWifiControl => .restartWifiControl
  | .setWifiApiToken token => .setWifiApiToken token

/-- On the device a callback and its call run the same program. -/
theorem exec_serialTargetCall_deviceCall (call : WebApiCall) (w : Esp32World) :
    exec (serialTargetCall (deviceCall call)) w = exec (webCall call) w := by
  cases call with
  | setWifiDeliveryMode restAndWebSocket => cases restAndWebSocket <;> rfl
  | _ => rfl

/-- The device calls of a request, in order. -/
def webCalls (invoked : List WebApiInvocation) : List SerialTargetCall :=
  (commandsOf invoked).map fun command => deviceCall command.1

variable {σ τ : Type}

/-- The calls grew by the one call, or the argument was refused without any. -/
def Did (before after : List SerialTargetCall) (refused : Prop) : Handling → Prop
  | .called call => after = before ++ [call]
  | .badArgument => refused ∧ after = before

/-- The serial line did this. -/
def SerialDid (before : TargetState σ) (answer : SerialDispatchResult × TargetState σ) : Handling → Prop :=
  Did before.calls answer.2.calls (answer.1 = .BadArgument)

/-- The web API did this; a bad argument is answered with the status 400. -/
def WebDid (before : WebApiState τ) (answer : WebApiRouteResult × WebApiState τ) : Handling → Prop :=
  Did (webCalls before.invoked) (webCalls answer.2.invoked) (answer.1.httpStatus = 400)

/-- A surface does one thing. -/
theorem Did.unique {before after : List SerialTargetCall} {refused : Prop} {first second : Handling}
    (hfirst : Did before after refused first) (hsecond : Did before after refused second) :
    first = second := by
  have hgrown (call : SerialTargetCall) : before ≠ before ++ [call] := by
    intro h
    have hlength := congrArg List.length h
    rw [List.length_append, List.length_singleton] at hlength
    omega
  cases first with
  | called call =>
    cases second with
    | called call' =>
      have hcalls : before ++ [call] = before ++ [call'] := hfirst.symm.trans hsecond
      rw [List.append_cancel_left_eq, List.singleton_inj] at hcalls
      rw [hcalls]
    | badArgument => exact absurd (hsecond.2.symm.trans hfirst) (hgrown call)
  | badArgument =>
    cases second with
    | called call' => exact absurd (hfirst.2.symm.trans hsecond) (hgrown call')
    | badArgument => rfl

/-- The handling of an argument that is read or not. -/
def handlingOf {α : Type} (call : α → SerialTargetCall) (read : Option α) : Handling :=
  read.elim .badArgument fun value => .called (call value)

/-- What the serial line does with an argument. -/
def serialHandling (argument : CString) : SharedArgument → Handling
  | .ledMask => handlingOf .setLeds (serialParseUint8 argument)
  | .reportingMode => handlingOf (.setReportingMode · false) (serialParseUint8 argument)
  | .continuous mode => handlingOf (.setReportingMode mode.value) (serialParseBool argument)
  | .accelerometer => handlingOf .setAccelerometerEnabled (serialParseBool argument)
  | .disconnectReason => handlingOf .disconnectActiveController (serialParseUint8 argument)
  | .reconnectPolicy =>
    if argument = ascii "clear" then .called .clearReconnectCache
    else handlingOf .setAutoReconnectEnabled (serialParseBool argument)
  | .wifiControl => handlingOf .setWifiControlEnabled (serialParseBool argument)
  | .wifiDeliveryMode => handlingOf .setWifiDeliveryMode (serialParseWifiDeliveryMode argument)

/-- What the web API does with an argument. -/
def webHandling (argument : CString) : SharedArgument → Handling
  | .ledMask => handlingOf .setLeds (parseU8 argument)
  | .reportingMode => handlingOf (.setReportingMode · false) (parseU8 argument)
  | .continuous mode => handlingOf (.setReportingMode mode.value) (some (parseBool argument))
  | .accelerometer => handlingOf .setAccelerometerEnabled (some (parseBool argument))
  | .disconnectReason => handlingOf .disconnectActiveController (parseU8 argument)
  | .reconnectPolicy => handlingOf .setAutoReconnectEnabled (some (parseBool argument))
  | .wifiControl => handlingOf .setWifiControlEnabled (some (parseBool argument))
  | .wifiDeliveryMode => handlingOf .setWifiDeliveryMode (serialParseWifiDeliveryMode argument)

/-- What is done with an argument tells how it was read. -/
theorem handlingOf_inj {α : Type} {call : α → SerialTargetCall} (hcall : Function.Injective call)
    {read read' : Option α} : handlingOf call read = handlingOf call read' ↔ read = read' := by
  constructor
  · intro h
    cases read with
    | none =>
      cases read' with
      | none => rfl
      | some value' => cases h
    | some value =>
      cases read' with
      | none => cases h
      | some value' => exact congrArg some (hcall (Handling.called.inj h))
  · rintro rfl
    rfl

/-- The two handlings are the same on the texts of the argument and on no others. -/
theorem handling_eq_iff (shared : SharedArgument) (argument : CString) :
    serialHandling argument shared = webHandling argument shared ↔ shared.AgreesOn argument := by
  cases shared with
  | ledMask =>
    exact (handlingOf_inj fun _ _ h => SerialTargetCall.setLeds.inj h).trans
      (serialParseUint8_eq_parseU8_iff argument)
  | reportingMode =>
    exact (handlingOf_inj fun _ _ h => (SerialTargetCall.setReportingMode.inj h).1).trans
      (serialParseUint8_eq_parseU8_iff argument)
  | continuous mode =>
    exact (handlingOf_inj fun _ _ h => (SerialTargetCall.setReportingMode.inj h).2).trans
      (serialParseBool_eq_parseBool_iff argument)
  | accelerometer =>
    exact (handlingOf_inj fun _ _ h => SerialTargetCall.setAccelerometerEnabled.inj h).trans
      (serialParseBool_eq_parseBool_iff argument)
  | disconnectReason =>
    exact (handlingOf_inj fun _ _ h => SerialTargetCall.disconnectActiveController.inj h).trans
      (serialParseUint8_eq_parseU8_iff argument)
  | reconnectPolicy =>
    rw [serialHandling, webHandling]
    by_cases hclear : argument = ascii "clear"
    · subst hclear
      rw [if_pos rfl]
      refine iff_of_false (fun h => nomatch h) ?_
      change ascii "clear" ∉ plainBooleans
      decide +kernel
    · rw [if_neg hclear]
      exact (handlingOf_inj fun _ _ h => SerialTargetCall.setAutoReconnectEnabled.inj h).trans
        (serialParseBool_eq_parseBool_iff argument)
  | wifiControl =>
    exact (handlingOf_inj fun _ _ h => SerialTargetCall.setWifiControlEnabled.inj h).trans
      (serialParseBool_eq_parseBool_iff argument)
  | wifiDeliveryMode => exact iff_of_true rfl trivial

/-! ## The serial line -/

section Serial

variable (target : SerialCommandTarget σ) (s : TargetState σ)

/-- A handler that reads its argument, refuses it or makes the call. -/
theorem serialDid_read {α : Type} {call : α → SerialTargetCall} {read : Option α}
    {answer : SerialDispatchResult × TargetState σ}
    (hnone : read = none → answer = (.BadArgument, s))
    (hsome : ∀ value, read = some value → answer.2.calls = s.calls ++ [call value]) :
    SerialDid s answer (handlingOf call read) := by
  cases read with
  | none =>
    rw [hnone rfl]
    exact ⟨rfl, rfl⟩
  | some value => exact hsome value rfl

/-- The handler of the table entry of a verb. -/
def entryHandler (σ : Type) (verb : CString) : Option (SerialHandler σ) :=
  (kDispatchTable.find? fun entry => entry.verb == verb).map DispatchEntry.handler

/-- A command with an entry in the table goes to its handler. -/
theorem dispatchToTable_of_entry {cmd : SerialParsedCommand} {handler : SerialHandler σ}
    (hentry : entryHandler σ (cmd.token 1) = some handler) :
    dispatchToTable cmd target s = handler cmd target s := by
  obtain ⟨entry, hfound, rfl⟩ := Option.map_eq_some_iff.mp hentry
  rw [dispatchToTable, hfound]

/-- A command of an unlocked session goes to the handler of its verb. -/
theorem serialCommandDispatch_of_entry {cmd : SerialParsedCommand} {options : SerialDispatchOptions}
    {handler : SerialHandler σ} (d : SerialDispatchState σ) (hcount : 2 ≤ cmd.tokenCount)
    (hverb : cmd.token 1 ≠ ascii "unlock")
    (hunlocked : (d.session.elim false fun session => session.isUnlocked options.nowMs) = true)
    (hentry : entryHandler σ (cmd.token 1) = some handler) :
    serialCommandDispatch cmd target options d =
      ((handler cmd target d.target).1, { d with target := (handler cmd target d.target).2 }) := by
  rw [serialCommandDispatch, if_neg (by omega), if_neg hverb, if_neg, dispatchToTable_of_entry _ _ hentry]
  rintro ⟨-, -, hlocked⟩
  rw [hunlocked] at hlocked
  cases hlocked

end Serial

/-- A command with these tokens has so many, and each at its place. -/
theorem tokens_of_range {cmd : SerialParsedCommand} {tokens : List CString}
    (h : (List.range cmd.tokenCount).map cmd.token = tokens) :
    cmd.tokenCount = tokens.length ∧ ∀ i token, tokens[i]? = some token → cmd.token i = token := by
  subst h
  refine ⟨by rw [List.length_map, List.length_range], ?_⟩
  intro i token htoken
  rw [List.getElem?_map] at htoken
  obtain ⟨j, hj, rfl⟩ := Option.map_eq_some_iff.mp htoken
  obtain ⟨hi, rfl⟩ := List.getElem?_eq_some_iff.mp hj
  rw [List.getElem_range]

/-- The verb that brings the argument. -/
def serialVerb : SharedArgument → CString
  | .ledMask => ascii "led"
  | .reportingMode | .continuous _ => ascii "mode"
  | .accelerometer => ascii "accel"
  | .disconnectReason => ascii "disconnect"
  | .reconnectPolicy => ascii "reconnect"
  | .wifiControl => ascii "wifi-control"
  | .wifiDeliveryMode => ascii "wifi-mode"

/-- The serial handler of the action an argument belongs to. -/
def serialHandler : SharedArgument → SerialHandler σ
  | .ledMask => handleLed
  | .reportingMode | .continuous _ => handleMode
  | .accelerometer => handleAccel
  | .disconnectReason => handleDisconnect
  | .reconnectPolicy => handleReconnect
  | .wifiControl => handleWifiControl
  | .wifiDeliveryMode => handleWifiMode

/-- The table has this handler for the verb. -/
theorem entryHandler_eq (shared : SharedArgument) :
    entryHandler σ (serialVerb shared) = some (serialHandler shared) := by
  cases shared <;> rfl

/-- No such verb is `unlock`. -/
theorem serialVerb_ne_unlock (shared : SharedArgument) : serialVerb shared ≠ ascii "unlock" := by
  cases shared <;> simp only [serialVerb] <;> decide +kernel

/-- The serial line does with an argument what its handling says. -/
theorem serialDid_dispatch {shared : SharedArgument} {argument : CString} {cmd : SerialParsedCommand}
    {target : SerialCommandTarget σ} {options : SerialDispatchOptions} {d : SerialDispatchState σ}
    (hpasses : SerialPasses shared argument cmd)
    (hunlocked : (d.session.elim false fun session => session.isUnlocked options.nowMs) = true)
    (hconnected : target.isConnected d.target.device = true) :
    SerialDid d.target
      ((serialCommandDispatch cmd target options d).1,
        (serialCommandDispatch cmd target options d).2.target)
      (serialHandling argument shared) := by
  obtain ⟨hcount, htokens⟩ := tokens_of_range hpasses
  have hverb : cmd.token 1 = serialVerb shared := htokens 1 _ (by cases shared <;> rfl)
  have hmany : 2 ≤ cmd.tokenCount := by
    rw [hcount]
    cases shared <;> exact Nat.le_add_left 2 _
  rw [serialCommandDispatch_of_entry target d hmany (hverb ▸ serialVerb_ne_unlock shared) hunlocked
    (hverb ▸ entryHandler_eq shared)]
  dsimp only
  cases shared with
  | ledMask =>
    change cmd.tokenCount = 3 at hcount
    rw [serialHandler, handleLed, if_neg (by omega), htokens 2 argument rfl, hconnected]
    apply serialDid_read
    · intro hnone
      rw [hnone]
    · intro value hsome
      rw [hsome]
      rfl
  | reportingMode =>
    change cmd.tokenCount = 3 at hcount
    rw [serialHandler, handleMode, if_neg (by omega), htokens 2 argument rfl, if_neg (by omega),
      hconnected]
    apply serialDid_read
    · intro hnone
      rw [hnone]
    · intro value hsome
      rw [hsome]
      rfl
  | continuous mode =>
    change cmd.tokenCount = 4 at hcount
    rw [serialHandler, handleMode, if_neg (by omega), htokens 2 mode.text rfl, mode.serial_eq, hconnected]
    dsimp only
    rw [if_pos (by omega), htokens 3 argument rfl]
    apply serialDid_read
    · intro hnone
      rw [hnone]
    · intro value hsome
      rw [hsome]
      rfl
  | accelerometer =>
    change cmd.tokenCount = 3 at hcount
    rw [serialHandler, handleAccel, if_neg (by omega), htokens 2 argument rfl]
    apply serialDid_read
    · intro hnone
      rw [hnone]
    · intro value hsome
      rw [hsome]
      rfl
  | disconnectReason =>
    change cmd.tokenCount = 3 at hcount
    rw [serialHandler, handleDisconnect, if_pos (by omega), htokens 2 argument rfl, hconnected]
    apply serialDid_read
    · intro hnone
      rw [hnone]
    · intro value hsome
      rw [hsome]
      rfl
  | reconnectPolicy =>
    change cmd.tokenCount = 3 at hcount
    rw [serialHandler, handleReconnect, if_neg (by omega), htokens 2 argument rfl, serialHandling]
    by_cases hclear : argument = ascii "clear"
    · rw [if_pos hclear, if_pos hclear]
      rfl
    · rw [if_neg hclear, if_neg hclear]
      apply serialDid_read
      · intro hnone
        rw [hnone]
      · intro value hsome
        rw [hsome]
        rfl
  | wifiControl =>
    change cmd.tokenCount = 3 at hcount
    rw [serialHandler, handleWifiControl, if_neg (by omega), htokens 2 argument rfl]
    apply serialDid_read
    · intro hnone
      rw [hnone]
    · intro value hsome
      rw [hsome]
      rfl
  | wifiDeliveryMode =>
    change cmd.tokenCount = 3 at hcount
    rw [serialHandler, handleWifiMode, if_neg (by omega), htokens 2 argument rfl]
    apply serialDid_read
    · intro hnone
      rw [hnone]
    · intro value hsome
      rw [hsome]
      rfl

/-! ## The web API -/

/-- The handler of a path that takes a command, and whether it takes a body. -/
def routeHandler (τ : Type) (path : CString) : Option (RouteHandler τ × Bool) :=
  (kRoutes.find? fun route => route.method == ascii "POST" && route.path == path).map fun route =>
    (route.handler, route.requiresBody)

section Web

variable {assets : WebAssets} {ctx : WebApiContext τ} {authHeader : Option CString}
  {request : WebRequestBody} {size : ℕ} {t : WebApiState τ}

/-- The body of an authenticated request is handled for the handler of its path. -/
theorem webApiRoute_of_path {path : CString} {handler : RouteHandler τ} (hsize : 0 < size)
    (hauth : webAuthValidate authHeader ctx.wifiApiToken = .Ok)
    (hentry : routeHandler τ path = some (handler, true)) :
    webApiRoute assets ctx (some (ascii "POST")) (some path) authHeader request size t =
      handleWithBody ctx handler request size t := by
  obtain ⟨route, hfound, hroute⟩ := Option.map_eq_some_iff.mp hentry
  obtain ⟨rfl, hbody⟩ := Prod.mk.inj hroute
  have hget : ¬ascii "POST" = ascii "GET" := by decide +kernel
  have hstatic := tryServeStatic_of_ne assets (ascii "POST") path size t hget
  rw [webApiRoute, if_neg (Nat.pos_iff_ne_zero.mp hsize), hstatic]
  dsimp only
  rw [if_neg (not_not.mpr hauth), routeAuthorized, if_neg hget, webSocketUpgrade, if_neg fun h => hget h.1]
  dsimp only
  rw [dispatchRoute, hfound]
  dsimp only
  rw [if_pos hbody]

/-- An authenticated request with an accepted body goes to the handler of its path. -/
theorem webApiRoute_of_entry {path : CString} {handler : RouteHandler τ} (hsize : 0 < size)
    (hauth : webAuthValidate authHeader ctx.wifiApiToken = .Ok)
    (hentry : routeHandler τ path = some (handler, true))
    (hok : (webRequestParse request.body request.bodyLen .empty).1 = .Ok) :
    webApiRoute assets ctx (some (ascii "POST")) (some path) authHeader request size t =
      handler ctx (webRequestParse request.body request.bodyLen .empty).2.1 size t := by
  rw [webApiRoute_of_path hsize hauth hentry, handleWithBody_of_ok hok]

/-- A handler that answers an invalid field did nothing but refuse. -/
theorem webDid_invalidField (field : CString) :
    WebDid t (invalidFieldResponse size field t) .badArgument := by
  unfold invalidFieldResponse fieldResponse
  dsimp only
  split_ifs <;> exact ⟨rfl, rfl⟩

/-- The calls of two lists are those of the first and then of the second. -/
theorem webCalls_append (first second : List WebApiInvocation) :
    webCalls (first ++ second) = webCalls first ++ webCalls second := by
  rw [webCalls, commandsOf_append, List.map_append]
  rfl

/-- A handler that makes a call and then answers did that call. -/
theorem webDid_invokeVoid (call : WebApiCall) (answer : WebApiRouteResult) (written : Option CString) :
    WebDid t (answer, (ctx.invokeVoid call t).respond written) (.called (deviceCall call)) :=
  webCalls_append t.invoked _

/-- A callback that may refuse is called, whatever it answers. -/
theorem webDid_callOrReject (call : WebApiCall) {rejected : RejectReason τ}
    (hrejected : Harmless rejected) :
    WebDid t (callOrReject ctx call rejected size t) (.called (deviceCall call)) := by
  have hinvoke : webCalls (ctx.invoke call t).2.invoked = webCalls t.invoked ++ [deviceCall call] :=
    webCalls_append t.invoked _
  unfold callOrReject
  dsimp only
  split_ifs
  · have hreason := (hrejected.noEffect (ctx.invoke call t).2).1
    have hcalls := congrArg (List.map fun command : WebApiCall × Bool => deviceCall command.1) hreason
    exact hcalls.trans hinvoke
  · exact hinvoke

end Web

/-- The HTTP handler of the action an argument belongs to. -/
def webHandler : SharedArgument → RouteHandler τ
  | .ledMask => handlePostLeds
  | .reportingMode | .continuous _ => handlePostReportingMode
  | .accelerometer => handlePostAccelerometer
  | .disconnectReason => handlePostDisconnect
  | .reconnectPolicy => handlePostReconnectPolicy
  | .wifiControl => handlePostWifiControl
  | .wifiDeliveryMode => handlePostWifiMode

/-- The route table has this handler for the path. -/
theorem routeHandler_path (shared : SharedArgument) :
    routeHandler τ shared.path = some (webHandler shared, true) := by
  cases shared <;> rfl

/-- The web API does with an argument what its handling says. -/
theorem webDid_route {shared : SharedArgument} {argument : CString} {assets : WebAssets}
    {ctx : WebApiContext τ} {authHeader : Option CString} {request : WebRequestBody} {size : ℕ}
    {t : WebApiState τ} (hpasses : WebPasses shared argument request) (hsize : 0 < size)
    (hauth : webAuthValidate authHeader ctx.wifiApiToken = .Ok) (hqueue : t.commandQueue = none) :
    WebDid t (webApiRoute assets ctx (some (ascii "POST")) (some shared.path) authHeader request size t)
      (webHandling argument shared) := by
  obtain ⟨hok, hfields⟩ := hpasses
  have hwiimote : Harmless (wiimoteCommandRejectReason ctx) := IsRejectReason.wiimoteCommand.harmless
  have hrejected : Harmless (fixedReason .Rejected) := (IsRejectReason.rejected : IsRejectReason ctx _).harmless
  rw [webApiRoute_of_entry hsize hauth (routeHandler_path shared) hok]
  cases shared with
  | ledMask =>
    have hmask := hfields (ascii "mask", some argument) List.mem_cons_self
    rw [webHandler, handlePostLeds, hmask, webHandling]
    dsimp only
    cases parseU8 argument with
    | none => exact webDid_invalidField _
    | some mask =>
      dsimp only
      rw [queueOr_of_none _ _ _ _ hqueue]
      exact webDid_callOrReject _ hwiimote
  | reportingMode =>
    have hmode := hfields (ascii "mode", some argument) List.mem_cons_self
    have hcontinuous := hfields (ascii "continuous", none) (List.mem_cons_of_mem _ List.mem_cons_self)
    rw [webHandler, handlePostReportingMode, hmode, hcontinuous, webHandling]
    dsimp only
    cases parseU8 argument with
    | none => exact webDid_invalidField _
    | some mode =>
      dsimp only
      rw [queueOr_of_none _ _ _ _ hqueue]
      exact webDid_callOrReject _ hwiimote
  | continuous mode =>
    have hmode := hfields (ascii "mode", some mode.text) List.mem_cons_self
    have hcontinuous := hfields (ascii "continuous", some argument)
      (List.mem_cons_of_mem _ List.mem_cons_self)
    rw [webHandler, handlePostReportingMode, hmode, hcontinuous, webHandling]
    dsimp only
    rw [mode.web_eq]
    dsimp only
    rw [queueOr_of_none _ _ _ _ hqueue]
    exact webDid_callOrReject _ hwiimote
  | accelerometer =>
    have henabled := hfields (ascii "enabled", some argument) List.mem_cons_self
    rw [webHandler, handlePostAccelerometer, henabled]
    dsimp only
    rw [queueOr_of_none _ _ _ _ hqueue]
    exact webDid_callOrReject _ hwiimote
  | disconnectReason =>
    have hreason := hfields (ascii "reason", some argument) List.mem_cons_self
    rw [webHandler, handlePostDisconnect, hreason, webHandling]
    dsimp only [Option.elim]
    cases parseU8 argument with
    | none => exact webDid_invalidField _
    | some reason =>
      dsimp only
      rw [queueOr_of_none _ _ _ _ hqueue]
      exact webDid_callOrReject _ IsRejectReason.disconnect.harmless
  | reconnectPolicy =>
    have henabled := hfields (ascii "enabled", some argument) List.mem_cons_self
    rw [webHandler, handlePostReconnectPolicy, henabled]
    dsimp only
    rw [queueOr_of_none _ _ _ _ hqueue]
    exact webDid_invokeVoid _ _ _
  | wifiControl =>
    have henabled := hfields (ascii "enabled", some argument) List.mem_cons_self
    rw [webHandler, handlePostWifiControl, henabled]
    exact webDid_callOrReject _ hrejected
  | wifiDeliveryMode =>
    have hmode := hfields (ascii "mode", some argument) List.mem_cons_self
    rw [webHandler, handlePostWifiMode, hmode, webHandling, serialParseWifiDeliveryMode]
    dsimp only
    split_ifs
    · exact webDid_callOrReject _ hrejected
    · exact webDid_callOrReject _ hrejected
    · exact ⟨rfl, rfl⟩

/-! ## Agreement -/

/-- Both surfaces with their devices: a Wiimote is connected, the session is unlocked, and the
request is authenticated and has no queue to go to. -/
structure Surfaces (σ τ : Type) where
  target : SerialCommandTarget σ
  options : SerialDispatchOptions
  serial : SerialDispatchState σ
  assets : WebAssets
  ctx : WebApiContext τ
  authHeader : Option CString
  size : ℕ
  web : WebApiState τ
  unlocked : (serial.session.elim false fun session => session.isUnlocked options.nowMs) = true
  connected : target.isConnected serial.target.device = true
  authorized : webAuthValidate authHeader ctx.wifiApiToken = .Ok
  noQueue : web.commandQueue = none
  hasBuffer : 0 < size

namespace Surfaces

/-- What the serial line answers to a command, and the target after it. -/
def dispatched (surfaces : Surfaces σ τ) (cmd : SerialParsedCommand) :
    SerialDispatchResult × TargetState σ :=
  let dispatched := serialCommandDispatch cmd surfaces.target surfaces.options surfaces.serial
  (dispatched.1, dispatched.2.target)

/-- What the web API answers to a request, and its state after it. -/
def routed (surfaces : Surfaces σ τ) (path : CString) (request : WebRequestBody) :
    WebApiRouteResult × WebApiState τ :=
  webApiRoute surfaces.assets surfaces.ctx (some (ascii "POST")) (some path) surfaces.authHeader request
    surfaces.size surfaces.web

/-- Both make the same device call, or both refuse the argument without any. -/
def Agree (surfaces : Surfaces σ τ) (shared : SharedArgument) (cmd : SerialParsedCommand)
    (request : WebRequestBody) : Prop :=
  ∃ handling, SerialDid surfaces.serial.target (surfaces.dispatched cmd) handling ∧
    WebDid surfaces.web (surfaces.routed shared.path request) handling

end Surfaces

section
variable {surfaces : Surfaces σ τ} {shared : SharedArgument} {argument : CString}
  {cmd : SerialParsedCommand} {request : WebRequestBody}

/-- The surfaces agree where their handlings are the same. -/
theorem agree_iff_handling (hserial : SerialPasses shared argument cmd)
    (hweb : WebPasses shared argument request) :
    surfaces.Agree shared cmd request ↔
      serialHandling argument shared = webHandling argument shared := by
  have hserialDid : SerialDid surfaces.serial.target (surfaces.dispatched cmd)
      (serialHandling argument shared) :=
    serialDid_dispatch hserial surfaces.unlocked surfaces.connected
  have hwebDid : WebDid surfaces.web (surfaces.routed shared.path request)
      (webHandling argument shared) :=
    webDid_route hweb surfaces.hasBuffer surfaces.authorized surfaces.noQueue
  constructor
  · rintro ⟨handling, hserialHandling, hwebHandling⟩
    exact (hserialDid.unique hserialHandling).trans (hwebHandling.unique hwebDid)
  · intro heq
    exact ⟨_, hserialDid, heq ▸ hwebDid⟩

/-- An argument that both surfaces are passed is handled alike exactly when it is one of the texts
on which their readings agree. -/
theorem surfaces_agree_iff (hserial : SerialPasses shared argument cmd)
    (hweb : WebPasses shared argument request) :
    surfaces.Agree shared cmd request ↔ shared.AgreesOn argument :=
  (agree_iff_handling hserial hweb).trans (handling_eq_iff shared argument)

end

/-- A connected device that accepts every call, on both surfaces. -/
def acceptingSurfaces : Surfaces Unit Unit where
  target := ⟨fun _ s => (true, s), fun _ => false, fun _ => true, fun _ => true, fun _ => false,
    fun _ => 1⟩
  options := ⟨true, 1000⟩
  serial := ⟨some ⟨some (ascii "token"), 0, 60000, true⟩, ⟨(), []⟩⟩
  assets := ⟨[], [], []⟩
  ctx := acceptingContext
  authHeader := some (ascii "Bearer token")
  size := 512
  web := ⟨(), none, [], []⟩
  unlocked := by decide
  connected := rfl
  authorized := by decide +kernel
  noQueue := rfl
  hasBuffer := by decide

/-- The line `wm led 5` and the body with the mask `5`. -/
theorem surfaces_agree_led :
    acceptingSurfaces.Agree .ledMask (serialCommandParse (ascii "wm led 5") .zeroed).2
        ⟨some (ascii "\x7b\"command\":\"set\",\"mask\":\"5\"\x7d"), 28⟩ ↔
      SharedArgument.ledMask.AgreesOn (ascii "5") :=
  surfaces_agree_iff (show _ = _ by decide +kernel) (show _ ∧ _ by decide +kernel)

/-- The serial line takes `on` for true, and the web API for false. -/
theorem surfaces_do_not_always_agree :
    ¬ ∀ (surfaces : Surfaces Unit Unit) (shared : SharedArgument) (argument : CString)
      (cmd : SerialParsedCommand) (request : WebRequestBody), SerialPasses shared argument cmd →
        WebPasses shared argument request → surfaces.Agree shared cmd request := by
  intro hclaim
  have hserial : SerialPasses .accelerometer (ascii "on")
      (serialCommandParse (ascii "wm accel on") .zeroed).2 := show _ = _ by decide +kernel
  have hweb : WebPasses .accelerometer (ascii "on")
      ⟨some (ascii "\x7b\"command\":\"set\",\"enabled\":\"on\"\x7d"), 32⟩ := show _ ∧ _ by decide +kernel
  have hagree := hclaim acceptingSurfaces .accelerometer _ _ _ hserial hweb
  rw [agree_iff_handling hserial hweb] at hagree
  exact absurd hagree (by decide +kernel)

end Esp32Wiimote.Device
