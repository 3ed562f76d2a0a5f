import Esp32Wiimote.Device.Runtime
import Esp32Wiimote.Web.Authorization

/-!
# The HTTP handler of the device

The handler makes a context for the router out of the device: the token of the current
configuration, callbacks that are public calls, no event stream and no command queue. It
turns a WebSocket upgrade into an error, since the server has none.
-/

namespace Esp32Wiimote.Device

open Bluetooth CText StateProgram Web

/-- The methods the server distinguishes. -/
inductive WifiHttpMethod
  | Get
  | Post
  | Unsupported
  deriving DecidableEq, Repr

/-- A request as the server hands it on. -/
structure WifiHttpRequest where
  method : WifiHttpMethod
  path : CString
  authHeader : Option CString
  body : Option (List UInt8)
  bodyLen : ℕ

/-- The response, with the values it is constructed with. -/
structure WifiHttpResponse where
  status : ℕ := 200
  contentType : CString := applicationJson

/-- The text of a method. -/
def wifiHttpMethodToString : WifiHttpMethod → CString
  | .Get => ascii "GET"
  | .Post => ascii "POST"
  | .Unsupported => ascii "UNKNOWN"

/-! ## The context -/

namespace Esp32World

/-- The handle of the first connection, 0 without one. -/
def activeConnectionHandle (w : Esp32World) : UInt16 :=
  (w.tw.gRuntime.l2capConnections.getFirstConnectionHandle).getD 0

/-- The status of the controller. -/
def webGetWiimoteStatus (w : Esp32World) : WebWiimoteStatusSnapshot where
  connected := w.tw.isConnected
  batteryLevel := w.tw.gRuntime.wiimoteState.batteryLevel

/-- The status of the Bluetooth controller. -/
def webGetControllerStatus (w : Esp32World) : WebControllerStatusSnapshot where
  initialized := w.hciEventContext.deviceInited
  started := w.isStarted
  scanning := w.hciEventContext.scanningEnabled
  connected := w.tw.isConnected
  activeConnectionHandle := w.activeConnectionHandle
  fastReconnectActive := w.hciEventContext.pendingFastReconnect
  autoReconnectEnabled := w.hciEventContext.autoReconnectEnabled

/-- The configuration, of the device and of the settings snapshot. -/
def webGetConfig (w : Esp32World) : WebConfigSnapshot where
  nunchukStickThreshold := w.device.getConfig.nunchukStickThreshold
  txQueueSize := w.device.getConfig.txQueueSize
  rxQueueSize := w.device.getConfig.rxQueueSize
  fastReconnectTtlMs := w.device.getConfig.fastReconnectTtlMs

/-- The state of the Wi-Fi control. -/
def webGetWifiControlState (w : Esp32World) : WebWifiControlStateSnapshot where
  enabled := w.wifi.wifiControlEnabled
  ready := w.wifi.wifiControlReady
  networkCredentialsConfigured := w.wifi.wifiNetworkCredentialsConfigured
  networkConnectAttempted := w.wifi.wifiNetworkConnectAttempted
  networkConnected := w.wifi.wifiNetworkConnected
  networkConnectFailed := w.wifi.wifiNetworkConnectFailed
  restAndWebSocket := w.wifi.wifiDeliveryMode == .RestAndWebSocket
  serverStarted := w.wifi.serverStarted
  serverBindFailed := w.wifi.serverBindFailed
  hasToken := w.device.hasWifiApiToken

end Esp32World

/-- The mutating callbacks; one without a result counts as accepted. -/
def webCall : WebApiCall → Esp32M Bool
  | .setLeds ledMask => setLeds ledMask
  | .setReportingMode mode continuous => setReportingMode mode continuous
  | .setAccelEnabled enabled => setAccelerometerEnabled enabled
  | .requestStatus => liftTw tinyWiimoteRequestStatus
  | .setScanEnabled enabled => do
    liftTw (tinyWiimoteSetScanEnabled enabled)
    return true
  | .startDiscovery => liftTw tinyWiimoteStartDiscovery
  | .stopDiscovery => liftTw tinyWiimoteStopDiscovery
  | .disconnect reason => liftTw (tinyWiimoteDisconnect reason)
  | .setAutoReconnect enabled => do
    setAutoReconnectEnabled enabled
    return true
  | .setWifiControlEnabled enabled => setWifiControlEnabled enabled
  | .setWifiDeliveryMode restAndWebSocket =>
    callDevice (·.setWifiDeliveryMode (if restAndWebSocket then .RestAndWebSocket else .RestOnly))
  | .setWifiNetwork ssid password =>
    updateWifiNetworkCredentials (.external ssid) (.external password)
  | .restartWifiControl => callDevice (·.restartWifiControl)
  | .setWifiApiToken token => callDevice (·.updateWifiApiToken (.external token))

/-- The context of the router; the Wi-Fi token is that of `getConfig()`, without the fallback. -/
def makeWebApiContext (device : ESP32Wiimote) : WebApiContext Esp32World where
  wifiApiToken := device.storage.read device.getConfig.auth.wifiApiToken
  getWiimoteStatus w := (w.webGetWiimoteStatus, w)
  getControllerStatus w := (w.webGetControllerStatus, w)
  getConfig w := (w.webGetConfig, w)
  getWifiControlState w := (w.webGetWifiControlState, w)
  call c w := exec (webCall c) w
  allowWifiApiTokenMutation := false
  hasEventStream := false

/-! ## Handling a request -/

/-- What a request finds: the world, and the response buffer. -/
def Esp32World.webApiState (w : Esp32World) (responseBuf : CString) : WebApiState Esp32World :=
  ⟨w, none, [], responseBuf⟩

/-- The pointers to the request, the buffer and the response are never null. -/
def handleWifiHttpRequest (assets : WebAssets) (request : WifiHttpRequest) (responseBufSize : ℕ)
    (response : WifiHttpResponse) (s : WebApiState Esp32World) :
    WifiHttpResponse × WebApiState Esp32World :=
  if responseBufSize = 0 then (response, s)
  else
    let kRouteResult := webApiRoute assets (makeWebApiContext s.userData.device)
      (some (wifiHttpMethodToString request.method)) (some request.path) request.authHeader
      ⟨request.body, request.bodyLen⟩ responseBufSize s
    if kRouteResult.1.httpStatus = 101 then
      (⟨501, applicationJson⟩, kRouteResult.2.respond
        (serializeError responseBufSize (ascii "websocket upgrade not implemented")).2)
    else (⟨kRouteResult.1.httpStatus, kRouteResult.1.contentType⟩, kRouteResult.2)

/-- The request is answered without authentication. -/
def WifiHttpRequest.IsStatic (request : WifiHttpRequest) : Prop :=
  IsStaticRequest (wifiHttpMethodToString request.method) request.path

instance (request : WifiHttpRequest) : Decidable request.IsStatic :=
  inferInstanceAs (Decidable (IsStaticRequest _ _))

/-- A request that is not static is answered with 401 exactly when its header is rejected for the
token of the configuration. -/
theorem handleWifiHttpRequest_isUnauthorized (assets : WebAssets) {request : WifiHttpRequest}
    (hstatic : ¬request.IsStatic) {responseBufSize : ℕ} (hsize : responseBufSize ≠ 0)
    (response : WifiHttpResponse) (s : WebApiState Esp32World) :
    isUnauthorized (handleWifiHttpRequest assets request responseBufSize response s).1.status =
        true ↔
      webAuthValidate request.authHeader
        (s.userData.device.storage.read s.userData.device.getConfig.auth.wifiApiToken) ≠ .Ok := by
  have hroute := webApiRoute_isUnauthorized (makeWebApiContext s.userData.device) assets hstatic
    request.authHeader ⟨request.body, request.bodyLen⟩ hsize s
  unfold handleWifiHttpRequest
  dsimp only
  rw [if_neg hsize]
  split
  · rename_i hupgrade
    rw [hupgrade] at hroute
    exact hroute
  · exact hroute

/-! ## Requests as public calls -/

/-- The public call behind a callback. -/
def webPublicCall (w : Esp32World) : WebApiCall → PublicCall
  | .setLeds ledMask => .setLeds ledMask
  | .setReportingMode mode continuous => .setReportingMode mode continuous
  | .setAccelEnabled enabled => .setAccelerometerEnabled enabled
  | .requestStatus => .requestStatus
  | .setScanEnabled enabled => .setScanEnabled enabled
  | .startDiscovery => .startDiscovery
  | .stopDiscovery => .stopDiscovery
  | .disconnect reason => .disconnectActiveController reason
  | .setAutoReconnect enabled => .setAutoReconnectEnabled enabled
  | .setWifiControlEnabled enabled => .enableWifiControl enabled w.device.getConfig.wifi.deliveryMode
  | .setWifiDeliveryMode restAndWebSocket =>
    .setWifiDeliveryMode (if restAndWebSocket then .RestAndWebSocket else .RestOnly)
  | .setWifiNetwork ssid password =>
    .updateWifiNetworkCredentials (.external ssid) (.external password)
  | .restartWifiControl => .restartWifiControl
  | .setWifiApiToken token => .updateWifiApiToken (.external token)

/-- Every call of the router is a public call. -/
theorem webCall_eq (call : WebApiCall) (w : Esp32World) :
    (exec (webCall call) w).2 = (exec (webPublicCall w call).run w).2 := by
  cases call <;> rfl

/-- The world after some public calls. -/
def Esp32World.afterCalls (w : Esp32World) (calls : List PublicCall) : Esp32World :=
  calls.foldl (fun w c => (exec c.run w).2) w

/-- Whatever the request, handling it is a sequence of public calls. -/
theorem handleWifiHttpRequest_calls (assets : WebAssets) (request : WifiHttpRequest)
    (responseBufSize : ℕ) (response : WifiHttpResponse) (s : WebApiState Esp32World) :
    ∃ calls, (handleWifiHttpRequest assets request responseBufSize response s).2.userData =
      s.userData.afterCalls calls := by
  have hleads : CallbacksLead (makeWebApiContext s.userData.device) s.userData
      (handleWifiHttpRequest assets request responseBufSize response s).2.userData := by
    unfold handleWifiHttpRequest
    dsimp only
    split
    · exact .refl
    · split
      · exact webApiRoute_leads _ assets _ _ _ _ _ s
      · exact webApiRoute_leads _ assets _ _ _ _ _ s
  generalize (handleWifiHttpRequest assets request responseBufSize response s).2.userData = t
    at hleads ⊢
  induction hleads with
  | refl => exact ⟨[], rfl⟩
  | @tail u v _ hinvokes ih =>
    obtain ⟨calls, hcalls⟩ := ih
    cases hinvokes with
    | call call =>
      refine ⟨calls ++ [webPublicCall u call], ?_⟩
      unfold Esp32World.afterCalls at hcalls ⊢
      rw [List.foldl_append, ← hcalls]
      exact webCall_eq call u
    | _ => exact ⟨calls, hcalls⟩

end Esp32Wiimote.Device
