import Esp32Wiimote.Device.Config

/-!
# The Wi-Fi lifecycle

The fields of the device that enabling, disabling and restarting Wi-Fi control, the staged
startup and the deferred actions work on, with these operations. A request made while the
HTTP server dispatches a request is kept as a pending action; any other one resets the
lifecycle at once.
-/

namespace Esp32Wiimote.Device

open CText

/-! ## The HTTP server -/

/-- The server, with a record of whether it was ever ended while it was dispatching. -/
structure WifiHttpServer where
  started : Bool := false
  dispatchingRequest : Bool := false
  endedDuringDispatch : Bool := false
  deriving DecidableEq, Repr

namespace WifiHttpServer

/-- Starting a server that runs succeeds and changes nothing. -/
def begin (server : WifiHttpServer) (succeeds : Bool) : Bool × WifiHttpServer :=
  if server.started then (true, server) else (succeeds, { server with started := succeeds })

/-- `WifiHttpServer::end`. -/
def stop (server : WifiHttpServer) : WifiHttpServer :=
  { server with
    started := false
    endedDuringDispatch := server.endedDuringDispatch || server.dispatchingRequest }

end WifiHttpServer

/-! ## State -/

/-- The stages of a startup. -/
inductive WifiInitStage
  | StartWifi
  | WaitNetworkConnected
  | RegisterStaticRoutes
  | RegisterApiRoutes
  | RegisterWebSocketRoutes
  | Ready
  deriving DecidableEq, Repr

/-- The value of the stage constant. -/
def WifiInitStage.value : WifiInitStage → ℕ
  | .StartWifi => 0
  | .WaitNetworkConnected => 1
  | .RegisterStaticRoutes => 2
  | .RegisterApiRoutes => 3
  | .RegisterWebSocketRoutes => 4
  | .Ready => 5

/-- What the lifecycle was asked for. -/
inductive WifiLifecycleRequest
  | enable
  | disable
  | restart
  deriving DecidableEq, Repr

/-- `config` is `config_.wifi`, and `latestRequest` is a record of the latest request to enable,
disable or restart that was not rejected. -/
structure WifiControl where
  config : ESP32WiimoteWifiConfig
  networkCredentials : WiimoteNetworkCredentials := {}
  wifiEnabled : Bool := false
  wifiControlEnabled : Bool := false
  wifiControlInitializing : Bool := false
  wifiControlReady : Bool := false
  wifiNetworkCredentialsConfigured : Bool := false
  wifiNetworkConnectAttempted : Bool := false
  wifiNetworkConnected : Bool := false
  wifiNetworkConnectFailed : Bool := false
  wifiNetworkConnectStartMs : UInt32 := 0
  wifiDeliveryMode : WifiDeliveryMode := .RestOnly
  wifiInitStage : WifiInitStage := .StartWifi
  wifiLayerStarted : Bool := false
  staticRoutesRegistered : Bool := false
  apiRoutesRegistered : Bool := false
  websocketRoutesRegistered : Bool := false
  serverStarted : Bool := false
  serverBindFailed : Bool := false
  wifiLifecycleStopPending : Bool := false
  wifiLifecycleRestartPending : Bool := false
  httpServer : WifiHttpServer := {}
  latestRequest : Option WifiLifecycleRequest := none
  deriving DecidableEq, Repr

namespace WifiControl

/-! ## Starting and stopping the server -/

/-- A server that runs is stopped. -/
def stopWifiHttpServer (c : WifiControl) : WifiControl :=
  if !c.httpServer.started then c
  else { c with httpServer := c.httpServer.stop, serverStarted := false }

/-- Whether the server runs, and the control afterwards. -/
def startWifiHttpServer (serverBegins : Bool) (c : WifiControl) : Bool × WifiControl :=
  if c.serverStarted then (true, c)
  else
    let begun := c.httpServer.begin serverBegins
    if !begun.1 then
      (false, { c with httpServer := begun.2, serverBindFailed := true, serverStarted := false })
    else (true, { c with httpServer := begun.2, serverStarted := true, serverBindFailed := false })

/-- The server is stopped, and the startup starts over. -/
def resetWifiLifecycleState (c : WifiControl) : WifiControl :=
  { c.stopWifiHttpServer with
    wifiControlInitializing := false
    wifiControlReady := false
    wifiNetworkConnectAttempted := false
    wifiNetworkConnected := false
    wifiNetworkConnectFailed := false
    wifiNetworkConnectStartMs := 0
    wifiInitStage := .StartWifi
    wifiLayerStarted := false
    staticRoutesRegistered := false
    apiRoutesRegistered := false
    websocketRoutesRegistered := false
    serverStarted := false
    serverBindFailed := false }

/-- The server sets its flag before it calls the handler and clears it afterwards. -/
def setDispatching (dispatching : Bool) (c : WifiControl) : WifiControl :=
  { c with httpServer := { c.httpServer with dispatchingRequest := dispatching } }

/-! ## Lifecycle actions -/

/-- What a stop and a restart do once they are not deferred. -/
def runWifiLifecycleAction (restart : Bool) (c : WifiControl) : WifiControl :=
  if restart then { c.resetWifiLifecycleState with wifiControlInitializing := true }
  else c.resetWifiLifecycleState

/-- During a dispatch the action waits for the next task. -/
def queueWifiLifecycleAction (restart : Bool) (c : WifiControl) : WifiControl :=
  if c.httpServer.dispatchingRequest then
    { c with wifiLifecycleStopPending := !restart, wifiLifecycleRestartPending := restart }
  else c.runWifiLifecycleAction restart

/-- The waiting action, if there is one. -/
def applyQueuedWifiLifecycleAction (c : WifiControl) : WifiControl :=
  if !c.wifiLifecycleStopPending && !c.wifiLifecycleRestartPending then c
  else
    ({ c with wifiLifecycleStopPending := false, wifiLifecycleRestartPending := false } :
      WifiControl).runWifiLifecycleAction c.wifiLifecycleRestartPending

/-! ## Requests -/

/-- Allow Wi-Fi where the configuration did not. -/
def allowWifi (c : WifiControl) : WifiControl :=
  if c.wifiEnabled then c
  else { c with wifiEnabled := true, config := { c.config with enabled := true } }

/-- The control is on, runs, and delivers in this mode. -/
def runsIn (c : WifiControl) (deliveryMode : WifiDeliveryMode) : Bool :=
  c.wifiControlEnabled && c.wifiControlReady && c.wifiDeliveryMode == deliveryMode

/-- A control that already runs in the mode asked for goes on. -/
def enableWifiControl (enabled : Bool) (deliveryMode : WifiDeliveryMode) (c : WifiControl) :
    WifiControl :=
  if !enabled then
    ({ c with wifiDeliveryMode := deliveryMode, wifiControlEnabled := false,
              latestRequest := some .disable } : WifiControl).queueWifiLifecycleAction false
  else if c.runsIn deliveryMode then
    { c.allowWifi with wifiDeliveryMode := deliveryMode, latestRequest := some .enable }
  else
    ({ c.allowWifi with wifiDeliveryMode := deliveryMode, wifiControlEnabled := true,
                        latestRequest := some .enable } : WifiControl).queueWifiLifecycleAction true

/-- A restart is rejected while the control is off. -/
def canRestart (c : WifiControl) : Bool := c.wifiEnabled && c.wifiControlEnabled

/-- Refused where Wi-Fi is off or not allowed. -/
def restartWifiControl (c : WifiControl) : WifiControl :=
  if !c.canRestart then c
  else
    ({ c with latestRequest := some .restart } : WifiControl).queueWifiLifecycleAction true

/-- Restart where the control is on. -/
def restartIfEnabled (c : WifiControl) : WifiControl :=
  if c.wifiControlEnabled then c.queueWifiLifecycleAction true else c

/-- A control that is on starts again in the new mode. -/
def setWifiDeliveryMode (deliveryMode : WifiDeliveryMode) (c : WifiControl) : WifiControl :=
  ({ c with config := { c.config with deliveryMode }, wifiDeliveryMode := deliveryMode } :
    WifiControl).restartIfEnabled

/-- The part of `updateWifiNetworkCredentials` behind the copies of the texts. -/
def setNetworkCredentials (network : WiimoteNetworkCredentials) (c : WifiControl) : WifiControl :=
  ({ c with config := { c.config with network }, networkCredentials := network,
            wifiNetworkCredentialsConfigured := true } : WifiControl).restartIfEnabled

/-- The configuration after one is applied: Wi-Fi is only ever allowed, the mode is only ever
extended, and the network changes where both of its texts are given. -/
def mergedConfig (config : ESP32WiimoteWifiConfig) (network : Option WiimoteNetworkCredentials)
    (c : WifiControl) : ESP32WiimoteWifiConfig where
  enabled := c.config.enabled || config.enabled
  deliveryMode :=
    if config.deliveryMode = .RestAndWebSocket then .RestAndWebSocket else c.config.deliveryMode
  network := network.getD c.config.network

/-- The part of `applyRuntimeConfig` that concerns Wi-Fi, with the copied network texts and
whether the network in force has both texts. -/
def applyWifiConfig (config : ESP32WiimoteWifiConfig) (network : Option WiimoteNetworkCredentials)
    (networkConfigured : Bool) (c : WifiControl) : WifiControl :=
  let merged := c.mergedConfig config network
  let c : WifiControl :=
    { c with
      config := merged
      wifiEnabled := merged.enabled
      networkCredentials := merged.network
      wifiDeliveryMode := merged.deliveryMode
      wifiNetworkCredentialsConfigured := networkConfigured }
  if !c.wifiEnabled then c.enableWifiControl false c.wifiDeliveryMode else c

/-- What a call can ask of the lifecycle. -/
inductive Request
  | enable (enabled : Bool) (deliveryMode : WifiDeliveryMode)
  | restart
  | deliveryMode (deliveryMode : WifiDeliveryMode)
  | network (network : WiimoteNetworkCredentials)
  | configure (config : ESP32WiimoteWifiConfig) (network : Option WiimoteNetworkCredentials)
      (networkConfigured : Bool)

/-- The method a request stands for. -/
def handle (c : WifiControl) : Request → WifiControl
  | .enable enabled deliveryMode => c.enableWifiControl enabled deliveryMode
  | .restart => c.restartWifiControl
  | .deliveryMode deliveryMode => c.setWifiDeliveryMode deliveryMode
  | .network network => c.setNetworkCredentials network
  | .configure config network networkConfigured =>
    c.applyWifiConfig config network networkConfigured

/-! ## The staged startup -/

/-- What a startup step sees: the platform it is built for, the configured network name, the
station, the clock, and whether the server can begin. -/
structure StartupInput where
  esp32 : Bool
  ssid : Option CString
  stationConnected : Bool
  nowMs : UInt32
  serverBegins : Bool
  deriving DecidableEq, Repr

/-- The SSID that fails on purpose. -/
def kWifiMockFailSsid : CString := ascii "__fail__"

/-- How long the station is waited for. -/
def kWifiConnectTimeoutMs : UInt32 := 15000

/-- The exits of a startup that failed. -/
def abandon (c : WifiControl) : WifiControl :=
  { c with wifiControlEnabled := false, wifiControlInitializing := false }

/-- The first stage: without a network the startup is given up. -/
def startWifi (input : StartupInput) (c : WifiControl) : WifiControl :=
  if !c.wifiNetworkCredentialsConfigured || input.ssid == some kWifiMockFailSsid then
    { c.abandon with wifiNetworkConnectAttempted := true, wifiNetworkConnectFailed := true }
  else if input.esp32 then
    { c with
      wifiNetworkConnectAttempted := true
      wifiNetworkConnectStartMs := input.nowMs
      wifiNetworkConnected := false
      wifiNetworkConnectFailed := false
      wifiLayerStarted := true
      wifiInitStage := .WaitNetworkConnected }
  else
    { c with
      wifiNetworkConnectAttempted := true
      wifiNetworkConnected := true
      wifiNetworkConnectFailed := false
      wifiLayerStarted := true
      wifiInitStage := .RegisterStaticRoutes }

/-- The second stage, on the ESP32 only. -/
def waitNetworkConnected (input : StartupInput) (c : WifiControl) : WifiControl :=
  if !input.esp32 then c
  else if input.stationConnected then
    { c with
      wifiNetworkConnected := true
      wifiNetworkConnectFailed := false
      wifiInitStage := .RegisterStaticRoutes }
  else if kWifiConnectTimeoutMs ≤ input.nowMs - c.wifiNetworkConnectStartMs then
    { c.abandon with wifiNetworkConnectFailed := true }
  else c

/-- The third stage. -/
def registerStaticRoutes (c : WifiControl) : WifiControl :=
  { c with staticRoutesRegistered := true, wifiInitStage := .RegisterApiRoutes }

/-- The fourth stage: a server that does not begin ends the startup. -/
def registerApiRoutes (input : StartupInput) (c : WifiControl) : WifiControl :=
  let started := c.startWifiHttpServer input.serverBegins
  let c : WifiControl := { started.2 with apiRoutesRegistered := true }
  if !started.1 then c.abandon
  else if c.wifiDeliveryMode = .RestAndWebSocket then
    { c with wifiInitStage := .RegisterWebSocketRoutes }
  else { c with wifiInitStage := .Ready }

/-- The fifth stage, in the mode that has a WebSocket. -/
def registerWebSocketRoutes (c : WifiControl) : WifiControl :=
  { c with websocketRoutesRegistered := true, wifiInitStage := .Ready }

/-- The last stage. -/
def becomeReady (c : WifiControl) : WifiControl :=
  { c with wifiControlInitializing := false, wifiControlReady := true }

/-- The stage that is due. -/
def startupStep (input : StartupInput) (c : WifiControl) : WifiControl :=
  match c.wifiInitStage with
  | .StartWifi => c.startWifi input
  | .WaitNetworkConnected => c.waitNetworkConnected input
  | .RegisterStaticRoutes => c.registerStaticRoutes
  | .RegisterApiRoutes => c.registerApiRoutes input
  | .RegisterWebSocketRoutes => c.registerWebSocketRoutes
  | .Ready => c.becomeReady

/-- A startup goes on while the control is on and not ready. -/
def startupDue (c : WifiControl) : Bool :=
  c.wifiControlEnabled && c.wifiEnabled && !c.wifiControlReady

/-- One step of the startup, if it is due. -/
def processWifiControl (input : StartupInput) (c : WifiControl) : WifiControl :=
  if !c.startupDue then c
  else ({ c with wifiControlInitializing := true } : WifiControl).startupStep input

/-! ## Observations -/

/-- A stop or a restart waits for the next task. -/
def Pending (c : WifiControl) : Prop :=
  c.wifiLifecycleStopPending = true ∨ c.wifiLifecycleRestartPending = true

instance (c : WifiControl) : Decidable c.Pending :=
  inferInstanceAs (Decidable (_ ∨ _))

end WifiControl

end Esp32Wiimote.Device
