import Esp32Wiimote.Bluetooth.TinyWiimote
import Esp32Wiimote.Device.ESP32Wiimote
import Esp32Wiimote.Serial.CommandLine

/-!
# The running device

The device together with the Bluetooth layer, its receive queue and the serial port. A step
of the system is a public call, a task, a bound of an HTTP dispatch, or something that
arrives from outside. What the platform answers during a step is part of the event.

The transmit queue, the log lines and the parsing of input reports are left out: nothing
modelled here reads them back.
-/

namespace Esp32Wiimote.Device

open Bluetooth CText Serial StateProgram

/-! ## The world -/

/-- A received packet, in a memory that may go on behind it. -/
structure HciQueueData where
  data : ℕ → UInt8
  len : ℕ

/-- What the platform answers: whether the program is built for the ESP32, the order in which the
compiled program copies the texts of a network, the clock, what the Bluetooth controller, the
queues, the settings store, the station and the server do. -/
structure Platform where
  esp32 : Bool := true
  copyOrder : CopyOrder := .passwordFirst
  millis : UInt32 := 0
  btStarts : Bool := true
  btStarted : Bool := true
  txQueueCreated : Bool := true
  rxQueueCreated : Bool := true
  vhciRegistered : Bool := true
  storeReady : Bool := true
  stored : Option RuntimeConfigSnapshot := none
  storeSaves : Bool := true
  stationConnected : Bool := true
  serverBegins : Bool := true

/-- `btInitialized` is `BluetoothController::initialized`; there is no receive queue before it
is created. -/
structure Esp32World where
  device : ESP32Wiimote
  tw : TwWorld := {}
  btInitialized : Bool := false
  rxQueue : Option (List HciQueueData) := none
  serialIn : List UInt8 := []
  serialOut : List CString := []
  platform : Platform := {}

namespace Esp32World

/-- The Wi-Fi lifecycle of the device. -/
abbrev wifi (w : Esp32World) : WifiControl := w.device.wifi

/-- The HCI event context of the Bluetooth layer. -/
abbrev hciEventContext (w : Esp32World) : HciEventContext := w.tw.gRuntime.hciEventContext

/-- Change the device. -/
def mapDevice (f : ESP32Wiimote → ESP32Wiimote) (w : Esp32World) : Esp32World :=
  { w with device := f w.device }

/-- Change its Wi-Fi control. -/
def mapWifi (f : WifiControl → WifiControl) (w : Esp32World) : Esp32World :=
  w.mapDevice fun d => { d with wifi := f d.wifi }

/-- Change its settings snapshot. -/
def mapSnapshot (f : RuntimeConfigSnapshot → RuntimeConfigSnapshot) (w : Esp32World) : Esp32World :=
  w.mapDevice fun d => { d with runtimeConfigSnapshot := f d.runtimeConfigSnapshot }

/-- `BluetoothController::isStarted`. -/
def isStarted (w : Esp32World) : Bool := w.btInitialized && w.platform.btStarted

end Esp32World

/-- A program over the whole device. -/
abbrev Esp32M := StateM Esp32World

/-- Change the device. -/
def modifyDevice (f : ESP32Wiimote → ESP32Wiimote) : Esp32M Unit := modify (·.mapDevice f)

/-- Change its settings snapshot. -/
def modifySnapshot (f : RuntimeConfigSnapshot → RuntimeConfigSnapshot) : Esp32M Unit :=
  modify (·.mapSnapshot f)

/-- A configuring call with a result. -/
def callDevice (f : ESP32Wiimote → Bool × ESP32Wiimote) : Esp32M Bool :=
  modifyGet fun w => ((f w.device).1, w.mapDevice fun d => (f d).2)

/-- `configure`, with the order of the copies the platform has. -/
def configure (config : ESP32WiimoteConfig) : Esp32M Unit := do
  let w ← get
  modifyDevice (·.configure w.platform.copyOrder config)

/-- `updateWifiNetworkCredentials`, likewise. -/
def updateWifiNetworkCredentials (ssid password : CharPtr) : Esp32M Bool := do
  let w ← get
  callDevice (·.updateWifiNetworkCredentials w.platform.copyOrder ssid password)

/-- A call of the Bluetooth layer. -/
def liftTw {α : Type} (x : TwM α) : Esp32M α :=
  modifyGet fun w => ((exec x w.tw).1, { w with tw := (exec x w.tw).2 })

/-- Print a line to the serial port. -/
def println (line : CString) : Esp32M Unit :=
  modify fun w => { w with serialOut := w.serialOut ++ [line] }

/-! ## The settings snapshot -/

/-- Save the settings; a store that fails is not used again. -/
def persistRuntimeConfigSnapshot : Esp32M Unit :=
  modify fun w =>
    if !w.device.runtimeConfigStoreReady then w
    else if !w.platform.storeSaves then
      w.mapDevice fun d => { d with runtimeConfigStoreReady := false }
    else w

/-- Update the snapshot and save it. -/
def updateSnapshot (f : RuntimeConfigSnapshot → RuntimeConfigSnapshot) : Esp32M Unit := do
  modifySnapshot f
  persistRuntimeConfigSnapshot

/-- The snapshot follows a call that was accepted. -/
def recordAccepted (accepted : Bool) (f : RuntimeConfigSnapshot → RuntimeConfigSnapshot) :
    Esp32M Bool := do
  if accepted then
    updateSnapshot f
    return true
  else
    return false

/-! ## Initialisation -/

/-- The receive queue is created after the transmit queue. -/
def createQueues : Esp32M Bool :=
  modifyGet fun w =>
    if !w.platform.txQueueCreated then (false, w)
    else if !w.platform.rxQueueCreated then (false, { w with rxQueue := none })
    else (true, { w with rxQueue := some [] })

/-- `BluetoothController::init`. -/
def bluetoothControllerInit : Esp32M Bool := do
  let w ← get
  if !w.platform.btStarts then
    return false
  else
    liftTw (tinyWiimoteInit ⟨true⟩)
    let created ← createQueues
    if !created || !w.platform.vhciRegistered then
      return false
    else
      modify fun w => { w with btInitialized := true }
      return true

/-- Load the stored settings and apply them, or store the current ones. -/
def restoreRuntimeConfig : Esp32M Unit := do
  let w ← get
  modifySnapshot ({ · with fastReconnectTtlMs := w.device.fastReconnectTtlMs })
  modifyDevice ({ · with runtimeConfigStoreReady := w.platform.storeReady })
  if !w.platform.storeReady then
    pure ()
  else
    match w.platform.stored with
    | some persisted =>
      modifySnapshot fun _ => persisted
      liftTw (tinyWiimoteSetFastReconnectTtlMs persisted.fastReconnectTtlMs)
      liftTw (tinyWiimoteSetAutoReconnectEnabled persisted.autoReconnectEnabled)
    | none => modifyDevice ({ · with runtimeConfigStoreReady := w.platform.storeSaves })

/-- The line that says the serial token stands in for the Wi-Fi token. -/
def announceTokenFallback : Esp32M Unit := do
  let w ← get
  if w.device.wifiTokenFallbackToSerial then
    println (ascii "@wm: info wifi_api_token_missing_using_serial_token")
  else
    pure ()

/-- The start of the device, in the order of the source. -/
def init : Esp32M Bool := do
  let started ← bluetoothControllerInit
  if !started then
    return false
  else
    let w ← get
    liftTw (tinyWiimoteSetFastReconnectTtlMs w.device.fastReconnectTtlMs)
    restoreRuntimeConfig
    announceTokenFallback
    return true

/-! ## Controller calls -/

/-- An accepted mask is recorded in the snapshot. -/
def setLeds (ledMask : UInt8) : Esp32M Bool := do
  let accepted ← liftTw (tinyWiimoteSetLeds ledMask)
  recordAccepted accepted ({ · with ledMask })

/-- An accepted mode is recorded in the snapshot. -/
def setReportingMode (mode : UInt8) (continuous : Bool) : Esp32M Bool := do
  let accepted ← liftTw (tinyWiimoteSetReportingMode mode continuous)
  recordAccepted accepted ({ · with reportingMode := mode, reportingContinuous := continuous })

/-- Always accepted. -/
def setAccelerometerEnabled (enabled : Bool) : Esp32M Bool := do
  liftTw (tinyWiimoteReqAccelerometer enabled)
  return true

/-- The snapshot is updated whether or not the Bluetooth layer accepted the change. -/
def setAutoReconnectEnabled (enabled : Bool) : Esp32M Unit := do
  liftTw (tinyWiimoteSetAutoReconnectEnabled enabled)
  updateSnapshot ({ · with autoReconnectEnabled := enabled })

/-- The flag that filters out the accelerometer. -/
def kFilterAccel : ℤ := 0x0008

/-- The filter itself is used by the parser of input reports only. -/
def addFilter (filter : ℤ) : Esp32M Unit :=
  if Int.toNat (filter % 2 ^ 32) &&& kFilterAccel.toNat ≠ 0 then
    liftTw (tinyWiimoteReqAccelerometer false)
  else pure ()

/-- Parsing starts by taking the oldest report. -/
def available : Esp32M Unit := do
  let w ← get
  if w.tw.gRuntime.wiimoteReports.itemCount.val = 0 then pure ()
  else discard (liftTw tinyWiimoteRead)

/-- A level above the last is the last. -/
def wiimoteSetLogLevel (level : UInt8) : Esp32M Unit :=
  modify fun w => { w with tw := { w.tw with logLevel := if 3 < level then 3 else level } }

/-! ## Serial control -/

/-- The Wi-Fi control carries it out. -/
def enableWifiControl (enabled : Bool) (deliveryMode : WifiDeliveryMode) : Esp32M Unit :=
  modifyDevice (·.enableWifiControl enabled deliveryMode)

/-- Switch the control in the configured mode, and tell whether it is as asked. -/
def setWifiControlEnabled (enabled : Bool) : Esp32M Bool := do
  let w ← get
  enableWifiControl enabled w.wifi.config.deliveryMode
  let w ← get
  return w.wifi.wifiControlEnabled == enabled

/-- The mode as a serial command gives it: 0 or 1. -/
def setSerialWifiDeliveryMode (mode : UInt8) : Esp32M Bool :=
  if 1 < mode then pure false
  else callDevice (·.setWifiDeliveryMode (if mode = 0 then .RestOnly else .RestAndWebSocket))

/-- `Esp32SerialCommandTarget`; a method without a result counts as accepted. -/
def serialTargetCall : SerialTargetCall → Esp32M Bool
  | .setLeds ledMask => setLeds ledMask
  | .setReportingMode mode continuous => setReportingMode mode continuous
  | .setAccelerometerEnabled enabled => setAccelerometerEnabled enabled
  | .requestStatus => liftTw tinyWiimoteRequestStatus
  | .setScanEnabled enabled => do
    liftTw (tinyWiimoteSetScanEnabled enabled)
    return true
  | .startDiscovery => liftTw tinyWiimoteStartDiscovery
  | .stopDiscovery => liftTw tinyWiimoteStopDiscovery
  | .disconnectActiveController reason => liftTw (tinyWiimoteDisconnect reason)
  | .setAutoReconnectEnabled enabled => do
    setAutoReconnectEnabled enabled
    return true
  | .clearReconnectCache => do
    liftTw tinyWiimoteClearReconnectCache
    return true
  | .setWifiControlEnabled enabled => setWifiControlEnabled enabled
  | .setWifiDeliveryMode mode => setSerialWifiDeliveryMode mode
  | .setWifiNetworkCredentials ssid password =>
    updateWifiNetworkCredentials (.external ssid) (.external password)
  | .restartWifiControl => callDevice (·.restartWifiControl)
  | .setWifiApiToken token => callDevice (·.updateWifiApiToken (.external token))

/-- The device as the target of serial commands. -/
def esp32SerialDevice : SerialDevice Esp32World where
  call c w := exec (serialTargetCall c) w
  isWifiApiTokenMutationAllowed _ := false
  isConnected w := w.tw.isConnected
  isControllerInitialized w := w.isStarted
  isDiscoveryActive w := w.isStarted && w.hciEventContext.scanningEnabled
  getActiveConnectionHandle w :=
    (w.tw.gRuntime.l2capConnections.getFirstConnectionHandle).getD 0
  getWifiControlState w :=
    ⟨w.wifi.wifiControlEnabled, w.wifi.wifiControlReady, w.wifi.wifiNetworkConnected,
      w.wifi.wifiNetworkConnectFailed, w.wifi.wifiDeliveryMode == .RestAndWebSocket⟩

/-- The serial side as it takes up a line. -/
def Esp32World.serialControl (w : Esp32World) : SerialControl Esp32World where
  session := w.device.serialCommandSession
  privilegedCommandsRequireUnlock := w.device.serialPrivilegedCommandsRequireUnlock
  target := ⟨w, []⟩
  printed := w.serialOut

/-- The serial side after a line. -/
def Esp32World.runSerialCommandLine (line : CString) (w : Esp32World) : SerialControl Esp32World :=
  Serial.processSerialCommandLine esp32SerialDevice line w.platform.millis w.serialControl

/-- Run a line, and tell which calls of the target it made. -/
def processSerialCommandLine (line : CString) : Esp32M (List SerialTargetCall) :=
  modifyGet fun w =>
    let control := w.runSerialCommandLine line
    (control.target.calls,
      { control.target.device with
        device := { control.target.device.device with serialCommandSession := control.session }
        serialOut := control.printed })

/-- Answer the line read so far. -/
def answerSerialLine : Esp32M (List SerialTargetCall) := do
  let w ← get
  if w.device.serialInputOverflow then
    println (serialFormatParseResult kSerialResponseBufSize .LineTooLong).2
    return []
  else if w.device.serialInputLine ≠ [] then
    processSerialCommandLine (cStringAt w.device.serialInputLine 0)
  else
    return []

/-- Answer the line, and start a new one. -/
def finishSerialLine : Esp32M (List SerialTargetCall) := do
  let calls ← answerSerialLine
  modifyDevice ({ · with serialInputLine := [], serialInputOverflow := false })
  return calls

/-- A carriage return is dropped, and so is what does not fit in the line. -/
def feedSerialByte (ch : UInt8) (d : ESP32Wiimote) : ESP32Wiimote :=
  if ch = 0x0D then d
  else if d.serialInputOverflow then d
  else if d.serialInputLine.length < kSerialMaxLineLength then
    { d with serialInputLine := d.serialInputLine ++ [ch] }
  else { d with serialInputOverflow := true }

/-- Read up to the end of a line; at most one line is answered. -/
def readSerialBytes : List UInt8 → Esp32M (List SerialTargetCall)
  | [] => do
    modify ({ · with serialIn := [] })
    return []
  | ch :: rest =>
    if ch = 0x0A then do
      modify ({ · with serialIn := rest })
      finishSerialLine
    else do
      modifyDevice (feedSerialByte ch)
      readSerialBytes rest

/-- Serial input is read where serial control is on. -/
def processSerialControl : Esp32M (List SerialTargetCall) := do
  let w ← get
  if w.device.serialControlEnabled then readSerialBytes w.serialIn else pure []

/-! ## The task -/

/-- Take one packet off the receive queue and handle it. -/
def processRxQueue : Esp32M Unit := do
  let w ← get
  match w.rxQueue with
  | some (packet :: rest) =>
    modify ({ · with rxQueue := some rest })
    liftTw (handleHciData (some packet.data) packet.len)
  | _ => pure ()

/-- What the startup step of a task sees. -/
def Esp32World.startupInput (w : Esp32World) : WifiControl.StartupInput where
  esp32 := w.platform.esp32
  ssid := w.device.storage.read w.wifi.networkCredentials.ssid
  stationConnected := w.platform.stationConnected
  nowMs := w.platform.millis
  serverBegins := w.platform.serverBegins

/-- One startup step of the Wi-Fi control, if one is due. -/
def processWifiControl : Esp32M Unit :=
  modify fun w => w.mapWifi (·.processWifiControl w.startupInput)

/-- The part of a task that needs the Bluetooth controller. -/
def processQueuesAndSerial : Esp32M Unit := do
  let w ← get
  if !w.isStarted then
    pure ()
  else
    processRxQueue
    discard processSerialControl

/-- A task ends by polling the server, which may dispatch requests: these are the steps after
it. -/
def task : Esp32M Unit := do
  modify (·.mapWifi (·.applyQueuedWifiLifecycleAction))
  processQueuesAndSerial
  processWifiControl

/-! ## The transition system -/

/-- A public call that can change the state, with its arguments. -/
inductive PublicCall
  | configure (config : ESP32WiimoteConfig)
  | enableWifiControl (enabled : Bool) (deliveryMode : WifiDeliveryMode)
  | updateWifiNetworkCredentials (ssid password : CharPtr)
  | restartWifiControl
  | updateWifiApiToken (token : CharPtr)
  | setWifiDeliveryMode (deliveryMode : WifiDeliveryMode)
  | init
  | available
  | requestBatteryUpdate
  | setLeds (ledMask : UInt8)
  | setReportingMode (mode : UInt8) (continuous : Bool)
  | setAccelerometerEnabled (enabled : Bool)
  | requestStatus
  | writeMemory (addressSpace : UInt8) (offset : UInt32) (data : ℕ → UInt8) (len : UInt8)
  | readMemory (addressSpace : UInt8) (offset : UInt32) (size : UInt16)
  | setScanEnabled (enabled : Bool)
  | startDiscovery
  | stopDiscovery
  | disconnectActiveController (reason : UInt8)
  | setAutoReconnectEnabled (enabled : Bool)
  | clearReconnectCache
  | enableSerialControl (enabled : Bool)
  | setLogLevel (level : UInt8)
  | addFilter (filter : ℤ)

/-- The method a public call stands for. -/
def PublicCall.run : PublicCall → Esp32M Unit
  | .configure config => Device.configure config
  | .enableWifiControl enabled deliveryMode => Device.enableWifiControl enabled deliveryMode
  | .updateWifiNetworkCredentials ssid password =>
    discard (Device.updateWifiNetworkCredentials ssid password)
  | .restartWifiControl => discard (callDevice (·.restartWifiControl))
  | .updateWifiApiToken token => discard (callDevice (·.updateWifiApiToken token))
  | .setWifiDeliveryMode deliveryMode => discard (callDevice (·.setWifiDeliveryMode deliveryMode))
  | .init => discard Device.init
  | .available => Device.available
  | .requestBatteryUpdate => liftTw tinyWiimoteRequestBatteryUpdate
  | .setLeds ledMask => discard (Device.setLeds ledMask)
  | .setReportingMode mode continuous => discard (Device.setReportingMode mode continuous)
  | .setAccelerometerEnabled enabled => discard (Device.setAccelerometerEnabled enabled)
  | .requestStatus => discard (liftTw tinyWiimoteRequestStatus)
  | .writeMemory addressSpace offset data len =>
    discard (liftTw (tinyWiimoteWriteMemory addressSpace offset data len))
  | .readMemory addressSpace offset size =>
    discard (liftTw (tinyWiimoteReadMemory addressSpace offset size))
  | .setScanEnabled enabled => liftTw (tinyWiimoteSetScanEnabled enabled)
  | .startDiscovery => discard (liftTw tinyWiimoteStartDiscovery)
  | .stopDiscovery => discard (liftTw tinyWiimoteStopDiscovery)
  | .disconnectActiveController reason => discard (liftTw (tinyWiimoteDisconnect reason))
  | .setAutoReconnectEnabled enabled => Device.setAutoReconnectEnabled enabled
  | .clearReconnectCache => liftTw tinyWiimoteClearReconnectCache
  | .enableSerialControl enabled => modifyDevice (·.enableSerialControl enabled)
  | .setLogLevel level => wiimoteSetLogLevel level
  | .addFilter filter => Device.addFilter filter

/-- What can happen: a call from the program or from an HTTP handler, a task, the beginning or
the end of a dispatch (an injected server decides by itself when it dispatches), a received HCI
packet, the notice that the controller takes packets, and bytes on the serial line. -/
inductive Esp32Action
  | call (c : PublicCall)
  | task
  | dispatch (begins : Bool)
  | hciReceived (packet : HciQueueData)
  | sendAvailable
  | serialReceived (bytes : List UInt8)

/-- The action is a task. -/
def Esp32Action.isTask : Esp32Action → Bool
  | .task => true
  | _ => false

/-- `notifyHostRecv`: a packet without bytes, or before there is a queue, is dropped. -/
def notifyHostRecv (packet : HciQueueData) : Esp32M Unit :=
  modify fun w =>
    if packet.len = 0 then w
    else { w with rxQueue := w.rxQueue.map fun queue => queue ++ [packet] }

/-- The first time the controller can take packets the device is reset. -/
def notifyHostSendAvailable : Esp32M Unit := do
  let w ← get
  if w.hciEventContext.deviceInited then pure () else liftTw tinyWiimoteResetDevice

/-- What an action does. -/
def Esp32Action.run : Esp32Action → Esp32M Unit
  | .call c => c.run
  | .task => Device.task
  | .dispatch begins => modify (·.mapWifi (·.setDispatching begins))
  | .hciReceived packet => notifyHostRecv packet
  | .sendAvailable => notifyHostSendAvailable
  | .serialReceived bytes => modify fun w => { w with serialIn := w.serialIn ++ bytes }

/-- An action with what the platform answers while it is taken. -/
structure Esp32Event where
  action : Esp32Action
  platform : Platform := {}

namespace Esp32World

/-- The world as a step finds it. -/
def enter (w : Esp32World) (platform : Platform) : Esp32World :=
  { w with platform, tw := { w.tw with millis := platform.millis, sent := [], reads := [] } }

/-- One action, with the answers of the platform to it. -/
def step (w : Esp32World) (e : Esp32Event) : Esp32World :=
  (exec e.action.run (w.enter e.platform)).2

/-- The world with a device just constructed, whichever text of its network was copied first. -/
def construct (config : ESP32WiimoteConfig) (order : CopyOrder := .ssidFirst) : Esp32World :=
  { device := .construct config order }

/-- The order of the copies does not show in the world a run starts from. -/
theorem construct_order (config : ESP32WiimoteConfig) (order : CopyOrder) :
    construct config order = construct config := by
  rw [construct, ESP32Wiimote.construct_order]
  rfl

end Esp32World

end Esp32Wiimote.Device
