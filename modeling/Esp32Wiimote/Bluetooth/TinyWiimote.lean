import Esp32Wiimote.Bluetooth.HciEvents
import Esp32Wiimote.Bluetooth.Wiimote

/-!
# The Bluetooth runtime as a transition system

`handleHciData` and the public `tinyWiimote*` calls. An event of the system is a received
packet or a call, taken at some time and log level; a step starts with empty records of
sent packets and of packet reads, so after it they hold what this step did.
-/

namespace Esp32Wiimote.Bluetooth

open StateProgram

/-! ## Callbacks of the HCI layer -/

/-- A new link asks for the HID interrupt channel. -/
def onAclConnected (connectionHandle : UInt16) : TwM Unit :=
  L2capSignaling.sendConnectionRequest connectionHandle l2capPsmHidInterrupt 0x0045

/-- Empties the connection table, resets the controller and wires protocol and extensions anew. -/
def resetDeviceInternal : TwM Unit := do
  modifyRuntime fun r => { r with l2capConnections := .empty }
  hciEventsResetDevice
  modifyRuntime fun r =>
    { r with
      wiimoteProtocol := { connections := true, sender := true }
      wiimoteExtensions :=
        { controllerReportState := .init, state := true, connections := true, sender := true } }

/-- The end of a link resets the controller's state and the device. -/
def onDisconnected (_connectionHandle : UInt16) (_reason : UInt8) : TwM Unit := do
  modifyWiimoteState (·.reset)
  resetDeviceInternal

/-- The callbacks `TinyWiimoteInit` sets. -/
def callbacks : HciCallbacks := ⟨onAclConnected, onDisconnected⟩

/-! ## Received packets -/

/-- The link and the channel of a frame. -/
structure L2capFrameHeader where
  connectionHandle : UInt16
  channelId : UInt16

/-- The first byte of an input report. -/
def hidInputReport : UInt8 := 0xA1

/-- The first input report of a link marks the controller as connected. -/
def detectWiimote (ch : UInt16) : TwM Unit := do
  let r ← getRuntime
  if r.wiimoteState.wiimoteConnected then
    pure ()
  else
    r.wiimoteProtocol.setLeds ch ⟨0b0001⟩
    r.wiimoteProtocol.requestStatus ch
    modifyWiimoteState fun state => { state with wiimoteConnected := true }
    modifyContext fun ctx => { ctx with scanningEnabled := false }
    if r.wiimoteState.useAccelerometer then
      r.wiimoteProtocol.setReportingMode ch ⟨0x31, false⟩

/-- The debug text names the report type. -/
def logInputReport (data : BytePtr) (len : UInt16) : TwM Unit :=
  if 1 < len then discard (readByte data 1) else pure ()

/-- An input report is looked at for a new link, for the handshake, and queued. -/
def handleInputReport (ch : UInt16) (data : BytePtr) (len : UInt16) : TwM Unit := do
  logInputReport data len
  detectWiimote ch
  WiimoteExtensions.handleReport ch data len
  putReport 0 data len.toUInt8

/-- The channel of the frame is not looked at. -/
def handleL2capData (header : L2capFrameHeader) (data : BytePtr) (len : UInt16) : TwM Unit := do
  let ch := header.connectionHandle
  if len = 0 then
    pure ()
  else
    let code ← readByte data 0
    if code = codeConnectionResponse then
      if len < 12 then pure () else L2capSignaling.handleConnectionResponse ch data len
    else if code = codeConfigurationRequest then
      if len < 12 then pure () else L2capSignaling.handleConfigurationRequest ch data len
    else if code = codeConfigurationResponse then
      L2capSignaling.handleConfigurationResponse data len
    else if code = hidInputReport then
      handleInputReport ch data len
    else
      format2Hex data len.toNat

/-- The header of an ACL packet is decoded and its frame handed on. -/
def handleAclData (data : BytePtr) (len : Nat) : TwM Unit := do
  if len < 8 then
    pure ()
  else
    let high ← readByte data 1
    let low ← readByte data 0
    let ch := ((high &&& 0x0F).toUInt16 <<< 8) ||| low.toUInt16
    let pbf := (high &&& 0x30) >>> 4
    let bf := (high &&& 0xC0) >>> 6
    if pbf ≠ 0b10 ∨ bf ≠ 0b00 then
      pure ()
    else
      let l2capLen ← readUInt16Le (data + 4)
      let channelId ← readUInt16Le (data + 6)
      if len < 8 + l2capLen.toNat then
        pure ()
      else
        handleL2capData ⟨ch, channelId⟩ (data + 8) l2capLen

/-- An event whose declared length fits the packet is dispatched. -/
def handleHciEvent (data : BytePtr) : TwM Unit := do
  if data.len < 3 then
    pure ()
  else
    let declared ← readByte data 2
    if data.len < 3 + declared.toNat then
      pure ()
    else
      let eventCode ← readByte data 1
      hciEventsHandleEvent callbacks ⟨eventCode, declared, data + 3⟩

/-- `none` is a null pointer. -/
def handleHciData (data : Option (Nat → UInt8)) (len : Nat) : TwM Unit :=
  match data with
  | none => pure ()
  | some mem => do
    let data : BytePtr := { mem, len }
    if len = 0 then
      pure ()
    else
      let type ← readByte data 0
      if type = h4Event then
        handleHciEvent data
      else if type = h4Acl then
        if 2 ≤ len then handleAclData (data + 1) (len - 1)
      else
        format2Hex data (len % 65536)

/-! ## Public calls -/

/-- The public reset, after which the device counts as initialised. -/
def tinyWiimoteResetDevice : TwM Unit := do
  resetDeviceInternal
  modifyContext fun ctx => { ctx with deviceInited := true }

/-- A report is sent on the first connection, and only while a controller is connected. -/
def sendOnFirstConnection (send : WiimoteProtocol → UInt16 → TwM Unit) : TwM Bool := do
  let r ← getRuntime
  if !r.wiimoteState.wiimoteConnected then
    return false
  else
    match r.l2capConnections.getFirstConnectionHandle with
    | none => return false
    | some ch =>
      send r.wiimoteProtocol ch
      return true

/-- Asks for a status report and answers nothing. -/
def tinyWiimoteRequestBatteryUpdate : TwM Unit :=
  discard (sendOnFirstConnection fun protocol ch => protocol.requestStatus ch)

/-- Sets the LEDs of the first controller. -/
def tinyWiimoteSetLeds (ledMask : UInt8) : TwM Bool :=
  sendOnFirstConnection fun protocol ch => protocol.setLeds ch ⟨ledMask⟩

/-- Sets the reporting mode of the first controller. -/
def tinyWiimoteSetReportingMode (mode : UInt8) (continuous : Bool) : TwM Bool :=
  sendOnFirstConnection fun protocol ch => protocol.setReportingMode ch ⟨mode, continuous⟩

/-- Asks the first controller for a status report. -/
def tinyWiimoteRequestStatus : TwM Bool :=
  sendOnFirstConnection fun protocol ch => protocol.requestStatus ch

/-- Writes to the memory of the first controller. -/
def tinyWiimoteWriteMemory (addressSpace : UInt8) (offset : UInt32) (data : Nat → UInt8)
    (len : UInt8) : TwM Bool :=
  sendOnFirstConnection fun protocol ch => protocol.writeMemory ch addressSpace offset data len

/-- Reads the memory of the first controller. -/
def tinyWiimoteReadMemory (addressSpace : UInt8) (offset : UInt32) (size : UInt16) : TwM Bool :=
  sendOnFirstConnection fun protocol ch => protocol.readMemory ch addressSpace offset size

/-- How many reports are queued. -/
def tinyWiimoteAvailable : TwM Nat := do
  let r ← getRuntime
  return r.wiimoteReports.available

/-- Takes the oldest report out of the queue. -/
def tinyWiimoteRead : TwM TinyWiimoteData := do
  let r ← getRuntime
  modifyRuntime fun r => { r with wiimoteReports := r.wiimoteReports.read.2 }
  return r.wiimoteReports.read.1

/-- Sets the interface and starts every part of the runtime anew. -/
def tinyWiimoteInit (hciInterface : TwHciInterface) : TwM Unit := do
  modifyRuntime fun r =>
    { r with
      hciInterface
      wiimoteState := r.wiimoteState.reset
      wiimoteReports := r.wiimoteReports.clear
      packetSender := true
      l2capConnections := .empty
      l2capSignaling := { connections := true, sender := true }
      wiimoteProtocol := { connections := true, sender := true }
      wiimoteExtensions :=
        { controllerReportState := .init, state := true, connections := true, sender := true } }
  hciEventsInit
  hciEventsSetCallbacks

/-- Whether the reporting modes carry the accelerometer. -/
def tinyWiimoteReqAccelerometer (use : Bool) : TwM Unit :=
  modifyWiimoteState fun state => { state with useAccelerometer := use }

/-- Sets the time to live of the reconnect cache. -/
def tinyWiimoteSetFastReconnectTtlMs (ttlMs : UInt32) : TwM Unit :=
  hciEventsSetFastReconnectTtlMs ttlMs

/-- While no controller is connected, a call that changes nothing is rejected. -/
def tinyWiimoteSetScanEnabled (enabled : Bool) : TwM Unit := do
  let r ← getRuntime
  if !r.hciEventContext.deviceInited then
    pure ()
  else if !r.wiimoteState.wiimoteConnected && enabled == r.hciEventContext.scanningEnabled then
    pure ()
  else
    sendHciPacketRaw (makeCmdWriteScanEnable (if enabled then 0x02 else 0x00))
    modifyContext fun ctx => { ctx with scanningEnabled := enabled }

/-- Refused before the device is initialised, while connected and while scanning. -/
def tinyWiimoteStartDiscovery : TwM Bool := do
  let r ← getRuntime
  if !r.hciEventContext.deviceInited then
    return false
  else if r.wiimoteState.wiimoteConnected then
    return false
  else if r.hciEventContext.scanningEnabled then
    return false
  else
    sendHciPacketRaw (makeCmdInquiry ⟨0x9E8B33, 0x08, 0xFF⟩)
    modifyContext fun ctx => { ctx with scanningEnabled := true }
    return true

/-- Refused before the device is initialised, while connected and while not scanning. -/
def tinyWiimoteStopDiscovery : TwM Bool := do
  let r ← getRuntime
  if !r.hciEventContext.deviceInited then
    return false
  else if r.wiimoteState.wiimoteConnected then
    return false
  else if !r.hciEventContext.scanningEnabled then
    return false
  else
    sendHciPacketRaw makeCmdInquiryCancel
    modifyContext fun ctx => { ctx with scanningEnabled := false }
    return true

/-- Refused before the device is initialised and without a connection. -/
def tinyWiimoteDisconnect (reason : UInt8) : TwM Bool := do
  let r ← getRuntime
  if !r.hciEventContext.deviceInited then
    return false
  else if !r.wiimoteState.wiimoteConnected then
    return false
  else
    match r.l2capConnections.getFirstConnectionHandle with
    | none => return false
    | some connectionHandle =>
      sendHciPacketRaw (makeCmdDisconnect connectionHandle reason)
      return true

/-- Ignored before the device is initialised. -/
def tinyWiimoteSetAutoReconnectEnabled (enabled : Bool) : TwM Unit := do
  let r ← getRuntime
  if !r.hciEventContext.deviceInited then
    pure ()
  else
    modifyContext fun ctx => { ctx with autoReconnectEnabled := enabled }

/-- Ignored before the device is initialised. -/
def tinyWiimoteClearReconnectCache : TwM Unit := do
  let r ← getRuntime
  if !r.hciEventContext.deviceInited then
    pure ()
  else
    modifyContext fun ctx =>
      { ctx with hasLastWiimote := false, lastWiimote := {}, pendingFastReconnect := false }

/-- `tinyWiimoteIsConnected`. -/
def TwWorld.isConnected (w : TwWorld) : Bool := w.gRuntime.wiimoteState.wiimoteConnected

/-! ## The transition system -/

/-- A public call that can change the state, with its arguments. -/
inductive TwCall where
  | init (hciInterface : TwHciInterface)
  | resetDevice
  | requestBatteryUpdate
  | setLeds (ledMask : UInt8)
  | setReportingMode (mode : UInt8) (continuous : Bool)
  | requestStatus
  | writeMemory (addressSpace : UInt8) (offset : UInt32) (data : Nat → UInt8) (len : UInt8)
  | readMemory (addressSpace : UInt8) (offset : UInt32) (size : UInt16)
  | read
  | reqAccelerometer (use : Bool)
  | setFastReconnectTtlMs (ttlMs : UInt32)
  | setScanEnabled (enabled : Bool)
  | startDiscovery
  | stopDiscovery
  | disconnect (reason : UInt8)
  | setAutoReconnectEnabled (enabled : Bool)
  | clearReconnectCache

/-- The function a call stands for. -/
def TwCall.run : TwCall → TwM Unit
  | .init hciInterface => tinyWiimoteInit hciInterface
  | .resetDevice => tinyWiimoteResetDevice
  | .requestBatteryUpdate => tinyWiimoteRequestBatteryUpdate
  | .setLeds ledMask => discard (tinyWiimoteSetLeds ledMask)
  | .setReportingMode mode continuous => discard (tinyWiimoteSetReportingMode mode continuous)
  | .requestStatus => discard tinyWiimoteRequestStatus
  | .writeMemory addressSpace offset data len =>
    discard (tinyWiimoteWriteMemory addressSpace offset data len)
  | .readMemory addressSpace offset size => discard (tinyWiimoteReadMemory addressSpace offset size)
  | .read => discard tinyWiimoteRead
  | .reqAccelerometer use => tinyWiimoteReqAccelerometer use
  | .setFastReconnectTtlMs ttlMs => tinyWiimoteSetFastReconnectTtlMs ttlMs
  | .setScanEnabled enabled => tinyWiimoteSetScanEnabled enabled
  | .startDiscovery => discard tinyWiimoteStartDiscovery
  | .stopDiscovery => discard tinyWiimoteStopDiscovery
  | .disconnect reason => discard (tinyWiimoteDisconnect reason)
  | .setAutoReconnectEnabled enabled => tinyWiimoteSetAutoReconnectEnabled enabled
  | .clearReconnectCache => tinyWiimoteClearReconnectCache

/-- A packet from the controller, or a call of the application. -/
inductive TwAction where
  | hci (data : Option (Nat → UInt8)) (len : Nat)
  | call (c : TwCall)

/-- What an action does. -/
def TwAction.run : TwAction → TwM Unit
  | .hci data len => handleHciData data len
  | .call c => c.run

/-- An action with the time and the log level at which it is taken. -/
structure TwEvent where
  action : TwAction
  millis : UInt32
  logLevel : UInt8

/-- The world as a step finds it: nothing sent or read yet. -/
def TwWorld.enter (w : TwWorld) (e : TwEvent) : TwWorld :=
  { w with millis := e.millis, logLevel := e.logLevel, sent := [], reads := [] }

/-- One action, from a world that has sent and read nothing yet. -/
def TwWorld.step (w : TwWorld) (e : TwEvent) : TwWorld := (exec e.action.run (w.enter e)).2

/-- The packet of these bytes, with zeroes behind it in memory. -/
def TwAction.received (bytes : List UInt8) : TwAction :=
  .hci (some fun i => bytes.getD i 0) bytes.length

/-- The world `tinyWiimoteInit` leaves, from any earlier one. -/
def TwWorld.afterInit (w : TwWorld) (hciInterface : TwHciInterface) : TwWorld :=
  (exec (tinyWiimoteInit hciInterface) w).2

end Esp32Wiimote.Bluetooth
