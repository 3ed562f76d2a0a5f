import Esp32Wiimote.Bluetooth.RuntimeState

/-!
# HCI events

The handlers of `hci_events.cpp`. The two callbacks the context points to are a
parameter, since they are functions of the module above. No time provider is ever
installed, so `nowMs` is the millisecond clock.
-/

namespace Esp32Wiimote.Bluetooth

open StateProgram

/-- The functions `onAclConnected` and `onDisconnected` point to when they are set. -/
structure HciCallbacks where
  onAclConnected : UInt16 → TwM Unit
  onDisconnected : UInt16 → UInt8 → TwM Unit

/-- How long the reconnect cache is good for at first: three minutes. -/
def kFastReconnectTtlMs : UInt32 := 3 * 60 * 1000

/-! ## Scanned devices -/

namespace ScannedDevices

/-- The first device of the list with this address. -/
def findScannedDevice (devices : ScannedDevices) (bdAddr : BdAddrT) : Option HciScannedDevice :=
  devices.entries.find? (·.bdAddr == bdAddr)

/-- `none` when the list is full. -/
def addScannedDevice (devices : ScannedDevices) (scanned : HciScannedDevice) :
    Option ScannedDevices :=
  if h : devices.entries.length < kHciScannedDeviceListSize then
    some ⟨devices.entries ++ [scanned], by rw [List.length_append]; exact h⟩
  else none

end ScannedDevices

/-- Empties the list of scanned devices. -/
def clearScannedDevices : TwM Unit :=
  modifyContext fun ctx => { ctx with scannedDevices := .empty }

/-! ## Sending commands -/

/-- Hands a packet to the send callback, if one is set. -/
def hciSend (packet : List UInt8) : TwM Unit := do
  let ctx ← getContext
  if ctx.sendPacket then sendHciPacketRaw packet

/-- The time provider's clock. -/
def nowMs : TwM UInt32 := do
  let w ← get
  return w.millis

/-- What follows the clock runs with the time of the world. -/
@[simp] theorem exec_nowMs_bind {α : Type} (f : UInt32 → TwM α) (w : TwWorld) :
    exec (nowMs >>= f) w = exec (f w.millis) w := rfl

/-- The cache holds an address, and it was stored within the time to live. -/
def HciEventContext.isFastReconnectCacheValid (ctx : HciEventContext) (nowMs : UInt32) : Bool :=
  if !ctx.hasLastWiimote then false
  else if ctx.fastReconnectTtlMs = 0 then false
  else decide (nowMs - ctx.lastWiimoteSeenMs ≤ ctx.fastReconnectTtlMs)

/-- Empties the list and sends an Inquiry. -/
def startInquiry : TwM Unit := do
  clearScannedDevices
  hciSend (makeCmdInquiry ⟨0x9E8B33, 0x05, 0x00⟩)

/-- Sends the Create Connection and notes its target. -/
def startCreateConnection (target : HciScannedDevice) (isFastReconnect : Bool) : TwM Unit := do
  hciSend (makeCmdCreateConnection ⟨target.bdAddr, 0x0008, target.psrm, target.clkofs, 0x00⟩)
  modifyContext fun ctx =>
    { ctx with
      currentConnectTarget := target
      hasCurrentConnectTarget := true
      pendingFastReconnect := isFastReconnect }

/-- A fast reconnect that failed turns into an inquiry. -/
def fallbackFromFastReconnectToInquiry : TwM Unit := do
  let ctx ← getContext
  if ctx.pendingFastReconnect then
    modifyContext fun ctx => { ctx with pendingFastReconnect := false }
    startInquiry

/-! ## Set-up -/

/-- The context is zeroed first. -/
def hciEventsInit : TwM Unit :=
  modifyContext fun _ =>
    { sendPacket := true
      fastReconnectTtlMs := kFastReconnectTtlMs
      scanningEnabled := false
      autoReconnectEnabled := true }

/-- Notes that the callbacks are set. -/
def hciEventsSetCallbacks : TwM Unit :=
  modifyContext fun ctx => { ctx with onAclConnected := true, onDisconnected := true }

/-- Sets the time to live of the reconnect cache. -/
def hciEventsSetFastReconnectTtlMs (ttlMs : UInt32) : TwM Unit :=
  modifyContext fun ctx => { ctx with fastReconnectTtlMs := ttlMs }

/-- Empties the list, clears the scanning flag and sends a Reset. -/
def hciEventsResetDevice : TwM Unit := do
  clearScannedDevices
  modifyContext fun ctx => { ctx with scanningEnabled := false }
  hciSend makeCmdReset

/-! ## Command replies -/

/-- The local name, with its terminator. -/
def kName : List UInt8 := "ESP32-BT-L2CAP".toList.map (fun c => c.toNat.toUInt8) ++ [0]

/-- Look for a controller: the cached one if it may still be there, else any. -/
def startConnecting : TwM Unit := do
  let ctx ← getContext
  let now ← nowMs
  if ctx.autoReconnectEnabled && ctx.isFastReconnectCacheValid now then
    startCreateConnection ctx.lastWiimote true
  else
    startInquiry

/-- Whether the reply to Write Scan Enable starts to look for a controller. -/
def HciEventContext.connectsOnScanEnable (ctx : HciEventContext) : Bool :=
  ctx.scanningEnabled || !ctx.deviceInited

/-- The branch of Write Scan Enable in `handleCommandComplete`. -/
def writeScanEnableCompleted : TwM Unit := do
  let ctx ← getContext
  if ctx.connectsOnScanEnable then
    startConnecting
    modifyContext fun ctx => { ctx with deviceInited := true }
  else
    modifyContext fun ctx => { ctx with deviceInited := true }

/-- The next command of the start sequence, after the reply to `cmdOpcode`. -/
def commandCompleted (cmdOpcode : UInt16) (status : UInt8) : TwM Unit :=
  if status ≠ 0x00 then
    pure ()
  else if cmdOpcode = kHciOpcodeReset then
    hciSend makeCmdReadBdAddr
  else if cmdOpcode = kHciOpcodeReadBdAddr then
    hciSend (makeCmdWriteLocalName kName)
  else if cmdOpcode = kHciOpcodeWriteLocalName then
    hciSend (makeCmdWriteClassOfDevice 0x04 0x05 0x00)
  else if cmdOpcode = kHciOpcodeWriteClassOfDevice then do
    modifyContext fun ctx => { ctx with scanningEnabled := true }
    hciSend (makeCmdWriteScanEnable 3)
  else if cmdOpcode = kHciOpcodeWriteScanEnable then
    writeScanEnableCompleted
  else
    pure ()

/-- `handleCommandComplete` reads opcode and status behind the number of packets. -/
def handleCommandComplete (data : BytePtr) : TwM Unit := do
  let cmdOpcode ← readUInt16Le (data + 1)
  let status ← readByte data 3
  commandCompleted cmdOpcode status

/-- `handleCommandStatus` looks at a refused Create Connection only. -/
def handleCommandStatus (data : BytePtr) : TwM Unit := do
  let status ← readByte data 0
  let _numHciCommandPackets ← readByte data 1
  let cmdOpcode ← readUInt16Le (data + 2)
  if status ≠ 0x00 ∧ cmdOpcode = kHciOpcodeCreateConnection then
    fallbackFromFastReconnectToInquiry

/-! ## Inquiry -/

/-- The end of an inquiry resets the controller. -/
def handleInquiryComplete : TwM Unit := hciEventsResetDevice

/-- Compare with known bytes one by one, and stop at the first that differs. -/
def readMatches (p : BytePtr) : List UInt8 → TwM Bool
  | [] => return true
  | expected :: rest => do
    let byte ← readByte p 0
    if byte = expected then readMatches (p + 1) rest else return false

/-- How many bytes the comparison reads. -/
def BytePtr.compared (p : BytePtr) : List UInt8 → Nat
  | [] => 0
  | expected :: rest => if p.at 0 = expected then (p + 1).compared rest + 1 else 1

/-- A comparison reads no further than the text it compares with. -/
theorem BytePtr.compared_le (p : BytePtr) (expected : List UInt8) :
    p.compared expected ≤ expected.length := by
  induction expected generalizing p with
  | nil => exact Nat.le_refl _
  | cons byte rest ih =>
    have hrest := ih (p + 1)
    simp only [BytePtr.compared, List.length_cons]
    split <;> omega

/-- The comparison answers whether the bytes start with the text, and notes the bytes it read. -/
@[simp] theorem exec_readMatches (p : BytePtr) (expected : List UInt8) (w : TwWorld) :
    exec (readMatches p expected) w =
      (p.startsWith expected, w.noteReads ((List.range (p.compared expected)).map (p.off + ·))) := by
  induction expected generalizing p w with
  | nil => simp [readMatches, BytePtr.startsWith, BytePtr.compared]
  | cons byte rest ih =>
    simp only [readMatches, exec_readByte_bind, exec_ite, exec_pure, BytePtr.startsWith,
      BytePtr.compared]
    by_cases h : p.at 0 = byte
    · simp [h, ih, List.range_succ_eq_map, Function.comp_def, Nat.add_assoc, Nat.add_comm 1]
    · simp [h]

/-- The class of device of a Wiimote. -/
def wiimoteClassOfDevice : List UInt8 := [0x04, 0x25, 0x00]

/-- Bit 15 of the clock offset is set. -/
def clockOffset (high low : UInt8) : UInt16 := ((0x80 ||| high.toUInt16) <<< 8) ||| low.toUInt16

/-- The device described by the response at `p`. -/
def BytePtr.scannedAt (p : BytePtr) : HciScannedDevice :=
  ⟨p.bdAddrAt, p.at 6, clockOffset (p.at 12) (p.at 13)⟩

/-- The size of one inquiry response. -/
def inquiryResponseSize : Nat := 6 + 1 + 2 + 3 + 2

/-- Response `i` of an inquiry result. -/
def inquiryResponse (data : BytePtr) (i : Nat) : BytePtr := data + (1 + inquiryResponseSize * i)

/-- One response: note the device, and ask a new Wiimote for its name. -/
def handleInquiryResponse (response : BytePtr) : TwM Unit := do
  let bdAddr ← streamToBdAddr response
  let ctx ← getContext
  if (ctx.scannedDevices.findScannedDevice bdAddr).isSome then
    pure ()
  else
    let psrm ← readByte response 6
    let clockHigh ← readByte response 12
    let clockLow ← readByte response 13
    let scanned : HciScannedDevice := ⟨bdAddr, psrm, clockOffset clockHigh clockLow⟩
    match ctx.scannedDevices.addScannedDevice scanned with
    | none => pure ()
    | some devices =>
      modifyContext fun ctx => { ctx with scannedDevices := devices }
      let isWiimote ← readMatches (response + 9) wiimoteClassOfDevice
      if isWiimote then
        hciSend (makeCmdRemoteNameRequest ⟨scanned.bdAddr, scanned.psrm, scanned.clkofs⟩)

/-- The first `num` responses, in order. -/
def handleInquiryResponses (data : BytePtr) : Nat → TwM Unit
  | 0 => pure ()
  | num + 1 => do
    handleInquiryResponses data num
    handleInquiryResponse (inquiryResponse data num)

/-- `handleInquiryResult` takes the responses one after the other. -/
def handleInquiryResult (data : BytePtr) : TwM Unit := do
  let num ← readByte data 0
  handleInquiryResponses data num.toNat

/-! ## Remote name -/

/-- The text of a `%s` argument, read up to its NUL but not further than `bound` bytes. -/
def readCString (p : BytePtr) : Nat → TwM Unit
  | 0 => pure ()
  | bound + 1 => do
    let byte ← readByte p 0
    if byte ≠ 0 then readCString (p + 1) bound

/-- How many bytes the scan for the NUL reads. -/
def BytePtr.scanned (p : BytePtr) : Nat → Nat
  | 0 => 0
  | bound + 1 => if p.at 0 ≠ 0 then (p + 1).scanned bound + 1 else 1

/-- Reading a text notes the bytes up to its end. -/
theorem exec_readCString (p : BytePtr) (bound : Nat) (w : TwWorld) :
    exec (readCString p bound) w =
      ((), w.noteReads ((List.range (p.scanned bound)).map (p.off + ·))) := by
  induction bound generalizing p w with
  | zero => simp [readCString, BytePtr.scanned]
  | succ bound ih =>
    simp only [readCString, exec_readByte_bind, exec_ite, exec_pure, BytePtr.scanned]
    by_cases h : p.at 0 = 0
    · simp [h]
    · simp [h, ih, List.range_succ_eq_map, Function.comp_def, Nat.add_assoc, Nat.add_comm 1]

/-- The name of a Wiimote, with its terminator. -/
def wiimoteName : List UInt8 := "Nintendo RVL-CNT-01".toList.map (fun c => c.toNat.toUInt8) ++ [0]

/-- At debug level the name is logged. What lies more than one byte past the received packet
is not followed: nothing is known of the memory there. -/
def logRemoteName (name : BytePtr) : TwM Unit := do
  let w ← get
  if kWiimoteLogDebug ≤ w.logLevel then readCString name (name.len + 1 - name.off)

/-- How many bytes of the name are read to log it. -/
def BytePtr.logged (name : BytePtr) (logLevel : UInt8) : Nat :=
  if kWiimoteLogDebug ≤ logLevel then name.scanned (name.len + 1 - name.off) else 0

/-- The log line reads the name only where the log level prints it. -/
@[simp] theorem exec_logRemoteName (name : BytePtr) (w : TwWorld) :
    exec (logRemoteName name) w =
      ((), w.noteReads ((List.range (name.logged w.logLevel)).map (name.off + ·))) := by
  simp only [logRemoteName, exec_get_bind, exec_ite, exec_readCString, exec_pure, BytePtr.logged]
  split <;> simp

/-- `handleRemoteNameRequestComplete` connects to a listed device whose name is the Wiimote's. -/
def handleRemoteNameRequestComplete (data : BytePtr) : TwM Unit := do
  let bdAddr ← streamToBdAddr (data + 1)
  let name := data + 7
  logRemoteName name
  let ctx ← getContext
  match ctx.scannedDevices.findScannedDevice bdAddr with
  | none => pure ()
  | some scanned =>
    let isWiimote ← readMatches name wiimoteName
    if isWiimote then
      hciSend makeCmdInquiryCancel
      startCreateConnection scanned false

/-! ## Connections -/

/-- Remember the controller that is now connected. -/
def HciEventContext.cacheConnectTarget (ctx : HciEventContext) (nowMs : UInt32) :
    HciEventContext :=
  if ctx.hasCurrentConnectTarget then
    -- the entry of another controller is dropped first; every field of it is set again here
    { ctx with
      lastWiimote := ctx.currentConnectTarget
      lastWiimoteSeenMs := nowMs
      hasLastWiimote := true }
  else ctx

/-- `handleConnectionComplete` caches the target and reports the link, or falls back. -/
def handleConnectionComplete (callbacks : HciCallbacks) (data : BytePtr) : TwM Unit := do
  let status ← readByte data 0
  if status ≠ 0x00 then
    fallbackFromFastReconnectToInquiry
  else
    let connectionHandle ← readUInt16Le (data + 1)
    let now ← nowMs
    modifyContext fun ctx => { ctx.cacheConnectTarget now with pendingFastReconnect := false }
    let ctx ← getContext
    if ctx.onAclConnected then callbacks.onAclConnected connectionHandle

/-- `handleDisconnectionComplete` hands handle and reason to the callback. -/
def handleDisconnectionComplete (callbacks : HciCallbacks) (data : BytePtr) : TwM Unit := do
  let connectionHandle ← readUInt16Le (data + 1)
  let reason ← readByte data 3
  let ctx ← getContext
  if ctx.onDisconnected then callbacks.onDisconnected connectionHandle reason

/-! ## Dispatch -/

/-- An event as `handleHciData` hands it on: its code and its parameters. -/
structure HciEventPacket where
  eventCode : UInt8
  len : UInt8
  data : BytePtr

/-- The declared length is not looked at. -/
def hciEventsHandleEvent (callbacks : HciCallbacks) (packet : HciEventPacket) : TwM Unit :=
  if packet.eventCode = kHciInquiryCompEvt then
    handleInquiryComplete
  else if packet.eventCode = kHciInquiryResultEvt then
    handleInquiryResult packet.data
  else if packet.eventCode = kHciConnectionCompEvt then
    handleConnectionComplete callbacks packet.data
  else if packet.eventCode = kHciDisconnectionCompEvt then
    handleDisconnectionComplete callbacks packet.data
  else if packet.eventCode = kHciRmtNameRequestCompEvt then
    handleRemoteNameRequestComplete packet.data
  else if packet.eventCode = kHciCommandCompleteEvt then
    handleCommandComplete packet.data
  else if packet.eventCode = kHciCommandStatusEvt then
    handleCommandStatus packet.data
  else
    pure ()

end Esp32Wiimote.Bluetooth
