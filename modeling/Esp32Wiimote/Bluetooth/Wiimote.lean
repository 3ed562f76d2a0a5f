import Esp32Wiimote.Bluetooth.L2cap

/-!
# Wiimote output reports, state, report queue and extension handshake

The classes under `protocol/`. `WiimoteProtocol` sends output reports, `WiimoteState`
holds what is known of the controller, `WiimoteReports` queues input reports, and
`WiimoteExtensions` walks through the extension handshake.
-/

namespace Esp32Wiimote.Bluetooth

open StateProgram

/-! ## Output reports -/

/-- The first byte of an output report, the numbers of the five reports and the size of a memory
block. -/
def kHidOutputReport : UInt8 := 0xA2
def kWiimoteRptSetLeds : UInt8 := 0x11
def kWiimoteRptSetReportingMode : UInt8 := 0x12
def kWiimoteRptRequestStatus : UInt8 := 0x15
def kWiimoteRptWriteMemory : UInt8 := 0x16
def kWiimoteRptReadMemory : UInt8 := 0x17
def kEepromDataSize : Nat := 16

/-- The address spaces are bytes: the public calls cast any byte to one. -/
abbrev WiimoteAddressSpace := UInt8

/-- The address space of the control registers. -/
def addressSpaceControlRegister : WiimoteAddressSpace := 0x04

/-- The LEDs to be lit. -/
structure WiimoteLedCommand where
  leds : UInt8

/-- The reporting mode to be set. -/
structure WiimoteReportingModeCommand where
  mode : UInt8
  continuous : Bool

namespace WiimoteProtocol

/-- Send a report on the channel of the connection, if the table knows one. -/
def sendReport (protocol : WiimoteProtocol) (ch : UInt16) (pb : PayloadBuilder payloadSize) :
    TwM Unit := do
  let r ← getRuntime
  if !(protocol.connections && protocol.sender) then
    pure ()
  else
    match r.l2capConnections.getRemoteCid ch with
    | none => pure ()
    | some remoteCID => sendAclL2capPacket ch remoteCID pb.bytes

/-- The LEDs are the upper four bits of the report's byte. -/
def setLeds (protocol : WiimoteProtocol) (ch : UInt16) (command : WiimoteLedCommand) : TwM Unit :=
  let pb : PayloadBuilder payloadSize := .empty
  let pb := pb.append kHidOutputReport
  let pb := pb.append kWiimoteRptSetLeds
  let pb := pb.append (command.leds <<< 4)
  protocol.sendReport ch pb

/-- Report 0x12: the continuous flag and the mode. -/
def setReportingMode (protocol : WiimoteProtocol) (ch : UInt16)
    (command : WiimoteReportingModeCommand) : TwM Unit :=
  let pb : PayloadBuilder payloadSize := .empty
  let pb := pb.append kHidOutputReport
  let pb := pb.append kWiimoteRptSetReportingMode
  let pb := pb.append (if command.continuous then 0x04 else 0x00)
  let pb := pb.append command.mode
  protocol.sendReport ch pb

/-- Report 0x15. -/
def requestStatus (protocol : WiimoteProtocol) (ch : UInt16) : TwM Unit :=
  let pb : PayloadBuilder payloadSize := .empty
  let pb := pb.append kHidOutputReport
  let pb := pb.append kWiimoteRptRequestStatus
  let pb := pb.append 0x00
  protocol.sendReport ch pb

/-- At most one memory block. -/
def isValidMemorySize (size : UInt16) : Bool := size.toNat ≤ kEepromDataSize

/-- The data area is cleared, then the user's bytes are copied to its start. -/
def writeMemory (protocol : WiimoteProtocol) (ch : UInt16) (addressSpace : WiimoteAddressSpace)
    (offset : UInt32) (data : Nat → UInt8) (length : UInt8) : TwM Unit :=
  if isValidMemorySize length.toUInt16 then
    let pb : PayloadBuilder payloadSize := .empty
    let pb := pb.append kHidOutputReport
    let pb := pb.append kWiimoteRptWriteMemory
    let pb := pb.append addressSpace
    let pb := pb.appendU24BE offset
    let pb := pb.append length
    let pb := pb.reserveZeroed kEepromDataSize
    let pb := pb.overwrite (pb.bytes.length - kEepromDataSize) data length.toNat
    protocol.sendReport ch pb
  else pure ()

/-- Report 0x17, dropped for an invalid size. -/
def readMemory (protocol : WiimoteProtocol) (ch : UInt16) (addressSpace : WiimoteAddressSpace)
    (offset : UInt32) (size : UInt16) : TwM Unit :=
  if isValidMemorySize size then
    let pb : PayloadBuilder payloadSize := .empty
    let pb := pb.append kHidOutputReport
    let pb := pb.append kWiimoteRptReadMemory
    let pb := pb.append addressSpace
    let pb := pb.appendU24BE offset
    let pb := pb.appendU16BE size
    protocol.sendReport ch pb
  else pure ()

end WiimoteProtocol

/-! ## Controller state -/

namespace WiimoteState

/-- The accelerometer wish survives a reset. -/
def reset (state : WiimoteState) : WiimoteState :=
  { state with wiimoteConnected := false, nunchukConnected := false, batteryLevel := 0 }

/-- The raw value runs to 208; the level is a percentage. -/
def setBatteryLevel (state : WiimoteState) (level : UInt8) : WiimoteState :=
  { state with batteryLevel := if level > 208 then 100 else (level.toNat * 100 / 208).toUInt8 }

end WiimoteState

/-! ## Report queue -/

namespace WiimoteReports

/-- The stored reports stay in their slots. -/
def clear (reports : WiimoteReports) : WiimoteReports :=
  { reports with itemCount := ⟨0, Nat.succ_pos receivedDataMaxNum⟩
                 writeIndex := ⟨0, receivedDataMaxNum_pos⟩
                 readIndex := ⟨0, receivedDataMaxNum_pos⟩ }

/-- The next index of the ring. -/
def next (index : Fin receivedDataMaxNum) : Fin receivedDataMaxNum :=
  ⟨(index + 1) % receivedDataMaxNum, Nat.mod_lt _ (by decide)⟩

/-- How many bytes of a report are stored. -/
def boundedLen (len : UInt8) : Nat := min len.toNat receivedDataMaxLen

/-- Dropped when the queue is full. -/
def put (reports : WiimoteReports) (number : UInt8) (data : BytePtr) (len : UInt8) :
    WiimoteReports :=
  if h : reports.itemCount.val < receivedDataMaxNum then
    let slot := reports.reportBuffer[reports.writeIndex]
    let target : TinyWiimoteData :=
      { number
        data := .ofFn fun i => if i.val < boundedLen len then data.at i else slot.data[i]
        len := (boundedLen len).toUInt8 }
    { reports with
      reportBuffer := reports.reportBuffer.set reports.writeIndex target
      writeIndex := next reports.writeIndex
      itemCount := ⟨reports.itemCount + 1, Nat.succ_lt_succ h⟩ }
  else reports

/-- How many reports are queued. -/
def available (reports : WiimoteReports) : Nat := reports.itemCount

/-- An empty queue gives the zero report. -/
def read (reports : WiimoteReports) : TinyWiimoteData × WiimoteReports :=
  if reports.itemCount.val = 0 then ({}, reports)
  else
    (reports.reportBuffer[reports.readIndex],
      { reports with
        readIndex := next reports.readIndex
        itemCount := ⟨reports.itemCount - 1, by omega⟩ })

end WiimoteReports

/-- Queue a report; its bytes are read when there is room for them. -/
def putReport (number : UInt8) (data : BytePtr) (len : UInt8) : TwM Unit := do
  let r ← getRuntime
  if r.wiimoteReports.itemCount.val < receivedDataMaxNum then
    readBytes data (WiimoteReports.boundedLen len)
    modifyRuntime fun r => { r with wiimoteReports := r.wiimoteReports.put number data len }

/-! ## Extension handshake -/

namespace WiimoteExtensions

/-- Enters a phase. -/
def setState (state : ControllerReportState) : TwM Unit :=
  modifyRuntime fun r =>
    { r with wiimoteExtensions := { r.wiimoteExtensions with controllerReportState := state } }

/-- The protocol object `handleReport` sets up for itself. -/
def protocol (extensions : WiimoteExtensions) : WiimoteProtocol :=
  ⟨extensions.connections, extensions.sender⟩

/-- The mode of a controller without extension. -/
def setDefaultReportingMode (protocol : WiimoteProtocol) (ch : UInt16) : TwM Unit := do
  let r ← getRuntime
  protocol.setReportingMode ch ⟨if r.wiimoteState.useAccelerometer then 0x31 else 0x30, false⟩

/-- The mode of a controller with a Nunchuk. -/
def setNunchukReportingMode (protocol : WiimoteProtocol) (ch : UInt16) : TwM Unit := do
  let r ← getRuntime
  protocol.setReportingMode ch ⟨if r.wiimoteState.useAccelerometer then 0x35 else 0x32, false⟩

/-- A status report: note the battery, and start the handshake if an extension is attached. -/
def handleStatusReport (protocol : WiimoteProtocol) (ch : UInt16) (data : BytePtr) : TwM Unit := do
  let rawBattery ← readByte data 7
  modifyWiimoteState (·.setBatteryLevel rawBattery)
  let flags ← readByte data 4
  if flags &&& 0x02 ≠ 0 then
    protocol.writeMemory ch addressSpaceControlRegister 0xA400F0 (fun _ => 0x55) 1
    setState .waitAckOutReport
  else
    modifyWiimoteState fun state => { state with nunchukConnected := false }
    setDefaultReportingMode protocol ch

/-- Whether the report acknowledges report 0x16, and with which error. -/
def readWriteAck (data : BytePtr) (len : UInt16) : TwM (Option UInt8) := do
  if len < 6 then
    return none
  else
    let report ← readByte data 1
    if report ≠ 0x22 then
      return none
    else
      let acknowledged ← readByte data 4
      if acknowledged ≠ 0x16 then
        return none
      else
        return some (← readByte data 5)

/-- `memcmp` of `p[0]` to `p[n - 1]` with known bytes; it reads all of them. -/
def memcmpEqual (p : BytePtr) (expected : List UInt8) : TwM Bool := do
  readBytes p expected.length
  return p.startsWith expected

/-- The identifier of a Nunchuk. -/
def nunchukIdentifier : List UInt8 := [0x00, 0x00, 0xA4, 0x20, 0x00, 0x00]

/-- Whether the attached extension is a Nunchuk. -/
def detectNunchuk (protocol : WiimoteProtocol) (ch : UInt16) (data : BytePtr) : TwM Unit := do
  let identifier ← memcmpEqual (data + 7) nunchukIdentifier
  if identifier then
    modifyWiimoteState fun state => { state with nunchukConnected := true }
    setNunchukReportingMode protocol ch

/-- The answer to the read of the identifier; the handshake is over in any case. -/
def handleReadResponse (protocol : WiimoteProtocol) (ch : UInt16) (data : BytePtr) :
    TwM Unit := do
  let address ← memcmpEqual (data + 5) [0x00, 0xFA]
  if address then
    detectNunchuk protocol ch data
    setState .init

/-- One report, by the phase of the handshake. -/
def handleReport (ch : UInt16) (data : BytePtr) (len : UInt16) : TwM Unit := do
  let r ← getRuntime
  let extensions := r.wiimoteExtensions
  if !(extensions.state && extensions.connections && extensions.sender) ∨ len < 8 then
    pure ()
  else
    match extensions.controllerReportState with
    | .init =>
      let report ← readByte data 1
      if report = 0x20 then
        handleStatusReport extensions.protocol ch data
    | .waitAckOutReport =>
      match ← readWriteAck data len with
      | none => pure ()
      | some error =>
        if error = 0x00 then
          extensions.protocol.writeMemory ch addressSpaceControlRegister 0xA400FB (fun _ => 0x00) 1
          setState .waitReadControllerType
        else
          setState .init
    | .waitReadControllerType =>
      match ← readWriteAck data len with
      | none => pure ()
      | some error =>
        if error = 0x00 then
          extensions.protocol.readMemory ch addressSpaceControlRegister 0xA400FA 6
          setState .waitReadResponse
        else
          setState .init
    | .waitReadResponse =>
      if len < 13 then
        pure ()
      else
        let report ← readByte data 1
        if report = 0x21 then
          handleReadResponse extensions.protocol ch data

end WiimoteExtensions

end Esp32Wiimote.Bluetooth
