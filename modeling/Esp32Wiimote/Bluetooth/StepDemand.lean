import Esp32Wiimote.Bluetooth.TxDemand

/-!
# The packets of ACL data and of public calls

Signaling answers with at most one packet. An input report sends what the detection of the
controller sends, and what the handshake answers in its phase. With the event packets and the
public calls this gives how many packets a step hands over, from the runtime before it.
-/

namespace Esp32Wiimote.Bluetooth

open StateProgram

/-! ## Demands -/

/-- Whether the handshake answers a report in this phase. -/
def InputReport.answered (report : InputReport) : ControllerReportState → Bool
  | .init => report.data.at 1 == 0x20
  | .waitAckOutReport | .waitReadControllerType => report.writeAck == some 0x00
  | .waitReadResponse =>
    decide (13 ≤ report.len) && report.data.at 1 == 0x21 &&
      (report.data + 5).startsWith [0x00, 0xFA] &&
      (report.data + 7).startsWith WiimoteExtensions.nunchukIdentifier

namespace TinyWiimoteRuntime

variable (r : TinyWiimoteRuntime)

/-- The packets a Connection Response asks for. -/
def connectionResponseDemand (data : BytePtr) (len : UInt16) : ℕ :=
  if len < 12 ∨ !(r.l2capSignaling.connections && r.l2capSignaling.sender) then 0
  else if uint16OfLe (data.at 8) (data.at 9) ≠ 0x0000 then 0
  else if r.l2capConnections.list.length < l2capConnectionListSize then r.perAcl
  else 0

/-- The packets a Configuration Request asks for. -/
def configurationRequestDemand (ch : UInt16) (data : BytePtr) (len : UInt16) : ℕ :=
  if len < 12 ∨ !(r.l2capSignaling.connections && r.l2capSignaling.sender) then 0
  else if uint16OfLe (data.at 6) (data.at 7) ≠ 0x0000 ∨ uint16OfLe (data.at 2) (data.at 3) ≠ 0x08 then 0
  else if data.at 8 ≠ 0x01 then 0
  else if data.at 9 ≠ 0x02 then 0
  else if (r.l2capConnections.getRemoteCid ch).isSome then r.perAcl
  else 0

/-- The LEDs, a status request, and the reporting mode if the accelerometer is used. -/
def detectDemand (ch : UInt16) : ℕ :=
  if r.wiimoteState.wiimoteConnected then 0
  else (if r.wiimoteState.useAccelerometer then 3 else 2) * r.perReport r.wiimoteProtocol ch

/-- The packets an input report asks for in the handshake. -/
def handshakeDemand (report : InputReport) : ℕ :=
  let extensions := r.wiimoteExtensions
  if !(extensions.state && extensions.connections && extensions.sender) ∨ report.len < 8 then 0
  else if report.answered extensions.controllerReportState then
    r.perReport extensions.protocol report.ch
  else 0

/-- What an L2CAP frame sends. -/
def frameDemand (ch : UInt16) (data : BytePtr) (len : UInt16) : ℕ :=
  if len = 0 then 0
  else if data.at 0 = codeConnectionResponse then r.connectionResponseDemand data len
  else if data.at 0 = codeConfigurationRequest then r.configurationRequestDemand ch data len
  else if data.at 0 = codeConfigurationResponse then 0
  else if data.at 0 = hidInputReport then r.detectDemand ch + r.handshakeDemand ⟨ch, data, len⟩
  else 0

/-- What an ACL packet sends. -/
def aclDemand (data : BytePtr) (len : ℕ) : ℕ :=
  let ch := ((data.at 1 &&& 0x0F).toUInt16 <<< 8) ||| (data.at 0).toUInt16
  let l2capLen := uint16OfLe (data.at 4) (data.at 5)
  if len < 8 then 0
  else if (data.at 1 &&& 0x30) >>> 4 ≠ 0b10 ∨ (data.at 1 &&& 0xC0) >>> 6 ≠ 0b00 then 0
  else if len < 8 + l2capLen.toNat then 0
  else r.frameDemand ch (data + 8) l2capLen

/-- What a received packet sends. -/
def packetDemand (mem : ℕ → UInt8) (len : ℕ) : ℕ :=
  match eventPacket (some mem) len with
  | some packet => r.eventDemand packet
  | none => if mem 0 = h4Acl ∧ 2 ≤ len then r.aclDemand (BytePtr.mk mem len 0 + 1) (len - 1) else 0

/-- What a report sends that goes out on the first connection. -/
def firstReportDemand : ℕ :=
  if !r.wiimoteState.wiimoteConnected then 0
  else r.l2capConnections.getFirstConnectionHandle.elim 0 (r.perReport r.wiimoteProtocol)

/-- What a public call sends. -/
def callDemand : TwCall → ℕ
  | .resetDevice => r.perCommand
  | .requestBatteryUpdate | .setLeds _ | .setReportingMode _ _ | .requestStatus => r.firstReportDemand
  | .writeMemory _ _ _ len =>
    if WiimoteProtocol.isValidMemorySize len.toUInt16 then r.firstReportDemand else 0
  | .readMemory _ _ size => if WiimoteProtocol.isValidMemorySize size then r.firstReportDemand else 0
  | .setScanEnabled enabled =>
    if !r.hciEventContext.deviceInited then 0
    else if !r.wiimoteState.wiimoteConnected && enabled == r.hciEventContext.scanningEnabled then 0
    else r.perPacket
  | .startDiscovery =>
    if !r.hciEventContext.deviceInited then 0
    else if r.wiimoteState.wiimoteConnected then 0
    else if r.hciEventContext.scanningEnabled then 0
    else r.perPacket
  | .stopDiscovery =>
    if !r.hciEventContext.deviceInited then 0
    else if r.wiimoteState.wiimoteConnected then 0
    else if !r.hciEventContext.scanningEnabled then 0
    else r.perPacket
  | .disconnect _ =>
    if !r.hciEventContext.deviceInited then 0
    else if !r.wiimoteState.wiimoteConnected then 0
    else if r.l2capConnections.getFirstConnectionHandle.isSome then r.perPacket
    else 0
  | _ => 0

end TinyWiimoteRuntime

/-! ## Output reports -/

section Reports

open TinyWiimoteRuntime

variable (protocol : WiimoteProtocol) (ch : UInt16)

/-- Setting the reporting mode sends one report. -/
theorem demands_setReportingMode (command : WiimoteReportingModeCommand) :
    Demands (protocol.setReportingMode ch command) fun r => r.perReport protocol ch :=
  ⟨fun w => (sends_sendReport w protocol ch _).length⟩

/-- A memory write sends one report if its size is valid. -/
theorem demands_writeMemory (addressSpace : WiimoteAddressSpace) (offset : UInt32) (data : ℕ → UInt8)
    (length : UInt8) : Demands (protocol.writeMemory ch addressSpace offset data length) fun r =>
      if WiimoteProtocol.isValidMemorySize length.toUInt16 then r.perReport protocol ch else 0 := by
  constructor
  intro w
  simp only [WiimoteProtocol.writeMemory, exec_ite]
  split
  · exact (sends_sendReport w protocol ch _).length
  · rfl

/-- So does a memory read. -/
theorem demands_readMemory (addressSpace : WiimoteAddressSpace) (offset : UInt32) (size : UInt16) :
    Demands (protocol.readMemory ch addressSpace offset size) fun r =>
      if WiimoteProtocol.isValidMemorySize size then r.perReport protocol ch else 0 := by
  constructor
  intro w
  simp only [WiimoteProtocol.readMemory, exec_ite]
  split
  · exact (sends_sendReport w protocol ch _).length
  · rfl

/-- The default mode is set by one report. -/
theorem demands_setDefaultReportingMode :
    Demands (WiimoteExtensions.setDefaultReportingMode protocol ch) fun r => r.perReport protocol ch := by
  constructor
  intro w
  rw [WiimoteExtensions.setDefaultReportingMode, exec_getRuntime_bind, (demands_setReportingMode ..).length]

/-- So is the Nunchuk's. -/
theorem demands_setNunchukReportingMode :
    Demands (WiimoteExtensions.setNunchukReportingMode protocol ch) fun r => r.perReport protocol ch := by
  constructor
  intro w
  rw [WiimoteExtensions.setNunchukReportingMode, exec_getRuntime_bind, (demands_setReportingMode ..).length]

/-- A new phase sends nothing. -/
theorem demands_setState (state : ControllerReportState) :
    Demands (WiimoteExtensions.setState state) fun _ => 0 := ⟨fun _ => rfl⟩

end Reports

/-! ## ACL data -/

section Data

open TinyWiimoteRuntime

/-- A Connection Response sends what its table entry says. -/
theorem demands_handleConnectionResponse (ch : UInt16) (data : BytePtr) (len : UInt16) :
    Demands (L2capSignaling.handleConnectionResponse ch data len) fun r =>
      r.connectionResponseDemand data len := by
  constructor
  intro w
  simp only [L2capSignaling.handleConnectionResponse, exec_getRuntime_bind, exec_ite,
    exec_readUInt16Le_bind, exec_pure, BytePtr.at_add, connectionResponseDemand]
  split
  · rfl
  split
  · rfl
  by_cases hroom : w.gRuntime.l2capConnections.list.length < l2capConnectionListSize
  · simp only [L2capConnectionTable.addConnection, hroom, dite_true, if_true]
    exact (sends_sendAclL2capPacket _ ch _ (PayloadBuilder.length_le _)).length
  · simp only [L2capConnectionTable.addConnection, hroom, dite_false, if_false]
    rfl

/-- The answer to a Configuration Request is sent on a known link only. -/
theorem demands_answerConfigurationRequest (ch : UInt16) (identifier : UInt8) (mtu : UInt16) :
    Demands (L2capSignaling.answerConfigurationRequest ch identifier mtu) fun r =>
      if (r.l2capConnections.getRemoteCid ch).isSome then r.perAcl else 0 := by
  constructor
  intro w
  simp only [L2capSignaling.answerConfigurationRequest, exec_getRuntime_bind]
  cases w.gRuntime.l2capConnections.getRemoteCid ch with
  | none => rfl
  | some remoteCID => exact (sends_sendAclL2capPacket w ch _ (PayloadBuilder.length_le _)).length

/-- A Configuration Request sends what its table entry says. -/
theorem demands_handleConfigurationRequest (ch : UInt16) (data : BytePtr) (len : UInt16) :
    Demands (L2capSignaling.handleConfigurationRequest ch data len) fun r =>
      r.configurationRequestDemand ch data len := by
  constructor
  intro w
  simp only [L2capSignaling.handleConfigurationRequest, exec_getRuntime_bind, exec_ite,
    exec_readUInt16Le_bind, exec_readByte_bind, exec_pure, BytePtr.at_add, TwWorld.noteReads_noteReads,
    configurationRequestDemand]
  split
  · rfl
  split
  · rfl
  split
  · rfl
  split
  · rfl
  · rw [(demands_answerConfigurationRequest ch _ _).length]
    rfl

/-- The controller is detected once, and nothing else is changed. -/
theorem detectWiimote_demand (ch : UInt16) (w : TwWorld) :
    let t := (exec (detectWiimote ch) w).2
    t.gRuntime = (if w.gRuntime.wiimoteState.wiimoteConnected then w.gRuntime else w.gRuntime.detected) ∧
      t.sent.length = w.sent.length + w.gRuntime.detectDemand ch := by
  simp only [detectWiimote, exec_getRuntime_bind, exec_ite, exec_then, exec_modifyWiimoteState,
    exec_modifyContext, exec_pure, detectDemand]
  cases w.gRuntime.wiimoteState.wiimoteConnected with
  | true => exact ⟨rfl, rfl⟩
  | false =>
    simp only [Bool.false_eq_true, if_false]
    generalize w.gRuntime.wiimoteProtocol = protocol
    let started := (exec (protocol.requestStatus ch) (exec (protocol.setLeds ch ⟨0b0001⟩) w).2).2
    have hleds : Sends w (exec (protocol.setLeds ch ⟨0b0001⟩) w).2 (w.gRuntime.perReport protocol ch) :=
      sends_sendReport w protocol ch _
    have hstatus : Sends (exec (protocol.setLeds ch ⟨0b0001⟩) w).2 started
        (w.gRuntime.perReport protocol ch) := by
      rw [← hleds.runtime]
      exact sends_sendReport _ protocol ch _
    obtain ⟨hlength, hruntime⟩ := hleds.trans hstatus
    let connected := started.mapRuntime (·.detected)
    have hconnected : connected.gRuntime = w.gRuntime.detected := congrArg TinyWiimoteRuntime.detected hruntime
    change (if w.gRuntime.wiimoteState.useAccelerometer = true then
        exec (protocol.setReportingMode ch ⟨0x31, false⟩) connected else ((), connected)).2.gRuntime = _ ∧
      (if w.gRuntime.wiimoteState.useAccelerometer = true then
        exec (protocol.setReportingMode ch ⟨0x31, false⟩) connected else ((), connected)).2.sent.length = _
    cases w.gRuntime.wiimoteState.useAccelerometer with
    | false =>
      refine ⟨hconnected, ?_⟩
      change started.sent.length = _
      rw [hlength, ← Nat.two_mul]
      rfl
    | true =>
      have hmode : Sends connected (exec (protocol.setReportingMode ch ⟨0x31, false⟩) connected).2
          (connected.gRuntime.perReport protocol ch) := sends_sendReport connected protocol ch _
      refine ⟨hmode.runtime.trans hconnected, ?_⟩
      rw [hconnected] at hmode
      have hthree := hmode.length
      change _ = started.sent.length + w.gRuntime.perReport protocol ch at hthree
      simp only [if_true]
      rw [hthree, hlength]
      omega

/-- A status report is answered by one report. -/
theorem demands_handleStatusReport (protocol : WiimoteProtocol) (ch : UInt16) (data : BytePtr) :
    Demands (WiimoteExtensions.handleStatusReport protocol ch data) fun r => r.perReport protocol ch := by
  constructor
  intro w
  simp only [WiimoteExtensions.handleStatusReport, exec_readByte_bind, exec_then,
    exec_modifyWiimoteState, exec_ite]
  split
  · rw [(demands_setState _).length, (demands_writeMemory ..).length]
    rfl
  · rw [(demands_setDefaultReportingMode ..).length]
    rfl

/-- A read response is answered where it identifies a Nunchuk. -/
theorem demands_handleReadResponse (protocol : WiimoteProtocol) (ch : UInt16) (data : BytePtr) :
    Demands (WiimoteExtensions.handleReadResponse protocol ch data) fun r =>
      if (data + 5).startsWith [0x00, 0xFA] ∧ (data + 7).startsWith WiimoteExtensions.nunchukIdentifier then
        r.perReport protocol ch
      else 0 := by
  constructor
  intro w
  simp only [WiimoteExtensions.handleReadResponse, WiimoteExtensions.detectNunchuk, exec_bind,
    exec_memcmpEqual, exec_ite, ite_and]
  split
  · rw [(demands_setState _).length]
    split
    · rw [(demands_setNunchukReportingMode ..).length]
      rfl
    · rfl
  · rfl

/-- An acknowledgement is answered where it reports no error. -/
theorem demands_onWriteAck (report : InputReport) (protocol : WiimoteProtocol) {command next : TwM Unit}
    (hcommand : Demands command fun r => r.perReport protocol report.ch)
    (hnext : Demands next fun _ => 0) : Demands (do
      match ← WiimoteExtensions.readWriteAck report.data report.len with
      | none => pure ()
      | some error =>
        if error = 0x00 then
          command
          next
        else WiimoteExtensions.setState .init) fun r =>
      if report.writeAck = some 0x00 then r.perReport protocol report.ch else 0 := by
  constructor
  intro w
  obtain ⟨offsets, hread⟩ := exec_readWriteAck report w
  rw [exec_bind_of_exec hread]
  cases report.writeAck with
  | none => rfl
  | some error =>
    simp only [exec_ite, exec_then, Option.some.injEq]
    split
    · rw [hnext.length, hcommand.length]
      rfl
    · rfl

/-- The handshake sends what its table entry says. -/
theorem demands_handleReport (report : InputReport) :
    Demands (WiimoteExtensions.handleReport report.ch report.data report.len) fun r =>
      r.handshakeDemand report := by
  constructor
  intro w
  simp only [WiimoteExtensions.handleReport, exec_getRuntime_bind, exec_ite, exec_pure, handshakeDemand]
  split
  · rfl
  generalize WiimoteExtensions.protocol w.gRuntime.wiimoteExtensions = protocol
  cases w.gRuntime.wiimoteExtensions.controllerReportState with
  | init =>
    simp only [exec_readByte_bind, exec_ite, exec_pure, InputReport.answered, beq_iff_eq]
    split
    · exact (demands_handleStatusReport protocol report.ch report.data).length _
    · rfl
  | waitAckOutReport =>
    simp only [InputReport.answered, beq_iff_eq]
    exact (demands_onWriteAck report protocol (demands_writeMemory ..) (demands_setState _)).length w
  | waitReadControllerType =>
    simp only [InputReport.answered, beq_iff_eq]
    exact (demands_onWriteAck report protocol (demands_readMemory ..) (demands_setState _)).length w
  | waitReadResponse =>
    simp only [exec_readByte_bind, exec_ite, exec_pure, InputReport.answered, Bool.and_eq_true,
      decide_eq_true_eq, beq_iff_eq, and_assoc, ite_and]
    split
    · rw [if_neg (UInt16.not_le.mpr ‹_›)]
      rfl
    rw [if_pos (UInt16.not_lt.mp ‹_›)]
    split
    · rw [(demands_handleReadResponse protocol report.ch report.data).length, ite_and]
      rfl
    · rfl

/-- An input report sends what its detection and the handshake ask for. -/
theorem demands_handleInputReport (ch : UInt16) (data : BytePtr) (len : UInt16) :
    Demands (handleInputReport ch data len) fun r => r.detectDemand ch + r.handshakeDemand ⟨ch, data, len⟩ := by
  constructor
  intro w
  obtain ⟨hlog, hlogged⟩ : Sends w (exec (logInputReport data len) w).2 0 := by
    simp only [logInputReport, exec_ite, exec_discard, exec_pure]
    split <;> exact ⟨rfl, rfl⟩
  have hput (w : TwWorld) : (exec (putReport 0 data len.toUInt8) w).2.sent = w.sent := by
    simp only [putReport, exec_getRuntime_bind, exec_ite, exec_then, exec_readBytes, exec_pure]
    split <;> rfl
  obtain ⟨hruntime, hdetect⟩ := detectWiimote_demand ch (exec (logInputReport data len) w).2
  rw [hlogged] at hruntime hdetect
  simp only [handleInputReport, exec_then]
  rw [hput, (demands_handleReport ⟨ch, data, len⟩).length, hdetect, hlog, hruntime, Nat.add_zero, Nat.add_assoc]
  -- the handshake does not look at what the detection changes
  split <;> rfl

/-- A frame sends what its code asks for. -/
theorem demands_handleL2capData (header : L2capFrameHeader) (data : BytePtr) (len : UInt16) :
    Demands (handleL2capData header data len) fun r => r.frameDemand header.connectionHandle data len := by
  constructor
  intro w
  simp only [handleL2capData, exec_ite, exec_readByte_bind, exec_pure, frameDemand]
  split
  · rfl
  split
  · split
    · rw [connectionResponseDemand, if_pos (.inl ‹_›)]
      rfl
    · exact (demands_handleConnectionResponse _ data len).length _
  split
  · split
    · rw [configurationRequestDemand, if_pos (.inl ‹_›)]
      rfl
    · exact (demands_handleConfigurationRequest _ data len).length _
  split
  · rfl
  split
  · exact (demands_handleInputReport _ data len).length _
  · rw [format2Hex, exec_readBytes]
    rfl

/-- So does an ACL packet. -/
theorem demands_handleAclData (data : BytePtr) (len : ℕ) :
    Demands (handleAclData data len) fun r => r.aclDemand data len := by
  constructor
  intro w
  simp only [handleAclData, exec_ite, exec_readByte_bind, exec_readUInt16Le_bind, exec_pure,
    BytePtr.at_add, aclDemand]
  split
  · rfl
  split
  · rfl
  split
  · rfl
  · exact (demands_handleL2capData _ (data + 8) _).length _

/-- A received packet sends what its demand says. -/
theorem demands_handleHciData (mem : ℕ → UInt8) (len : ℕ) :
    Demands (handleHciData (some mem) len) fun r => r.packetDemand mem len := by
  constructor
  intro w
  cases hpacket : eventPacket (some mem) len with
  | some packet =>
    rw [exec_handleHciData_of_eventPacket hpacket, (demands_hciEventsHandleEvent packet).length,
      packetDemand, hpacket]
    rfl
  | none =>
    have hread : ∀ i, BytePtr.at { mem, len } i = mem i := fun i => by simp [BytePtr.at]
    simp only [packetDemand, hpacket, handleHciData, exec_ite, exec_readByte_bind, exec_pure, hread]
    by_cases hlen : len = 0
    · rw [if_pos hlen, if_neg (by omega)]
      rfl
    rw [if_neg hlen]
    by_cases htype : mem 0 = h4Event
    · have hother : ¬mem 0 = h4Acl := by
        rw [htype]
        decide
      rw [if_pos htype, if_neg fun h => hother h.1]
      simp only [handleHciEvent, exec_ite, exec_readByte_bind, exec_pure, hread]
      -- what is not dispatched is dropped
      split
      · rfl
      split
      · rfl
      · rw [eventPacket, if_pos ⟨hlen, htype, by omega, by omega⟩] at hpacket
        cases hpacket
    · rw [if_neg htype, ite_and]
      split
      · split
        · exact (demands_handleAclData _ _).length _
        · rfl
      · rw [format2Hex, exec_readBytes]
        rfl

end Data

/-! ## Public calls -/

section Calls

open TinyWiimoteRuntime

/-- A report goes out on the first connection, where it is not refused. -/
theorem demands_sendOnFirstConnection {send : WiimoteProtocol → UInt16 → TwM Unit} {valid : Bool}
    (hsend : ∀ protocol ch, Demands (send protocol ch) fun r =>
      if valid then r.perReport protocol ch else 0) :
    Demands (discard (sendOnFirstConnection send)) fun r => if valid then r.firstReportDemand else 0 := by
  constructor
  intro w
  simp only [sendOnFirstConnection, exec_discard, exec_getRuntime_bind, exec_ite, exec_pure,
    firstReportDemand]
  cases w.gRuntime.wiimoteState.wiimoteConnected with
  | false => cases valid <;> rfl
  | true =>
    cases w.gRuntime.l2capConnections.getFirstConnectionHandle with
    | none => cases valid <;> rfl
    | some ch => exact (hsend _ ch).length w

/-- A report that is never refused. -/
theorem demands_reportOnFirstConnection (pb : PayloadBuilder payloadSize) :
    Demands (discard (sendOnFirstConnection fun protocol ch => protocol.sendReport ch pb))
      firstReportDemand := by
  have hsend (protocol : WiimoteProtocol) (ch : UInt16) : Demands (protocol.sendReport ch pb) fun r =>
      if true then r.perReport protocol ch else 0 := ⟨fun w => (sends_sendReport w protocol ch pb).length⟩
  exact demands_sendOnFirstConnection hsend

/-- A public call sends what its demand says. -/
theorem demands_call (c : TwCall) : Demands c.run fun r => r.callDemand c := by
  constructor
  intro w
  cases c with
  | init hciInterface => rfl
  | resetDevice => exact demands_hciEventsResetDevice.length _
  | requestBatteryUpdate => exact (demands_reportOnFirstConnection _).length w
  | setLeds ledMask => exact (demands_reportOnFirstConnection _).length w
  | setReportingMode mode continuous => exact (demands_reportOnFirstConnection _).length w
  | requestStatus => exact (demands_reportOnFirstConnection _).length w
  | writeMemory addressSpace offset data len =>
    exact (demands_sendOnFirstConnection fun protocol ch => demands_writeMemory ..).length w
  | readMemory addressSpace offset size =>
    exact (demands_sendOnFirstConnection fun protocol ch => demands_readMemory ..).length w
  | read => rfl
  | reqAccelerometer use => rfl
  | setFastReconnectTtlMs ttlMs => rfl
  | setScanEnabled enabled =>
    simp only [TwCall.run, tinyWiimoteSetScanEnabled, exec_getRuntime_bind, exec_ite, exec_then,
      exec_modifyContext, exec_pure, callDemand]
    split
    · rfl
    split
    · rfl
    · exact (sends_sendHciPacketRaw w _).length
  | startDiscovery =>
    simp only [TwCall.run, tinyWiimoteStartDiscovery, exec_discard, exec_getRuntime_bind, exec_ite,
      exec_then, exec_modifyContext, exec_pure, callDemand]
    split
    · rfl
    split
    · rfl
    split
    · rfl
    · exact (sends_sendHciPacketRaw w _).length
  | stopDiscovery =>
    simp only [TwCall.run, tinyWiimoteStopDiscovery, exec_discard, exec_getRuntime_bind, exec_ite,
      exec_then, exec_modifyContext, exec_pure, callDemand]
    split
    · rfl
    split
    · rfl
    split
    · rfl
    · exact (sends_sendHciPacketRaw w _).length
  | disconnect reason =>
    simp only [TwCall.run, tinyWiimoteDisconnect, exec_discard, exec_getRuntime_bind, exec_ite,
      exec_pure, callDemand]
    split
    · rfl
    split
    · rfl
    cases w.gRuntime.l2capConnections.getFirstConnectionHandle with
    | none => rfl
    | some connectionHandle => exact (sends_sendHciPacketRaw w _).length
  | setAutoReconnectEnabled enabled =>
    simp only [TwCall.run, tinyWiimoteSetAutoReconnectEnabled, exec_getRuntime_bind, exec_ite,
      exec_modifyContext, exec_pure]
    split <;> rfl
  | clearReconnectCache =>
    simp only [TwCall.run, tinyWiimoteClearReconnectCache, exec_getRuntime_bind, exec_ite,
      exec_modifyContext, exec_pure]
    split <;> rfl

end Calls

end Esp32Wiimote.Bluetooth
