import Esp32Wiimote.Bluetooth.Extensions
import Esp32Wiimote.Bluetooth.LinkSafety

/-!
# How many packets a step sends

A received packet or a public call hands some packets to the send callback. How many these are
is decided by the packet or the call and by the runtime before the step: most steps send one
packet or none, an inquiry result sends one for each new Wiimote in it, and the first input
report of a link sends up to three, with one more for the extension handshake.
-/

namespace Esp32Wiimote.Bluetooth

open StateProgram

/-! ## The ways to the send callback -/

namespace TinyWiimoteRuntime

variable (r : TinyWiimoteRuntime)

/-- What is handed over of one packet: none without a send callback. -/
def perPacket : ℕ := if r.hciInterface.hciSendPacket then 1 else 0

/-- What is handed over of a command that is sent through the event context. -/
def perCommand : ℕ := if r.hciEventContext.sendPacket then r.perPacket else 0

/-- What is handed over of an ACL packet. -/
def perAcl : ℕ := if r.packetSender then r.perPacket else 0

/-- What is handed over of an output report. -/
def perReport (protocol : WiimoteProtocol) (ch : UInt16) : ℕ :=
  if protocol.connections && protocol.sender then
    if (r.l2capConnections.getRemoteCid ch).isSome then r.perAcl else 0
  else 0

end TinyWiimoteRuntime

/-- This many packets were handed over, and the runtime was left alone. -/
structure Sends (w t : TwWorld) (n : ℕ) : Prop where
  length : t.sent.length = w.sent.length + n
  runtime : t.gRuntime = w.gRuntime

namespace Sends

variable {w t u : TwWorld} {m n : ℕ}

/-- A step that changes nothing sends nothing. -/
theorem nothing (w : TwWorld) : Sends w w 0 := ⟨rfl, rfl⟩

/-- Two steps send the sum. -/
theorem trans (h : Sends w t m) (h' : Sends t u n) : Sends w u (m + n) :=
  ⟨by rw [h'.length, h.length, Nat.add_assoc], h'.runtime.trans h.runtime⟩

end Sends

section Sending

variable (w : TwWorld)

/-- What the callback is handed of one packet. -/
theorem length_handed (packet : List UInt8) :
    (w.handed [packet]).length = w.gRuntime.perCommand := by
  simp only [TwWorld.handed, TwWorld.canSend, Bool.and_eq_true, TinyWiimoteRuntime.perCommand,
    TinyWiimoteRuntime.perPacket, ite_and]
  split
  · split <;> rfl
  · rfl

/-- `sendHciPacketRaw` sends one packet, if the interface can send. -/
theorem sends_sendHciPacketRaw (packet : List UInt8) :
    Sends w (exec (sendHciPacketRaw packet) w).2 w.gRuntime.perPacket := by
  rw [exec_sendHciPacketRaw]
  refine ⟨?_, rfl⟩
  rw [TwWorld.sent_noteSent, List.length_append, TinyWiimoteRuntime.perPacket]
  split <;> rfl

/-- `hciSend` does, if the context can send as well. -/
theorem sends_hciSend (packet : List UInt8) :
    Sends w (exec (hciSend packet) w).2 w.gRuntime.perCommand := by
  rw [exec_hciSend]
  exact ⟨by rw [TwWorld.sent_noteSent, List.length_append, length_handed], rfl⟩

/-- `sendAclL2capPacket` does for a payload that fits. -/
theorem sends_sendAclL2capPacket (ch remoteCID : UInt16) {payload : List UInt8}
    (hfits : payload.length ≤ payloadSize) :
    Sends w (exec (sendAclL2capPacket ch remoteCID payload) w).2 w.gRuntime.perAcl := by
  have hlength : payload.length ≤ 255 := Nat.le_trans hfits (by decide)
  simp only [sendAclL2capPacket, exec_getRuntime_bind, exec_ite, hlength, and_true,
    TinyWiimoteRuntime.perAcl]
  split
  · exact sends_sendHciPacketRaw w _
  · exact .nothing w

/-- A report is one ACL packet. -/
theorem sends_sendReport (protocol : WiimoteProtocol) (ch : UInt16) (pb : PayloadBuilder payloadSize) :
    Sends w (exec (protocol.sendReport ch pb) w).2 (w.gRuntime.perReport protocol ch) := by
  simp only [WiimoteProtocol.sendReport, exec_getRuntime_bind, exec_ite, TinyWiimoteRuntime.perReport]
  cases protocol.connections && protocol.sender with
  | false => exact .nothing w
  | true =>
    simp only [Bool.not_true, Bool.false_eq_true, if_false, if_true]
    cases w.gRuntime.l2capConnections.getRemoteCid ch with
    | none => exact .nothing w
    | some remoteCID => exact sends_sendAclL2capPacket w ch remoteCID pb.length_le

end Sending

/-! ## Event packets -/

/-- The devices after a response, and whether it asks a new Wiimote for its name. -/
def ScannedDevices.noteResponse (devices : ScannedDevices) (response : BytePtr) :
    ScannedDevices × Bool :=
  if (devices.findScannedDevice response.bdAddrAt).isSome then (devices, false)
  else
    match devices.addScannedDevice response.scannedAt with
    | none => (devices, false)
    | some noted => (noted, (response + 9).startsWith wiimoteClassOfDevice)

/-- The devices after the first responses of an inquiry result, and how many new Wiimotes are among
them. -/
def ScannedDevices.noteResponses (devices : ScannedDevices) (data : BytePtr) : ℕ → ScannedDevices × ℕ
  | 0 => (devices, 0)
  | num + 1 =>
    let before := devices.noteResponses data num
    let noted := before.1.noteResponse (inquiryResponse data num)
    (noted.1, before.2 + if noted.2 then 1 else 0)

/-- How many packets the program hands over is decided by the runtime before it. -/
structure Demands (x : TwM Unit) (demand : TinyWiimoteRuntime → ℕ) : Prop where
  length : ∀ w, (exec x w).2.sent.length = w.sent.length + demand w.gRuntime

namespace TinyWiimoteRuntime

variable (r : TinyWiimoteRuntime)

/-- What a failed connection attempt sends. -/
def attemptDemand : ℕ := if r.hciEventContext.pendingFastReconnect then r.perCommand else 0

/-- What the reply to a command sends. -/
def commandDemand (cmdOpcode : UInt16) (status : UInt8) : ℕ :=
  if status ≠ 0x00 then 0
  else if cmdOpcode = kHciOpcodeReset then r.perCommand
  else if cmdOpcode = kHciOpcodeReadBdAddr then r.perCommand
  else if cmdOpcode = kHciOpcodeWriteLocalName then r.perCommand
  else if cmdOpcode = kHciOpcodeWriteClassOfDevice then r.perCommand
  else if cmdOpcode = kHciOpcodeWriteScanEnable then
    if r.hciEventContext.connectsOnScanEnable then r.perCommand else 0
  else 0

/-- What an event packet sends. -/
def eventDemand (packet : HciEventPacket) : ℕ :=
  let data := packet.data
  if packet.eventCode = kHciInquiryCompEvt then r.perCommand
  else if packet.eventCode = kHciInquiryResultEvt then
    (r.hciEventContext.scannedDevices.noteResponses data (data.at 0).toNat).2 * r.perCommand
  else if packet.eventCode = kHciConnectionCompEvt then
    if data.at 0 ≠ 0x00 then r.attemptDemand
    else if r.hciEventContext.onAclConnected ∧ r.l2capSignaling.sender then r.perAcl
    else 0
  else if packet.eventCode = kHciDisconnectionCompEvt then
    if r.hciEventContext.onDisconnected then r.perCommand else 0
  else if packet.eventCode = kHciRmtNameRequestCompEvt then
    if (r.hciEventContext.scannedDevices.findScannedDevice (data + 1).bdAddrAt).isSome ∧
        (data + 7).startsWith wiimoteName then 2 * r.perCommand
    else 0
  else if packet.eventCode = kHciCommandCompleteEvt then
    r.commandDemand (uint16OfLe (data.at 1) (data.at 2)) (data.at 3)
  else if packet.eventCode = kHciCommandStatusEvt then
    if data.at 0 ≠ 0x00 ∧ uint16OfLe (data.at 2) (data.at 3) = kHciOpcodeCreateConnection then
      r.attemptDemand
    else 0
  else 0

end TinyWiimoteRuntime

section Events

open TinyWiimoteRuntime

/-- A command demands one packet. -/
theorem demands_hciSend (packet : List UInt8) : Demands (hciSend packet) perCommand :=
  ⟨fun w => (sends_hciSend w packet).length⟩

/-- So does an inquiry. -/
theorem demands_startInquiry : Demands startInquiry perCommand :=
  ⟨fun w => by rw [sent_startInquiry, List.length_append, length_handed]⟩

/-- So does a Create Connection. -/
theorem demands_startCreateConnection (target : HciScannedDevice) (isFastReconnect : Bool) :
    Demands (startCreateConnection target isFastReconnect) perCommand :=
  ⟨fun w => by rw [sent_startCreateConnection, List.length_append, length_handed]⟩

/-- So does the reset. -/
theorem demands_hciEventsResetDevice : Demands hciEventsResetDevice perCommand :=
  ⟨fun w => by rw [sent_hciEventsResetDevice, List.length_append, length_handed]⟩

/-- A failed attempt demands one if it was a fast reconnect. -/
theorem demands_fallbackFromFastReconnectToInquiry :
    Demands fallbackFromFastReconnectToInquiry attemptDemand := by
  constructor
  intro w
  simp only [fallbackFromFastReconnectToInquiry, exec_getContext_bind, exec_ite, exec_then,
    exec_modifyContext, exec_pure, attemptDemand]
  split
  · rw [demands_startInquiry.length]
    rfl
  · rfl

/-- The start of a connection demands one either way. -/
theorem demands_startConnecting : Demands startConnecting perCommand := by
  constructor
  intro w
  simp only [startConnecting, exec_getContext_bind, exec_nowMs_bind, exec_ite]
  split
  · exact (demands_startCreateConnection _ true).length w
  · exact demands_startInquiry.length w

/-- The reply to Write Scan Enable demands one where it connects. -/
theorem demands_writeScanEnableCompleted : Demands writeScanEnableCompleted fun r =>
    if r.hciEventContext.connectsOnScanEnable then r.perCommand else 0 := by
  constructor
  intro w
  simp only [writeScanEnableCompleted, exec_getContext_bind, exec_ite, exec_then, exec_modifyContext]
  split
  · exact demands_startConnecting.length w
  · rfl

/-- The reply to a command demands what its table entry says. -/
theorem demands_commandCompleted (cmdOpcode : UInt16) (status : UInt8) :
    Demands (commandCompleted cmdOpcode status) fun r => r.commandDemand cmdOpcode status := by
  constructor
  intro w
  simp only [commandCompleted, exec_ite, exec_then, exec_modifyContext, exec_pure, commandDemand]
  split_ifs
  · rfl
  · exact (demands_hciSend _).length w
  · exact (demands_hciSend _).length w
  · exact (demands_hciSend _).length w
  · exact (demands_hciSend _).length _
  · rw [demands_writeScanEnableCompleted.length, if_pos ‹_›]
  · rw [demands_writeScanEnableCompleted.length, if_neg ‹_›]
  · rfl

/-- A response is noted, and a new Wiimote is asked for its name. -/
theorem handleInquiryResponse_demand (response : BytePtr) (w : TwWorld) :
    let t := (exec (handleInquiryResponse response) w).2
    let noted := w.gRuntime.hciEventContext.scannedDevices.noteResponse response
    t.gRuntime = { w.gRuntime with
        hciEventContext := { w.gRuntime.hciEventContext with scannedDevices := noted.1 } } ∧
      t.sent.length = w.sent.length + if noted.2 then w.gRuntime.perCommand else 0 := by
  let devices := w.gRuntime.hciEventContext.scannedDevices
  by_cases hlisted : (devices.findScannedDevice response.bdAddrAt).isSome
  · simp [handleInquiryResponse, ScannedDevices.noteResponse, devices, hlisted]
  cases hadd : devices.addScannedDevice response.scannedAt with
  | none =>
    simp only [BytePtr.scannedAt, devices] at hadd
    simp [handleInquiryResponse, ScannedDevices.noteResponse, BytePtr.scannedAt, devices, hlisted, hadd]
  | some devices' =>
    simp only [BytePtr.scannedAt, devices] at hadd
    simp only [handleInquiryResponse, exec_streamToBdAddr_bind, exec_getContext_bind, exec_ite,
      exec_readByte_bind, exec_pure, ScannedDevices.noteResponse, TwWorld.gRuntime_noteReads,
      BytePtr.scannedAt, devices, hlisted, Bool.false_eq_true, if_false, hadd, exec_then, exec_modifyContext,
      exec_bind_of_exec (exec_readMatches ..)]
    split
    · exact ⟨(sends_hciSend _ _).runtime, (sends_hciSend _ _).length⟩
    · exact ⟨rfl, rfl⟩

/-- By induction on the number of responses. -/
theorem handleInquiryResponses_demand (data : BytePtr) (num : ℕ) (w : TwWorld) :
    let t := (exec (handleInquiryResponses data num) w).2
    let noted := w.gRuntime.hciEventContext.scannedDevices.noteResponses data num
    t.gRuntime = { w.gRuntime with
        hciEventContext := { w.gRuntime.hciEventContext with scannedDevices := noted.1 } } ∧
      t.sent.length = w.sent.length + noted.2 * w.gRuntime.perCommand := by
  induction num with
  | zero => exact ⟨rfl, by rw [ScannedDevices.noteResponses, Nat.zero_mul]; rfl⟩
  | succ num ih =>
    obtain ⟨hruntime, hlength⟩ := ih
    obtain ⟨hruntime', hlength'⟩ := handleInquiryResponse_demand (inquiryResponse data num)
      (exec (handleInquiryResponses data num) w).2
    rw [hruntime] at hruntime' hlength'
    refine ⟨hruntime', ?_⟩
    rw [handleInquiryResponses, exec_then, hlength', hlength, Nat.add_assoc]
    congr 1
    simp only [ScannedDevices.noteResponses, Nat.add_mul]
    congr 1
    split
    · exact (Nat.one_mul _).symm
    · exact (Nat.zero_mul _).symm

/-- A new link demands one signaling packet. -/
theorem demands_onAclConnected (connectionHandle : UInt16) :
    Demands (onAclConnected connectionHandle) fun r => if r.l2capSignaling.sender then r.perAcl else 0 := by
  constructor
  intro w
  simp only [onAclConnected, L2capSignaling.sendConnectionRequest, exec_getRuntime_bind, exec_ite]
  split
  · exact (sends_sendAclL2capPacket w _ _ (PayloadBuilder.length_le _)).length
  · rfl

/-- Caching the target leaves the callback alone. -/
theorem onAclConnected_cacheConnectTarget (ctx : HciEventContext) (nowMs : UInt32) :
    (ctx.cacheConnectTarget nowMs).onAclConnected = ctx.onAclConnected := by
  simp only [HciEventContext.cacheConnectTarget]
  split <;> rfl

/-- A Connection Complete demands one packet on success, and what a failed attempt does otherwise. -/
theorem demands_handleConnectionComplete (data : BytePtr) :
    Demands (handleConnectionComplete callbacks data) fun r =>
      if data.at 0 ≠ 0x00 then r.attemptDemand
      else if r.hciEventContext.onAclConnected ∧ r.l2capSignaling.sender then r.perAcl
      else 0 := by
  constructor
  intro w
  simp only [handleConnectionComplete, exec_readByte_bind, exec_ite]
  split
  · exact demands_fallbackFromFastReconnectToInquiry.length (w.noteReads _)
  · simp only [exec_readUInt16Le_bind, exec_nowMs_bind, exec_then, exec_modifyContext,
      exec_getContext_bind, exec_ite, exec_pure]
    simp only [TwWorld.gRuntime_mapContext, TwWorld.gRuntime_noteReads,
      onAclConnected_cacheConnectTarget, ite_and]
    split
    · exact (demands_onAclConnected _).length _
    · rfl

/-- A Disconnection Complete demands the reset. -/
theorem demands_handleDisconnectionComplete (data : BytePtr) :
    Demands (handleDisconnectionComplete callbacks data) fun r =>
      if r.hciEventContext.onDisconnected then r.perCommand else 0 := by
  constructor
  intro w
  simp only [handleDisconnectionComplete, exec_readUInt16Le_bind, exec_readByte_bind,
    exec_getContext_bind, TwWorld.gRuntime_noteReads]
  by_cases hset : w.gRuntime.hciEventContext.onDisconnected
  · simp only [hset, if_true]
    exact demands_hciEventsResetDevice.length _
  · simp only [hset, Bool.false_eq_true, if_false]
    rfl

/-- The name of a listed Wiimote demands two packets. -/
theorem demands_handleRemoteNameRequestComplete (data : BytePtr) :
    Demands (handleRemoteNameRequestComplete data) fun r =>
      if (r.hciEventContext.scannedDevices.findScannedDevice (data + 1).bdAddrAt).isSome ∧
          (data + 7).startsWith wiimoteName then 2 * r.perCommand
      else 0 := by
  constructor
  intro w
  simp only [handleRemoteNameRequestComplete, exec_streamToBdAddr_bind, exec_then,
    exec_logRemoteName, exec_getContext_bind, TwWorld.noteReads_noteReads, TwWorld.gRuntime_noteReads]
  cases w.gRuntime.hciEventContext.scannedDevices.findScannedDevice (data + 1).bdAddrAt with
  | none => rfl
  | some scanned =>
    simp only [exec_bind_of_exec (exec_readMatches ..), exec_ite, exec_then, exec_pure,
      Option.isSome_some, true_and]
    split
    · -- the inquiry is cancelled first, which leaves the runtime alone
      rw [(demands_startCreateConnection scanned false).length, (demands_hciSend _).length,
        (sends_hciSend _ _).runtime, Nat.two_mul, Nat.add_assoc]
      rfl
    · rfl

/-- An event packet sends what its demand says. -/
theorem demands_hciEventsHandleEvent (packet : HciEventPacket) :
    Demands (hciEventsHandleEvent callbacks packet) fun r => r.eventDemand packet := by
  constructor
  intro w
  simp only [hciEventsHandleEvent, exec_ite, exec_pure, eventDemand]
  split
  · exact demands_hciEventsResetDevice.length w
  split
  · rw [handleInquiryResult, exec_readByte_bind]
    exact (handleInquiryResponses_demand packet.data _ _).2
  split
  · exact (demands_handleConnectionComplete packet.data).length w
  split
  · exact (demands_handleDisconnectionComplete packet.data).length w
  split
  · exact (demands_handleRemoteNameRequestComplete packet.data).length w
  split
  · rw [handleCommandComplete, exec_readUInt16Le_bind, exec_readByte_bind]
    exact (demands_commandCompleted _ _).length _
  split
  · rw [handleCommandStatus]
    simp only [exec_readByte_bind, exec_readUInt16Le_bind, exec_ite, exec_pure, BytePtr.at_add]
    split
    · exact demands_fallbackFromFastReconnectToInquiry.length _
    · rfl
  · rfl

end Events

end Esp32Wiimote.Bluetooth
