import Esp32Wiimote.Bluetooth.ControllerState
import Esp32Wiimote.Bluetooth.HostLanguage
import Esp32Wiimote.Input.DataParser

/-!
# What a step does to the controller

Every step of the runtime is a step of the controller. A received packet that is neither an input
report nor the end of a link leaves it alone, and is answered by commands and signaling. An input
report is answered by output reports, and the modes these ask for fit the controller as the report
leaves it.
-/

namespace Esp32Wiimote.Bluetooth

open StateProgram TransitionRun

/-! ## Steps the controller does not notice -/

/-- The controller is as it was, and such packets were sent. -/
structure Unnoticed (P : List UInt8 → Prop) (w t : TwWorld) : Prop where
  controller : t.controller = w.controller
  sent : Grown TwWorld.sent P w t

instance (P : List UInt8 → Prop) : IsPreorder TwWorld (Unnoticed P) where
  refl w := ⟨rfl, refl_of _ w⟩
  trans _ _ _ h h' := ⟨h'.controller.trans h.controller, trans_of _ h.sent h'.sent⟩

section Unnoticed

variable {P : List UInt8 → Prop}

/-- Reading is not noticed. -/
theorem unnoticed_noteReads (w : TwWorld) (offsets : List Nat) : Unnoticed P w (w.noteReads offsets) :=
  ⟨rfl, Grown.of_eq rfl⟩

/-- Neither is a change of the event context. -/
theorem unnoticed_modifyContext (f : HciEventContext → HciEventContext) :
    Within (Unnoticed P) (modifyContext f) := ⟨fun _ => ⟨rfl, Grown.of_eq rfl⟩⟩

/-- Neither is a byte that is read. -/
theorem unnoticed_readByte (p : BytePtr) (i : Nat) : Within (Unnoticed P) (readByte p i) :=
  ⟨fun w => unnoticed_noteReads w [p.off + i]⟩

/-- Neither is a field. -/
theorem unnoticed_readUInt16Le (p : BytePtr) : Within (Unnoticed P) (readUInt16Le p) := by
  refine ⟨fun w => ?_⟩
  rw [exec_readUInt16Le]
  exact unnoticed_noteReads w _

/-- Neither are bytes in a row. -/
theorem unnoticed_readBytes (p : BytePtr) (n : Nat) : Within (Unnoticed P) (readBytes p n) := by
  refine ⟨fun w => ?_⟩
  rw [exec_readBytes]
  exact unnoticed_noteReads w _

/-- Neither is a comparison. -/
theorem unnoticed_readMatches (p : BytePtr) (expected : List UInt8) :
    Within (Unnoticed P) (readMatches p expected) := by
  refine ⟨fun w => ?_⟩
  rw [exec_readMatches]
  exact unnoticed_noteReads w _

/-- A packet of the kind is sent. -/
theorem unnoticed_sendHciPacketRaw {packet : List UInt8} (h : P packet) :
    Within (Unnoticed P) (sendHciPacketRaw packet) := by
  refine ⟨fun w => ⟨?_, (grown_sendHciPacketRaw h).rel w⟩⟩
  rw [exec_sendHciPacketRaw]
  rfl

/-- So is an ACL packet around it. -/
theorem unnoticed_sendAclL2capPacket {ch remoteCID : UInt16} {payload : List UInt8}
    (h : P (reportPacket ch remoteCID payload)) :
    Within (Unnoticed P) (sendAclL2capPacket ch remoteCID payload) :=
  aclEffect_getRuntime_bind fun _ =>
    Within.ite _ (fun _ => unnoticed_sendHciPacketRaw h) fun _ => Within.pure _

/-! ### Signaling -/

/-- A connection response leads to a configuration request, if to anything. -/
theorem unnoticed_handleConnectionResponse {ch : UInt16} {data : BytePtr} (len : UInt16)
    (h : P (HostCall.packet (.configurationRequest ch (uint16OfLe (data.at 4) (data.at 5))))) :
    Within (Unnoticed P) (L2capSignaling.handleConnectionResponse ch data len) := by
  apply aclEffect_getRuntime_bind
  intro r
  refine Within.ite _ (fun _ => Within.pure _) fun _ => ⟨fun w => ?_⟩
  rw [exec_readUInt16Le_bind, exec_readUInt16Le_bind]
  simp only [BytePtr.at_add, TwWorld.noteReads_noteReads]
  refine trans_of (Unnoticed P) (unnoticed_noteReads w _) (Within.rel ?_ _)
  refine Within.ite _ (fun _ => Within.pure _) fun _ => ?_
  cases r.l2capConnections.addConnection ⟨ch, uint16OfLe (data.at 4) (data.at 5)⟩ with
  | none => exact Within.pure _
  | some table =>
    exact Within.bind (Within.modify fun w => ⟨rfl, Grown.of_eq rfl⟩) fun _ =>
      unnoticed_sendAclL2capPacket h

/-- A configuration request leads to its response, if to anything. -/
theorem unnoticed_handleConfigurationRequest {ch : UInt16} {data : BytePtr} (len : UInt16)
    (h : ∀ remoteCID, P (HostCall.packet (.configurationResponse ch (data.at 1) remoteCID
      (uint16OfLe (data.at 10) (data.at 11))))) :
    Within (Unnoticed P) (L2capSignaling.handleConfigurationRequest ch data len) := by
  apply aclEffect_getRuntime_bind
  intro r
  refine Within.ite _ (fun _ => Within.pure _) fun _ => ⟨fun w => ?_⟩
  rw [exec_readByte_bind, exec_readUInt16Le_bind, exec_readUInt16Le_bind]
  simp only [TwWorld.noteReads_noteReads]
  refine trans_of (Unnoticed P) (unnoticed_noteReads w _) (Within.rel ?_ _)
  refine Within.ite _ (fun _ => Within.pure _) fun _ => ?_
  refine Within.bind (unnoticed_readByte ..) fun option => ?_
  refine Within.ite _ (fun _ => Within.pure _) fun _ => ?_
  refine Within.bind (unnoticed_readByte ..) fun optionLength => ?_
  refine Within.ite _ (fun _ => Within.pure _) fun _ => ⟨fun v => ?_⟩
  rw [exec_readUInt16Le_bind]
  simp only [BytePtr.at_add]
  refine trans_of (Unnoticed P) (unnoticed_noteReads v _) (Within.rel ?_ _)
  refine aclEffect_getRuntime_bind fun r => ?_
  cases r.l2capConnections.getRemoteCid ch with
  | none => exact Within.pure _
  | some remoteCID => exact unnoticed_sendAclL2capPacket (h remoteCID)

/-- A frame that is no input report is not noticed. -/
theorem unnoticed_handleL2capData {frame : AclFrame} (hreport : ¬frame.IsReport)
    (hresponse : frame.code = some codeConnectionResponse →
      P (HostCall.packet (.configurationRequest frame.connectionHandle
        (uint16OfLe (frame.data.at 4) (frame.data.at 5)))))
    (hrequest : frame.code = some codeConfigurationRequest →
      ∀ remoteCID, P (HostCall.packet (.configurationResponse frame.connectionHandle (frame.data.at 1)
        remoteCID (uint16OfLe (frame.data.at 10) (frame.data.at 11))))) :
    Within (Unnoticed P)
      (handleL2capData ⟨frame.connectionHandle, frame.channelId⟩ frame.data frame.len) := by
  refine Within.ite _ (fun _ => Within.pure _) fun hlen => ⟨fun w => ?_⟩
  rw [exec_readByte_bind]
  refine trans_of (Unnoticed P) (unnoticed_noteReads w _) (Within.rel ?_ _)
  refine Within.ite _ (fun hcode => ?_) fun _ => Within.ite _ (fun hcode => ?_) fun _ => ?_
  · exact Within.ite _ (fun _ => Within.pure _) fun _ =>
      unnoticed_handleConnectionResponse _ (hresponse (code_eq_some_iff.mpr ⟨hlen, hcode⟩))
  · exact Within.ite _ (fun _ => Within.pure _) fun _ =>
      unnoticed_handleConfigurationRequest _ (hrequest (code_eq_some_iff.mpr ⟨hlen, hcode⟩))
  refine Within.ite _ (fun _ => Within.pure _) fun _ => Within.ite _ (fun hcode => ?_) fun _ => ?_
  · exact absurd (code_eq_some_iff.mpr ⟨hlen, hcode⟩) hreport
  · exact unnoticed_readBytes ..

/-! ### Events -/

section Events

variable (hcommand : ∀ command : HciCommand, command.Valid → P command.encode)

include hcommand

/-- A valid command is sent. -/
theorem unnoticed_hciSend (command : HciCommand) (hvalid : command.Valid) :
    Within (Unnoticed P) (hciSend command.encode) :=
  actionEffect_getContext_bind fun _ => Within.ite _
    (fun _ => unnoticed_sendHciPacketRaw (hcommand command hvalid)) fun _ => Within.pure _

/-- An inquiry is a command. -/
theorem unnoticed_startInquiry : Within (Unnoticed P) startInquiry :=
  Within.bind (unnoticed_modifyContext _) fun _ =>
    unnoticed_hciSend hcommand (.inquiry 0x9E8B33 0x05 0x00)
      (show 0x9E8B33 < 2 ^ 24 by decide)

/-- So is an attempt to connect. -/
theorem unnoticed_startCreateConnection (target : HciScannedDevice) (isFastReconnect : Bool) :
    Within (Unnoticed P) (startCreateConnection target isFastReconnect) :=
  Within.bind (unnoticed_hciSend hcommand
      (.createConnection target.bdAddr 0x0008 target.psrm target.clkofs 0x00) trivial) fun _ =>
    unnoticed_modifyContext _

/-- So is the inquiry after a failed fast reconnect. -/
theorem unnoticed_fallback : Within (Unnoticed P) fallbackFromFastReconnectToInquiry :=
  actionEffect_getContext_bind fun _ => Within.ite _
    (fun _ => Within.bind (unnoticed_modifyContext _) fun _ => unnoticed_startInquiry hcommand)
    fun _ => Within.pure _

/-- So is a reset. -/
theorem unnoticed_hciEventsResetDevice : Within (Unnoticed P) hciEventsResetDevice :=
  Within.bind (unnoticed_modifyContext _) fun _ => Within.bind (unnoticed_modifyContext _) fun _ =>
    unnoticed_hciSend hcommand .reset trivial

/-- The scan enable completes with a command, or with nothing. -/
theorem unnoticed_writeScanEnableCompleted : Within (Unnoticed P) writeScanEnableCompleted := by
  refine actionEffect_getContext_bind fun ctx => Within.ite _ (fun _ => ?_) fun _ => ?_
  · refine Within.bind ?_ fun _ => unnoticed_modifyContext _
    exact actionEffect_getContext_bind fun _ => actionEffect_nowMs_bind fun _ => Within.ite _
      (fun _ => unnoticed_startCreateConnection hcommand ..) fun _ => unnoticed_startInquiry hcommand
  · exact unnoticed_modifyContext _

/-- Every completed command leads to the next one, or to nothing. -/
theorem unnoticed_commandCompleted (cmdOpcode : UInt16) (status : UInt8) :
    Within (Unnoticed P) (commandCompleted cmdOpcode status) := by
  refine Within.ite _ (fun _ => Within.pure _) fun _ => ?_
  refine Within.ite _ (fun _ => unnoticed_hciSend hcommand .readBdAddr trivial) fun _ => ?_
  refine Within.ite _ (fun _ => ?_) fun _ => ?_
  · exact unnoticed_hciSend hcommand (.writeLocalName kName.dropLast) ⟨by decide, by decide⟩
  refine Within.ite _ (fun _ => ?_) fun _ => ?_
  · exact unnoticed_hciSend hcommand (.writeClassOfDevice 0x04 0x05 0x00) trivial
  refine Within.ite _ (fun _ => ?_) fun _ => ?_
  · exact Within.bind (unnoticed_modifyContext _) fun _ =>
      unnoticed_hciSend hcommand (.writeScanEnable 3) trivial
  · exact Within.ite _ (fun _ => unnoticed_writeScanEnableCompleted hcommand) fun _ => Within.pure _

/-- A response asks for a name. -/
theorem unnoticed_handleInquiryResponse (response : BytePtr) :
    Within (Unnoticed P) (handleInquiryResponse response) := by
  apply Within.bind (Within.bind (unnoticed_readBytes response 6) fun _ => Within.pure _)
  intro bdAddr
  apply actionEffect_getContext_bind
  intro ctx
  refine Within.ite _ (fun _ => Within.pure _) fun _ => ?_
  refine Within.bind (unnoticed_readByte ..) fun psrm => ?_
  refine Within.bind (unnoticed_readByte ..) fun clockHigh => ?_
  refine Within.bind (unnoticed_readByte ..) fun clockLow => ?_
  dsimp only
  split
  · exact Within.pure _
  · refine Within.bind (unnoticed_modifyContext _) fun _ => ?_
    refine Within.bind (unnoticed_readMatches ..) fun isWiimote => ?_
    exact Within.ite _ (fun _ => unnoticed_hciSend hcommand (.remoteNameRequest ..) trivial)
      fun _ => Within.pure _

/-- So do all of them. -/
theorem unnoticed_handleInquiryResponses (data : BytePtr) (num : Nat) :
    Within (Unnoticed P) (handleInquiryResponses data num) := by
  induction num with
  | zero => exact Within.pure _
  | succ num ih => exact Within.bind ih fun _ => unnoticed_handleInquiryResponse hcommand _

/-- The name of a Wiimote leads to an attempt to connect. -/
theorem unnoticed_handleRemoteNameRequestComplete (data : BytePtr) :
    Within (Unnoticed P) (handleRemoteNameRequestComplete data) := by
  apply Within.bind (Within.bind (unnoticed_readBytes (data + 1) 6) fun _ => Within.pure _)
  intro bdAddr
  refine Within.bind ⟨fun w => ?_⟩ fun _ => actionEffect_getContext_bind fun ctx => ?_
  · rw [exec_logRemoteName]
    exact unnoticed_noteReads w _
  cases ctx.scannedDevices.findScannedDevice bdAddr with
  | none => exact Within.pure _
  | some scanned =>
    refine Within.bind (unnoticed_readMatches ..) fun isWiimote => ?_
    refine Within.ite _ (fun _ => ?_) fun _ => Within.pure _
    exact Within.bind (unnoticed_hciSend hcommand .inquiryCancel trivial) fun _ =>
      unnoticed_startCreateConnection hcommand ..

/-- The channel of the reports is opened on a new link. -/
theorem unnoticed_handleConnectionComplete {data : BytePtr}
    (hconnect : data.at 0 = 0x00 → P (HostCall.packet (.connectionRequest
      (uint16OfLe (data.at 1) (data.at 2)) l2capPsmHidInterrupt 0x0045))) :
    Within (Unnoticed P) (handleConnectionComplete callbacks data) := by
  refine ⟨fun w => ?_⟩
  rw [handleConnectionComplete, exec_readByte_bind]
  refine trans_of (Unnoticed P) (unnoticed_noteReads w _) (Within.rel ?_ _)
  refine Within.ite _ (fun _ => unnoticed_fallback hcommand) fun hstatus => ⟨fun v => ?_⟩
  rw [exec_readUInt16Le_bind]
  simp only [BytePtr.at_add]
  refine trans_of (Unnoticed P) (unnoticed_noteReads v _) (Within.rel ?_ _)
  refine actionEffect_nowMs_bind fun now => ?_
  refine Within.bind (unnoticed_modifyContext _) fun _ => actionEffect_getContext_bind fun ctx => ?_
  refine Within.ite _ (fun _ => ?_) fun _ => Within.pure _
  exact aclEffect_getRuntime_bind fun _ => Within.ite _
    (fun _ => unnoticed_sendAclL2capPacket (hconnect (not_not.mp hstatus))) fun _ => Within.pure _

/-- The event is read and then handled. -/
theorem unnoticed_handleCommandComplete (data : BytePtr) :
    Within (Unnoticed P) (handleCommandComplete data) :=
  Within.bind (unnoticed_readUInt16Le _) fun _ => Within.bind (unnoticed_readByte ..) fun _ =>
    unnoticed_commandCompleted hcommand ..

/-- A failed status leads to an inquiry at most. -/
theorem unnoticed_handleCommandStatus (data : BytePtr) :
    Within (Unnoticed P) (handleCommandStatus data) :=
  Within.bind (unnoticed_readByte ..) fun _ => Within.bind (unnoticed_readByte ..) fun _ =>
    Within.bind (unnoticed_readUInt16Le _) fun _ =>
      Within.ite _ (fun _ => unnoticed_fallback hcommand) fun _ => Within.pure _

/-- Of the events, the end of a link alone is noticed. -/
theorem unnoticed_hciEventsHandleEvent {packet : HciEventPacket}
    (hcode : packet.eventCode ≠ kHciDisconnectionCompEvt)
    (hconnect : packet.Connects → P (HostCall.packet (.connectionRequest
      (uint16OfLe (packet.data.at 1) (packet.data.at 2)) l2capPsmHidInterrupt 0x0045))) :
    Within (Unnoticed P) (hciEventsHandleEvent callbacks packet) := by
  unfold hciEventsHandleEvent
  split_ifs with _ _ hconnection
  · exact unnoticed_hciEventsResetDevice hcommand
  · exact Within.bind (unnoticed_readByte ..) fun num => unnoticed_handleInquiryResponses hcommand ..
  · exact unnoticed_handleConnectionComplete hcommand fun hstatus => hconnect ⟨hconnection, hstatus⟩
  · exact unnoticed_handleRemoteNameRequestComplete hcommand packet.data
  · exact unnoticed_handleCommandComplete hcommand packet.data
  · exact unnoticed_handleCommandStatus hcommand packet.data
  · exact Within.pure _

end Events

end Unnoticed

/-! ## Reporting modes -/

section Modes

open Input.WiimoteDataParser

/-- A reporting mode suits a controller if its reports have the accelerometer exactly where it is
wished for, and the values of a Nunchuk exactly where one is connected. -/
def Controller.Suits (c : Controller) : OutputReport → Prop
  | .reportingMode continuous mode =>
    continuous = false ∧ (accelOffset mode ≠ 0 ↔ c.wiimote.useAccelerometer) ∧
      (nunchukOffset mode ≠ 0 ↔ c.wiimote.nunchukConnected)
  | _ => True

variable {c : Controller}

/-- The default mode suits a controller without a Nunchuk. -/
theorem suits_default (hnunchuk : c.wiimote.nunchukConnected = false) :
    c.Suits (.reportingMode false (if c.wiimote.useAccelerometer then 0x31 else 0x30)) := by
  rw [Controller.Suits, hnunchuk]
  cases c.wiimote.useAccelerometer <;> decide

/-- The other one suits a controller with a Nunchuk. -/
theorem suits_nunchuk (hnunchuk : c.wiimote.nunchukConnected = true) :
    c.Suits (.reportingMode false (if c.wiimote.useAccelerometer then 0x35 else 0x32)) := by
  rw [Controller.Suits, hnunchuk]
  cases c.wiimote.useAccelerometer <;> decide

end Modes

section React

variable {h : Handshake} {report : InputReport} {packet : List UInt8} {connected : Bool}

/-- The first access to the memory of an extension. -/
def enableExtension : OutputCommand :=
  .writeMemory addressSpaceControlRegister 0xA400F0 (fun _ => 0x55) 1

/-- The second one, behind which the memory is read as it is. -/
def disableEncryption : OutputCommand :=
  .writeMemory addressSpaceControlRegister 0xA400FB (fun _ => 0x00) 1

/-- The last one, which asks what the extension is. -/
def readIdentifier : OutputCommand := .readMemory addressSpaceControlRegister 0xA400FA 6

/-- The output reports that may answer an input report: the greeting of a controller that was not
connected, and the next step of the handshake. -/
inductive ReportAnswer (connected : Bool) : ControllerReportState → OutputCommand → Prop
  | player (hnew : connected = false) {phase : ControllerReportState} :
    ReportAnswer connected phase (.setLeds ⟨0b0001⟩)
  | status (hnew : connected = false) {phase : ControllerReportState} :
    ReportAnswer connected phase .requestStatus
  | accelerometer (hnew : connected = false) {phase : ControllerReportState} :
    ReportAnswer connected phase (.setReportingMode ⟨0x31, false⟩)
  | attached : ReportAnswer connected .init enableExtension
  | detached (useAccelerometer : Bool) :
    ReportAnswer connected .init (.setReportingMode ⟨if useAccelerometer then 0x31 else 0x30, false⟩)
  | enabled : ReportAnswer connected .waitAckOutReport disableEncryption
  | decrypted : ReportAnswer connected .waitReadControllerType readIdentifier
  | identified (useAccelerometer : Bool) :
    ReportAnswer connected .waitReadResponse
      (.setReportingMode ⟨if useAccelerometer then 0x35 else 0x32, false⟩)

/-- All of them are valid. -/
theorem ReportAnswer.valid {phase : ControllerReportState} {command : OutputCommand}
    (hanswer : ReportAnswer connected phase command) : command.isValid = true := by
  cases hanswer <;> rfl

/-- The packet answers a report in this phase, is found to go out, and suits the controller. -/
def Handshake.Asks (h : Handshake) (connected : Bool) (ch : UInt16) (c : Controller)
    (packet : List UInt8) : Prop :=
  ∃ command : OutputCommand, ReportAnswer connected h.phase command ∧
    packet ∈ h.link ch command.payload.bytes ∧ c.Suits command.report

/-- A packet was there before, or is the one that is sent. -/
theorem asks_of_send {c : Controller} {ch : UInt16} (command : OutputCommand)
    (hanswer : ReportAnswer connected h.phase command) (hsuits : c.Suits command.report)
    (hmem : packet ∈ h.sent ++ h.link ch command.payload.bytes) :
    packet ∈ h.sent ∨ h.Asks connected ch c packet := by
  rcases List.mem_append.mp hmem with hmem | hmem
  · exact .inl hmem
  · exact .inr ⟨command, hanswer, hmem, hsuits⟩

/-- After an acknowledgement the next command is asked for, or nothing. -/
theorem asks_acknowledged {next : ControllerReportState} (command : OutputCommand)
    (hanswer : ReportAnswer connected h.phase command)
    (hsuits : ∀ c : Controller, c.Suits command.report)
    (hmem : packet ∈ (h.acknowledged report command.payload.bytes next).sent) (c : Controller) :
    packet ∈ h.sent ∨ h.Asks connected report.ch c packet := by
  rw [Handshake.acknowledged] at hmem
  cases hwrite : report.writeAck with
  | none =>
    rw [hwrite] at hmem
    exact .inl hmem
  | some error =>
    rw [hwrite] at hmem
    dsimp only at hmem
    split at hmem
    · exact asks_of_send command hanswer (hsuits c) hmem
    · exact .inl hmem

/-- What the handshake asks for suits the controller as the report leaves it. -/
theorem asks_react (hmem : packet ∈ (h.react report).sent) :
    packet ∈ h.sent ∨ h.Asks connected report.ch (h.react report).controller packet := by
  obtain ⟨phase, wiimote, link, sent⟩ := h
  rw [Handshake.react] at hmem ⊢
  split at hmem
  · exact .inl hmem
  next hlen =>
  rw [if_neg hlen]
  cases phase with
  | init =>
    dsimp only at hmem ⊢
    split at hmem
    next hnumber =>
      rw [if_pos hnumber]
      rw [Handshake.statusReceived] at hmem ⊢
      split at hmem
      next hattached => exact asks_of_send enableExtension .attached trivial hmem
      next hattached =>
        rw [if_neg hattached]
        let mode : UInt8 := if wiimote.useAccelerometer then 0x31 else 0x30
        exact asks_of_send (.setReportingMode ⟨mode, false⟩) (.detached _) (suits_default rfl) hmem
    next => exact .inl hmem
  | waitAckOutReport => exact asks_acknowledged disableEncryption .enabled (fun _ => trivial) hmem _
  | waitReadControllerType => exact asks_acknowledged readIdentifier .decrypted (fun _ => trivial) hmem _
  | waitReadResponse =>
    dsimp only at hmem ⊢
    split at hmem
    · exact .inl hmem
    next hlong =>
    rw [if_neg hlong]
    split at hmem
    next hnumber =>
      rw [if_pos hnumber]
      rw [Handshake.responseReceived] at hmem ⊢
      split at hmem
      next haddress =>
        rw [if_pos haddress]
        split at hmem
        next hidentifier =>
          rw [if_pos hidentifier]
          let mode : UInt8 := if wiimote.useAccelerometer then 0x35 else 0x32
          exact asks_of_send (.setReportingMode ⟨mode, false⟩) (.identified _) (suits_nunchuk rfl) hmem
        next => exact .inl hmem
      next => exact .inl hmem
    next => exact .inl hmem

end React

/-! ## Input reports -/

section Reports

/-- An output report goes out as it is, if at all. -/
theorem exec_sendReport_packets (protocol : WiimoteProtocol) (ch : UInt16)
    (pb : PayloadBuilder payloadSize) (w : TwWorld) : ∃ packets,
      exec (protocol.sendReport ch pb) w = ((), w.noteSent packets) ∧
        ∀ packet ∈ packets, packet ∈ w.outgoing ch pb.bytes := by
  by_cases hwired : protocol.Wired
  · exact ⟨_, exec_sendReport hwired ch pb, fun _ => id⟩
  · have hnot : (!(protocol.connections && protocol.sender)) = true := by
      rw [Bool.not_eq_true']
      exact Bool.eq_false_iff.mpr hwired
    refine ⟨[], ?_, fun _ h => absurd h List.not_mem_nil⟩
    rw [WiimoteProtocol.sendReport, exec_getRuntime_bind, if_pos hnot, exec_pure, TwWorld.noteSent,
      List.append_nil]

/-- The packet greets a controller, and suits every one with this wish for an accelerometer, if it
has a Nunchuk only where that is possible. -/
def TwWorld.Greets (w : TwWorld) (ch : UInt16) (packet : List UInt8) : Prop :=
  ∃ command : OutputCommand, (∀ phase, ReportAnswer w.isConnected phase command) ∧
    packet ∈ w.outgoing ch command.payload.bytes ∧
    ∀ c : Controller, c.wiimote.useAccelerometer = w.controller.wiimote.useAccelerometer →
      (w.isConnected = false → c.wiimote.nunchukConnected = false) → c.Suits command.report

/-- What detecting a controller changes, and sends. -/
structure TwWorld.Detects (w : TwWorld) (ch : UInt16) (r : TinyWiimoteRuntime)
    (packets : List (List UInt8)) : Prop where
  extensions : r.wiimoteExtensions = w.gRuntime.wiimoteExtensions
  state : r.wiimoteState = w.controller.detect.wiimote
  outgoing : (w.mapRuntime fun _ => r).outgoing = w.outgoing
  greets : ∀ packet ∈ packets, w.Greets ch packet

/-- A controller that was not connected is greeted; another one is left alone. -/
theorem exec_detectWiimote (ch : UInt16) (w : TwWorld) : ∃ r packets,
    (exec (detectWiimote ch) w).2 = (w.mapRuntime fun _ => r).noteSent packets ∧
      w.Detects ch r packets := by
  cases hconn : w.gRuntime.wiimoteState.wiimoteConnected with
  | true =>
    refine ⟨w.gRuntime, [], ?_, rfl, ?_, rfl, fun _ h => absurd h List.not_mem_nil⟩
    · rw [exec_detectWiimote_of_isConnected hconn, TwWorld.noteSent, List.append_nil]
      rfl
    · change w.gRuntime.wiimoteState = { w.gRuntime.wiimoteState with wiimoteConnected := true }
      rw [← hconn]
  | false =>
    obtain ⟨leds, hleds, hledsOnly⟩ := exec_sendReport_packets w.gRuntime.wiimoteProtocol ch
      (OutputCommand.payload (.setLeds ⟨0b0001⟩)) w
    obtain ⟨status, hstatus, hstatusOnly⟩ := exec_sendReport_packets w.gRuntime.wiimoteProtocol ch
      (OutputCommand.payload .requestStatus) (w.noteSent leds)
    have hgreeting : ∀ packet ∈ leds ++ status, w.Greets ch packet := by
      intro packet hmem
      rcases List.mem_append.mp hmem with hmem | hmem
      · exact ⟨.setLeds ⟨0b0001⟩, fun _ => .player hconn, hledsOnly packet hmem, fun _ _ _ => trivial⟩
      · exact ⟨.requestStatus, fun _ => .status hconn, hstatusOnly packet hmem, fun _ _ _ => trivial⟩
    have hdetect : exec (detectWiimote ch) w = exec (if w.gRuntime.wiimoteState.useAccelerometer then
        w.gRuntime.wiimoteProtocol.setReportingMode ch ⟨0x31, false⟩ else pure ())
          ((w.noteSent (leds ++ status)).mapRuntime (·.detected)) := by
      simp only [detectWiimote, exec_getRuntime_bind, hconn, Bool.false_eq_true, if_false]
      have hsetLeds : exec (w.gRuntime.wiimoteProtocol.setLeds ch ⟨0b0001⟩) w = _ := hleds
      have hrequest : exec (w.gRuntime.wiimoteProtocol.requestStatus ch) (w.noteSent leds) = _ := hstatus
      rw [exec_bind_of_exec hsetLeds, exec_bind_of_exec hrequest]
      simp only [TwWorld.noteSent, List.append_assoc]
      rfl
    rw [hdetect]
    cases huse : w.gRuntime.wiimoteState.useAccelerometer with
    | false => exact ⟨w.gRuntime.detected, leds ++ status, rfl, rfl, rfl, rfl, hgreeting⟩
    | true =>
      obtain ⟨mode, hmode, hmodeOnly⟩ := exec_sendReport_packets w.gRuntime.wiimoteProtocol ch
        (OutputCommand.payload (.setReportingMode ⟨0x31, false⟩))
        ((w.noteSent (leds ++ status)).mapRuntime (·.detected))
      refine ⟨w.gRuntime.detected, (leds ++ status) ++ mode, ?_, rfl, rfl, rfl, ?_⟩
      · rw [if_pos rfl]
        refine (congrArg Prod.snd hmode).trans ?_
        simp only [TwWorld.noteSent, TwWorld.mapRuntime, List.append_assoc]
      · intro packet hmem
        rcases List.mem_append.mp hmem with hmem | hmem
        · exact hgreeting packet hmem
        · refine ⟨.setReportingMode ⟨0x31, false⟩, fun _ => .accelerometer hconn,
            hmodeOnly packet hmem, fun c hwish hnunchuk => ?_⟩
          have hsuits := suits_default (hnunchuk hconn)
          rw [if_pos (hwish.trans huse)] at hsuits
          exact hsuits

variable {w : TwWorld} {e : TwEvent} {frame : AclFrame}

/-- A report is handled after its controller was detected; queueing it shows nowhere else. -/
theorem handshake_of_frame (hframe : frame ∈ e.frame) (hreport : frame.IsReport) : ∃ offsets,
    (w.step e).handshake = (TwWorld.handleReport
      (exec (detectWiimote frame.connectionHandle) ((w.enter e).noteReads offsets)).2
      frame.report).handshake := by
  obtain ⟨offsets, hstep⟩ := step_of_frame (w := w) hframe
  obtain ⟨hlen, hbyte⟩ := code_eq_some_iff.mp hreport
  have hother : ¬hidInputReport = codeConnectionResponse ∧ ¬hidInputReport = codeConfigurationRequest ∧
      ¬hidInputReport = codeConfigurationResponse := by decide
  have hlog (v : TwWorld) : ∃ more, (exec (logInputReport frame.data frame.len) v).2 = v.noteReads more := by
    simp only [logInputReport, exec_ite, exec_discard, exec_pure]
    split
    · exact ⟨_, rfl⟩
    · exact ⟨[], (TwWorld.noteReads_nil v).symm⟩
  have hput (v : TwWorld) : (exec (putReport 0 frame.data frame.len.toUInt8) v).2.handshake = v.handshake := by
    simp only [putReport, exec_getRuntime_bind, exec_ite, exec_then, exec_readBytes, exec_pure]
    split <;> rfl
  obtain ⟨more, hlogged⟩ := hlog (((w.enter e).noteReads offsets).noteReads [frame.data.off + 0])
  refine ⟨offsets ++ [frame.data.off + 0] ++ more, ?_⟩
  rw [TwWorld.noteReads_noteReads, TwWorld.noteReads_noteReads] at hlogged
  simp only [hstep, handleL2capData, hlen, if_false, exec_readByte_bind, hbyte, hother, if_true,
    handleInputReport, exec_then, hput, TwWorld.noteReads_noteReads, hlogged]
  rfl

/-- What a report does to the controller. -/
structure TwWorld.Reported (w : TwWorld) (e : TwEvent) (frame : AclFrame) : Prop where
  controller : (w.step e).controller = if w.gRuntime.wiimoteExtensions.ready then
    w.controller.detect.handleReport frame.report else w.controller.detect
  /-- The answers suit the controller as the report leaves it. -/
  answers : (w.isConnected = false → (w.step e).controller.wiimote.nunchukConnected = false) →
    ∀ packet ∈ (w.step e).sent,
      w.handshake.Asks w.isConnected frame.connectionHandle (w.step e).controller packet

/-- A frame with a report is reported. -/
theorem reported_of_frame (hframe : frame ∈ e.frame) (hreport : frame.IsReport) :
    w.Reported e frame := by
  obtain ⟨offsets, hstep⟩ := handshake_of_frame (w := w) hframe hreport
  obtain ⟨r, packets, hexec, hdetects⟩ :=
    exec_detectWiimote frame.connectionHandle ((w.enter e).noteReads offsets)
  let v := (((w.enter e).noteReads offsets).mapRuntime fun _ => r).noteSent packets
  have hcontroller : v.controller = w.controller.detect :=
    Controller.ext (congrArg WiimoteExtensions.controllerReportState hdetects.extensions) hdetects.state
  have hready : v.gRuntime.wiimoteExtensions.ready = w.gRuntime.wiimoteExtensions.ready :=
    congrArg WiimoteExtensions.ready hdetects.extensions
  have hlink : v.handshake.link = w.handshake.link := hdetects.outgoing
  rw [hexec, handshake_handleReport_of_ready, hready] at hstep
  have hafter : (w.step e).controller = if w.gRuntime.wiimoteExtensions.ready then
      w.controller.detect.handleReport frame.report else w.controller.detect := by
    refine (congrArg Handshake.controller hstep).trans ?_
    split
    · rw [controller_react]
      exact congrArg (·.handleReport frame.report) hcontroller
    · exact hcontroller
  refine ⟨hafter, fun hnunchuk packet hmem => ?_⟩
  have hwish : (w.step e).controller.wiimote.useAccelerometer =
      w.controller.wiimote.useAccelerometer := by
    rw [hafter]
    split
    · exact Eq.trans (useAccelerometer_of_progress
        (progress_handleReport w.controller.detect frame.report)) rfl
    · rfl
  have hgreeting (hmem : packet ∈ packets) :
      w.handshake.Asks w.isConnected frame.connectionHandle (w.step e).controller packet := by
    obtain ⟨command, hanswer, hout, hsuits⟩ := hdetects.greets packet hmem
    exact ⟨command, hanswer _, hout, hsuits _ hwish hnunchuk⟩
  change packet ∈ (w.step e).handshake.sent at hmem
  rw [hstep] at hmem
  split at hmem
  next hready =>
    have hasked : packet ∈ v.handshake.sent ∨ v.handshake.Asks w.isConnected frame.connectionHandle
        (v.handshake.react frame.report).controller packet := asks_react hmem
    rcases hasked with hmem | ⟨command, hanswer, hout, hsuits⟩
    · exact hgreeting hmem
    · have hphase : v.handshake.phase = w.handshake.phase :=
        congrArg WiimoteExtensions.controllerReportState hdetects.extensions
      rw [hlink] at hout
      rw [hphase] at hanswer
      refine ⟨command, hanswer, hout, ?_⟩
      have hreacted : (w.step e).controller = (v.handshake.react frame.report).controller := by
        refine (congrArg Handshake.controller hstep).trans ?_
        rw [if_pos hready]
      rw [hreacted]
      exact hsuits
  next => exact hgreeting hmem

end Reports

/-! ## Calls -/

section Calls

/-- The event context is no part of the controller. -/
theorem controller_modifyContext (f : HciEventContext → HciEventContext) :
    Within (Same TwWorld.controller) (modifyContext f) := ⟨fun _ => rfl⟩

/-- Neither is what was sent. -/
theorem controller_sendHciPacketRaw (packet : List UInt8) :
    Within (Same TwWorld.controller) (sendHciPacketRaw packet) := by
  refine ⟨fun w => ?_⟩
  rw [exec_sendHciPacketRaw]
  rfl

/-- An output report does not change the controller. -/
theorem controller_run (protocol : WiimoteProtocol) (ch : UInt16) (command : OutputCommand) :
    Within (Same TwWorld.controller) (command.run protocol ch) := by
  rw [OutputCommand.run_eq]
  refine Within.ite _ (fun _ => ⟨fun w => ?_⟩) fun _ => Within.pure _
  obtain ⟨packets, hexec, -⟩ := exec_sendReport_packets protocol ch command.payload w
  rw [hexec]
  rfl

/-- A call that only sends an output report leaves the controller as it is. -/
theorem controller_sendOnFirstConnection (command : OutputCommand) (w : TwWorld) :
    (exec (discard (sendOnFirstConnection fun protocol ch => command.run protocol ch)) w).2.controller =
      w.controller := by
  refine Within.rel (R := Same TwWorld.controller) (Within.discard ?_) w
  refine aclEffect_getRuntime_bind fun r => Within.ite _ (fun _ => Within.pure _) fun _ => ?_
  cases r.l2capConnections.getFirstConnectionHandle with
  | none => exact Within.pure _
  | some ch => exact Within.bind (controller_run ..) fun _ => Within.pure _

/-- A command is sent and noted in the event context. -/
theorem controller_commanded {α : Type} (packet : List UInt8) (f : HciEventContext → HciEventContext)
    (a : α) : Within (Same TwWorld.controller) (do
      sendHciPacketRaw packet
      modifyContext f
      return a : TwM α) :=
  Within.bind (controller_sendHciPacketRaw packet) fun _ =>
    Within.bind (controller_modifyContext f) fun _ => Within.pure _

/-- A reset ends the handshake. -/
theorem controller_resetDeviceInternal (w : TwWorld) :
    (exec resetDeviceInternal w).2.controller = ⟨.init, w.controller.wiimote⟩ := by
  simp only [resetDeviceInternal, hciEventsResetDevice, clearScannedDevices, exec_then,
    exec_modifyRuntime, exec_modifyContext, exec_hciSend]
  rfl

/-- A call changes the controller as its input says. -/
theorem controller_call (c : TwCall) (w : TwWorld) : (exec c.run w).2.controller =
    w.controller.react (w.controllerInput ⟨.call c, w.millis, w.logLevel⟩) := by
  cases c with
  | init hciInterface => rfl
  | resetDevice => exact controller_resetDeviceInternal w
  | requestBatteryUpdate => exact controller_sendOnFirstConnection .requestStatus w
  | setLeds ledMask => exact controller_sendOnFirstConnection (.setLeds ⟨ledMask⟩) w
  | setReportingMode mode continuous =>
    exact controller_sendOnFirstConnection (.setReportingMode ⟨mode, continuous⟩) w
  | requestStatus => exact controller_sendOnFirstConnection .requestStatus w
  | writeMemory addressSpace offset data len =>
    exact controller_sendOnFirstConnection (.writeMemory addressSpace offset data len) w
  | readMemory addressSpace offset size =>
    exact controller_sendOnFirstConnection (.readMemory addressSpace offset size) w
  | read => rfl
  | reqAccelerometer use => rfl
  | setFastReconnectTtlMs ttlMs => rfl
  | setScanEnabled enabled =>
    refine Within.rel (R := Same TwWorld.controller) (aclEffect_getRuntime_bind fun r => ?_) w
    refine Within.ite _ (fun _ => Within.pure _) fun _ => ?_
    exact Within.ite _ (fun _ => Within.pure _) fun _ =>
      Within.bind (controller_sendHciPacketRaw _) fun _ => controller_modifyContext _
  | startDiscovery =>
    refine Within.rel (R := Same TwWorld.controller) (Within.discard ?_) w
    refine aclEffect_getRuntime_bind fun r => Within.ite _ (fun _ => Within.pure _) fun _ => ?_
    refine Within.ite _ (fun _ => Within.pure _) fun _ => ?_
    exact Within.ite _ (fun _ => Within.pure _) fun _ => controller_commanded ..
  | stopDiscovery =>
    refine Within.rel (R := Same TwWorld.controller) (Within.discard ?_) w
    refine aclEffect_getRuntime_bind fun r => Within.ite _ (fun _ => Within.pure _) fun _ => ?_
    refine Within.ite _ (fun _ => Within.pure _) fun _ => ?_
    exact Within.ite _ (fun _ => Within.pure _) fun _ => controller_commanded ..
  | disconnect reason =>
    refine Within.rel (R := Same TwWorld.controller) (Within.discard ?_) w
    refine aclEffect_getRuntime_bind fun r => Within.ite _ (fun _ => Within.pure _) fun _ => ?_
    refine Within.ite _ (fun _ => Within.pure _) fun _ => ?_
    cases r.l2capConnections.getFirstConnectionHandle with
    | none => exact Within.pure _
    | some connectionHandle =>
      exact Within.bind (controller_sendHciPacketRaw _) fun _ => Within.pure _
  | setAutoReconnectEnabled enabled =>
    refine Within.rel (R := Same TwWorld.controller) (aclEffect_getRuntime_bind fun r => ?_) w
    exact Within.ite _ (fun _ => Within.pure _) fun _ => controller_modifyContext _
  | clearReconnectCache =>
    refine Within.rel (R := Same TwWorld.controller) (aclEffect_getRuntime_bind fun r => ?_) w
    exact Within.ite _ (fun _ => Within.pure _) fun _ => controller_modifyContext _

end Calls

/-! ## Steps -/

/-- What may be said in answer to a received packet: commands to an event, the opening of the channel
of the reports to a new link, and to a frame only what is for its link. An input report is answered
on the channel of the link by what the phase of the handshake calls for; which channel a
configuration response names is left open. -/
inductive TwWorld.Answer (w : TwWorld) (e : TwEvent) : HostCall → Prop
  | command (command : HciCommand) {packet : HciEventPacket} (hevent : packet ∈ e.dispatched) :
    Answer w e (.hci command)
  | opened {packet : HciEventPacket} (hevent : packet ∈ e.dispatched) (hconnects : packet.Connects) :
    Answer w e (.connectionRequest (uint16OfLe (packet.data.at 1) (packet.data.at 2))
      l2capPsmHidInterrupt 0x0045)
  | configured {frame : AclFrame} (hframe : frame ∈ e.frame)
    (hresponse : frame.code = some codeConnectionResponse) :
    Answer w e (.configurationRequest frame.connectionHandle
      (uint16OfLe (frame.data.at 4) (frame.data.at 5)))
  | agreed {frame : AclFrame} (hframe : frame ∈ e.frame)
    (hrequest : frame.code = some codeConfigurationRequest) (remoteCID : UInt16) :
    Answer w e (.configurationResponse frame.connectionHandle (frame.data.at 1) remoteCID
      (uint16OfLe (frame.data.at 10) (frame.data.at 11)))
  | report {frame : AclFrame} (hframe : frame ∈ e.frame) (hreport : frame.IsReport)
    {remoteCID : UInt16}
    (hchannel : w.gRuntime.l2capConnections.getRemoteCid frame.connectionHandle = some remoteCID)
    {command : OutputCommand}
    (hanswer : ReportAnswer w.isConnected w.handshake.phase command) :
    Answer w e (.report frame.connectionHandle remoteCID command)

/-- The packet is an answer to the event, and no output report. -/
def TwWorld.AnsweredBy (w : TwWorld) (e : TwEvent) (packet : List UInt8) : Prop :=
  ∃ call, w.Answer e call ∧ call.Valid ∧ packet = call.packet ∧
    ∀ handle channelId report, call.message ≠ .report handle channelId report

section Steps

variable {w : TwWorld} {e : TwEvent}

/-- A received packet without an input report is noticed only as the end of a link. -/
theorem unnoticed_step {data : Option (Nat → UInt8)} {len : Nat} (he : e.action = .hci data len)
    (hevent : ∀ packet ∈ e.dispatched, packet.eventCode ≠ kHciDisconnectionCompEvt)
    (hframe : e.dispatched = none → ∀ frame ∈ e.frame, ¬frame.IsReport) :
    Unnoticed (w.AnsweredBy e) (w.enter e) (w.step e) := by
  obtain ⟨action, millis, logLevel⟩ := e
  subst he
  cases hpacket : eventPacket data len with
  | some packet =>
    have hmem : packet ∈ TwEvent.dispatched ⟨.hci data len, millis, logLevel⟩ := hpacket
    rw [step_of_dispatched hmem]
    refine trans_of (Unnoticed _) (unnoticed_noteReads _ _) (Within.rel ?_ _)
    refine unnoticed_hciEventsHandleEvent (fun command hvalid => ?_) (hevent packet hmem) fun hconnects => ?_
    · exact ⟨.hci command, .command command hmem, hvalid, rfl, fun _ _ _ h => by cases h⟩
    · exact ⟨_, .opened hmem hconnects, trivial, rfl, fun _ _ _ h => by cases h⟩
  | none =>
    cases hdata : aclFrame data len with
    | none =>
      obtain ⟨offsets, hreads⟩ := (readsOnly_handleHciData hpacket hdata).rel
        (w.enter ⟨.hci data len, millis, logLevel⟩)
      rw [TwWorld.step, TwAction.run, hreads]
      exact unnoticed_noteReads _ offsets
    | some frame =>
      have hmem : frame ∈ TwEvent.frame ⟨.hci data len, millis, logLevel⟩ := hdata
      obtain ⟨offsets, hstep⟩ := step_of_frame (w := w) hmem
      rw [hstep]
      refine trans_of (Unnoticed _) (unnoticed_noteReads _ _) (Within.rel ?_ _)
      refine unnoticed_handleL2capData (hframe hpacket frame hmem) (fun hresponse => ?_)
        fun hrequest remoteCID => ?_
      · exact ⟨_, .configured hmem hresponse, trivial, rfl, fun _ _ _ h => by cases h⟩
      · exact ⟨_, .agreed hmem hrequest remoteCID, trivial, rfl, fun _ _ _ h => by cases h⟩

/-- The end of a link is followed by a Reset. -/
theorem controller_of_disconnection (he : e.IsDisconnectionComplete) (hw : w.hearsDisconnects) :
    (w.step e).controller = ⟨.init, w.controller.wiimote.reset⟩ ∧
      ∀ packet ∈ (w.step e).sent, packet = makeCmdReset := by
  obtain ⟨connectionHandle, reason, offsets, hstep⟩ := step_of_disconnection he hw
  obtain ⟨r, hexec, hstate, -, hphase, -⟩ :=
    exec_onDisconnected connectionHandle reason ((w.enter e).noteReads offsets)
  rw [hstep, hexec]
  refine ⟨Controller.ext hphase hstate, fun packet hmem => ?_⟩
  have hreset : packet ∈ TwWorld.handed _ [makeCmdReset] := hmem
  rw [TwWorld.handed] at hreset
  split at hreset
  · exact List.mem_singleton.mp hreset
  · cases hreset

/-- Every step of the runtime is a step of the controller, once the end of a link is heard. -/
theorem controller_step (hw : w.hearsDisconnects) (e : TwEvent) :
    (w.step e).controller = w.controller.react (w.controllerInput e) := by
  obtain ⟨action, millis, logLevel⟩ := e
  cases action with
  | call c => exact controller_call c (w.enter ⟨.call c, millis, logLevel⟩)
  | hci data len =>
    have hunnoticed := unnoticed_step (w := w) (e := ⟨.hci data len, millis, logLevel⟩) rfl
    simp only [TwWorld.controllerInput]
    cases hevent : eventPacket data len with
    | some packet =>
      by_cases hcode : packet.eventCode = kHciDisconnectionCompEvt
      · simp only [hcode, if_true]
        exact (controller_of_disconnection (e := ⟨.hci data len, millis, logLevel⟩)
          ⟨packet, hevent, hcode⟩ hw).1
      · simp only [hcode, if_false]
        refine (hunnoticed (fun other hother => ?_) fun hnone => ?_).controller
        · cases hevent.symm.trans hother
          exact hcode
        · cases hevent.symm.trans hnone
    | none =>
      have hnone : ∀ packet ∈ eventPacket data len, packet.eventCode ≠ kHciDisconnectionCompEvt := by
        intro packet hmem
        cases hevent.symm.trans hmem
      cases hframe : aclFrame data len with
      | none =>
        refine (hunnoticed hnone fun _ frame hmem => ?_).controller
        cases hframe.symm.trans hmem
      | some frame =>
        by_cases hreport : frame.IsReport
        · simp only [hreport, if_true]
          have hframe' : frame ∈ TwEvent.frame ⟨.hci data len, millis, logLevel⟩ := hframe
          rw [(reported_of_frame (w := w) hframe' hreport).controller]
          split <;> rfl
        · simp only [hreport, if_false]
          refine (hunnoticed hnone fun _ other hmem => ?_).controller
          cases hframe.symm.trans hmem
          exact hreport

end Steps

end Esp32Wiimote.Bluetooth
