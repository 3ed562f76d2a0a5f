import Esp32Wiimote.Bluetooth.TinyWiimote

/-!
# What ACL data can do

Handling ACL data sends ACL packets only, and of the HCI event context it touches only
`scanningEnabled`, when the first input report of a link arrives. The output reports the
public calls send and the callback that opens the L2CAP channel leave the context alone.

A program is followed once for every relation of which its single steps are members. The
classes of relations ask for the steps of a program that sends on a link, that also reads the
packet, and that handles a frame. `SendRelation` and `AclRelation` ask for coarser steps, which
is enough where only the HCI layer is looked at.
-/

namespace Esp32Wiimote.Bluetooth

open StateProgram

/-- What a program below the HCI layer can do to the world. -/
structure AclEffect (w t : TwWorld) : Prop where
  sent : Grown TwWorld.sent (commandOpcode · = none) w t
  context : t.gRuntime.hciEventContext =
    { w.gRuntime.hciEventContext with
      scanningEnabled := t.gRuntime.hciEventContext.scanningEnabled }
  hciInterface : t.gRuntime.hciInterface = w.gRuntime.hciInterface

instance : IsPreorder TwWorld AclEffect where
  refl w := ⟨refl_of _ w, rfl, rfl⟩
  trans _ _ _ h h' := by
    refine ⟨trans_of _ h.sent h'.sent, ?_, h'.hciInterface.trans h.hciInterface⟩
    rw [h'.context, h.context]

/-- A new runtime that differs from the old one below the HCI layer alone. -/
theorem AclEffect.of_runtime {w : TwWorld} {r : TinyWiimoteRuntime}
    (hctx : r.hciEventContext =
      { w.gRuntime.hciEventContext with scanningEnabled := r.hciEventContext.scanningEnabled })
    (hi : r.hciInterface = w.gRuntime.hciInterface) : AclEffect w (w.mapRuntime fun _ => r) :=
  ⟨Grown.of_eq rfl, hctx, hi⟩

/-- ACL data do not switch reconnecting. -/
theorem AclEffect.autoReconnectEnabled {w t : TwWorld} (h : AclEffect w t) :
    t.gRuntime.hciEventContext.autoReconnectEnabled =
      w.gRuntime.hciEventContext.autoReconnectEnabled := by
  rw [h.context]

/-- The fields of the runtime that are set above the ACL layer only. -/
structure UpperRuntime where
  hciInterface : TwHciInterface
  hciEventContext : HciEventContext
  wiimoteConnected : Bool
  packetSender : Bool
  l2capSignaling : L2capSignaling
  wiimoteProtocol : WiimoteProtocol
  extensions : Bool × WiimoteProtocol

/-- The part of the runtime above the HCI layer. -/
def TinyWiimoteRuntime.upper (r : TinyWiimoteRuntime) : UpperRuntime where
  hciInterface := r.hciInterface
  hciEventContext := r.hciEventContext
  wiimoteConnected := r.wiimoteState.wiimoteConnected
  packetSender := r.packetSender
  l2capSignaling := r.l2capSignaling
  wiimoteProtocol := r.wiimoteProtocol
  extensions := (r.wiimoteExtensions.state, r.wiimoteExtensions.protocol)

/-- The fields of the runtime the handling of a link is about. -/
@[ext] structure LinkRuntime where
  wiimoteConnected : Bool
  l2capConnections : L2capConnectionTable
  wiimoteReports : WiimoteReports

/-- The part of the runtime that belongs to a link. -/
def TinyWiimoteRuntime.link (r : TinyWiimoteRuntime) : LinkRuntime where
  wiimoteConnected := r.wiimoteState.wiimoteConnected
  l2capConnections := r.l2capConnections
  wiimoteReports := r.wiimoteReports

/-- The runtime after the first input report of a link. -/
def TinyWiimoteRuntime.detected (r : TinyWiimoteRuntime) : TinyWiimoteRuntime :=
  { r with
    wiimoteState := { r.wiimoteState with wiimoteConnected := true }
    hciEventContext := { r.hciEventContext with scanningEnabled := false } }

/-- The single steps of a program that sends on a link lie in the relation. -/
class ReportRelation (R : TwWorld → TwWorld → Prop) : Prop extends IsPreorder TwWorld R where
  sendPacket : ∀ ch remoteCID (pb : PayloadBuilder payloadSize),
    Within R (sendAclL2capPacket ch remoteCID pb.bytes)
  setFields : ∀ w r, r.upper = w.gRuntime.upper → r.link = w.gRuntime.link →
    R w (w.mapRuntime fun _ => r)

/-- So do the steps of a program that also reads the received packet. -/
class HandshakeRelation (R : TwWorld → TwWorld → Prop) : Prop extends ReportRelation R where
  noteReads : ∀ w offsets, R w (w.noteReads offsets)

/-- So do the steps of a program that opens the channel of a link and detects its controller. -/
class LinkRelation (R : TwWorld → TwWorld → Prop) : Prop extends ReportRelation R where
  opened : ∀ w connection table, w.gRuntime.l2capConnections.addConnection connection = some table →
    R w (w.mapRuntime fun r => { r with l2capConnections := table })
  detected : ∀ w, w.isConnected = false → R w (w.mapRuntime (·.detected))

/-- So do all steps of a program that handles a frame. -/
class FrameRelation (R : TwWorld → TwWorld → Prop) : Prop extends
  HandshakeRelation R, LinkRelation R where
  putReport : ∀ number data len, Within R (putReport number data len)

/-- The single steps of a program that only sends lie in the relation. -/
class SendRelation (R : TwWorld → TwWorld → Prop) : Prop extends IsPreorder TwWorld R where
  noteReads : ∀ w offsets, R w (w.noteReads offsets)
  noteSent : ∀ w packet, commandOpcode packet = none → R w (w.noteSent [packet])
  mapRuntime : ∀ w r, r.upper = w.gRuntime.upper → R w (w.mapRuntime fun _ => r)

/-- So do the steps of a program that handles ACL data. -/
class AclRelation (R : TwWorld → TwWorld → Prop) : Prop extends SendRelation R where
  detected : ∀ w, w.isConnected = false → R w (w.mapRuntime (·.detected))

instance : AclRelation AclEffect where
  noteReads _ _ := ⟨Grown.of_eq rfl, rfl, rfl⟩
  noteSent _ packet h := ⟨⟨[packet], rfl, by simpa using h⟩, rfl, rfl⟩
  mapRuntime w r h := by
    have hctx : r.hciEventContext = w.gRuntime.hciEventContext :=
      congrArg UpperRuntime.hciEventContext h
    exact AclEffect.of_runtime (by rw [hctx]) (congrArg UpperRuntime.hciInterface h)
  detected _ _ := ⟨Grown.of_eq rfl, rfl, rfl⟩

section Runtime

variable {R : TwWorld → TwWorld → Prop}

/-- A program that reads the runtime first, whatever it reads. -/
theorem aclEffect_getRuntime_bind {α : Type} {f : TinyWiimoteRuntime → TwM α}
    (hf : ∀ r, Within R (f r)) : Within R (getRuntime >>= f) :=
  ⟨fun w => (hf w.gRuntime).rel w⟩

variable [ReportRelation R]

/-- Setting fields outside the HCI layer. -/
theorem aclEffect_modifyRuntime {f : TinyWiimoteRuntime → TinyWiimoteRuntime}
    (hupper : ∀ r, (f r).upper = r.upper) (hlink : ∀ r, (f r).link = r.link) :
    Within R (modifyRuntime f) :=
  ⟨fun w => ReportRelation.setFields w (f w.gRuntime) (hupper w.gRuntime) (hlink w.gRuntime)⟩

/-- The state of the controller is set, but not whether it is connected. -/
theorem aclEffect_modifyWiimoteState {f : WiimoteState → WiimoteState}
    (hf : ∀ state, (f state).wiimoteConnected = state.wiimoteConnected) :
    Within R (modifyWiimoteState f) := by
  apply aclEffect_modifyRuntime (R := R)
  · intro r
    simp only [TinyWiimoteRuntime.upper, hf]
  · intro r
    simp only [TinyWiimoteRuntime.link, hf]

end Runtime

/-! ## The coarser relations -/

/-- An ACL packet is no command. -/
theorem commandOpcode_makeAclL2capPacket (ch : UInt16) (control : AclPacketControl)
    (channelID : UInt16) (data : List UInt8) (len : UInt8) :
    commandOpcode (makeAclL2capPacket ch control channelID data len) = none :=
  commandOpcode_of_type (by decide)

instance (R : TwWorld → TwWorld → Prop) [SendRelation R] : HandshakeRelation R where
  sendPacket ch remoteCID pb := by
    refine aclEffect_getRuntime_bind fun r =>
      Within.ite _ (fun _ => ⟨fun w => ?_⟩) fun _ => Within.pure _
    rw [exec_sendHciPacketRaw]
    split
    · exact SendRelation.noteSent w _ (commandOpcode_makeAclL2capPacket ..)
    · simpa [TwWorld.noteSent] using refl_of R w
  setFields w r hupper _ := SendRelation.mapRuntime w r hupper
  noteReads := SendRelation.noteReads

instance (R : TwWorld → TwWorld → Prop) [AclRelation R] : FrameRelation R where
  opened w _ _ _ := SendRelation.mapRuntime w _ rfl
  putReport number data len := by
    refine aclEffect_getRuntime_bind fun _ => Within.ite _ (fun _ => ?_) fun _ => Within.pure _
    refine Within.bind ⟨fun w => ?_⟩ fun _ => ⟨fun w => SendRelation.mapRuntime w _ rfl⟩
    rw [exec_readBytes]
    exact SendRelation.noteReads w _
  detected := AclRelation.detected

section Sending

variable {R : TwWorld → TwWorld → Prop} [ReportRelation R]

/-! ## Sending -/

/-- A connection request is a packet that is sent. -/
theorem aclEffect_sendConnectionRequest (ch psm cid : UInt16) :
    Within R (L2capSignaling.sendConnectionRequest ch psm cid) :=
  aclEffect_getRuntime_bind fun _ =>
    Within.ite _ (fun _ => ReportRelation.sendPacket ..) fun _ => Within.pure _

/-- An output report is a packet that is sent, if at all. -/
theorem aclEffect_sendReport (protocol : WiimoteProtocol) (ch : UInt16)
    (pb : PayloadBuilder payloadSize) : Within R (protocol.sendReport ch pb) := by
  refine aclEffect_getRuntime_bind fun r => Within.ite _ (fun _ => Within.pure _) fun _ => ?_
  cases r.l2capConnections.getRemoteCid ch with
  | none => exact Within.pure _
  | some remoteCID => exact ReportRelation.sendPacket ..

/-- So is a write to the memory of the controller. -/
theorem aclEffect_writeMemory (protocol : WiimoteProtocol) (ch : UInt16)
    (addressSpace : WiimoteAddressSpace) (offset : UInt32) (data : Nat → UInt8) (length : UInt8) :
    Within R (protocol.writeMemory ch addressSpace offset data length) :=
  Within.ite _ (fun _ => aclEffect_sendReport ..) fun _ => Within.pure _

/-- So is a read of that memory. -/
theorem aclEffect_readMemory (protocol : WiimoteProtocol) (ch : UInt16)
    (addressSpace : WiimoteAddressSpace) (offset : UInt32) (size : UInt16) :
    Within R (protocol.readMemory ch addressSpace offset size) :=
  Within.ite _ (fun _ => aclEffect_sendReport ..) fun _ => Within.pure _

/-- So is the answer to a configuration request. -/
theorem aclEffect_answerConfigurationRequest (ch : UInt16) (identifier : UInt8) (mtu : UInt16) :
    Within R (L2capSignaling.answerConfigurationRequest ch identifier mtu) := by
  refine aclEffect_getRuntime_bind fun r => ?_
  cases r.l2capConnections.getRemoteCid ch with
  | none => exact Within.pure _
  | some remoteCID => exact ReportRelation.sendPacket ..

/-- The phase of the handshake is a field of the runtime. -/
theorem aclEffect_setState (state : ControllerReportState) :
    Within R (WiimoteExtensions.setState state) :=
  aclEffect_modifyRuntime (fun _ => rfl) fun _ => rfl

/-- What is sent on the first connection is sent, or nothing is done. -/
theorem aclEffect_sendOnFirstConnection {send : WiimoteProtocol → UInt16 → TwM Unit}
    (hsend : ∀ protocol ch, Within R (send protocol ch)) :
    Within R (sendOnFirstConnection send) := by
  refine aclEffect_getRuntime_bind fun r => Within.ite _ (fun _ => Within.pure _) fun _ => ?_
  cases r.l2capConnections.getFirstConnectionHandle with
  | none => exact Within.pure _
  | some ch => exact Within.bind (hsend ..) fun _ => Within.pure _

end Sending

/-- Sending leaves the link as it is. -/
instance : SendRelation (Same TwWorld.isConnected) where
  noteReads _ _ := rfl
  noteSent _ _ _ := rfl
  mapRuntime _ _ h := congrArg UpperRuntime.wiimoteConnected h

section Reading

variable {R : TwWorld → TwWorld → Prop} [HandshakeRelation R]

/-! ## Reading -/

/-- Reading a byte is noted only. -/
theorem aclEffect_readByte (p : BytePtr) (i : Nat) : Within R (readByte p i) :=
  ⟨fun w => HandshakeRelation.noteReads w _⟩

/-- So is reading a field. -/
theorem aclEffect_readUInt16Le (p : BytePtr) : Within R (readUInt16Le p) := by
  refine ⟨fun w => ?_⟩
  rw [exec_readUInt16Le]
  exact HandshakeRelation.noteReads w _

/-- So is reading a stretch of bytes. -/
theorem aclEffect_readBytes (p : BytePtr) (n : Nat) : Within R (readBytes p n) := by
  refine ⟨fun w => ?_⟩
  rw [exec_readBytes]
  exact HandshakeRelation.noteReads w _

/-- A configuration request is read and answered. -/
theorem aclEffect_handleConfigurationRequest (ch : UInt16) (data : BytePtr) (len : UInt16) :
    Within R (L2capSignaling.handleConfigurationRequest ch data len) := by
  refine aclEffect_getRuntime_bind fun r => Within.ite _ (fun _ => Within.pure _) fun _ => ?_
  refine Within.bind (aclEffect_readByte ..) fun identifier => ?_
  refine Within.bind (aclEffect_readUInt16Le _) fun dataLen => ?_
  refine Within.bind (aclEffect_readUInt16Le _) fun flags => ?_
  refine Within.ite _ (fun _ => Within.pure _) fun _ => ?_
  refine Within.bind (aclEffect_readByte ..) fun option => ?_
  refine Within.ite _ (fun _ => Within.pure _) fun _ => ?_
  refine Within.bind (aclEffect_readByte ..) fun optionLength => ?_
  refine Within.ite _ (fun _ => Within.pure _) fun _ => ?_
  exact Within.bind (aclEffect_readUInt16Le _) fun mtu => aclEffect_answerConfigurationRequest ..

/-! ## Input reports -/

/-- An acknowledgement is only read. -/
theorem aclEffect_readWriteAck (data : BytePtr) (len : UInt16) :
    Within R (WiimoteExtensions.readWriteAck data len) := by
  refine Within.ite _ (fun _ => Within.pure _) fun _ => ?_
  refine Within.bind (aclEffect_readByte ..) fun report => ?_
  refine Within.ite _ (fun _ => Within.pure _) fun _ => ?_
  refine Within.bind (aclEffect_readByte ..) fun acknowledged => ?_
  refine Within.ite _ (fun _ => Within.pure _) fun _ => ?_
  exact Within.bind (aclEffect_readByte ..) fun error => Within.pure _

/-- So are the bytes that are compared. -/
theorem aclEffect_memcmpEqual (p : BytePtr) (expected : List UInt8) :
    Within R (WiimoteExtensions.memcmpEqual p expected) :=
  Within.bind (aclEffect_readBytes ..) fun _ => Within.pure _

/-- A status report sets the state of the controller and goes on with the handshake. -/
theorem aclEffect_handleStatusReport (protocol : WiimoteProtocol) (ch : UInt16) (data : BytePtr) :
    Within R (WiimoteExtensions.handleStatusReport protocol ch data) := by
  refine Within.bind (aclEffect_readByte ..) fun rawBattery => ?_
  refine Within.bind (aclEffect_modifyWiimoteState fun _ => rfl) fun _ => ?_
  refine Within.bind (aclEffect_readByte ..) fun flags => Within.ite _ (fun _ => ?_) fun _ => ?_
  · exact Within.bind (aclEffect_writeMemory ..) fun _ => aclEffect_setState _
  · exact Within.bind (aclEffect_modifyWiimoteState fun _ => rfl) fun _ =>
      aclEffect_getRuntime_bind fun r => aclEffect_sendReport ..

/-- The identifier of a Nunchuk is compared and leads to another reporting mode. -/
theorem aclEffect_detectNunchuk (protocol : WiimoteProtocol) (ch : UInt16) (data : BytePtr) :
    Within R (WiimoteExtensions.detectNunchuk protocol ch data) := by
  refine Within.bind (aclEffect_memcmpEqual ..) fun identifier =>
    Within.ite _ (fun _ => ?_) fun _ => Within.pure _
  exact Within.bind (aclEffect_modifyWiimoteState fun _ => rfl) fun _ =>
    aclEffect_getRuntime_bind fun r => aclEffect_sendReport ..

/-- Data that were read from the memory end the handshake. -/
theorem aclEffect_handleReadResponse (protocol : WiimoteProtocol) (ch : UInt16) (data : BytePtr) :
    Within R (WiimoteExtensions.handleReadResponse protocol ch data) := by
  refine Within.bind (aclEffect_memcmpEqual ..) fun address =>
    Within.ite _ (fun _ => ?_) fun _ => Within.pure _
  exact Within.bind (aclEffect_detectNunchuk ..) fun _ => aclEffect_setState _

/-- The step both acknowledgements of the handshake take. -/
theorem aclEffect_onWriteAck (data : BytePtr) (len : UInt16) {next : TwM Unit}
    (hnext : Within R next) : Within R (do
      match ← WiimoteExtensions.readWriteAck data len with
      | none => pure ()
      | some error => if error = 0x00 then next else WiimoteExtensions.setState .init) := by
  refine Within.bind (aclEffect_readWriteAck ..) fun ack => ?_
  cases ack with
  | none => exact Within.pure _
  | some error => exact Within.ite _ (fun _ => hnext) fun _ => aclEffect_setState _

/-- Every phase of the handshake reads, sends or sets fields. -/
theorem aclEffect_handleReport (ch : UInt16) (data : BytePtr) (len : UInt16) :
    Within R (WiimoteExtensions.handleReport ch data len) := by
  refine aclEffect_getRuntime_bind fun r => Within.ite _ (fun _ => Within.pure _) fun _ => ?_
  cases r.wiimoteExtensions.controllerReportState with
  | init =>
    exact Within.bind (aclEffect_readByte ..) fun report =>
      Within.ite _ (fun _ => aclEffect_handleStatusReport ..) fun _ => Within.pure _
  | waitAckOutReport =>
    exact aclEffect_onWriteAck data len
      (Within.bind (aclEffect_writeMemory ..) fun _ => aclEffect_setState _)
  | waitReadControllerType =>
    exact aclEffect_onWriteAck data len
      (Within.bind (aclEffect_readMemory ..) fun _ => aclEffect_setState _)
  | waitReadResponse =>
    exact Within.ite _ (fun _ => Within.pure _) fun _ =>
      Within.bind (aclEffect_readByte ..) fun report =>
        Within.ite _ (fun _ => aclEffect_handleReadResponse ..) fun _ => Within.pure _

/-- Logging reads one byte. -/
theorem aclEffect_logInputReport (data : BytePtr) (len : UInt16) :
    Within R (logInputReport data len) :=
  Within.ite _ (fun _ => (aclEffect_readByte ..).discard) fun _ => Within.pure _

end Reading


section Linking

variable {R : TwWorld → TwWorld → Prop} [LinkRelation R]

/-- What an accepted connection response does. -/
theorem aclEffect_openConnection (ch dstCID : UInt16) (w : TwWorld) :
    R w (exec (match w.gRuntime.l2capConnections.addConnection ⟨ch, dstCID⟩ with
      | none => pure ()
      | some table => do
        modifyRuntime fun r => { r with l2capConnections := table }
        sendAclL2capPacket ch l2capCidSignaling
          (L2capSignaling.configurationRequest dstCID).bytes) w).2 := by
  cases hadd : w.gRuntime.l2capConnections.addConnection ⟨ch, dstCID⟩ with
  | none => exact refl_of R w
  | some table =>
    simp only [exec_then, exec_modifyRuntime]
    exact trans_of R (LinkRelation.opened w _ _ hadd)
      ((ReportRelation.sendPacket ch l2capCidSignaling (L2capSignaling.configurationRequest dstCID)).rel _)

/-- The first report of a link connects its controller. -/
theorem aclEffect_detectWiimote (ch : UInt16) : Within R (detectWiimote ch) := by
  refine ⟨fun w => ?_⟩
  simp only [detectWiimote, exec_getRuntime_bind, exec_ite, exec_pure]
  split
  · exact refl_of R w
  next hconnected =>
    let protocol := w.gRuntime.wiimoteProtocol
    have hleds : Within R (protocol.setLeds ch ⟨0b0001⟩) := aclEffect_sendReport ..
    have hstatus : Within R (protocol.requestStatus ch) := aclEffect_sendReport ..
    have hkept : Within (Same TwWorld.isConnected) (do
        protocol.setLeds ch ⟨0b0001⟩
        protocol.requestStatus ch) :=
      Within.bind (aclEffect_sendReport ..) fun _ => aclEffect_sendReport ..
    refine trans_of R (hleds.rel w) (trans_of R (hstatus.rel _) (trans_of R
      (LinkRelation.detected _ ?_) (Within.rel ?_ _)))
    · exact (hkept.rel w).trans (Bool.eq_false_iff.mpr hconnected)
    · exact Within.ite _ (fun _ => aclEffect_sendReport ..) fun _ => Within.pure _

end Linking

section Receiving

variable {R : TwWorld → TwWorld → Prop} [FrameRelation R]

/-- A connection response opens a channel and asks for its configuration. -/
theorem aclEffect_handleConnectionResponse (ch : UInt16) (data : BytePtr) (len : UInt16) :
    Within R (L2capSignaling.handleConnectionResponse ch data len) := by
  refine ⟨fun w => ?_⟩
  simp only [L2capSignaling.handleConnectionResponse, exec_getRuntime_bind, exec_ite, exec_pure,
    exec_readUInt16Le_bind, TwWorld.noteReads_noteReads]
  generalize [(data + 4).off + 1, (data + 4).off] ++ [(data + 8).off + 1, (data + 8).off] = offsets
  split
  · exact refl_of R w
  split
  · exact HandshakeRelation.noteReads w offsets
  · exact trans_of R (HandshakeRelation.noteReads w offsets)
      (aclEffect_openConnection ch _ (w.noteReads offsets))

/-- A report is detected, handled and queued. -/
theorem aclEffect_handleInputReport (ch : UInt16) (data : BytePtr) (len : UInt16) :
    Within R (handleInputReport ch data len) := by
  refine Within.bind (aclEffect_logInputReport ..) fun _ => ?_
  refine Within.bind (aclEffect_detectWiimote ch) fun _ => ?_
  exact Within.bind (aclEffect_handleReport ..) fun _ => FrameRelation.putReport ..

/-! ## Frames -/

/-- Each kind of frame has its own steps. -/
theorem aclEffect_handleL2capData (header : L2capFrameHeader) (data : BytePtr) (len : UInt16) :
    Within R (handleL2capData header data len) := by
  refine Within.ite _ (fun _ => Within.pure _) fun _ => ?_
  refine Within.bind (aclEffect_readByte ..) fun code => ?_
  refine Within.ite _ (fun _ => ?_) fun _ => ?_
  · exact Within.ite _ (fun _ => Within.pure _) fun _ => aclEffect_handleConnectionResponse ..
  refine Within.ite _ (fun _ => ?_) fun _ => ?_
  · exact Within.ite _ (fun _ => Within.pure _) fun _ => aclEffect_handleConfigurationRequest ..
  refine Within.ite _ (fun _ => Within.pure _) fun _ => ?_
  exact Within.ite _ (fun _ => aclEffect_handleInputReport ..) fun _ => aclEffect_readBytes ..

/-- The headers are read before the frame is handled. -/
theorem aclEffect_handleAclData (data : BytePtr) (len : Nat) :
    Within R (handleAclData data len) := by
  refine Within.ite _ (fun _ => Within.pure _) fun _ => ?_
  refine Within.bind (aclEffect_readByte ..) fun high => ?_
  refine Within.bind (aclEffect_readByte ..) fun low => ?_
  refine Within.ite _ (fun _ => Within.pure _) fun _ => ?_
  refine Within.bind (aclEffect_readUInt16Le _) fun l2capLen => ?_
  refine Within.bind (aclEffect_readUInt16Le _) fun channelId => ?_
  exact Within.ite _ (fun _ => Within.pure _) fun _ => aclEffect_handleL2capData ..

end Receiving

end Esp32Wiimote.Bluetooth
