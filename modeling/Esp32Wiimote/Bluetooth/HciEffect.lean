import Esp32Wiimote.Bluetooth.AclEffect

/-!
# What an HCI event can do

An event handler first reads the packet and then acts. The acting part reads nothing more
and never changes whether reconnecting is automatic. A received packet is either
dispatched to an event handler or has no effect above the ACL layer.

As for ACL data, each handler is followed once for every relation its single steps lie in.
-/

namespace Esp32Wiimote.Bluetooth

open StateProgram

/-! ## Sending through the context -/

/-- Both pointers on the way to the send callback are set. -/
def TwWorld.canSend (w : TwWorld) : Bool :=
  w.gRuntime.hciEventContext.sendPacket && w.gRuntime.hciInterface.hciSendPacket

/-- The packets that arrive when these are sent. -/
def TwWorld.handed (w : TwWorld) (packets : List (List UInt8)) : List (List UInt8) :=
  if w.canSend then packets else []

/-- `hciSend` hands its packet to the callback, if there is one. -/
@[simp] theorem exec_hciSend (packet : List UInt8) (w : TwWorld) :
    exec (hciSend packet) w = ((), w.noteSent (w.handed [packet])) := by
  simp only [hciSend, exec_getContext_bind, exec_ite, exec_sendHciPacketRaw, exec_pure,
    TwWorld.handed, TwWorld.canSend, Bool.and_eq_true]
  by_cases h : w.gRuntime.hciEventContext.sendPacket
  · simp [h]
  · simp [h, TwWorld.noteSent]

/-! ## Acting -/

/-- What the acting part of an event handler leaves alone. -/
structure ActionEffect (w t : TwWorld) : Prop where
  reads : t.reads = w.reads
  autoReconnectEnabled : t.gRuntime.hciEventContext.autoReconnectEnabled =
    w.gRuntime.hciEventContext.autoReconnectEnabled

instance : IsPreorder TwWorld ActionEffect where
  refl _ := ⟨rfl, rfl⟩
  trans _ _ _ h h' :=
    ⟨h'.reads.trans h.reads, h'.autoReconnectEnabled.trans h.autoReconnectEnabled⟩

/-- The size of `gHciTxBuffer`. -/
def hciTxBufferSize : Nat := 256

/-- The single steps of a program that sets the event context lie in the relation. -/
class ContextRelation (R : TwWorld → TwWorld → Prop) : Prop extends ReportRelation R where
  setContext : ∀ w f, (f w.gRuntime.hciEventContext).autoReconnectEnabled =
    w.gRuntime.hciEventContext.autoReconnectEnabled → R w (w.mapContext f)

/-- So do the steps of the acting part of an event handler. -/
class ActionRelation (R : TwWorld → TwWorld → Prop) : Prop extends ContextRelation R where
  sendRaw : ∀ packet, FormedCommand hciTxBufferSize packet → Within R (sendHciPacketRaw packet)

/-- So do the steps of a whole event handler. -/
class EventRelation (R : TwWorld → TwWorld → Prop) : Prop extends
  ActionRelation R, HandshakeRelation R

/-- So do the steps of a program that resets the link layer. -/
class ResetRelation (R : TwWorld → TwWorld → Prop) : Prop extends ActionRelation R where
  setLinkLayer : ∀ w r, r.hciEventContext = w.gRuntime.hciEventContext →
    r.hciInterface = w.gRuntime.hciInterface → R w (w.mapRuntime fun _ => r)

instance : ResetRelation ActionEffect where
  sendPacket ch remoteCID pb := by
    refine aclEffect_getRuntime_bind fun r =>
      Within.ite _ (fun _ => ⟨fun w => ?_⟩) fun _ => Within.pure _
    rw [exec_sendHciPacketRaw]
    exact ⟨rfl, rfl⟩
  setFields w r hupper _ := by
    refine ⟨rfl, ?_⟩
    have hctx : r.hciEventContext = w.gRuntime.hciEventContext :=
      congrArg UpperRuntime.hciEventContext hupper
    simp only [TwWorld.gRuntime_mapRuntime, hctx]
  sendRaw packet _ := by
    refine ⟨fun w => ?_⟩
    rw [exec_sendHciPacketRaw]
    exact ⟨rfl, rfl⟩
  setContext _ _ hf := ⟨rfl, hf⟩
  setLinkLayer w r hctx _ := ⟨rfl, by simp only [TwWorld.gRuntime_mapRuntime, hctx]⟩

section Acting

variable {R : TwWorld → TwWorld → Prop}

/-- What comes after reading the context may use any context. -/
theorem actionEffect_getContext_bind {α : Type} {f : HciEventContext → TwM α}
    (hf : ∀ ctx, Within R (f ctx)) : Within R (getContext >>= f) :=
  ⟨fun w => (hf w.gRuntime.hciEventContext).rel w⟩

/-- What comes after reading the clock may use any time. -/
theorem actionEffect_nowMs_bind {α : Type} {f : UInt32 → TwM α} (hf : ∀ now, Within R (f now)) :
    Within R (nowMs >>= f) :=
  ⟨fun w => (hf w.millis).rel w⟩

/-- An assignment to the context that leaves the reconnect switch alone is within the relation. -/
theorem actionEffect_modifyContext [ContextRelation R] {f : HciEventContext → HciEventContext}
    (hf : ∀ ctx, (f ctx).autoReconnectEnabled = ctx.autoReconnectEnabled) :
    Within R (modifyContext f) := ⟨fun w => ContextRelation.setContext w f (hf _)⟩

variable [ActionRelation R]

/-- So is sending a well-formed command that fits the transmit buffer. -/
theorem actionEffect_hciSend {n : Nat} {packet : List UInt8} (h : FormedCommand n packet)
    (hn : n ≤ hciTxBufferSize) : Within R (hciSend packet) :=
  actionEffect_getContext_bind fun _ =>
    Within.ite _ (fun _ => ActionRelation.sendRaw packet (h.mono hn)) fun _ => Within.pure _

/-- So is the start of an inquiry. -/
theorem actionEffect_startInquiry : Within R startInquiry :=
  Within.bind (actionEffect_modifyContext fun _ => rfl) fun _ =>
    actionEffect_hciSend (formedCommand_makeCmdInquiry _) (by decide)

/-- So is a Create Connection. -/
theorem actionEffect_startCreateConnection (target : HciScannedDevice) (isFastReconnect : Bool) :
    Within R (startCreateConnection target isFastReconnect) :=
  Within.bind (actionEffect_hciSend (formedCommand_makeCmdCreateConnection _) (by decide)) fun _ =>
    actionEffect_modifyContext fun _ => rfl

/-- So is the way back from a fast reconnect to an inquiry. -/
theorem actionEffect_fallback : Within R fallbackFromFastReconnectToInquiry :=
  actionEffect_getContext_bind fun _ => Within.ite _
    (fun _ => Within.bind (actionEffect_modifyContext fun _ => rfl) fun _ =>
      actionEffect_startInquiry)
    fun _ => Within.pure _

/-- So is the reset of the controller. -/
theorem actionEffect_hciEventsResetDevice : Within R hciEventsResetDevice :=
  Within.bind (actionEffect_modifyContext fun _ => rfl) fun _ =>
    Within.bind (actionEffect_modifyContext fun _ => rfl) fun _ =>
      actionEffect_hciSend formedCommand_makeCmdReset (by decide)

/-- So is the decision between a fast reconnect and an inquiry. -/
theorem actionEffect_startConnecting : Within R startConnecting :=
  actionEffect_getContext_bind fun _ => actionEffect_nowMs_bind fun _ =>
    Within.ite _ (fun _ => actionEffect_startCreateConnection ..) fun _ => actionEffect_startInquiry

/-- So is the answer to a Command Complete of Write Scan Enable. -/
theorem actionEffect_writeScanEnableCompleted : Within R writeScanEnableCompleted := by
  refine actionEffect_getContext_bind fun ctx => Within.ite _ (fun _ => ?_) fun _ => ?_
  · exact Within.bind actionEffect_startConnecting fun _ => actionEffect_modifyContext fun _ => rfl
  · exact actionEffect_modifyContext fun _ => rfl

/-- So is the answer to any Command Complete. -/
theorem actionEffect_commandCompleted (cmdOpcode : UInt16) (status : UInt8) :
    Within R (commandCompleted cmdOpcode status) := by
  refine Within.ite _ (fun _ => Within.pure _) fun _ => ?_
  refine Within.ite _ (fun _ => ?_) fun _ => ?_
  · exact actionEffect_hciSend formedCommand_makeCmdReadBdAddr (by decide)
  refine Within.ite _ (fun _ => ?_) fun _ => ?_
  · exact actionEffect_hciSend (formedCommand_makeCmdWriteLocalName (by decide)) (by decide)
  refine Within.ite _ (fun _ => ?_) fun _ => ?_
  · exact actionEffect_hciSend (formedCommand_makeCmdWriteClassOfDevice ..) (by decide)
  refine Within.ite _ (fun _ => ?_) fun _ => ?_
  · exact Within.bind (actionEffect_modifyContext fun _ => rfl) fun _ =>
      actionEffect_hciSend (formedCommand_makeCmdWriteScanEnable _) (by decide)
  · exact Within.ite _ (fun _ => actionEffect_writeScanEnableCompleted) fun _ => Within.pure _

/-- So is the callback for a new link. -/
theorem actionEffect_onAclConnected (connectionHandle : UInt16) :
    Within R (onAclConnected connectionHandle) := aclEffect_sendConnectionRequest ..

end Acting

section Resetting

variable {R : TwWorld → TwWorld → Prop} [ResetRelation R]

/-- An assignment to the link layer that leaves context and interface alone is within the relation. -/
theorem actionEffect_setLinkLayer {f : TinyWiimoteRuntime → TinyWiimoteRuntime}
    (hctx : ∀ r, (f r).hciEventContext = r.hciEventContext)
    (hi : ∀ r, (f r).hciInterface = r.hciInterface) : Within R (modifyRuntime f) :=
  ⟨fun w => ResetRelation.setLinkLayer w (f w.gRuntime) (hctx _) (hi _)⟩

/-- So is `resetDevice`. -/
theorem actionEffect_resetDeviceInternal : Within R resetDeviceInternal := by
  refine Within.bind (actionEffect_setLinkLayer (fun _ => rfl) fun _ => rfl) fun _ => ?_
  exact Within.bind actionEffect_hciEventsResetDevice fun _ =>
    actionEffect_setLinkLayer (fun _ => rfl) fun _ => rfl

/-- So is the callback for the end of a link. -/
theorem actionEffect_onDisconnected (connectionHandle : UInt16) (reason : UInt8) :
    Within R (onDisconnected connectionHandle reason) :=
  Within.bind (actionEffect_setLinkLayer (fun _ => rfl) fun _ => rfl) fun _ =>
    actionEffect_resetDeviceInternal

end Resetting

/-! ## Handling an event -/

section Handling

variable {R : TwWorld → TwWorld → Prop} [EventRelation R]

/-- Reading an address only notes what was read. -/
theorem eventEffect_streamToBdAddr (p : BytePtr) : Within R (streamToBdAddr p) :=
  Within.bind (aclEffect_readBytes p 6) fun _ => Within.pure _

/-- So does the comparison of a name. -/
theorem eventEffect_readMatches (p : BytePtr) (expected : List UInt8) :
    Within R (readMatches p expected) := by
  refine ⟨fun w => ?_⟩
  rw [exec_readMatches]
  exact HandshakeRelation.noteReads w _

/-- So does the log line of a remote name. -/
theorem eventEffect_logRemoteName (name : BytePtr) : Within R (logRemoteName name) := by
  refine ⟨fun w => ?_⟩
  rw [exec_logRemoteName]
  exact HandshakeRelation.noteReads w _

/-- One response of an inquiry is within the relation. -/
theorem eventEffect_handleInquiryResponse (response : BytePtr) :
    Within R (handleInquiryResponse response) := by
  apply Within.bind (eventEffect_streamToBdAddr response)
  intro bdAddr
  apply actionEffect_getContext_bind
  intro ctx
  apply Within.ite
  · intro _
    exact Within.pure _
  · intro _
    apply Within.bind (aclEffect_readByte ..)
    intro psrm
    apply Within.bind (aclEffect_readByte ..)
    intro clockHigh
    apply Within.bind (aclEffect_readByte ..)
    intro clockLow
    dsimp only
    split
    · exact Within.pure _
    · refine Within.bind (actionEffect_modifyContext fun _ => rfl) fun _ => ?_
      apply Within.bind (eventEffect_readMatches ..)
      intro isWiimote
      apply Within.ite _ _ fun _ => Within.pure _
      intro _
      exact actionEffect_hciSend (formedCommand_makeCmdRemoteNameRequest _) (by decide)

/-- So are the responses of a whole result. -/
theorem eventEffect_handleInquiryResponses (data : BytePtr) (num : Nat) :
    Within R (handleInquiryResponses data num) := by
  induction num with
  | zero => exact Within.pure _
  | succ num ih => exact Within.bind ih fun _ => eventEffect_handleInquiryResponse _

/-- So is a Remote Name Request Complete. -/
theorem eventEffect_handleRemoteNameRequestComplete (data : BytePtr) :
    Within R (handleRemoteNameRequestComplete data) := by
  apply Within.bind (eventEffect_streamToBdAddr _)
  intro bdAddr
  apply Within.bind (eventEffect_logRemoteName _)
  intro _
  apply actionEffect_getContext_bind
  intro ctx
  cases ctx.scannedDevices.findScannedDevice bdAddr with
  | none => exact Within.pure _
  | some scanned =>
    apply Within.bind (eventEffect_readMatches ..)
    intro isWiimote
    apply Within.ite
    · intro _
      apply Within.bind (actionEffect_hciSend formedCommand_makeCmdInquiryCancel (by decide))
      intro _
      exact actionEffect_startCreateConnection ..
    · intro _
      exact Within.pure _

/-- So is a Connection Complete. -/
theorem eventEffect_handleConnectionComplete (data : BytePtr) :
    Within R (handleConnectionComplete callbacks data) := by
  apply Within.bind (aclEffect_readByte ..)
  intro status
  apply Within.ite
  · intro _
    exact actionEffect_fallback
  · intro _
    apply Within.bind (aclEffect_readUInt16Le _)
    intro connectionHandle
    apply actionEffect_nowMs_bind
    intro now
    refine Within.bind (actionEffect_modifyContext fun ctx => ?_) fun _ => ?_
    · unfold HciEventContext.cacheConnectTarget
      split <;> rfl
    · apply actionEffect_getContext_bind
      intro ctx
      exact Within.ite _ (fun _ => actionEffect_onAclConnected _) fun _ => Within.pure _

/-- So is a Command Complete. -/
theorem eventEffect_handleCommandComplete (data : BytePtr) :
    Within R (handleCommandComplete data) := by
  apply Within.bind (aclEffect_readUInt16Le _)
  intro cmdOpcode
  apply Within.bind (aclEffect_readByte ..)
  intro status
  exact actionEffect_commandCompleted cmdOpcode status

/-- So is a Command Status. -/
theorem eventEffect_handleCommandStatus (data : BytePtr) :
    Within R (handleCommandStatus data) := by
  apply Within.bind (aclEffect_readByte ..)
  intro status
  apply Within.bind (aclEffect_readByte ..)
  intro _
  apply Within.bind (aclEffect_readUInt16Le _)
  intro cmdOpcode
  exact Within.ite _ (fun _ => actionEffect_fallback) fun _ => Within.pure _

/-- Only the end of a connection does more than an event handler does anyway. -/
theorem eventEffect_hciEventsHandleEvent {packet : HciEventPacket}
    (hdisc : packet.eventCode = kHciDisconnectionCompEvt →
      Within R (handleDisconnectionComplete callbacks packet.data)) :
    Within R (hciEventsHandleEvent callbacks packet) := by
  unfold hciEventsHandleEvent
  split_ifs with _ _ _ hcode
  · exact actionEffect_hciEventsResetDevice
  · exact Within.bind (aclEffect_readByte ..) fun num =>
      eventEffect_handleInquiryResponses packet.data num.toNat
  · exact eventEffect_handleConnectionComplete packet.data
  · exact hdisc hcode
  · exact eventEffect_handleRemoteNameRequestComplete packet.data
  · exact eventEffect_handleCommandComplete packet.data
  · exact eventEffect_handleCommandStatus packet.data
  · exact Within.pure _

/-- So is a Disconnection Complete, for a relation that allows the reset. -/
theorem eventEffect_handleDisconnectionComplete [ResetRelation R] (data : BytePtr) :
    Within R (handleDisconnectionComplete callbacks data) := by
  apply Within.bind (aclEffect_readUInt16Le _)
  intro connectionHandle
  apply Within.bind (aclEffect_readByte ..)
  intro reason
  apply actionEffect_getContext_bind
  intro ctx
  exact Within.ite _
    (fun _ => actionEffect_onDisconnected connectionHandle reason) fun _ => Within.pure _

end Handling

/-! ## Dispatching -/

/-- The event packet that is given to the HCI layer, if any. -/
def eventPacket (data : Option (Nat → UInt8)) (len : Nat) : Option HciEventPacket :=
  match data with
  | none => none
  | some mem =>
    if len ≠ 0 ∧ mem 0 = h4Event ∧ 3 ≤ len ∧ 3 + (mem 2).toNat ≤ len then
      some ⟨mem 1, mem 2, { mem, len, off := 3 }⟩
    else none

/-- A dispatched packet is handled after its three header bytes were read. -/
theorem exec_handleHciData_of_eventPacket {data : Option (Nat → UInt8)} {len : Nat}
    {packet : HciEventPacket} (h : eventPacket data len = some packet) (w : TwWorld) :
    exec (handleHciData data len) w =
      exec (hciEventsHandleEvent callbacks packet) (w.noteReads [0, 2, 1]) := by
  cases data with
  | none => cases h
  | some mem =>
    simp only [eventPacket] at h
    split at h
    next hd =>
      obtain ⟨hlen, htype, hshort, hdeclared⟩ := hd
      cases h
      have hread : ∀ i, BytePtr.at { mem, len } i = mem i := fun i => by simp [BytePtr.at]
      simp only [handleHciData, hlen, if_false, exec_readByte_bind, hread, htype, if_true,
        handleHciEvent, show ¬len < 3 by omega, show ¬len < 3 + (mem 2).toNat by omega]
      rw [TwWorld.noteReads_noteReads, TwWorld.noteReads_noteReads]
      rfl
    next => cases h

/-- A packet that is not dispatched does not reach the HCI layer. -/
theorem aclEffect_handleHciData {R : TwWorld → TwWorld → Prop} [FrameRelation R]
    {data : Option (Nat → UInt8)} {len : Nat} (h : eventPacket data len = none) :
    Within R (handleHciData data len) := by
  cases data with
  | none => exact Within.pure _
  | some mem =>
    refine Within.ite _ (fun _ => Within.pure _) fun hlen => ⟨fun w => ?_⟩
    rw [exec_readByte_bind]
    refine trans_of R ((aclEffect_readByte { mem, len } 0).rel w) (Within.rel ?_ _)
    refine Within.ite _ (fun htype => ?_) fun _ => Within.ite _ (fun _ => ?_) fun _ => ?_
    · -- the tests of the length drop the event, or it would be dispatched
      refine Within.ite _ (fun _ => Within.pure _) fun hshort => ⟨fun v => ?_⟩
      rw [exec_readByte_bind]
      refine trans_of R ((aclEffect_readByte { mem, len } 2).rel v) (Within.rel ?_ _)
      refine Within.ite _ (fun _ => Within.pure _) fun hdeclared => ?_
      have hread : ∀ i, BytePtr.at { mem, len } i = mem i := fun i => by simp [BytePtr.at]
      simp only [hread] at htype hdeclared
      have hd : len ≠ 0 ∧ mem 0 = h4Event ∧ 3 ≤ len ∧ 3 + (mem 2).toNat ≤ len :=
        ⟨hlen, htype, by omega, by omega⟩
      simp [eventPacket, hd] at h
    · exact Within.ite _ (fun _ => aclEffect_handleAclData ..) fun _ => Within.pure _
    · exact aclEffect_readBytes ..

/-- A received packet is either an event or data of a link. -/
theorem eventEffect_handleHciData {R : TwWorld → TwWorld → Prop} [EventRelation R] [FrameRelation R]
    [ResetRelation R] (data : Option (Nat → UInt8)) (len : Nat) :
    Within R (handleHciData data len) := by
  cases h : eventPacket data len with
  | none => exact aclEffect_handleHciData h
  | some packet =>
    refine ⟨fun w => ?_⟩
    rw [exec_handleHciData_of_eventPacket h]
    apply trans_of R (HandshakeRelation.noteReads w [0, 2, 1])
    exact (eventEffect_hciEventsHandleEvent fun _ =>
      eventEffect_handleDisconnectionComplete packet.data).rel _

/-! ## Calls -/

section Calls

variable {R : TwWorld → TwWorld → Prop} [ContextRelation R]

/-- `setScanEnabled` is within every relation that allows its Write Scan Enable. -/
theorem callEffect_setScanEnabled (enabled : Bool)
    (hsend : Within R (sendHciPacketRaw (makeCmdWriteScanEnable (if enabled then 0x02 else 0x00)))) :
    Within R (tinyWiimoteSetScanEnabled enabled) := by
  apply aclEffect_getRuntime_bind
  intro r
  apply Within.ite _ fun _ => Within.pure _
  intro _
  apply Within.ite _ fun _ => Within.pure _
  intro _
  exact Within.bind hsend fun _ => actionEffect_modifyContext fun _ => rfl

/-- What starting and stopping the discovery have in common. -/
theorem callEffect_discovery {packet : List UInt8} {scanning accepted : Bool}
    (hsend : Within R (sendHciPacketRaw packet)) : Within R (do
      sendHciPacketRaw packet
      modifyContext fun ctx => { ctx with scanningEnabled := scanning }
      return accepted : TwM Bool) :=
  Within.bind hsend fun _ => Within.bind (actionEffect_modifyContext fun _ => rfl) fun _ =>
    Within.pure _

/-- `startDiscovery` is within every relation that allows its Inquiry. -/
theorem callEffect_startDiscovery
    (hsend : Within R (sendHciPacketRaw (makeCmdInquiry ⟨0x9E8B33, 0x08, 0xFF⟩))) :
    Within R tinyWiimoteStartDiscovery := by
  apply aclEffect_getRuntime_bind
  intro r
  apply Within.ite _ fun _ => Within.pure _
  intro _
  apply Within.ite _ fun _ => Within.pure _
  intro _
  exact Within.ite _ (fun _ => Within.pure _) fun _ => callEffect_discovery hsend

/-- `stopDiscovery` is within every relation that allows its Inquiry Cancel. -/
theorem callEffect_stopDiscovery (hsend : Within R (sendHciPacketRaw makeCmdInquiryCancel)) :
    Within R tinyWiimoteStopDiscovery := by
  apply aclEffect_getRuntime_bind
  intro r
  apply Within.ite _ fun _ => Within.pure _
  intro _
  apply Within.ite _ fun _ => Within.pure _
  intro _
  exact Within.ite _ (fun _ => Within.pure _) fun _ => callEffect_discovery hsend

/-- `disconnect` is within every relation that allows its Disconnect. -/
theorem callEffect_disconnect (reason : UInt8)
    (hsend : ∀ ch, Within R (sendHciPacketRaw (makeCmdDisconnect ch reason))) :
    Within R (tinyWiimoteDisconnect reason) := by
  apply aclEffect_getRuntime_bind
  intro r
  apply Within.ite _ fun _ => Within.pure _
  intro _
  apply Within.ite _ fun _ => Within.pure _
  intro _
  cases r.l2capConnections.getFirstConnectionHandle with
  | none => exact Within.pure _
  | some connectionHandle => exact Within.bind (hsend connectionHandle) fun _ => Within.pure _

/-- `clearReconnectCache` only assigns to the context. -/
theorem callEffect_clearReconnectCache : Within R tinyWiimoteClearReconnectCache := by
  apply aclEffect_getRuntime_bind
  intro r
  exact Within.ite _ (fun _ => Within.pure _) fun _ => actionEffect_modifyContext fun _ => rfl

/-- The size of the buffer the call builds its command in: `tx`, or that of the event handlers. -/
def TwCall.commandCapacity : TwCall → Nat
  | .setScanEnabled _ => 8
  | .startDiscovery => 16
  | .stopDiscovery => 8
  | .disconnect _ => 8
  | _ => hciTxBufferSize

/-- A call that neither resets the link layer nor reads a report nor sets the reconnect policy. -/
def TwCall.IsPlain : TwCall → Prop
  | .init _ | .resetDevice | .read | .setAutoReconnectEnabled _ => False
  | _ => True

/-- Every plain call is within a relation that allows the commands it sends. -/
theorem callEffect_run {c : TwCall} (hc : c.IsPlain)
    (hraw : ∀ packet, FormedCommand c.commandCapacity packet → Within R (sendHciPacketRaw packet)) :
    Within R c.run := by
  cases c with
  | init hciInterface => exact hc.elim
  | resetDevice => exact hc.elim
  | requestBatteryUpdate =>
    exact (aclEffect_sendOnFirstConnection fun _ _ => aclEffect_sendReport ..).discard
  | setLeds ledMask =>
    exact (aclEffect_sendOnFirstConnection fun _ _ => aclEffect_sendReport ..).discard
  | setReportingMode mode continuous =>
    exact (aclEffect_sendOnFirstConnection fun _ _ => aclEffect_sendReport ..).discard
  | requestStatus =>
    exact (aclEffect_sendOnFirstConnection fun _ _ => aclEffect_sendReport ..).discard
  | writeMemory addressSpace offset data len =>
    exact (aclEffect_sendOnFirstConnection fun _ _ => aclEffect_writeMemory ..).discard
  | readMemory addressSpace offset size =>
    exact (aclEffect_sendOnFirstConnection fun _ _ => aclEffect_readMemory ..).discard
  | read => exact hc.elim
  | reqAccelerometer use => exact aclEffect_modifyWiimoteState fun _ => rfl
  | setFastReconnectTtlMs ttlMs => exact actionEffect_modifyContext fun _ => rfl
  | setScanEnabled enabled =>
    have hfits := (formedCommand_makeCmdWriteScanEnable
      (if enabled then 0x02 else 0x00)).mono (show 5 ≤ 8 by omega)
    exact callEffect_setScanEnabled enabled (hraw _ hfits)
  | startDiscovery =>
    have hfits := (formedCommand_makeCmdInquiry ⟨0x9E8B33, 0x08, 0xFF⟩).mono (show 9 ≤ 16 by omega)
    exact (callEffect_startDiscovery (hraw _ hfits)).discard
  | stopDiscovery =>
    have hfits := formedCommand_makeCmdInquiryCancel.mono (show 4 ≤ 8 by omega)
    exact (callEffect_stopDiscovery (hraw _ hfits)).discard
  | disconnect reason =>
    have hfits := fun ch => (formedCommand_makeCmdDisconnect ch reason).mono (show 7 ≤ 8 by omega)
    exact (callEffect_disconnect reason fun ch => hraw _ (hfits ch)).discard
  | setAutoReconnectEnabled enabled => exact hc.elim
  | clearReconnectCache => exact callEffect_clearReconnectCache

end Calls

end Esp32Wiimote.Bluetooth
