import Esp32Wiimote.Library.TransitionRun
import Esp32Wiimote.Bluetooth.HciEffect

/-!
# Who disturbs an active link

While a controller is connected, an Inquiry, a Create Connection or a Reset takes the
radio away from it. The public calls never send one then, and neither does ACL data. Five
kinds of HCI events do, because their handlers do not ask whether a controller is
connected; a run leaves its links alone exactly when none of them arrives on a link.
-/

namespace Esp32Wiimote.Bluetooth

open StateProgram TransitionRun

/-- An Inquiry, Create Connection or Reset command. -/
def IsDisruptive (packet : List UInt8) : Prop :=
  commandOpcode packet = some kHciOpcodeInquiry ∨
    commandOpcode packet = some kHciOpcodeCreateConnection ∨
    commandOpcode packet = some kHciOpcodeReset

instance : DecidablePred IsDisruptive := fun packet =>
  inferInstanceAs (Decidable (commandOpcode packet = _ ∨ commandOpcode packet = _ ∨ _))

/-- A public call other than the two that start the controller anew, or a received packet. -/
def TwAction.IsRuntimeAction : TwAction → Prop
  | .call (.init _) | .call .resetDevice => False
  | _ => True

/-- The event packet the event hands to the HCI layer. -/
def TwEvent.dispatched (e : TwEvent) : Option HciEventPacket :=
  match e.action with
  | .hci data len => eventPacket data len
  | .call _ => none

/-- The step handles a Disconnection Complete event. -/
def TwEvent.IsDisconnectionComplete (e : TwEvent) : Prop :=
  ∃ packet, e.dispatched = some packet ∧ packet.eventCode = kHciDisconnectionCompEvt

instance (e : TwEvent) : Decidable e.IsDisconnectionComplete :=
  inferInstanceAs (Decidable (∃ packet ∈ e.dispatched, packet.eventCode = kHciDisconnectionCompEvt))

/-- The step does not disturb a connected controller. -/
def LeavesLinkAlone (w : TwWorld) (e : TwEvent) : Prop :=
  w.isConnected → ¬e.IsDisconnectionComplete → ∀ packet ∈ (w.step e).sent, ¬IsDisruptive packet

/-! ## The events that look for a controller -/

/-- The event makes its handler look for a controller, or reset to do so, in this context. -/
def HciEventContext.SeeksController (ctx : HciEventContext) (packet : HciEventPacket) : Prop :=
  let data := packet.data
  if packet.eventCode = kHciInquiryCompEvt then True
  else if packet.eventCode = kHciConnectionCompEvt then
    data.at 0 ≠ 0x00 ∧ ctx.pendingFastReconnect
  else if packet.eventCode = kHciRmtNameRequestCompEvt then
    (ctx.scannedDevices.findScannedDevice (data + 1).bdAddrAt).isSome ∧
      (data + 7).startsWith wiimoteName
  else if packet.eventCode = kHciCommandCompleteEvt then
    uint16OfLe (data.at 1) (data.at 2) = kHciOpcodeWriteScanEnable ∧ data.at 3 = 0x00 ∧
      ctx.connectsOnScanEnable
  else if packet.eventCode = kHciCommandStatusEvt then
    data.at 0 ≠ 0x00 ∧ uint16OfLe (data.at 2) (data.at 3) = kHciOpcodeCreateConnection ∧
      ctx.pendingFastReconnect
  else False

instance (ctx : HciEventContext) (packet : HciEventPacket) : Decidable (ctx.SeeksController packet) := by
  unfold HciEventContext.SeeksController
  infer_instance

/-- No event that looks for a controller is handled while one is connected. -/
def NoSearchOnLink (w : TwWorld) (e : TwEvent) : Prop :=
  w.isConnected → w.canSend → ∀ packet ∈ e.dispatched,
    ¬w.gRuntime.hciEventContext.SeeksController packet

instance (w : TwWorld) (e : TwEvent) : Decidable (NoSearchOnLink w e) := by
  unfold NoSearchOnLink
  infer_instance

/-! ## What the handlers send -/

/-- Nothing disruptive was sent so far. -/
def TwWorld.Quiet (w : TwWorld) : Prop := ∀ packet ∈ w.sent, ¬IsDisruptive packet

/-- A world that sent nothing is quiet. -/
theorem quiet_of_nil {w : TwWorld} (h : w.sent = []) : w.Quiet := by simp [TwWorld.Quiet, h]

/-- Assignments to the context and reads send nothing. -/
@[simp] theorem quiet_mapContext (w : TwWorld) (f : HciEventContext → HciEventContext) :
    (w.mapContext f).Quiet ↔ w.Quiet := Iff.rfl

@[simp] theorem quiet_noteReads (w : TwWorld) (offsets : List Nat) :
    (w.noteReads offsets).Quiet ↔ w.Quiet := Iff.rfl

/-- Reading does not change whether packets can be sent. -/
@[simp] theorem canSend_noteReads (w : TwWorld) (offsets : List Nat) :
    (w.noteReads offsets).canSend = w.canSend := rfl

/-- A program that sends no command keeps the world quiet. -/
theorem AclEffect.quiet {w t : TwWorld} (h : AclEffect w t) (hw : w.Quiet) : t.Quiet := by
  have hgrown : Grown TwWorld.sent (¬IsDisruptive ·) w t :=
    h.sent.mono fun packet hnone => by simp [IsDisruptive, hnone]
  exact hgrown.forall_mem hw

/-- Sending packets through the context keeps the world quiet unless one is disruptive. -/
theorem quiet_handed {w t : TwWorld} {packets : List (List UInt8)} (hw : w.Quiet)
    (ht : t.sent = w.sent ++ w.handed packets) :
    t.Quiet ↔ ¬(w.canSend ∧ ∃ packet ∈ packets, IsDisruptive packet) := by
  simp only [TwWorld.Quiet, ht, TwWorld.handed, List.mem_append] at hw ⊢
  by_cases h : w.canSend
  · simp only [h, if_true, true_and, not_exists, not_and]
    exact ⟨fun hq packet hp => hq packet (.inr hp), fun hq packet hp => hp.elim (hw packet) (hq packet)⟩
  · simpa [h] using hw

/-- `startInquiry` sends one Inquiry. -/
theorem sent_startInquiry (w : TwWorld) : (exec startInquiry w).2.sent =
    w.sent ++ w.handed [makeCmdInquiry ⟨0x9E8B33, 0x05, 0x00⟩] := by
  simp [startInquiry, clearScannedDevices, TwWorld.handed, TwWorld.canSend]

/-- `startCreateConnection` sends one Create Connection. -/
theorem sent_startCreateConnection (target : HciScannedDevice) (fast : Bool) (w : TwWorld) :
    (exec (startCreateConnection target fast) w).2.sent =
      w.sent ++ w.handed [makeCmdCreateConnection
        ⟨target.bdAddr, 0x0008, target.psrm, target.clkofs, 0x00⟩] := by
  simp [startCreateConnection]

/-- `hciEventsResetDevice` sends one Reset. -/
theorem sent_hciEventsResetDevice (w : TwWorld) :
    (exec hciEventsResetDevice w).2.sent = w.sent ++ w.handed [makeCmdReset] := by
  simp [hciEventsResetDevice, clearScannedDevices, TwWorld.handed, TwWorld.canSend]

section Handlers

variable {w : TwWorld} (hw : w.Quiet)
include hw

/-- A packet that disturbs no link keeps the world quiet. -/
theorem quiet_hciSend {packet : List UInt8} (hp : ¬IsDisruptive packet) :
    (exec (hciSend packet) w).2.Quiet := by
  have hsent : (exec (hciSend packet) w).2.sent = w.sent ++ w.handed [packet] := by
    rw [exec_hciSend, TwWorld.sent_noteSent]
  refine (quiet_handed hw hsent).mpr ?_
  rintro ⟨-, p, hmem, hdis⟩
  exact hp (List.mem_singleton.mp hmem ▸ hdis)

/-- `startInquiry` is quiet only where nothing can be sent. -/
theorem quiet_startInquiry : (exec startInquiry w).2.Quiet ↔ ¬w.canSend := by
  rw [quiet_handed hw (sent_startInquiry w)]
  simp [IsDisruptive]

/-- So is `startCreateConnection`. -/
theorem quiet_startCreateConnection (target : HciScannedDevice) (fast : Bool) :
    (exec (startCreateConnection target fast) w).2.Quiet ↔ ¬w.canSend := by
  rw [quiet_handed hw (sent_startCreateConnection target fast w)]
  simp [IsDisruptive]

/-- So is the end of an inquiry. -/
theorem quiet_handleInquiryComplete : (exec handleInquiryComplete w).2.Quiet ↔ ¬w.canSend := by
  rw [handleInquiryComplete, quiet_handed hw (sent_hciEventsResetDevice w)]
  simp [IsDisruptive]

/-- The way back to an inquiry is quiet unless a fast reconnect was pending. -/
theorem quiet_fallback : (exec fallbackFromFastReconnectToInquiry w).2.Quiet ↔
    ¬(w.canSend ∧ w.gRuntime.hciEventContext.pendingFastReconnect) := by
  simp only [fallbackFromFastReconnectToInquiry, exec_getContext_bind, exec_ite, exec_then,
    exec_modifyContext, exec_pure]
  split
  next h =>
    rw [quiet_startInquiry ((quiet_mapContext ..).mpr hw)]
    simp [h, TwWorld.canSend]
  next h => simp [h, hw]

/-- The start of a connection is quiet only where nothing can be sent. -/
theorem quiet_startConnecting : (exec startConnecting w).2.Quiet ↔ ¬w.canSend := by
  simp only [startConnecting, exec_getContext_bind, exec_nowMs_bind, exec_ite]
  split
  · exact quiet_startCreateConnection hw _ _
  · exact quiet_startInquiry hw

/-- Write Scan Enable is quiet unless the scan was to connect. -/
theorem quiet_writeScanEnableCompleted : (exec writeScanEnableCompleted w).2.Quiet ↔
    ¬(w.canSend ∧ w.gRuntime.hciEventContext.connectsOnScanEnable) := by
  simp only [writeScanEnableCompleted, exec_getContext_bind, exec_ite, exec_then, exec_modifyContext]
  split
  next h =>
    rw [quiet_mapContext, quiet_startConnecting hw]
    simp [h]
  next h =>
    rw [quiet_mapContext]
    simp [h, hw]

/-- Of the replies to commands, only that to Write Scan Enable goes on with a search. -/
theorem quiet_commandCompleted (cmdOpcode : UInt16) (status : UInt8) :
    (exec (commandCompleted cmdOpcode status) w).2.Quiet ↔
      ¬(w.canSend ∧ cmdOpcode = kHciOpcodeWriteScanEnable ∧ status = 0x00 ∧
        w.gRuntime.hciEventContext.connectsOnScanEnable) := by
  simp only [commandCompleted, exec_ite, exec_then, exec_modifyContext, exec_pure]
  split_ifs with hstatus hreset haddr hname hclass hscan
  · simp [hstatus, hw]
  · exact iff_of_true (quiet_hciSend hw (by decide)) fun h => absurd (hreset ▸ h.2.1) (by decide)
  · exact iff_of_true (quiet_hciSend hw (by decide)) fun h => absurd (haddr ▸ h.2.1) (by decide)
  · exact iff_of_true (quiet_hciSend hw (by decide)) fun h => absurd (hname ▸ h.2.1) (by decide)
  · exact iff_of_true (quiet_hciSend ((quiet_mapContext ..).mpr hw) (by decide)) fun h =>
      absurd (hclass ▸ h.2.1) (by decide)
  · rw [quiet_writeScanEnableCompleted hw]
    simp [hscan, not_not.mp hstatus]
  · simp [hscan, hw]

/-- A Command Complete is quiet unless it completes the scan that was to connect. -/
theorem quiet_handleCommandComplete (data : BytePtr) :
    (exec (handleCommandComplete data) w).2.Quiet ↔
      ¬(w.canSend ∧ uint16OfLe (data.at 1) (data.at 2) = kHciOpcodeWriteScanEnable ∧
        data.at 3 = 0x00 ∧ w.gRuntime.hciEventContext.connectsOnScanEnable) := by
  simp only [handleCommandComplete, exec_readUInt16Le_bind, exec_readByte_bind]
  exact quiet_commandCompleted (by simpa using hw) _ _

/-- A Command Status is quiet unless it refuses a fast reconnect. -/
theorem quiet_handleCommandStatus (data : BytePtr) :
    (exec (handleCommandStatus data) w).2.Quiet ↔
      ¬(w.canSend ∧ data.at 0 ≠ 0x00 ∧
        uint16OfLe (data.at 2) (data.at 3) = kHciOpcodeCreateConnection ∧
        w.gRuntime.hciEventContext.pendingFastReconnect) := by
  simp only [handleCommandStatus, exec_readUInt16Le_bind, exec_readByte_bind, exec_ite, exec_pure,
    TwWorld.noteReads_noteReads, BytePtr.at_add]
  split
  next h =>
    rw [quiet_fallback (by simpa using hw)]
    simp [h]
  next h =>
    rw [quiet_noteReads]
    exact iff_of_true hw fun hc => h ⟨hc.2.1, hc.2.2.1⟩

/-- A Connection Complete is quiet unless a fast reconnect failed. -/
theorem quiet_handleConnectionComplete (data : BytePtr) :
    (exec (handleConnectionComplete callbacks data) w).2.Quiet ↔
      ¬(w.canSend ∧ data.at 0 ≠ 0x00 ∧ w.gRuntime.hciEventContext.pendingFastReconnect) := by
  simp only [handleConnectionComplete, exec_readByte_bind, exec_ite]
  split
  next h =>
    rw [quiet_fallback (by simpa using hw)]
    simp [h]
  next h =>
    -- opening the L2CAP channel sends ACL data only
    simp only [exec_readUInt16Le_bind, exec_nowMs_bind, exec_then, exec_modifyContext,
      exec_getContext_bind, exec_ite, exec_pure]
    refine iff_of_true ?_ fun hc => h hc.2.1
    split
    · exact AclEffect.quiet ((aclEffect_sendConnectionRequest ..).rel _) (by simpa using hw)
    · simpa using hw

/-- A remote name is quiet unless a listed device turns out to be a Wiimote. -/
theorem quiet_handleRemoteNameRequestComplete (data : BytePtr) :
    (exec (handleRemoteNameRequestComplete data) w).2.Quiet ↔
      ¬(w.canSend ∧
        (w.gRuntime.hciEventContext.scannedDevices.findScannedDevice (data + 1).bdAddrAt).isSome ∧
        (data + 7).startsWith wiimoteName) := by
  simp only [handleRemoteNameRequestComplete, exec_streamToBdAddr_bind, exec_then,
    exec_logRemoteName, exec_getContext_bind, TwWorld.noteReads_noteReads, TwWorld.gRuntime_noteReads]
  cases w.gRuntime.hciEventContext.scannedDevices.findScannedDevice (data + 1).bdAddrAt with
  | none => simpa using hw
  | some scanned =>
    simp only [exec_bind_of_exec (exec_readMatches ..), exec_ite, exec_then, exec_pure]
    split
    next h =>
      rw [quiet_startCreateConnection]
      · simp [h, TwWorld.canSend]
      · exact quiet_hciSend (by simpa using hw) (by decide)
    next h => simp [h, hw]

/-- An inquiry response sends at most a Remote Name Request. -/
theorem quiet_handleInquiryResponse (response : BytePtr) :
    (exec (handleInquiryResponse response) w).2.Quiet := by
  simp only [handleInquiryResponse, exec_streamToBdAddr_bind, exec_getContext_bind, exec_ite,
    exec_readByte_bind, exec_pure]
  split
  · simpa using hw
  generalize ScannedDevices.addScannedDevice _ _ = added
  cases added with
  | none => simpa using hw
  | some devices =>
    simp only [exec_then, exec_modifyContext, exec_bind_of_exec (exec_readMatches ..), exec_ite,
      exec_pure]
    split
    · exact quiet_hciSend (by simpa using hw) (by simp [IsDisruptive]; decide)
    · simpa using hw

/-- An Inquiry Result is always quiet. -/
theorem quiet_handleInquiryResult (data : BytePtr) :
    (exec (handleInquiryResult data) w).2.Quiet := by
  have hall : ∀ num v, TwWorld.Quiet v → (exec (handleInquiryResponses data num) v).2.Quiet := by
    intro num v hv
    induction num with
    | zero => exact hv
    | succ num ih =>
      rw [handleInquiryResponses, exec_then]
      exact quiet_handleInquiryResponse ih _
  rw [handleInquiryResult, exec_readByte_bind]
  exact hall _ _ ((quiet_noteReads ..).mpr hw)

end Handlers

/-! ## Steps -/

/-- An event other than a Disconnection Complete is harmless unless it starts a search. -/
theorem quiet_hciEventsHandleEvent {w : TwWorld} (hw : w.Quiet) {packet : HciEventPacket}
    (hdisc : packet.eventCode ≠ kHciDisconnectionCompEvt) :
    (exec (hciEventsHandleEvent callbacks packet) w).2.Quiet ↔
      ¬(w.canSend ∧ w.gRuntime.hciEventContext.SeeksController packet) := by
  simp only [hciEventsHandleEvent, exec_ite, exec_pure, HciEventContext.SeeksController]
  by_cases hinq : packet.eventCode = kHciInquiryCompEvt
  · simp only [hinq, if_true, quiet_handleInquiryComplete hw, and_true]
  by_cases hres : packet.eventCode = kHciInquiryResultEvt
  · have hresult := quiet_handleInquiryResult hw packet.data
    simpa [hres, kHciInquiryResultEvt, kHciInquiryCompEvt, kHciConnectionCompEvt,
      kHciRmtNameRequestCompEvt, kHciCommandCompleteEvt, kHciCommandStatusEvt] using hresult
  simp only [hinq, hres, if_false]
  split_ifs
  · exact quiet_handleConnectionComplete hw _
  · exact quiet_handleRemoteNameRequestComplete hw _
  · exact quiet_handleCommandComplete hw _
  · exact quiet_handleCommandStatus hw _
  · simp [hw]

/-- Public calls do not disturb a connected controller. -/
theorem quiet_call {w : TwWorld} (hw : w.Quiet) (hconn : w.isConnected) {c : TwCall}
    (hc : (TwAction.call c).IsRuntimeAction) : (exec c.run w).2.Quiet := by
  have hacl : ∀ send, (∀ protocol ch, Within AclEffect (send protocol ch)) →
      (exec (discard (sendOnFirstConnection send)) w).2.Quiet := fun send hsend =>
    ((aclEffect_sendOnFirstConnection hsend).discard.rel w).quiet hw
  have hraw : ∀ packet, ¬IsDisruptive packet → (exec (sendHciPacketRaw packet) w).2.Quiet := by
    intro packet hp p hmem
    rw [exec_sendHciPacketRaw, TwWorld.sent_noteSent, List.mem_append] at hmem
    rcases hmem with hmem | hmem
    · exact hw p hmem
    · split at hmem
      · exact List.mem_singleton.mp hmem ▸ hp
      · cases hmem
  have hconn' : w.gRuntime.wiimoteState.wiimoteConnected = true := hconn
  cases c with
  | init hciInterface => exact hc.elim
  | resetDevice => exact hc.elim
  | requestBatteryUpdate => exact hacl _ fun _ _ => aclEffect_sendReport ..
  | setLeds ledMask => exact hacl _ fun _ _ => aclEffect_sendReport ..
  | setReportingMode mode continuous => exact hacl _ fun _ _ => aclEffect_sendReport ..
  | requestStatus => exact hacl _ fun _ _ => aclEffect_sendReport ..
  | writeMemory addressSpace offset data len => exact hacl _ fun _ _ => aclEffect_writeMemory ..
  | readMemory addressSpace offset size => exact hacl _ fun _ _ => aclEffect_readMemory ..
  | read => exact hw
  | reqAccelerometer use => exact hw
  | setFastReconnectTtlMs ttlMs => exact hw
  | setScanEnabled enabled =>
    simp only [TwCall.run, tinyWiimoteSetScanEnabled, exec_getRuntime_bind, exec_ite, exec_then,
      exec_modifyContext, exec_pure, hconn', Bool.not_true, Bool.false_and]
    split
    · exact hw
    · exact (quiet_mapContext ..).mpr (hraw _ (by simp [IsDisruptive]; decide))
  | startDiscovery =>
    simp only [TwCall.run, tinyWiimoteStartDiscovery, exec_discard, exec_getRuntime_bind,
      exec_pure, hconn', if_true, ite_self]
    exact hw
  | stopDiscovery =>
    simp only [TwCall.run, tinyWiimoteStopDiscovery, exec_discard, exec_getRuntime_bind,
      exec_pure, hconn', if_true, ite_self]
    exact hw
  | disconnect reason =>
    simp only [TwCall.run, tinyWiimoteDisconnect, exec_discard, exec_getRuntime_bind, exec_ite,
      exec_pure, hconn', Bool.not_true, Bool.false_eq_true, if_false]
    split
    · exact hw
    cases w.gRuntime.l2capConnections.getFirstConnectionHandle with
    | none => exact hw
    | some connectionHandle =>
      exact hraw (makeCmdDisconnect connectionHandle reason) (by simp [IsDisruptive]; decide)
  | setAutoReconnectEnabled enabled =>
    simp only [TwCall.run, tinyWiimoteSetAutoReconnectEnabled, exec_getRuntime_bind, exec_ite,
      exec_modifyContext, exec_pure]
    split <;> exact hw
  | clearReconnectCache =>
    simp only [TwCall.run, tinyWiimoteClearReconnectCache, exec_getRuntime_bind, exec_ite,
      exec_modifyContext, exec_pure]
    split <;> exact hw

/-- One step leaves a link alone exactly when it starts no search on it. -/
theorem leavesLinkAlone_iff {w : TwWorld} {e : TwEvent} (he : e.action.IsRuntimeAction) :
    LeavesLinkAlone w e ↔ NoSearchOnLink w e := by
  refine forall_congr' fun hconn => ?_
  have henter : (w.enter e).Quiet := quiet_of_nil rfl
  change (¬e.IsDisconnectionComplete → (exec e.action.run (w.enter e)).2.Quiet) ↔ _
  obtain ⟨action, millis, logLevel⟩ := e
  cases action with
  | call c => exact iff_of_true (fun _ => quiet_call henter hconn he) fun _ packet h => by cases h
  | hci data len =>
    simp only [TwEvent.IsDisconnectionComplete, TwEvent.dispatched, TwAction.run]
    cases hpacket : eventPacket data len with
    | none =>
      have hquiet := AclEffect.quiet ((aclEffect_handleHciData hpacket).rel (w.enter _)) henter
      exact iff_of_true (fun _ => hquiet) fun _ packet h => by cases h
    | some packet =>
      simp only [exec_handleHciData_of_eventPacket hpacket, Option.mem_def, Option.some.injEq,
        exists_eq_left', forall_eq']
      by_cases hdisc : packet.eventCode = kHciDisconnectionCompEvt
      · have hseeks : ¬w.gRuntime.hciEventContext.SeeksController packet := by
          simp [HciEventContext.SeeksController, hdisc, kHciDisconnectionCompEvt,
            kHciInquiryCompEvt, kHciConnectionCompEvt, kHciRmtNameRequestCompEvt,
            kHciCommandCompleteEvt, kHciCommandStatusEvt]
        exact iff_of_true (fun h => absurd hdisc h) fun _ => hseeks
      · rw [quiet_hciEventsHandleEvent ((quiet_noteReads ..).mpr henter) hdisc, not_and]
        exact ⟨fun h => h hdisc, fun h _ => h⟩

/-! ## Runs -/

/-- A run of received packets and public calls leaves every link alone exactly when none of
its steps starts a search on a link. -/
theorem links_left_alone_iff (w : TwWorld) (hciInterface : TwHciInterface) (events : List TwEvent)
    (hcalls : ∀ e ∈ events, e.action.IsRuntimeAction) :
    EveryStep LeavesLinkAlone TwWorld.step (w.afterInit hciInterface) events ↔
      EveryStep NoSearchOnLink TwWorld.step (w.afterInit hciInterface) events :=
  everyStep_congr (I := fun _ => True) (fun _ _ _ _ => trivial)
    (fun _ e he _ => leavesLinkAlone_iff (hcalls e he)) trivial

/-- A controller is started, connects and reports; then scanning is enabled and the
controller acknowledges the command. -/
def scanEnabledOnLink : List TwEvent :=
  let scanEnableComplete := TwAction.received [0x04, 0x0E, 0x04, 0x01, 0x1A, 0x0C, 0x00]
  [ ⟨scanEnableComplete, 0, 2⟩,
    ⟨.received [0x04, 0x03, 0x0B, 0x00, 0x40, 0x00, 1, 2, 3, 4, 5, 6, 0x01, 0x00], 10, 2⟩,
    ⟨.received [0x02, 0x40, 0x20, 0x10, 0x00, 0x0C, 0x00, 0x01, 0x00,
      0x03, 0x01, 0x08, 0x00, 0x45, 0x00, 0x45, 0x00, 0x00, 0x00, 0x00, 0x00], 20, 2⟩,
    ⟨.received [0x02, 0x40, 0x20, 0x08, 0x00, 0x04, 0x00, 0x45, 0x00, 0xA1, 0x30, 0x00, 0x00], 30, 2⟩,
    ⟨.call (.setScanEnabled true), 40, 2⟩,
    ⟨scanEnableComplete, 50, 2⟩ ]

/-- The run is one of the runtime's own actions. -/
theorem scanEnabledOnLink_isRuntimeAction : ∀ e ∈ scanEnabledOnLink, e.action.IsRuntimeAction := by
  simp [scanEnabledOnLink, TwAction.received, TwAction.IsRuntimeAction]

/-- Enabling the scan on a link hands an Inquiry to the send callback. -/
theorem links_not_always_left_alone :
    ¬∀ (w : TwWorld) (hciInterface : TwHciInterface) (events : List TwEvent),
      (∀ e ∈ events, e.action.IsRuntimeAction) →
        EveryStep LeavesLinkAlone TwWorld.step (w.afterInit hciInterface) events := by
  intro h
  have hlast := (everyStep_iff _ _).mp (h {} ⟨true⟩ _ scanEnabledOnLink_isRuntimeAction)
    (scanEnabledOnLink.take 5) ⟨.received [0x04, 0x0E, 0x04, 0x01, 0x1A, 0x0C, 0x00], 50, 2⟩ [] rfl
  refine hlast (by decide) ?_ (makeCmdInquiry ⟨0x9E8B33, 0x05, 0x00⟩) ?_ (by decide)
  · rintro ⟨packet, hpacket, hcode⟩
    cases hpacket
    exact absurd hcode (by decide)
  · decide

/-- Up to the acknowledgement the same run is harmless. -/
theorem links_left_alone_until_scanEnabled :
    EveryStep LeavesLinkAlone TwWorld.step (({} : TwWorld).afterInit ⟨true⟩)
      (scanEnabledOnLink.take 5) := by
  refine (links_left_alone_iff {} ⟨true⟩ (scanEnabledOnLink.take 5) fun e he => ?_).mpr ?_
  · exact scanEnabledOnLink_isRuntimeAction e (List.mem_of_mem_take he)
  · decide

end Esp32Wiimote.Bluetooth
