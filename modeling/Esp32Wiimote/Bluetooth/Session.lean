import Esp32Wiimote.Bluetooth.CommandLedger

/-!
# The session with a controller

What of the runtime belongs to one link, and the ends of links. A Disconnection Complete names a
status and a connection handle; its handler reads the handle and the reason, and whatever they are
resets the session once the callback for it is set, which it is from the first initialisation on.
-/

namespace Esp32Wiimote.Bluetooth

open StateProgram TransitionRun

/-! ## The session -/

/-- The reports in the ring, oldest first. -/
def WiimoteReports.queued (reports : WiimoteReports) : List TinyWiimoteData :=
  (List.range reports.itemCount).map fun i =>
    reports.reportBuffer[(⟨(reports.readIndex + i) % receivedDataMaxNum, Nat.mod_lt _ (by decide)⟩ :
      Fin receivedDataMaxNum)]

/-- No report is queued exactly when the count is zero. -/
theorem WiimoteReports.queued_eq_nil_iff {reports : WiimoteReports} :
    reports.queued = [] ↔ reports.itemCount.val = 0 := by
  simp [queued]

/-- Reading gives the oldest report, or the zero report when there is none. -/
theorem WiimoteReports.read_eq_head (reports : WiimoteReports) :
    reports.read.1 = reports.queued.headD {} := by
  cases hcount : reports.itemCount.val with
  | zero => simp [read, queued, hcount]
  | succ n =>
    have hindex : reports.readIndex.val % receivedDataMaxNum = reports.readIndex.val :=
      Nat.mod_eq_of_lt reports.readIndex.isLt
    simp [read, queued, hcount, List.range_succ_eq_map, hindex]

/-- As many reports are queued as the count says. -/
theorem WiimoteReports.length_queued (reports : WiimoteReports) :
    reports.queued.length = reports.available := by
  simp [queued, available]

/-- A put adds one report, or replaces the oldest of a full ring. -/
theorem WiimoteReports.available_put (reports : WiimoteReports) (number : UInt8) (data : BytePtr)
    (len : UInt8) : (reports.put number data len).available =
      if reports.available < receivedDataMaxNum then reports.available + 1 else reports.available := by
  by_cases hroom : reports.itemCount.val < receivedDataMaxNum
  · simp [available, put, hroom]
  · simp [available, put, hroom]

/-- The part of the state that belongs to a link. -/
@[ext] structure SessionPart where
  wiimoteConnected : Bool
  nunchukConnected : Bool
  batteryLevel : UInt8
  l2capConnections : L2capConnectionTable
  controllerReportState : ControllerReportState
  reports : List TinyWiimoteData
  pendingFastReconnect : Bool
  scannedDevices : ScannedDevices
  deriving DecidableEq

/-- What the world holds of a session. -/
def TwWorld.session (w : TwWorld) : SessionPart where
  wiimoteConnected := w.gRuntime.wiimoteState.wiimoteConnected
  nunchukConnected := w.gRuntime.wiimoteState.nunchukConnected
  batteryLevel := w.gRuntime.wiimoteState.batteryLevel
  l2capConnections := w.gRuntime.l2capConnections
  controllerReportState := w.gRuntime.wiimoteExtensions.controllerReportState
  reports := w.gRuntime.wiimoteReports.queued
  pendingFastReconnect := w.gRuntime.hciEventContext.pendingFastReconnect
  scannedDevices := w.gRuntime.hciEventContext.scannedDevices

/-- A session without anything in it. -/
def SessionPart.blank : SessionPart where
  wiimoteConnected := false
  nunchukConnected := false
  batteryLevel := 0
  l2capConnections := .empty
  controllerReportState := .init
  reports := []
  pendingFastReconnect := false
  scannedDevices := .empty

/-- `TinyWiimoteInit` leaves a blank session. -/
theorem session_afterInit (w : TwWorld) (hciInterface : TwHciInterface) :
    (w.afterInit hciInterface).session = .blank := rfl

/-! ## Ends of links -/

/-- The connection table knows the handle. -/
def TwWorld.Knows (w : TwWorld) (connectionHandle : UInt16) : Prop :=
  (w.gRuntime.l2capConnections.findConnection connectionHandle).isSome

instance (w : TwWorld) (connectionHandle : UInt16) : Decidable (w.Knows connectionHandle) :=
  inferInstanceAs (Decidable (_ = true))

/-- The event reports that the link with a known handle has ended. -/
def TwWorld.EndsLink (w : TwWorld) (packet : HciEventPacket) : Prop :=
  packet.eventCode = kHciDisconnectionCompEvt ∧ packet.data.at 0 = 0x00 ∧
    w.Knows (uint16OfLe (packet.data.at 1) (packet.data.at 2))

instance (w : TwWorld) (packet : HciEventPacket) : Decidable (w.EndsLink packet) :=
  inferInstanceAs (Decidable (_ ∧ _ ∧ _))

/-- The callback for the end of a link is set. -/
abbrev TwWorld.hearsDisconnects (w : TwWorld) : Prop := w.gRuntime.hciEventContext.onDisconnected = true

/-- The callback for the end of a link stays set through every step. -/
theorem hearsDisconnects_step {w : TwWorld} (hw : w.hearsDisconnects) (e : TwEvent) :
    (w.step e).hearsDisconnects :=
  host_invariant_step (I := fun h => h.context.onDisconnected = true)
    (fun _ _ hmove hset => hmove.wiring.2.2.2.trans hset) (fun _ _ _ => rfl) e hw

/-- So it does through every run. -/
theorem hearsDisconnects_runFrom (w : TwWorld) (hciInterface : TwHciInterface) (events : List TwEvent) :
    (runFrom TwWorld.step (w.afterInit hciInterface) events).hearsDisconnects :=
  invariant_of_step (I := TwWorld.hearsDisconnects) (fun _ e hw => hearsDisconnects_step hw e) rfl events

section Disconnected

variable {w : TwWorld} {e : TwEvent}

/-- A dispatched event is handled after its header was read. -/
theorem step_of_dispatched {packet : HciEventPacket} (h : e.dispatched = some packet) :
    w.step e = (exec (hciEventsHandleEvent callbacks packet) ((w.enter e).noteReads [0, 2, 1])).2 := by
  obtain ⟨action, millis, logLevel⟩ := e
  cases action with
  | call c => cases h
  | hci data len =>
    have hpacket : eventPacket data len = some packet := h
    rw [TwWorld.step, TwAction.run, exec_handleHciData_of_eventPacket hpacket]

/-- The reset the end of a link causes, whichever link it is and however it ended. -/
theorem exec_onDisconnected (connectionHandle : UInt16) (reason : UInt8) (v : TwWorld) :
    ∃ r, (exec (onDisconnected connectionHandle reason) v).2 =
        (v.noteSent (v.handed [makeCmdReset])).mapRuntime (fun _ => r) ∧
      r.wiimoteState = v.gRuntime.wiimoteState.reset ∧ r.l2capConnections = .empty ∧
      r.wiimoteExtensions.controllerReportState = .init ∧
      r.wiimoteReports = v.gRuntime.wiimoteReports ∧
      r.hciEventContext.pendingFastReconnect = v.gRuntime.hciEventContext.pendingFastReconnect ∧
      r.hciEventContext.scannedDevices = .empty := by
  simp only [onDisconnected, resetDeviceInternal, hciEventsResetDevice, clearScannedDevices, exec_then,
    exec_modifyWiimoteState, exec_modifyRuntime, exec_modifyContext, exec_hciSend]
  exact ⟨_, rfl, rfl, rfl, rfl, rfl, rfl, rfl⟩

/-- A Disconnection Complete is handled by `onDisconnected`, behind the reads of its parameters. -/
theorem step_of_disconnection (he : e.IsDisconnectionComplete) (hw : w.hearsDisconnects) :
    ∃ connectionHandle reason offsets, w.step e =
      (exec (onDisconnected connectionHandle reason) ((w.enter e).noteReads offsets)).2 := by
  obtain ⟨⟨eventCode, len, data⟩, hdispatched, rfl⟩ := he
  rw [step_of_dispatched hdispatched]
  change ∃ _ _ _, (exec (handleDisconnectionComplete callbacks data) _).2 = _
  have hset : (w.enter e).gRuntime.hciEventContext.onDisconnected = true := hw
  simp only [handleDisconnectionComplete, exec_readUInt16Le_bind, exec_readByte_bind,
    exec_getContext_bind, TwWorld.gRuntime_noteReads, hset, if_true, TwWorld.noteReads_noteReads]
  exact ⟨uint16OfLe ((data + 1).at 0) ((data + 1).at 1), data.at 3, _, rfl⟩

/-- Of the session, the queued reports and a pending fast reconnect outlive the link. -/
theorem session_of_disconnection (he : e.IsDisconnectionComplete) (hw : w.hearsDisconnects) :
    (w.step e).session = { SessionPart.blank with
      reports := w.session.reports
      pendingFastReconnect := w.session.pendingFastReconnect } := by
  obtain ⟨connectionHandle, reason, offsets, hstep⟩ := step_of_disconnection he hw
  obtain ⟨r, hexec, hstate, htable, hphase, hreports, hpending, hscanned⟩ :=
    exec_onDisconnected connectionHandle reason ((w.enter e).noteReads offsets)
  rw [hstep, hexec]
  ext1 <;> simp only [TwWorld.session, TwWorld.gRuntime_mapRuntime, hstate, htable, hphase, hreports,
    hpending, hscanned] <;> rfl

end Disconnected

/-! ## Frames of a link -/

namespace TwAction

/-- An ACL packet with one complete frame. -/
def dataFrame (connectionHandle channelId : UInt16) (payload : List UInt8) : TwAction :=
  .received ([0x02, connectionHandle.toUInt8, (connectionHandle >>> 8).toUInt8 ||| 0x20] ++
    streamU16ToLe (payload.length + 4).toUInt16 ++ streamU16ToLe payload.length.toUInt16 ++
    streamU16ToLe channelId ++ payload)

/-- The L2CAP channel was opened, and is known to the controller as `dstCID`. -/
def channelOpened (connectionHandle dstCID : UInt16) : TwAction :=
  dataFrame connectionHandle l2capCidSignaling
    ([0x03, 0x01, 0x08, 0x00] ++ streamU16ToLe dstCID ++ [0x45, 0x00, 0x00, 0x00, 0x00, 0x00])

/-- A report of the buttons, on the channel the host opened. -/
def buttons (connectionHandle : UInt16) : TwAction :=
  dataFrame connectionHandle 0x0045 [0xA1, 0x30, 0x00, 0x00]

/-- A controller is found, connects, opens its channel and reports. -/
def reportingOn (connectionHandle : UInt16) (bdAddr : BdAddrT) : List TwAction :=
  connectingTo bdAddr ++ [connectionComplete 0x00 connectionHandle bdAddr,
    channelOpened connectionHandle 0x0041, buttons connectionHandle]

end TwAction

end Esp32Wiimote.Bluetooth
