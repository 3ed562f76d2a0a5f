import Esp32Wiimote.Bluetooth.Session

/-!
# What the end of a link resets

The end of a link resets the controller state, the connection table, the handshake and the list
of scanned devices, as an initialisation does. An initialisation also empties the queue of reports
and forgets a pending fast reconnect, and the end of a link does not: a session starts from a clean
slate exactly when both were empty before. And every Disconnection Complete counts as the end of
the link, also one that reports a failure or belongs to another link.
-/

namespace Esp32Wiimote.Bluetooth

open StateProgram TransitionRun

/-! ## Clean slates -/

/-- If the step handles the end of a link, the session is as in `start` afterwards, and there is no
report to read. -/
def CleanSlate (start w : TwWorld) (e : TwEvent) : Prop :=
  (∃ packet ∈ e.dispatched, w.EndsLink packet) →
    (w.step e).session = start.session ∧ (w.step e).gRuntime.wiimoteReports.read.1 = {}

instance (start w : TwWorld) (e : TwEvent) : Decidable (CleanSlate start w e) :=
  inferInstanceAs (Decidable (_ → _ ∧ _))

/-- If the step handles the end of a link, no report is queued and no fast reconnect pending. -/
def NothingInProgress (w : TwWorld) (e : TwEvent) : Prop :=
  (∃ packet ∈ e.dispatched, w.EndsLink packet) →
    w.gRuntime.wiimoteReports.itemCount.val = 0 ∧
      w.gRuntime.hciEventContext.pendingFastReconnect = false

instance (w : TwWorld) (e : TwEvent) : Decidable (NothingInProgress w e) :=
  inferInstanceAs (Decidable (_ → _))

/-- Only a Disconnection Complete ends a link. -/
theorem isDisconnectionComplete_of_endsLink {w : TwWorld} {e : TwEvent}
    (h : ∃ packet ∈ e.dispatched, w.EndsLink packet) : e.IsDisconnectionComplete :=
  let ⟨packet, hpacket, hcode, _⟩ := h
  ⟨packet, hpacket, hcode⟩

/-- What the reset leaves alone decides whether the session is blank. -/
theorem cleanSlate_iff {w : TwWorld} (hw : w.hearsDisconnects) (v : TwWorld)
    (hciInterface : TwHciInterface) (e : TwEvent) :
    CleanSlate (v.afterInit hciInterface) w e ↔ NothingInProgress w e := by
  refine forall_congr' fun hends => ?_
  have hsession := session_of_disconnection (isDisconnectionComplete_of_endsLink hends) hw
  have hreports : (w.step e).gRuntime.wiimoteReports.queued = w.gRuntime.wiimoteReports.queued :=
    congrArg SessionPart.reports hsession
  rw [session_afterInit, hsession, WiimoteReports.read_eq_head, hreports,
    ← WiimoteReports.queued_eq_nil_iff]
  constructor
  · intro ⟨heq, _⟩
    exact ⟨congrArg SessionPart.reports heq, congrArg SessionPart.pendingFastReconnect heq⟩
  · intro ⟨hqueued, hpending⟩
    have hpart : w.session.pendingFastReconnect = false := hpending
    have hlist : w.session.reports = [] := hqueued
    rw [hqueued, hpart, hlist]
    exact ⟨rfl, rfl⟩

/-- A run starts every session from a clean slate exactly when no link of it ends with reports
queued or a fast reconnect pending. -/
theorem clean_slates_iff (w : TwWorld) (hciInterface : TwHciInterface) (events : List TwEvent) :
    EveryStep (CleanSlate (w.afterInit hciInterface)) TwWorld.step (w.afterInit hciInterface) events ↔
      EveryStep NothingInProgress TwWorld.step (w.afterInit hciInterface) events :=
  everyStep_congr (I := TwWorld.hearsDisconnects) (fun _ e _ hw => hearsDisconnects_step hw e)
    (fun _ e _ hw => cleanSlate_iff hw w hciInterface e) rfl

/-- The link of a reporting controller ends before its report was read. -/
def lostWithReport : List TwEvent :=
  TwAction.allAt 0 (TwAction.reportingOn 0x0040 ⟨1, 2, 3, 4, 5, 6⟩ ++
    [TwAction.disconnectionComplete 0x0040 0x08])

/-- The report is still queued after the link has ended. -/
theorem slates_not_always_clean :
    ¬∀ (w : TwWorld) (hciInterface : TwHciInterface) (events : List TwEvent),
      EveryStep (CleanSlate (w.afterInit hciInterface)) TwWorld.step (w.afterInit hciInterface)
        events := by
  intro h
  exact absurd (h {} ⟨true⟩ lostWithReport) (by decide +kernel)

/-! ## Other links -/

/-- The event reports a failed disconnect, or the end of another link. -/
def TwWorld.EndsOtherLink (w : TwWorld) (packet : HciEventPacket) : Prop :=
  packet.eventCode = kHciDisconnectionCompEvt ∧
    (packet.data.at 0 ≠ 0x00 ∨ ¬w.Knows (uint16OfLe (packet.data.at 1) (packet.data.at 2)))

instance (w : TwWorld) (packet : HciEventPacket) : Decidable (w.EndsOtherLink packet) :=
  inferInstanceAs (Decidable (_ ∧ (_ ∨ ¬_)))

/-- The step leaves the session with the controller alone and hands no Reset to the callback. -/
structure LeavesSession (w : TwWorld) (e : TwEvent) : Prop where
  wiimoteConnected : (w.step e).session.wiimoteConnected = w.session.wiimoteConnected
  batteryLevel : (w.step e).session.batteryLevel = w.session.batteryLevel
  nunchukConnected : (w.step e).session.nunchukConnected = w.session.nunchukConnected
  l2capConnections : (w.step e).session.l2capConnections = w.session.l2capConnections
  controllerReportState :
    (w.step e).session.controllerReportState = w.session.controllerReportState
  sent : ∀ packet ∈ (w.step e).sent, commandOpcode packet ≠ some kHciOpcodeReset

/-- In every reachable state with a connected controller, every failed disconnect and every end of
another link tears the session down. -/
theorem session_torn_down (w : TwWorld) (hciInterface : TwHciInterface) (events : List TwEvent)
    (e : TwEvent) (packet : HciEventPacket) :
    let v := runFrom TwWorld.step (w.afterInit hciInterface) events
    v.isConnected → e.dispatched = some packet → v.EndsOtherLink packet → ¬LeavesSession v e := by
  intro v hconn hpacket hends hleaves
  have hsession := session_of_disconnection ⟨packet, hpacket, hends.1⟩
    (hearsDisconnects_runFrom w hciInterface events)
  have hdown : (v.step e).session.wiimoteConnected = false :=
    congrArg SessionPart.wiimoteConnected hsession
  have hup : v.session.wiimoteConnected = true := hconn
  rw [hleaves.wiimoteConnected, hup] at hdown
  exact absurd hdown Bool.true_eq_false.mp

/-- A controller reports, and a link the host does not know is said to have ended. -/
def otherLinkEnds : TwEvent := ⟨TwAction.disconnectionComplete 0x0041 0x13, 10, 2⟩

/-- The end of another link tears the session down. -/
theorem session_torn_down_by_other : ¬LeavesSession
    (runFrom TwWorld.step (({} : TwWorld).afterInit ⟨true⟩)
      (TwAction.allAt 0 (TwAction.reportingOn 0x0040 ⟨1, 2, 3, 4, 5, 6⟩))) otherLinkEnds :=
  session_torn_down {} ⟨true⟩ _ otherLinkEnds _ (by decide +kernel) rfl (by decide +kernel)

/-- The session of a connected controller does not survive the end of another link. -/
theorem session_not_always_left :
    ¬∀ (w : TwWorld) (hciInterface : TwHciInterface) (events : List TwEvent) (e : TwEvent)
      (packet : HciEventPacket),
      let v := runFrom TwWorld.step (w.afterInit hciInterface) events
      v.isConnected → e.dispatched = some packet → v.EndsOtherLink packet → LeavesSession v e := by
  intro h
  have hleaves := h {} ⟨true⟩ (TwAction.allAt 0 (TwAction.reportingOn 0x0040 ⟨1, 2, 3, 4, 5, 6⟩))
    otherLinkEnds _ (by decide +kernel) rfl (by decide +kernel)
  exact absurd hleaves.wiimoteConnected (by decide +kernel)

end Esp32Wiimote.Bluetooth
