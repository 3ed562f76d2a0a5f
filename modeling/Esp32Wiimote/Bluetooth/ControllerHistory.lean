import Esp32Wiimote.Bluetooth.ControllerStep
import Esp32Wiimote.Library.RunHistory

/-!
# What the state of the controller says of the run

In every reachable state nothing is known of a controller that is not connected. A Nunchuk is
connected only after the reports of a whole handshake were received in the same session, in their
order. So every reporting mode that is asked for while a packet is handled is one whose reports
carry what the host is going to look for in them.
-/

namespace Esp32Wiimote.Bluetooth

open StateProgram TransitionRun RunHistory

/-! ## Coherence -/

/-- The battery level is a percentage, and without a controller there is nothing to know. -/
structure Controller.Coherent (c : Controller) : Prop where
  battery : c.wiimote.batteryLevel ≤ 100
  phase : c.wiimote.wiimoteConnected = false → c.phase = .init
  nunchuk : c.wiimote.wiimoteConnected = false → c.wiimote.nunchukConnected = false
  noBattery : c.wiimote.wiimoteConnected = false → c.wiimote.batteryLevel = 0

section Coherence

variable {c c' : Controller} {report : InputReport}

/-- The battery level is a percentage. -/
theorem batteryLevel_setBatteryLevel_le (wiimote : WiimoteState) (level : UInt8) :
    (wiimote.setBatteryLevel level).batteryLevel ≤ 100 := by
  rw [WiimoteState.setBatteryLevel]
  dsimp only
  split
  · exact UInt8.le_refl 100
  next hlevel =>
    have hraw : level.toNat ≤ 208 := UInt8.le_iff_toNat_le.mp (UInt8.not_lt.mp hlevel)
    have hquotient : level.toNat * 100 / 208 ≤ 100 := by omega
    rw [UInt8.le_iff_toNat_le, Nat.toUInt8_eq, UInt8.toNat_ofNat', Nat.mod_eq_of_lt (by omega)]
    exact hquotient

/-- Progress of the handshake does not disconnect. -/
theorem connected_of_progress (h : Controller.Progress report c c') :
    c'.wiimote.wiimoteConnected = c.wiimote.wiimoteConnected := by
  cases h <;> rfl

/-- The battery level stays a percentage. -/
theorem battery_of_progress (h : Controller.Progress report c c')
    (hc : c.wiimote.batteryLevel ≤ 100) : c'.wiimote.batteryLevel ≤ 100 := by
  cases h with
  | attached wiimote => exact batteryLevel_setBatteryLevel_le ..
  | detached wiimote => exact batteryLevel_setBatteryLevel_le wiimote _
  | _ => exact hc

/-- A connected controller may know anything that is a percentage. -/
theorem coherent_of_connected (hconn : c.wiimote.wiimoteConnected = true)
    (hbattery : c.wiimote.batteryLevel ≤ 100) : c.Coherent :=
  ⟨hbattery, fun h => absurd (hconn.symm.trans h) (by decide),
    fun h => absurd (hconn.symm.trans h) (by decide),
    fun h => absurd (hconn.symm.trans h) (by decide)⟩

/-- A controller at rest is coherent. -/
theorem coherent_reset (wiimote : WiimoteState) : Controller.Coherent ⟨.init, wiimote.reset⟩ :=
  ⟨UInt8.zero_le, fun _ => rfl, fun _ => rfl, fun _ => rfl⟩

/-- Every input leaves a coherent controller. -/
theorem Controller.Coherent.react (hc : c.Coherent) (input : ControllerInput) :
    (c.react input).Coherent := by
  cases input with
  | reported report =>
    have hprogress := progress_handleReport c.detect report
    exact coherent_of_connected (connected_of_progress hprogress)
      (battery_of_progress hprogress hc.battery)
  | detected => exact coherent_of_connected rfl hc.battery
  | ended => exact coherent_reset _
  | initialised => exact coherent_reset _
  | reset => exact ⟨hc.battery, fun _ => rfl, hc.nunchuk, hc.noBattery⟩
  | wished use => exact ⟨hc.battery, hc.phase, hc.nunchuk, hc.noBattery⟩
  | nothing => exact hc

/-- So does every step of the runtime. -/
theorem coherent_step {w : TwWorld} (hw : w.hearsDisconnects) (hc : w.controller.Coherent)
    (e : TwEvent) : (w.step e).controller.Coherent := controller_step hw e ▸ hc.react _

/-- Every run keeps the controller coherent, and hears the ends of links. -/
theorem hears_coherent_runFrom (w : TwWorld) (hciInterface : TwHciInterface) (events : List TwEvent) :
    (runFrom TwWorld.step (w.afterInit hciInterface) events).hearsDisconnects ∧
      (runFrom TwWorld.step (w.afterInit hciInterface) events).controller.Coherent :=
  invariant_of_step
    (I := fun w => w.hearsDisconnects ∧ w.controller.Coherent) (s := w.afterInit hciInterface)
    (fun _ e hw => ⟨hearsDisconnects_step hw.1 e, coherent_step hw.1 hw.2 e⟩)
    ⟨rfl, coherent_reset _⟩ events

end Coherence

/-- In every reachable state the battery level is a percentage, and while no controller is connected
there is no battery level, no Nunchuk and no handshake under way. -/
theorem controller_coherent (w : TwWorld) (hciInterface : TwHciInterface) (events : List TwEvent) :
    (runFrom TwWorld.step (w.afterInit hciInterface) events).controller.Coherent :=
  (hears_coherent_runFrom w hciInterface events).2

/-! ## Evidence -/

/-- The event brings an input report that meets the condition. -/
def TwEvent.Reports (P : InputReport → Prop) (e : TwEvent) : Prop :=
  ∃ frame ∈ e.frame, frame.IsReport ∧ P frame.report

/-- The event ends a session: the end of a link, or an initialisation. -/
def TwEvent.EndsSession (e : TwEvent) : Prop :=
  e.IsDisconnectionComplete ∨ ∃ hciInterface, e.action = .call (.init hciInterface)

/-- A status report that says that an extension is attached. -/
def InputReport.Attaches (report : InputReport) : Prop :=
  report.IsStatus ∧ report.extensionAttached = true

/-- The reports that lead to each phase of the handshake. -/
def ControllerReportState.evidence : ControllerReportState → List (InputReport → Prop)
  | .init => []
  | .waitAckOutReport => [InputReport.Attaches]
  | .waitReadControllerType => [InputReport.Attaches, InputReport.IsWriteAck]
  | .waitReadResponse => [InputReport.Attaches, InputReport.IsWriteAck, InputReport.IsWriteAck]

/-- The reports of a whole handshake with a Nunchuk. -/
def nunchukEvidence : List (InputReport → Prop) :=
  ControllerReportState.evidence .waitReadResponse ++ [InputReport.IsNunchukResponse]

/-- These reports were received in this order, since the last end of a session. -/
abbrev ReceivedInSession (reports : List (InputReport → Prop)) (events : List TwEvent) : Prop :=
  HeardSince TwEvent.EndsSession (reports.map TwEvent.Reports) events

/-- The run has what the state says. -/
structure Controller.Attested (events : List TwEvent) (c : Controller) : Prop where
  phase : ReceivedInSession c.phase.evidence events
  nunchuk : c.wiimote.nunchukConnected = true → ReceivedInSession nunchukEvidence events

section Evidence

variable {w : TwWorld} {e : TwEvent} {events : List TwEvent} {c c' : Controller} {report : InputReport}

/-- Nothing is needed for nothing. -/
theorem received_nil : ReceivedInSession [] events :=
  ⟨events, [], (List.append_nil events).symm, fun _ h => absurd h List.not_mem_nil, [],
    List.Sublist.refl [], .nil⟩

/-- A packet with a frame is no event. -/
theorem eventPacket_of_aclFrame {data : Option (Nat → UInt8)} {len : Nat} {frame : AclFrame}
    (h : aclFrame data len = some frame) : eventPacket data len = none := by
  cases data with
  | none => rfl
  | some mem =>
    simp only [aclFrame] at h
    split at h
    next hframe =>
      refine if_neg fun hevent => ?_
      exact absurd (hframe.1.symm.trans hevent.2.1) (by decide)
    next => cases h

/-- What an event with a report is for the controller, it is not for the session. -/
theorem not_endsSession_of_frame {frame : AclFrame} (hframe : frame ∈ e.frame) : ¬e.EndsSession := by
  obtain ⟨action, millis, logLevel⟩ := e
  cases action with
  | call c => cases hframe
  | hci data len =>
    rintro (⟨packet, hdispatched, -⟩ | ⟨hciInterface, haction⟩)
    · cases (eventPacket_of_aclFrame hframe).symm.trans hdispatched
    · cases haction

/-- A reported input is a frame of the event. -/
theorem frame_of_reported (h : w.controllerInput e = .reported report) :
    ∃ frame ∈ e.frame, frame.IsReport ∧ frame.report = report := by
  obtain ⟨action, millis, logLevel⟩ := e
  cases action with
  | call c => cases c <;> cases h
  | hci data len =>
    simp only [TwWorld.controllerInput] at h
    split at h
    · split at h <;> cases h
    next hframe =>
      split at h
      next hreport =>
        split at h
        · cases h
          exact ⟨_, hframe, hreport, rfl⟩
        · cases h
      · cases h
    · cases h

/-- Any other event that is none of the two ends no session. -/
theorem not_endsSession (hended : w.controllerInput e ≠ .ended)
    (hinitialised : w.controllerInput e ≠ .initialised) : ¬e.EndsSession := by
  obtain ⟨action, millis, logLevel⟩ := e
  rintro (⟨packet, hdispatched, hcode⟩ | ⟨hciInterface, haction⟩)
  · cases action with
    | call c => cases hdispatched
    | hci data len =>
      have hpacket : eventPacket data len = some packet := hdispatched
      refine hended ?_
      simp only [TwWorld.controllerInput, hpacket, hcode, if_true]
  · cases haction
    exact hinitialised rfl

/-- A move of the handshake is attested by its report. -/
theorem attested_of_progress (hprogress : Controller.Progress report c c')
    (hc : c.Attested events) (he : ¬e.EndsSession) (hreports : ∀ P, P report → e.Reports P) :
    c'.Attested (events ++ [e]) := by
  have hkept {reports : List (InputReport → Prop)} (h : ReceivedInSession reports events) :
      ReceivedInSession reports (events ++ [e]) := HeardSince.append h he
  have hnunchuk (h : c.wiimote.nunchukConnected = true) := hkept (hc.nunchuk h)
  have hconcat {reports : List (InputReport → Prop)} {P : InputReport → Prop}
      (h : ReceivedInSession reports events) (hP : P report) :
      ReceivedInSession (reports ++ [P]) (events ++ [e]) := by
    rw [ReceivedInSession, List.map_append]
    exact HeardSince.concat h he (hreports P hP)
  cases hprogress with
  | ignored => exact ⟨hkept hc.phase, hnunchuk⟩
  | attached wiimote hstatus hattached => exact ⟨hconcat hc.phase ⟨hstatus, hattached⟩, hnunchuk⟩
  | detached wiimote hstatus => exact ⟨hkept hc.phase, fun h => by cases h⟩
  | enabled wiimote hack => exact ⟨hconcat hc.phase hack, hnunchuk⟩
  | decrypted wiimote hack => exact ⟨hconcat hc.phase hack, hnunchuk⟩
  | abandoned phase wiimote => exact ⟨received_nil, hnunchuk⟩
  | identified wiimote hresponse => exact ⟨received_nil, fun _ => hconcat hc.phase hresponse⟩

/-- What the controller shows was received in the session, with the event. -/
theorem attested_step (hw : w.hearsDisconnects) (hc : w.controller.Attested events) :
    (w.step e).controller.Attested (events ++ [e]) := by
  rw [controller_step hw e]
  have hkept (he : ¬e.EndsSession) : w.controller.Attested (events ++ [e]) :=
    ⟨HeardSince.append hc.phase he, fun h => HeardSince.append (hc.nunchuk h) he⟩
  have hother (h : w.controllerInput e ≠ .ended ∧ w.controllerInput e ≠ .initialised) :=
    hkept (not_endsSession h.1 h.2)
  cases hinput : w.controllerInput e with
  | reported report =>
    obtain ⟨frame, hframe, hreport, rfl⟩ := frame_of_reported hinput
    exact attested_of_progress (progress_handleReport ..) ⟨hc.phase, hc.nunchuk⟩
      (not_endsSession_of_frame hframe) fun P hP => ⟨frame, hframe, hreport, hP⟩
  | ended => exact ⟨received_nil, fun h => by cases h⟩
  | initialised => exact ⟨received_nil, fun h => by cases h⟩
  | detected =>
    have hsame := hother (by simp [hinput])
    exact ⟨hsame.phase, hsame.nunchuk⟩
  | reset =>
    have hsame := hother (by simp [hinput])
    exact ⟨received_nil, hsame.nunchuk⟩
  | wished use =>
    have hsame := hother (by simp [hinput])
    exact ⟨hsame.phase, hsame.nunchuk⟩
  | nothing => exact hother (by simp [hinput])

end Evidence

/-- Wherever a Nunchuk is connected, the reports of a whole handshake were received in the session:
a status report with an extension, two acknowledged writes and the identifier of a Nunchuk. -/
theorem nunchuk_connected_after_handshake (w : TwWorld) (hciInterface : TwHciInterface)
    (events : List TwEvent)
    (h : (runFrom TwWorld.step (w.afterInit hciInterface) events).controller.wiimote.nunchukConnected =
      true) : ReceivedInSession nunchukEvidence events := by
  have hinvariant := history_runFrom
    (I := fun before w => w.hearsDisconnects ∧ w.controller.Attested before)
    (s := w.afterInit hciInterface)
    (fun before w e hw => ⟨hearsDisconnects_step hw.1 e, attested_step hw.1 hw.2⟩)
    ⟨rfl, received_nil, fun h => by cases h⟩ events
  exact hinvariant.2.nunchuk h

/-- A controller reports, has a Nunchuk attached and goes through the handshake. -/
def nunchukSession : List TwEvent :=
  let ack : TwAction := .dataFrame 0x000B 0x0045 [0xA1, 0x22, 0x00, 0x00, 0x16, 0x00, 0x00, 0x00]
  TwAction.allAt 0 [.buttons 0x000B,
    .dataFrame 0x000B 0x0045 [0xA1, 0x20, 0x00, 0x00, 0x02, 0x00, 0x00, 0x82], ack,
    .buttons 0x000B, ack, .dataFrame 0x000B 0x0045
      [0xA1, 0x21, 0x00, 0x00, 0x50, 0x00, 0xFA, 0x00, 0x00, 0xA4, 0x20, 0x00, 0x00]]

/-- The four reports of `nunchukSession` are there in order. -/
theorem nunchuk_connected_in_session : ReceivedInSession nunchukEvidence nunchukSession :=
  nunchuk_connected_after_handshake {} ⟨true⟩ nunchukSession (by decide +kernel)

/-! ## Reporting modes -/

section Modes

variable {c c' : Controller} {report : InputReport} {w : TwWorld} {e : TwEvent}

/-- The first report of a controller does not show a Nunchuk. -/
theorem nunchuk_of_first_report (h : Controller.Progress report c c') (hphase : c.phase = .init)
    (hnunchuk : c.wiimote.nunchukConnected = false) : c'.wiimote.nunchukConnected = false := by
  cases h with
  | detached => rfl
  | identified => cases hphase
  | _ => exact hnunchuk

/-- The reports that answer an input report suit the controller as it is afterwards. -/
theorem asks_of_frame (hc : w.controller.Coherent) {frame : AclFrame} (hframe : frame ∈ e.frame)
    (hreport : frame.IsReport) : ∀ packet ∈ (w.step e).sent,
      w.handshake.Asks w.isConnected frame.connectionHandle (w.step e).controller packet := by
  have hreported := reported_of_frame (w := w) hframe hreport
  refine hreported.answers fun hconn => ?_
  rw [hreported.controller]
  split
  · exact nunchuk_of_first_report (progress_handleReport ..) (hc.phase hconn) (hc.nunchuk hconn)
  · exact hc.nunchuk hconn

/-- What goes out for a payload carries it on the channel of the link. -/
theorem exists_reportPacket {ch : UInt16} {payload packet : List UInt8}
    (h : packet ∈ w.outgoing ch payload) :
    ∃ remoteCID, w.gRuntime.l2capConnections.getRemoteCid ch = some remoteCID ∧
      packet = reportPacket ch remoteCID payload := by
  rw [TwWorld.outgoing] at h
  cases hcid : w.gRuntime.l2capConnections.getRemoteCid ch with
  | none =>
    rw [hcid] at h
    cases h
  | some remoteCID =>
    rw [hcid] at h
    dsimp only at h
    split at h
    · exact ⟨remoteCID, rfl, List.mem_singleton.mp h⟩
    · cases h

/-- What is asked for is an output report on the channel of the link. -/
theorem exists_call_of_asks {connected : Bool} {ch : UInt16} {packet : List UInt8}
    (h : w.handshake.Asks connected ch c packet) :
    ∃ remoteCID command, w.gRuntime.l2capConnections.getRemoteCid ch = some remoteCID ∧
      ReportAnswer connected w.handshake.phase command ∧
      packet = HostCall.packet (.report ch remoteCID command) ∧ c.Suits command.report := by
  obtain ⟨command, hanswer, hmem, hsuits⟩ := h
  obtain ⟨remoteCID, hchannel, rfl⟩ := exists_reportPacket hmem
  exact ⟨remoteCID, command, hchannel, hanswer, rfl, hsuits⟩

/-- Whatever is received, the reporting modes asked for suit the controller as it is afterwards. -/
theorem suits_step (hw : w.hearsDisconnects) (hc : w.controller.Coherent)
    {data : Option (Nat → UInt8)} {len : Nat} (he : e.action = .hci data len) {packet : List UInt8}
    (hmem : packet ∈ (w.step e).sent) {handle channelId : UInt16} {report : OutputReport}
    (hdecode : decodeHostPacket packet = some (.report handle channelId report)) :
    (w.step e).controller.Suits report := by
  by_cases hreport : ∃ frame ∈ e.frame, frame.IsReport
  · obtain ⟨frame, hframe, hreport⟩ := hreport
    obtain ⟨remoteCID, command, -, hanswer, rfl, hsuits⟩ :=
      exists_call_of_asks (asks_of_frame hc hframe hreport packet hmem)
    have hvalid : HostCall.Valid (.report frame.connectionHandle remoteCID command) := hanswer.valid
    cases (HostCall.decode_packet _ hvalid).symm.trans hdecode
    exact hsuits
  by_cases hended : e.IsDisconnectionComplete
  · rw [(controller_of_disconnection hended hw).2 packet hmem] at hdecode
    cases hdecode
  · have hunnoticed := unnoticed_step (w := w) he (fun event hevent hcode => hended ⟨event, hevent, hcode⟩)
      fun _ frame hframe hreported => hreport ⟨frame, hframe, hreported⟩
    obtain ⟨call, -, hvalid, rfl, hother⟩ :=
      hunnoticed.sent.forall_mem (fun _ h => absurd h List.not_mem_nil) packet hmem
    exact absurd (Option.some.inj ((call.decode_packet hvalid).symm.trans hdecode))
      (hother handle channelId report)

end Modes

/-- In every run, each reporting mode that is set while a received packet is handled has reports with
the accelerometer exactly where it is wished for, and with the values of a Nunchuk exactly where one
is connected by then. -/
theorem reporting_modes_suit (w : TwWorld) (hciInterface : TwHciInterface) (events : List TwEvent)
    (data : Option (Nat → UInt8)) (len : Nat) (millis : UInt32) (logLevel : UInt8) :
    let after := (runFrom TwWorld.step (w.afterInit hciInterface) events).step
      ⟨.hci data len, millis, logLevel⟩
    ∀ packet ∈ after.sent, ∀ handle channelId report,
      decodeHostPacket packet = some (.report handle channelId report) →
        after.controller.Suits report := by
  intro after packet hmem handle channelId report hdecode
  obtain ⟨hhears, hcoherent⟩ := hears_coherent_runFrom w hciInterface events
  exact suits_step hhears hcoherent rfl hmem hdecode

/-- A link that was opened, and the reports of its controller up to the identifier of the Nunchuk. -/
def nunchukLink : List TwEvent :=
  TwAction.allAt 0 [.channelOpened 0x000B 0x0041] ++ nunchukSession.dropLast

/-- The identifier makes the host ask for reports with the accelerometer and the Nunchuk. -/
theorem reporting_mode_of_nunchuk :
    let after := (runFrom TwWorld.step (({} : TwWorld).afterInit ⟨true⟩) nunchukLink).step
      ⟨.dataFrame 0x000B 0x0045
        [0xA1, 0x21, 0x00, 0x00, 0x50, 0x00, 0xFA, 0x00, 0x00, 0xA4, 0x20, 0x00, 0x00], 0, 2⟩
    after.sent = [reportPacket 0x000B 0x0041 (reportingModeReport 0x35)] ∧
      after.controller.Suits (.reportingMode false 0x35) :=
  ⟨by decide +kernel, reporting_modes_suit {} ⟨true⟩ nunchukLink _ _ 0 2
    (reportPacket 0x000B 0x0041 (reportingModeReport 0x35)) (by decide +kernel) 0x000B 0x0041
    (.reportingMode false 0x35) (by decide +kernel)⟩

end Esp32Wiimote.Bluetooth
