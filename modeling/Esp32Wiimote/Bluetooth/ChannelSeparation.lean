import Esp32Wiimote.Bluetooth.LinkState
import Esp32Wiimote.Bluetooth.StepDemand

/-!
# Signaling and reports on their channels

The channel a frame came in on is read from its header and not looked at: a frame is dispatched on
its first byte alone. So a frame takes effect on a wrong channel whenever it would on its own, and
a run keeps signaling and reports apart exactly when no such frame comes in on a wrong one.
-/

namespace Esp32Wiimote.Bluetooth

open StateProgram TransitionRun

/-! ## Effects -/

/-- What an input report can change: the state of the controller, the phase of the handshake, and
the queue. -/
@[ext] structure ReportPart where
  wiimoteState : WiimoteState
  controllerReportState : ControllerReportState
  reports : List TinyWiimoteData
  deriving DecidableEq

/-- What the world holds of reports and their answers. -/
def TwWorld.reportPart (w : TwWorld) : ReportPart where
  wiimoteState := w.gRuntime.wiimoteState
  controllerReportState := w.gRuntime.wiimoteExtensions.controllerReportState
  reports := w.gRuntime.wiimoteReports.queued

/-- A table entry was added, or a reply was sent. -/
def TwWorld.SignalingTakesEffect (w : TwWorld) (e : TwEvent) : Prop :=
  (w.step e).gRuntime.l2capConnections ≠ w.gRuntime.l2capConnections ∨ (w.step e).sent ≠ []

/-- What an input report can change was changed, or something was sent. -/
def TwWorld.ReportTakesEffect (w : TwWorld) (e : TwEvent) : Prop :=
  (w.step e).reportPart ≠ w.reportPart ∨ (w.step e).sent ≠ []

/-- A connection response or a configuration request. -/
def AclFrame.IsSignaling (frame : AclFrame) : Prop :=
  frame.code = some codeConnectionResponse ∨ frame.code = some codeConfigurationRequest

/-- Signaling takes effect on the signaling channel only, and reports on the other channels. -/
def TwWorld.ChannelsSeparate (w : TwWorld) (e : TwEvent) : Prop :=
  ∀ frame ∈ e.frame,
    (frame.IsSignaling → w.SignalingTakesEffect e → frame.channelId = l2capCidSignaling) ∧
      (frame.IsReport → w.ReportTakesEffect e → frame.channelId ≠ l2capCidSignaling)

/-! ## Frames that take effect -/

/-- An ACL packet to the handle goes out on a channel that the table knows. -/
def TinyWiimoteRuntime.canReply (r : TinyWiimoteRuntime) (connectionHandle : UInt16) : Bool :=
  (r.l2capConnections.getRemoteCid connectionHandle).isSome && r.packetSender &&
    r.hciInterface.hciSendPacket

/-- The extensions have a state, a connection table and a sender. -/
def WiimoteExtensions.ready (extensions : WiimoteExtensions) : Bool :=
  extensions.state && extensions.connections && extensions.sender

namespace AclFrame

variable (frame : AclFrame) (r : TinyWiimoteRuntime)

/-- A connection response that says success, while there is room in the table. -/
def Accepted : Prop :=
  frame.code = some codeConnectionResponse ∧ 12 ≤ frame.len ∧ r.canSignal ∧
    uint16OfLe (frame.data.at 8) (frame.data.at 9) = 0x0000 ∧
    r.l2capConnections.list.length < l2capConnectionListSize

/-- A configuration request for the MTU alone, on a connection that has a channel. -/
def Answered : Prop :=
  frame.code = some codeConfigurationRequest ∧ 12 ≤ frame.len ∧ r.canSignal ∧
    uint16OfLe (frame.data.at 6) (frame.data.at 7) = 0x0000 ∧
    uint16OfLe (frame.data.at 2) (frame.data.at 3) = 0x0008 ∧
    frame.data.at 8 = 0x01 ∧ frame.data.at 9 = 0x02 ∧ r.canReply frame.connectionHandle

/-- The input report in the frame. -/
def report : InputReport := ⟨frame.connectionHandle, frame.data, frame.len⟩

/-- The handshake waits for the report in its phase. A status report without an extension shows if
it changes what is known of the controller, or if the reporting mode goes out. -/
def Advances : Prop :=
  r.wiimoteExtensions.ready ∧ 8 ≤ frame.len ∧
    match r.wiimoteExtensions.controllerReportState with
    | .init => frame.data.at 1 = 0x20 ∧
        (frame.report.extensionAttached ∨
          r.wiimoteState.setBatteryLevel (frame.data.at 7) ≠ r.wiimoteState ∨
          r.wiimoteState.nunchukConnected ∨ r.canReply frame.connectionHandle)
    | .waitAckOutReport | .waitReadControllerType => frame.report.writeAck.isSome
    | .waitReadResponse => 13 ≤ frame.len ∧ frame.data.at 1 = 0x21 ∧
        (frame.data + 5).startsWith [0x00, 0xFA]

/-- An input report that is the first of a link, finds room in the queue or moves the handshake. -/
def Heeded : Prop :=
  frame.IsReport ∧ (r.wiimoteState.wiimoteConnected = false ∨
    r.wiimoteReports.available < receivedDataMaxNum ∨ frame.Advances r)

end AclFrame

/-- Frames that take effect come in on their channels. -/
def TwWorld.OnItsChannel (w : TwWorld) (e : TwEvent) : Prop :=
  ∀ frame ∈ e.frame,
    (frame.Accepted w.gRuntime ∨ frame.Answered w.gRuntime → frame.channelId = l2capCidSignaling) ∧
      (frame.Heeded w.gRuntime → frame.channelId ≠ l2capCidSignaling)

/-! ## Signaling -/

section Frames

variable {w : TwWorld} {e : TwEvent} {frame : AclFrame}

/-- A step that gets a frame handles it. -/
theorem step_of_frame (hframe : frame ∈ e.frame) : ∃ offsets, w.step e =
    (exec (handleL2capData ⟨frame.connectionHandle, frame.channelId⟩ frame.data frame.len)
      ((w.enter e).noteReads offsets)).2 := by
  obtain ⟨action, millis, logLevel⟩ := e
  cases action with
  | call c => cases hframe
  | hci data len =>
    obtain ⟨offsets, hexec⟩ := exec_handleHciData_of_aclFrame hframe (w.enter ⟨.hci data len, millis, logLevel⟩)
    exact ⟨offsets, congrArg Prod.snd hexec⟩

/-- The table only grows by an accepted connection response. -/
theorem table_of_frame (hframe : frame ∈ e.frame) :
    (w.step e).gRuntime.l2capConnections ≠ w.gRuntime.l2capConnections ↔ frame.Accepted w.gRuntime := by
  obtain ⟨offsets, hstep⟩ := step_of_frame (w := w) hframe
  have htable := congrArg LinkRuntime.l2capConnections
    (link_handleL2capData ((w.enter e).noteReads offsets) frame)
  rw [← hstep] at htable
  change (w.step e).gRuntime.l2capConnections = _ at htable
  rw [htable]
  by_cases hreport : frame.IsReport
  · have hnot : ¬frame.Accepted w.gRuntime := fun h => absurd (h.1.symm.trans hreport) (by decide)
    rw [if_pos hreport]
    exact iff_of_false (fun h => h rfl) hnot
  rw [if_neg hreport]
  have hruntime : ((w.enter e).noteReads offsets).gRuntime = w.gRuntime := rfl
  rw [hruntime]
  by_cases haccepted : frame.Accepted w.gRuntime
  · obtain ⟨hcode, hlen, hsignal, hresult, hroom⟩ := haccepted
    have hopens : frame.opens w.gRuntime =
        some ⟨w.gRuntime.l2capConnections.list ++ [⟨frame.connectionHandle, _⟩], _⟩ :=
      (if_pos ⟨hcode, hlen, hsignal, hresult⟩).trans (dif_pos hroom)
    rw [hopens]
    refine iff_of_true (fun h => ?_) ⟨hcode, hlen, hsignal, hresult, hroom⟩
    have hlength := congrArg (fun table : L2capConnectionTable => table.list.length) h
    simp [LinkRuntime.react] at hlength
  · have hopens : frame.opens w.gRuntime = none := by
      simp only [AclFrame.opens, L2capConnectionTable.addConnection]
      split
      next h => exact dif_neg fun hroom => haccepted ⟨h.1, h.2.1, h.2.2.1, h.2.2.2, hroom⟩
      next => rfl
    rw [hopens]
    exact iff_of_false (fun h => h rfl) haccepted

/-- A frame sends what its demand says. -/
theorem sent_of_frame (hframe : frame ∈ e.frame) : (w.step e).sent.length =
    w.gRuntime.frameDemand frame.connectionHandle frame.data frame.len := by
  obtain ⟨offsets, hstep⟩ := step_of_frame (w := w) hframe
  rw [hstep, (demands_handleL2capData ..).length]
  exact Nat.zero_add _

/-- The code of a frame is its first byte. -/
theorem code_eq_some_iff {code : UInt8} :
    frame.code = some code ↔ frame.len ≠ 0 ∧ frame.data.at 0 = code := by
  simp [AclFrame.code]

/-- ACL packets go out where both callbacks are set. -/
theorem perAcl_ne_zero_iff (r : TinyWiimoteRuntime) :
    r.perAcl ≠ 0 ↔ r.packetSender = true ∧ r.hciInterface.hciSendPacket = true := by
  simp [TinyWiimoteRuntime.perAcl, TinyWiimoteRuntime.perPacket]

/-- A connection response is answered only where it is accepted. -/
theorem accepted_of_sent (hframe : frame ∈ e.frame) (hcode : frame.code = some codeConnectionResponse)
    (hsent : (w.step e).sent ≠ []) : frame.Accepted w.gRuntime := by
  obtain ⟨hlen, hbyte⟩ := code_eq_some_iff.mp hcode
  have hdemand : w.gRuntime.frameDemand frame.connectionHandle frame.data frame.len ≠ 0 := by
    rw [← sent_of_frame hframe]
    exact fun h => hsent (List.eq_nil_of_length_eq_zero h)
  simp only [TinyWiimoteRuntime.frameDemand, hlen, hbyte, if_false, if_true,
    TinyWiimoteRuntime.connectionResponseDemand] at hdemand
  simp only [ne_eq, ite_eq_left_iff, not_or, not_forall, ite_eq_right_iff] at hdemand
  obtain ⟨⟨hlong, hsignal⟩, hresult, hroom, -⟩ := hdemand
  simp only [Bool.not_eq_true, Bool.not_eq_false', not_not] at hsignal hresult
  exact ⟨hcode, UInt16.not_lt.mp hlong, hsignal, hresult, hroom⟩

/-- A configuration request is answered exactly where `Answered` says. -/
theorem sent_of_configurationRequest (hframe : frame ∈ e.frame)
    (hcode : frame.code = some codeConfigurationRequest) :
    (w.step e).sent ≠ [] ↔ frame.Answered w.gRuntime := by
  obtain ⟨hlen, hbyte⟩ := code_eq_some_iff.mp hcode
  have hother : ¬codeConfigurationRequest = codeConnectionResponse := by decide
  have hdemand := sent_of_frame (w := w) hframe
  simp only [TinyWiimoteRuntime.frameDemand, hlen, hbyte, hother, if_false, if_true,
    TinyWiimoteRuntime.configurationRequestDemand] at hdemand
  have hlength : (w.step e).sent ≠ [] ↔ (w.step e).sent.length ≠ 0 := List.length_eq_zero_iff.not.symm
  rw [hlength, hdemand]
  simp only [AclFrame.Answered, hcode, true_and, ne_eq, ite_eq_left_iff, ite_eq_right_iff, not_or,
    not_forall, not_not, Bool.not_eq_true, Bool.not_eq_false', UInt16.not_lt, exists_prop,
    TinyWiimoteRuntime.canSignal, TinyWiimoteRuntime.canReply, Bool.and_eq_true, and_assoc,
    perAcl_ne_zero_iff]

/-- A signaling frame takes effect where it is accepted or answered. -/
theorem signaling_takesEffect_iff (hframe : frame ∈ e.frame) (hsignaling : frame.IsSignaling) :
    w.SignalingTakesEffect e ↔ frame.Accepted w.gRuntime ∨ frame.Answered w.gRuntime := by
  rw [TwWorld.SignalingTakesEffect, table_of_frame hframe]
  obtain hcode | hcode := hsignaling
  · have hnot : ¬frame.Answered w.gRuntime := fun h => absurd (hcode.symm.trans h.1) (by decide)
    constructor
    · rintro (haccepted | hsent)
      · exact .inl haccepted
      · exact .inl (accepted_of_sent hframe hcode hsent)
    · rintro (haccepted | hanswered)
      · exact .inl haccepted
      · exact absurd hanswered hnot
  · rw [sent_of_configurationRequest hframe hcode]

end Frames

/-! ## The handshake -/

namespace Handshake

/-- Nothing of the handshake shows: the phase, the controller and the log are as they were. -/
def Settled (h t : Handshake) : Prop := t.phase = h.phase ∧ t.wiimote = h.wiimote ∧ t.sent = h.sent

variable {h : Handshake} {report : InputReport}

/-- Nothing has happened in an unchanged handshake. -/
theorem settled_refl (h : Handshake) : h.Settled h := ⟨rfl, rfl, rfl⟩

/-- An acknowledgement moves a handshake that waits for it, and nothing else does. -/
theorem settled_acknowledged_iff {payload : List UInt8} {next : ControllerReportState}
    (hinit : h.phase ≠ .init) (hnext : h.phase ≠ next) :
    h.Settled (h.acknowledged report payload next) ↔ ¬report.writeAck.isSome := by
  rw [acknowledged]
  cases report.writeAck with
  | none => exact iff_of_true h.settled_refl Bool.false_ne_true
  | some error =>
    refine iff_of_false (fun hsettled => ?_) (fun hnone => hnone rfl)
    obtain ⟨hphase, -⟩ := hsettled
    by_cases herror : error = 0x00
    · simp only [herror, if_true, phase_enter] at hphase
      exact hnext hphase.symm
    · simp only [herror, if_false, phase_enter] at hphase
      exact hinit hphase.symm

/-- Data from the address of the identifier end the handshake. -/
theorem settled_responseReceived_iff (hphase : h.phase ≠ .init) :
    h.Settled (h.responseReceived report) ↔ ¬(report.data + 5).startsWith [0x00, 0xFA] := by
  rw [responseReceived]
  split
  next haddress =>
    refine iff_of_false (fun hsettled => ?_) (fun hnot => hnot haddress)
    have hinit := hsettled.1
    split at hinit <;> exact hphase hinit.symm
  next haddress => exact iff_of_true h.settled_refl haddress

/-- A status report shows in the phase if an extension is attached; else in what is known of the
controller, or in the log. -/
theorem settled_statusReceived_iff (hphase : h.phase = .init) :
    h.Settled (h.statusReceived report) ↔
      ¬(report.extensionAttached ∨ h.wiimote.setBatteryLevel (report.data.at 7) ≠ h.wiimote ∨
        h.wiimote.nunchukConnected ∨
        h.link report.ch (reportingModeReport (if h.wiimote.useAccelerometer then 0x31 else 0x30)) ≠ []) := by
  simp only [statusReceived, InputReport.extensionAttached, decide_eq_true_eq]
  split
  next hattached =>
    refine iff_of_false (fun hsettled => ?_) (fun hnot => hnot (.inl hattached))
    exact ControllerReportState.noConfusion (hsettled.1.trans hphase)
  next hattached =>
    obtain ⟨phase, ⟨connected, nunchuk, battery, accelerometer⟩, link, sent⟩ := h
    cases nunchuk <;> simp [Settled, send, update, WiimoteState.setBatteryLevel, hattached]

end Handshake

/-! ## Input reports -/

section Reports

variable {w : TwWorld} {e : TwEvent} {frame : AclFrame}

/-- Nothing goes out where no reply is possible. -/
theorem outgoing_eq_nil_iff {ch : UInt16} {payload : List UInt8} (hfits : payload.length ≤ 255) :
    w.outgoing ch payload = [] ↔ ¬w.gRuntime.canReply ch := by
  rw [TwWorld.outgoing, TinyWiimoteRuntime.canReply]
  cases w.gRuntime.l2capConnections.getRemoteCid ch with
  | none => simp
  | some remoteCID => simp [hfits]

/-- The controller is detected once. -/
theorem exec_detectWiimote_of_isConnected {v : TwWorld} (hconn : v.isConnected) (ch : UInt16) :
    exec (detectWiimote ch) v = ((), v) := by
  have hconnected : v.gRuntime.wiimoteState.wiimoteConnected = true := hconn
  simp only [detectWiimote, exec_getRuntime_bind, hconnected, if_true, exec_pure]

/-- Once the controller is connected, only the handshake shows of a report in the handshake. -/
theorem handshake_of_report (hframe : frame ∈ e.frame) (hreport : frame.IsReport)
    (hconn : w.isConnected) : ∃ offsets, (w.step e).handshake =
      (((w.enter e).noteReads offsets).handleReport frame.report).handshake := by
  obtain ⟨offsets, hstep⟩ := step_of_frame (w := w) hframe
  obtain ⟨hlen, hbyte⟩ := code_eq_some_iff.mp hreport
  have hother : ¬hidInputReport = codeConnectionResponse ∧ ¬hidInputReport = codeConfigurationRequest ∧
      ¬hidInputReport = codeConfigurationResponse := by decide
  have hlog : ∀ v : TwWorld, ∃ more, (exec (logInputReport frame.data frame.len) v).2 = v.noteReads more := by
    intro v
    simp only [logInputReport, exec_ite, exec_discard, exec_pure]
    split
    · exact ⟨_, rfl⟩
    · exact ⟨[], (TwWorld.noteReads_nil v).symm⟩
  have hput : ∀ v : TwWorld, (exec (putReport 0 frame.data frame.len.toUInt8) v).2.handshake = v.handshake := by
    intro v
    simp only [putReport, exec_getRuntime_bind, exec_ite, exec_then, exec_readBytes, exec_pure]
    split <;> rfl
  obtain ⟨more, hlogged⟩ := hlog (((w.enter e).noteReads offsets).noteReads [frame.data.off + 0])
  refine ⟨offsets ++ [frame.data.off + 0] ++ more, ?_⟩
  rw [TwWorld.noteReads_noteReads, TwWorld.noteReads_noteReads] at hlogged
  have hstill : ((w.enter e).noteReads (offsets ++ [frame.data.off + 0] ++ more)).isConnected := hconn
  simp only [hstep, handleL2capData, hlen, if_false, exec_readByte_bind, hbyte, hother, if_true,
    handleInputReport, exec_then, hput, TwWorld.noteReads_noteReads, hlogged,
    exec_detectWiimote_of_isConnected hstill]
  rfl

/-- A report is one step of the handshake, once the extensions are initialised. -/
theorem handshake_handleReport_of_ready (w : TwWorld) (report : InputReport) :
    (w.handleReport report).handshake =
      if w.gRuntime.wiimoteExtensions.ready then w.handshake.react report else w.handshake := by
  split
  next hready =>
    simp only [WiimoteExtensions.ready, Bool.and_eq_true] at hready
    exact handshake_handleReport ⟨hready.1.1, hready.1.2, hready.2⟩ report
  next hready =>
    have hnot : (w.gRuntime.wiimoteExtensions.state && w.gRuntime.wiimoteExtensions.connections &&
        w.gRuntime.wiimoteExtensions.sender) = false := Bool.eq_false_iff.mpr hready
    simp only [TwWorld.handleReport, WiimoteExtensions.handleReport, exec_getRuntime_bind, hnot,
      Bool.not_false, true_or, if_true, exec_pure]

/-- The handshake moves exactly where `Advances` says. -/
theorem settled_handleReport_iff :
    w.handshake.Settled (w.handleReport frame.report).handshake ↔ ¬frame.Advances w.gRuntime := by
  rw [handshake_handleReport_of_ready, AclFrame.Advances]
  by_cases hready : w.gRuntime.wiimoteExtensions.ready
  · simp only [hready, if_true, true_and, Handshake.react]
    change w.handshake.Settled (if frame.len < 8 then _ else _) ↔ _
    by_cases hlen : frame.len < 8
    · rw [if_pos hlen]
      exact iff_of_true w.handshake.settled_refl fun h => UInt16.not_le.mpr hlen h.1
    rw [if_neg hlen]
    simp only [UInt16.not_lt.mp hlen, true_and]
    have hphase : w.handshake.phase = w.gRuntime.wiimoteExtensions.controllerReportState := rfl
    rw [← hphase]
    cases hcase : w.handshake.phase with
    | init =>
      have hreply : w.handshake.link frame.report.ch (reportingModeReport
          (if w.handshake.wiimote.useAccelerometer then 0x31 else 0x30)) ≠ [] ↔
          w.gRuntime.canReply frame.connectionHandle :=
        (outgoing_eq_nil_iff (Nat.le_of_ble_eq_true rfl)).not_left
      change w.handshake.Settled (if frame.data.at 1 = 0x20 then _ else _) ↔ ¬(frame.data.at 1 = 0x20 ∧ _)
      by_cases hnumber : frame.data.at 1 = 0x20
      · simp only [hnumber, if_true, true_and, ← hreply]
        exact Handshake.settled_statusReceived_iff hcase
      · rw [if_neg hnumber]
        exact iff_of_true w.handshake.settled_refl fun h => hnumber h.1
    | waitAckOutReport =>
      exact Handshake.settled_acknowledged_iff (by rw [hcase]; decide) (by rw [hcase]; decide)
    | waitReadControllerType =>
      exact Handshake.settled_acknowledged_iff (by rw [hcase]; decide) (by rw [hcase]; decide)
    | waitReadResponse =>
      change w.handshake.Settled (if frame.len < 13 then _ else if frame.data.at 1 = 0x21 then _ else _) ↔
        ¬(13 ≤ frame.len ∧ frame.data.at 1 = 0x21 ∧ _)
      by_cases hshort : frame.len < 13
      · rw [if_pos hshort]
        exact iff_of_true w.handshake.settled_refl fun h => UInt16.not_le.mpr hshort h.1
      rw [if_neg hshort]
      by_cases hnumber : frame.data.at 1 = 0x21
      · simp only [UInt16.not_lt.mp hshort, hnumber, if_true, true_and]
        exact Handshake.settled_responseReceived_iff (by rw [hcase]; decide)
      · rw [if_neg hnumber]
        exact iff_of_true w.handshake.settled_refl fun h => hnumber h.2.1
  · rw [if_neg hready]
    exact iff_of_true w.handshake.settled_refl fun h => hready h.1

/-- A report takes effect where it is heeded. -/
theorem report_takesEffect_iff (hframe : frame ∈ e.frame) (hreport : frame.IsReport) :
    w.ReportTakesEffect e ↔ frame.Heeded w.gRuntime := by
  obtain ⟨offsets, hstep⟩ := step_of_frame (w := w) hframe
  have hlink := link_handleL2capData ((w.enter e).noteReads offsets) frame
  rw [← hstep, if_pos hreport] at hlink
  have hreports : (w.step e).gRuntime.wiimoteReports =
      w.gRuntime.wiimoteReports.put 0 frame.data frame.len.toUInt8 :=
    congrArg LinkRuntime.wiimoteReports hlink
  simp only [AclFrame.Heeded, hreport, true_and]
  by_cases hconn : w.isConnected
  · by_cases hroom : w.gRuntime.wiimoteReports.available < receivedDataMaxNum
    · refine iff_of_true (.inl fun hpart => ?_) (.inr (.inl hroom))
      have hlength := congrArg (fun part : ReportPart => part.reports.length) hpart
      simp only [TwWorld.reportPart, WiimoteReports.length_queued, hreports,
        WiimoteReports.available_put, hroom, if_true] at hlength
      omega
    · have hkept : (w.step e).gRuntime.wiimoteReports = w.gRuntime.wiimoteReports :=
        hreports.trans (dif_neg hroom)
      obtain ⟨more, hhandshake⟩ := handshake_of_report hframe hreport hconn
      have hsettled : ((w.enter e).noteReads more).handshake.Settled _ ↔ ¬frame.Advances _ :=
        settled_handleReport_iff
      rw [← hhandshake] at hsettled
      have hunseen : ¬w.ReportTakesEffect e ↔
          ((w.enter e).noteReads more).handshake.Settled (w.step e).handshake := by
        rw [TwWorld.ReportTakesEffect, not_or, not_not, not_not, ReportPart.ext_iff]
        simp only [TwWorld.reportPart, hkept, and_true]
        exact ⟨fun ⟨⟨hwiimote, hphase⟩, hsent⟩ => ⟨hphase, hwiimote, hsent⟩,
          fun ⟨hphase, hwiimote, hsent⟩ => ⟨⟨hwiimote, hphase⟩, hsent⟩⟩
      have hconnected : w.gRuntime.wiimoteState.wiimoteConnected = true := hconn
      simp only [hconnected, reduceCtorEq, hroom, false_or]
      exact not_iff_not.mp (hunseen.trans hsettled)
  · have hconnected : (w.step e).isConnected = true := congrArg LinkRuntime.wiimoteConnected hlink
    refine iff_of_true (.inl fun hpart => ?_) (.inl (Bool.eq_false_iff.mpr hconn))
    have hsame := congrArg (fun part : ReportPart => part.wiimoteState.wiimoteConnected) hpart
    exact hconn (hsame.symm.trans hconnected)

/-- Signaling and reports are kept apart exactly where the frames that take effect are. -/
theorem channelsSeparate_iff (w : TwWorld) (e : TwEvent) : w.ChannelsSeparate e ↔ w.OnItsChannel e := by
  refine forall₂_congr fun frame hframe => and_congr ⟨fun h => ?_, fun h hsignaling => ?_⟩
    ⟨fun h hheeded => ?_, fun h hreport => ?_⟩
  · rintro (haccepted | hanswered)
    · exact h (.inl haccepted.1) ((signaling_takesEffect_iff hframe (.inl haccepted.1)).mpr (.inl haccepted))
    · exact h (.inr hanswered.1) ((signaling_takesEffect_iff hframe (.inr hanswered.1)).mpr (.inr hanswered))
  · exact fun heffect => h ((signaling_takesEffect_iff hframe hsignaling).mp heffect)
  · exact h hheeded.1 ((report_takesEffect_iff hframe hheeded.1).mpr hheeded)
  · exact fun heffect => h ((report_takesEffect_iff hframe hreport).mp heffect)

end Reports

/-! ## Runs -/

/-- A run keeps signaling and reports apart exactly when all frames that take effect in it come in
on their channels. -/
theorem channels_separate_iff (w : TwWorld) (hciInterface : TwHciInterface) (events : List TwEvent) :
    EveryStep TwWorld.ChannelsSeparate TwWorld.step (w.afterInit hciInterface) events ↔
      EveryStep TwWorld.OnItsChannel TwWorld.step (w.afterInit hciInterface) events :=
  everyStep_congr (I := fun _ => True) (fun _ _ _ _ => trivial) (fun w e _ _ => channelsSeparate_iff w e)
    trivial

/-- A payload on the channel of the reports that begins with the code of a connection response. -/
def foreignResponse : TwEvent :=
  ⟨.dataFrame 0x0040 0x0045 [0x03, 0x00, 0x00, 0x00, 0x41, 0x00, 0x00, 0x00, 0x00, 0x00, 0x00, 0x00], 0, 2⟩

/-- Such a payload adds a table entry. -/
theorem channels_not_always_separate :
    ¬∀ (w : TwWorld) (hciInterface : TwHciInterface) (events : List TwEvent),
      EveryStep TwWorld.ChannelsSeparate TwWorld.step (w.afterInit hciInterface) events := by
  intro h
  obtain ⟨hseparate, -⟩ := h {} ⟨true⟩ [foreignResponse]
  have hsome : foreignResponse.frame.isSome := by decide
  have hframe : foreignResponse.frame.get hsome ∈ foreignResponse.frame := Option.get_mem hsome
  have hsignaling : (foreignResponse.frame.get hsome).IsSignaling := .inl rfl
  have hchannel : (0x0045 : UInt16) = l2capCidSignaling := (hseparate _ hframe).1 hsignaling (.inl (by decide))
  exact absurd hchannel (by decide)

end Esp32Wiimote.Bluetooth
