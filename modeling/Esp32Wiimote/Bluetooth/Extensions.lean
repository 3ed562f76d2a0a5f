import Esp32Wiimote.Bluetooth.AclEffect
import Esp32Wiimote.Library.TransitionRun

/-!
# The extension handshake

One report after the other moves the handshake through its four phases. What it looks at and
changes is a small machine of its own, and `handleReport` refines it.
-/

namespace Esp32Wiimote.Bluetooth

open StateProgram TransitionRun

/-- An input report as `handleReport` gets it. -/
structure InputReport where
  ch : UInt16
  data : BytePtr
  len : UInt16

/-- The world after `handleReport` got the report. -/
def TwWorld.handleReport (w : TwWorld) (report : InputReport) : TwWorld :=
  (exec (WiimoteExtensions.handleReport report.ch report.data report.len) w).2

/-! ## The output reports of the handshake -/

/-- The write that makes an extension answer. -/
def enableExtensionReport : List UInt8 :=
  [0xA2, 0x16, 0x04, 0xA4, 0x00, 0xF0, 0x01, 0x55] ++ List.replicate 15 0x00

/-- The write that makes it answer as it is. -/
def disableEncryptionReport : List UInt8 :=
  [0xA2, 0x16, 0x04, 0xA4, 0x00, 0xFB, 0x01, 0x00] ++ List.replicate 15 0x00

/-- The read of its identifier. -/
def readIdentifierReport : List UInt8 := [0xA2, 0x17, 0x04, 0xA4, 0x00, 0xFA, 0x00, 0x06]

/-- The reporting mode that is set for reports on change. -/
def reportingModeReport (mode : UInt8) : List UInt8 := [0xA2, 0x12, 0x00, mode]

/-- The packet that carries an output report. -/
def reportPacket (ch remoteCID : UInt16) (payload : List UInt8) : List UInt8 :=
  makeAclL2capPacket ch ⟨0b10, 0b00⟩ remoteCID payload payload.length.toUInt8

/-- What goes out for an output report on the channel. -/
def TwWorld.outgoing (w : TwWorld) (ch : UInt16) (payload : List UInt8) : List (List UInt8) :=
  match w.gRuntime.l2capConnections.getRemoteCid ch with
  | none => []
  | some remoteCID =>
    if w.gRuntime.packetSender = true ∧ payload.length ≤ 255 ∧
        w.gRuntime.hciInterface.hciSendPacket = true then
      [reportPacket ch remoteCID payload]
    else []

/-! ## The machine -/

/-- The part of the world that the handshake is about. -/
structure Handshake where
  phase : ControllerReportState
  wiimote : WiimoteState
  /-- What goes out for an output report. -/
  link : UInt16 → List UInt8 → List (List UInt8)
  sent : List (List UInt8)

/-- The handshake of a world. -/
def TwWorld.handshake (w : TwWorld) : Handshake where
  phase := w.gRuntime.wiimoteExtensions.controllerReportState
  wiimote := w.gRuntime.wiimoteState
  link := w.outgoing
  sent := w.sent

/-- The error of an acknowledgement of report 0x16. -/
def InputReport.writeAck (report : InputReport) : Option UInt8 :=
  if report.len < 6 ∨ report.data.at 1 ≠ 0x22 ∨ report.data.at 4 ≠ 0x16 then none
  else some (report.data.at 5)

namespace Handshake

/-- The handshake in another phase. -/
def enter (h : Handshake) (phase : ControllerReportState) : Handshake := { h with phase }

/-- The handshake with another state of the controller. -/
def update (h : Handshake) (f : WiimoteState → WiimoteState) : Handshake :=
  { h with wiimote := f h.wiimote }

/-- The handshake after an output report. -/
def send (h : Handshake) (ch : UInt16) (payload : List UInt8) : Handshake :=
  { h with sent := h.sent ++ h.link ch payload }

section Fields

variable (h : Handshake) (phase : ControllerReportState) (f : WiimoteState → WiimoteState)
  (ch : UInt16) (payload : List UInt8)

/-- The phase is the new one. -/
@[simp] theorem phase_enter : (h.enter phase).phase = phase := rfl

/-- A new phase leaves the rest of the handshake as it was. -/
@[simp] theorem wiimote_enter : (h.enter phase).wiimote = h.wiimote := rfl
@[simp] theorem link_enter : (h.enter phase).link = h.link := rfl
@[simp] theorem sent_enter : (h.enter phase).sent = h.sent := rfl

/-- An assignment to the controller's state touches nothing else. -/
@[simp] theorem wiimote_update : (h.update f).wiimote = f h.wiimote := rfl
@[simp] theorem link_update : (h.update f).link = h.link := rfl
@[simp] theorem sent_update : (h.update f).sent = h.sent := rfl

/-- A report only adds to what was sent. -/
@[simp] theorem wiimote_send : (h.send ch payload).wiimote = h.wiimote := rfl
@[simp] theorem link_send : (h.send ch payload).link = h.link := rfl
@[simp] theorem sent_send : (h.send ch payload).sent = h.sent ++ h.link ch payload := rfl

end Fields

/-- A status report sets the battery level; what follows depends on whether an extension is
attached. -/
def statusReceived (h : Handshake) (report : InputReport) : Handshake :=
  let h := h.update (·.setBatteryLevel (report.data.at 7))
  if report.data.at 4 &&& 0x02 ≠ 0 then
    (h.send report.ch enableExtensionReport).enter .waitAckOutReport
  else
    (h.update fun state => { state with nunchukConnected := false }).send report.ch
      (reportingModeReport (if h.wiimote.useAccelerometer then 0x31 else 0x30))

/-- A successful acknowledgement sends the next report, any other starts the handshake anew. -/
def acknowledged (h : Handshake) (report : InputReport) (payload : List UInt8)
    (next : ControllerReportState) : Handshake :=
  match report.writeAck with
  | none => h
  | some error => if error = 0x00 then (h.send report.ch payload).enter next else h.enter .init

/-- Data from the address of the identifier end the handshake, with a Nunchuk or without one. -/
def responseReceived (h : Handshake) (report : InputReport) : Handshake :=
  if (report.data + 5).startsWith [0x00, 0xFA] then
    if (report.data + 7).startsWith WiimoteExtensions.nunchukIdentifier then
      ((h.update fun state => { state with nunchukConnected := true }).send report.ch
        (reportingModeReport (if h.wiimote.useAccelerometer then 0x35 else 0x32))).enter .init
    else h.enter .init
  else h

/-- One report in its phase. -/
def react (h : Handshake) (report : InputReport) : Handshake :=
  if report.len < 8 then h
  else
    match h.phase with
    | .init => if report.data.at 1 = 0x20 then h.statusReceived report else h
    | .waitAckOutReport =>
      h.acknowledged report disableEncryptionReport .waitReadControllerType
    | .waitReadControllerType => h.acknowledged report readIdentifierReport .waitReadResponse
    | .waitReadResponse =>
      if report.len < 13 then h
      else if report.data.at 1 = 0x21 then h.responseReceived report
      else h

end Handshake

/-! ## Refinement -/

/-- The extensions were initialised. -/
structure TwWorld.ExtensionsWired (w : TwWorld) : Prop where
  state : w.gRuntime.wiimoteExtensions.state = true
  connections : w.gRuntime.wiimoteExtensions.connections = true
  sender : w.gRuntime.wiimoteExtensions.sender = true

section Refinement

variable (w : TwWorld)

/-- Reads are no part of the handshake. -/
@[simp] theorem handshake_noteReads (offsets : List Nat) :
    (w.noteReads offsets).handshake = w.handshake := rfl

/-- What goes out is sent on the link. -/
@[simp] theorem handshake_noteSent (ch : UInt16) (payload : List UInt8) :
    (w.noteSent (w.outgoing ch payload)).handshake = w.handshake.send ch payload := rfl

/-- The handshake of a world follows an assignment to the controller's state. -/
@[simp] theorem handshake_mapWiimoteState (f : WiimoteState → WiimoteState) :
    (w.mapWiimoteState f).handshake = w.handshake.update f := rfl

/-- The next phase is entered. -/
@[simp] theorem handshake_setState (phase : ControllerReportState) :
    (exec (WiimoteExtensions.setState phase) w).2.handshake = w.handshake.enter phase := rfl

variable {w} {protocol : WiimoteProtocol}

/-- The protocol object is initialised. -/
abbrev WiimoteProtocol.Wired (protocol : WiimoteProtocol) : Prop :=
  (protocol.connections && protocol.sender) = true

/-- A wired protocol sends what goes out. -/
theorem exec_sendReport (hwired : protocol.Wired) (ch : UInt16) (pb : PayloadBuilder payloadSize) :
    exec (protocol.sendReport ch pb) w = ((), w.noteSent (w.outgoing ch pb.bytes)) := by
  simp only [WiimoteProtocol.sendReport, exec_getRuntime_bind, hwired, Bool.not_true,
    Bool.false_eq_true, if_false, TwWorld.outgoing]
  cases w.gRuntime.l2capConnections.getRemoteCid ch with
  | none => simp [TwWorld.noteSent]
  | some remoteCID =>
    simp only [sendAclL2capPacket, exec_getRuntime_bind, exec_ite, exec_sendHciPacketRaw, exec_pure]
    by_cases hsender : w.gRuntime.packetSender = true ∧ pb.bytes.length ≤ 255
    · simp only [hsender.1, hsender.2, true_and]
      rfl
    · rw [if_neg hsender, if_neg fun h => hsender ⟨h.1, h.2.1⟩]
      simp [TwWorld.noteSent]

/-- A report whose bytes are known goes out as it is. -/
theorem handshake_sendReport (hwired : protocol.Wired) (ch : UInt16)
    {pb : PayloadBuilder payloadSize} {payload : List UInt8} (hbytes : pb.bytes = payload) :
    (exec (protocol.sendReport ch pb) w).2.handshake = w.handshake.send ch payload := by
  rw [exec_sendReport hwired, hbytes, handshake_noteSent]

/-- Setting a mode sends its report. -/
theorem handshake_setReportingMode (hwired : protocol.Wired) (ch : UInt16) (mode : UInt8) :
    (exec (protocol.setReportingMode ch ⟨mode, false⟩) w).2.handshake =
      w.handshake.send ch (reportingModeReport mode) :=
  handshake_sendReport hwired ch rfl

/-- The default mode depends on the wish for an accelerometer. -/
theorem handshake_setDefaultReportingMode (hwired : protocol.Wired) (ch : UInt16) :
    (exec (WiimoteExtensions.setDefaultReportingMode protocol ch) w).2.handshake =
      w.handshake.send ch
        (reportingModeReport (if w.handshake.wiimote.useAccelerometer then 0x31 else 0x30)) := by
  rw [WiimoteExtensions.setDefaultReportingMode, exec_getRuntime_bind,
    handshake_setReportingMode hwired]
  rfl

/-- So does the mode for a Nunchuk. -/
theorem handshake_setNunchukReportingMode (hwired : protocol.Wired) (ch : UInt16) :
    (exec (WiimoteExtensions.setNunchukReportingMode protocol ch) w).2.handshake =
      w.handshake.send ch
        (reportingModeReport (if w.handshake.wiimote.useAccelerometer then 0x35 else 0x32)) := by
  rw [WiimoteExtensions.setNunchukReportingMode, exec_getRuntime_bind,
    handshake_setReportingMode hwired]
  rfl

/-- The first write is the one that makes an extension answer. -/
theorem handshake_enableExtension (hwired : protocol.Wired) (ch : UInt16) :
    (exec (protocol.writeMemory ch addressSpaceControlRegister 0xA400F0 (fun _ => 0x55) 1)
      w).2.handshake = w.handshake.send ch enableExtensionReport :=
  handshake_sendReport hwired ch rfl

/-- The second write is the one that disables the encryption. -/
theorem handshake_disableEncryption (hwired : protocol.Wired) (ch : UInt16) :
    (exec (protocol.writeMemory ch addressSpaceControlRegister 0xA400FB (fun _ => 0x00) 1)
      w).2.handshake = w.handshake.send ch disableEncryptionReport :=
  handshake_sendReport hwired ch rfl

/-- The read is the one of the identifier. -/
theorem handshake_readIdentifier (hwired : protocol.Wired) (ch : UInt16) :
    (exec (protocol.readMemory ch addressSpaceControlRegister 0xA400FA 6) w).2.handshake =
      w.handshake.send ch readIdentifierReport :=
  handshake_sendReport hwired ch rfl

/-- Only the reads of the acknowledgement show in the world. -/
theorem exec_readWriteAck (report : InputReport) (w : TwWorld) :
    ∃ offsets, exec (WiimoteExtensions.readWriteAck report.data report.len) w =
      (report.writeAck, w.noteReads offsets) := by
  simp only [WiimoteExtensions.readWriteAck, InputReport.writeAck, exec_ite, exec_pure,
    exec_readByte_bind, TwWorld.noteReads_noteReads]
  by_cases hlen : report.len < 6
  · exact ⟨[], by simp [hlen]⟩
  by_cases hnumber : report.data.at 1 = 0x22
  · by_cases hacked : report.data.at 4 = 0x16
    · simp only [hlen, hnumber, hacked, ne_eq, not_true_eq_false, or_self, if_false]
      exact ⟨_, rfl⟩
    · simp only [hlen, hnumber, hacked, ne_eq, not_true_eq_false, not_false_eq_true, false_or,
        if_false, if_true]
      exact ⟨_, rfl⟩
  · simp only [hlen, hnumber, ne_eq, not_false_eq_true, true_or, or_true, if_false, if_true]
    exact ⟨_, rfl⟩

/-- A status report is received as in the machine. -/
theorem handshake_handleStatusReport (hwired : protocol.Wired) (report : InputReport) :
    (exec (WiimoteExtensions.handleStatusReport protocol report.ch report.data) w).2.handshake =
      w.handshake.statusReceived report := by
  simp only [WiimoteExtensions.handleStatusReport, exec_readByte_bind, exec_then,
    exec_modifyWiimoteState, exec_ite, Handshake.statusReceived]
  split
  · rw [handshake_setState, handshake_enableExtension hwired]
    rfl
  · rw [handshake_setDefaultReportingMode hwired]
    rfl

/-- The comparison reads all of the bytes. -/
theorem exec_memcmpEqual (p : BytePtr) (expected : List UInt8) (w : TwWorld) :
    exec (WiimoteExtensions.memcmpEqual p expected) w =
      (p.startsWith expected, w.noteReads ((List.range expected.length).map (p.off + ·))) := by
  rw [WiimoteExtensions.memcmpEqual, exec_then, exec_readBytes, exec_pure]

/-- So are data that were read. -/
theorem handshake_handleReadResponse (hwired : protocol.Wired) (report : InputReport) :
    (exec (WiimoteExtensions.handleReadResponse protocol report.ch report.data) w).2.handshake =
      w.handshake.responseReceived report := by
  simp only [WiimoteExtensions.handleReadResponse, WiimoteExtensions.detectNunchuk,
    Handshake.responseReceived, exec_bind, exec_memcmpEqual, exec_ite]
  by_cases haddress : (report.data + 5).startsWith [0x00, 0xFA] = true
  · by_cases hidentifier : (report.data + 7).startsWith WiimoteExtensions.nunchukIdentifier = true
    · simp only [haddress, hidentifier, if_true, handshake_setState, exec_modifyWiimoteState]
      rw [handshake_setNunchukReportingMode hwired]
      rfl
    · simp only [haddress, hidentifier, if_true, Bool.false_eq_true, if_false]
      rfl
  · simp only [haddress, Bool.false_eq_true, if_false]
    rfl

/-- Where the extensions are initialised, one report is one step of the machine. -/
theorem handshake_handleReport (hwired : w.ExtensionsWired) (report : InputReport) :
    (w.handleReport report).handshake = w.handshake.react report := by
  have hready : (w.gRuntime.wiimoteExtensions.state && w.gRuntime.wiimoteExtensions.connections &&
      w.gRuntime.wiimoteExtensions.sender) = true := by
    rw [hwired.state, hwired.connections, hwired.sender]
    rfl
  have hprotocol : (WiimoteExtensions.protocol w.gRuntime.wiimoteExtensions).Wired := by
    rw [WiimoteProtocol.Wired, WiimoteExtensions.protocol, hwired.connections, hwired.sender]
    rfl
  have hack (payload : List UInt8) (next : ControllerReportState) (command : TwM Unit)
      (hcommand : ∀ w', (exec command w').2.handshake = w'.handshake.send report.ch payload) :
      (exec (do
        match ← WiimoteExtensions.readWriteAck report.data report.len with
        | none => pure ()
        | some error =>
          if error = 0x00 then
            command
            WiimoteExtensions.setState next
          else WiimoteExtensions.setState .init) w).2.handshake =
        w.handshake.acknowledged report payload next := by
    obtain ⟨offsets, hread⟩ := exec_readWriteAck report w
    rw [exec_bind_of_exec hread, Handshake.acknowledged]
    cases report.writeAck with
    | none => rfl
    | some error =>
      simp only [exec_ite, exec_then]
      split
      · rw [handshake_setState, hcommand, handshake_noteReads]
      · rfl
  simp only [TwWorld.handleReport, WiimoteExtensions.handleReport, exec_getRuntime_bind, hready,
    Bool.not_true, Bool.false_eq_true, false_or, Handshake.react]
  split
  · rfl
  have hphase : w.handshake.phase = w.gRuntime.wiimoteExtensions.controllerReportState := rfl
  rw [hphase]
  cases w.gRuntime.wiimoteExtensions.controllerReportState with
  | init =>
    simp only [exec_readByte_bind, exec_ite]
    split
    · exact handshake_handleStatusReport hprotocol report
    · rfl
  | waitAckOutReport =>
    exact hack _ _ _ fun w' => handshake_disableEncryption hprotocol report.ch
  | waitReadControllerType =>
    exact hack _ _ _ fun w' => handshake_readIdentifier hprotocol report.ch
  | waitReadResponse =>
    simp only [exec_ite, exec_readByte_bind]
    split
    · rfl
    split
    · exact handshake_handleReadResponse hprotocol report
    · rfl

end Refinement

/-- Whether the extensions are ready, and the protocol they use. -/
def TwWorld.extensionsWiring (w : TwWorld) : Bool × WiimoteProtocol := w.gRuntime.upper.extensions

instance : SendRelation (Same TwWorld.extensionsWiring) where
  noteReads _ _ := rfl
  noteSent _ _ _ := rfl
  mapRuntime _ _ h := congrArg UpperRuntime.extensions h

/-- A report leaves the wiring as it is. -/
theorem TwWorld.ExtensionsWired.handleReport {w : TwWorld} (hwired : w.ExtensionsWired)
    (report : InputReport) : (w.handleReport report).ExtensionsWired := by
  have hsame : (w.handleReport report).extensionsWiring = w.extensionsWiring :=
    (aclEffect_handleReport (R := Same TwWorld.extensionsWiring) ..).rel w
  exact ⟨(congrArg Prod.fst hsame).trans hwired.state,
    (congrArg (·.2.connections) hsame).trans hwired.connections,
    (congrArg (·.2.sender) hsame).trans hwired.sender⟩

/-- A run of reports is a run of the machine. -/
theorem handshake_runFrom {w : TwWorld} (hwired : w.ExtensionsWired) (reports : List InputReport) :
    (runFrom TwWorld.handleReport w reports).handshake =
      runFrom Handshake.react w.handshake reports :=
  runFrom_observed (fun _ report h => h.handleReport report)
    (fun _ report h => handshake_handleReport h report) hwired reports

/-- After an initialisation the extensions are wired. -/
theorem extensionsWired_afterInit (w : TwWorld) (hciInterface : TwHciInterface) :
    (w.afterInit hciInterface).ExtensionsWired := ⟨rfl, rfl, rfl⟩

/-! ## Reports -/

/-- A report of these bytes. -/
def InputReport.ofBytes (ch : UInt16) (bytes : List UInt8) : InputReport :=
  ⟨ch, ⟨fun i => bytes.getD i 0x00, bytes.length, 0⟩, bytes.length.toUInt16⟩

/-- A complete status report. -/
structure InputReport.IsStatus (report : InputReport) : Prop where
  number : report.data.at 1 = 0x20
  length : 8 ≤ report.len

instance (report : InputReport) : Decidable report.IsStatus :=
  decidable_of_iff (report.data.at 1 = 0x20 ∧ 8 ≤ report.len)
    ⟨fun ⟨number, length⟩ => ⟨number, length⟩, fun ⟨number, length⟩ => ⟨number, length⟩⟩

/-- Whether a status report says that an extension is attached. -/
def InputReport.extensionAttached (report : InputReport) : Bool := report.data.at 4 &&& 0x02 ≠ 0

section React

variable {h : Handshake} {report : InputReport}

/-- Only an acknowledgement acknowledges. -/
theorem writeAck_of_number (hnumber : report.data.at 1 ≠ 0x22) : report.writeAck = none :=
  if_pos (.inr (.inl hnumber))

/-- Nothing happens without one. -/
theorem acknowledged_of_none (hack : report.writeAck = none) (payload : List UInt8)
    (next : ControllerReportState) : h.acknowledged report payload next = h := by
  rw [Handshake.acknowledged, hack]

/-- A report that is none the phase waits for changes nothing. -/
theorem react_of_unexpected (hstatus : h.phase = .init → report.data.at 1 ≠ 0x20)
    (hack : h.phase ≠ .waitReadResponse → report.writeAck = none)
    (hresponse : h.phase = .waitReadResponse → report.data.at 1 ≠ 0x21) : h.react report = h := by
  rw [Handshake.react]
  split
  · rfl
  split
  next hphase => exact if_neg (hstatus hphase)
  next hphase => exact acknowledged_of_none (hack (by rw [hphase]; decide)) ..
  next hphase => exact acknowledged_of_none (hack (by rw [hphase]; decide)) ..
  next hphase => rw [if_neg (hresponse hphase), ite_self]

end React

end Esp32Wiimote.Bluetooth
