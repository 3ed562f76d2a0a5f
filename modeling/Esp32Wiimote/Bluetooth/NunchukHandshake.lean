import Esp32Wiimote.Bluetooth.Extensions

/-!
# The handshake with a Nunchuk

The extension is enabled, its encryption switched off and its identifier read, each write being
acknowledged. An acknowledgement has six bytes, but no report of less than eight is looked at.
-/

namespace Esp32Wiimote.Bluetooth

open StateProgram TransitionRun

/-- A data report, or an acknowledgement of another report than 0x16. -/
def InputReport.IsOther (report : InputReport) : Prop :=
  (0x30 ≤ report.data.at 1 ∧ report.data.at 1 ≤ 0x37) ∨
    (report.data.at 1 = 0x22 ∧ report.data.at 4 ≠ 0x16)

/-- A successful acknowledgement of report 0x16. -/
structure InputReport.IsWriteAck (report : InputReport) : Prop where
  number : report.data.at 1 = 0x22
  acknowledged : report.data.at 4 = 0x16
  success : report.data.at 5 = 0x00
  length : 6 ≤ report.len

/-- The report answers the read of the identifier with the Nunchuk's. -/
structure InputReport.IsNunchukResponse (report : InputReport) : Prop where
  number : report.data.at 1 = 0x21
  address : (report.data + 5).startsWith [0x00, 0xFA] = true
  identifier : (report.data + 7).startsWith WiimoteExtensions.nunchukIdentifier = true
  length : 13 ≤ report.len

/-- The reports of a handshake, with the other reports that come before and after each. -/
structure HandshakeReports where
  status : InputReport
  enabled : InputReport
  decrypted : InputReport
  response : InputReport
  beforeStatus : List InputReport := []
  beforeEnabled : List InputReport := []
  beforeDecrypted : List InputReport := []
  beforeResponse : List InputReport := []
  afterResponse : List InputReport := []

/-- The reports of a handshake in their order. -/
def HandshakeReports.all (r : HandshakeReports) : List InputReport :=
  r.beforeStatus ++ r.status :: (r.beforeEnabled ++ r.enabled :: (r.beforeDecrypted ++
    r.decrypted :: (r.beforeResponse ++ r.response :: r.afterResponse)))

/-- The reports that come between those the handshake waits for. -/
def HandshakeReports.others (r : HandshakeReports) : List InputReport :=
  r.beforeStatus ++ r.beforeEnabled ++ r.beforeDecrypted ++ r.beforeResponse ++ r.afterResponse

/-- The reports of a handshake with a Nunchuk on the channel. -/
structure HandshakeReports.IsHandshake (r : HandshakeReports) (ch : UInt16) : Prop where
  channel : ∀ report ∈ [r.status, r.enabled, r.decrypted, r.response], report.ch = ch
  status : r.status.IsStatus
  attached : r.status.extensionAttached = true
  enabled : r.enabled.IsWriteAck
  decrypted : r.decrypted.IsWriteAck
  response : r.response.IsNunchukResponse
  others : ∀ report ∈ r.others, report.IsOther

section Handshake

variable {h : Handshake} {report : InputReport} {ch : UInt16} {r : HandshakeReports}

/-- A report the handshake takes no notice of has a number from 0x22 on. -/
theorem InputReport.IsOther.number (hother : report.IsOther) :
    0x22 ≤ report.data.at 1 := by
  obtain ⟨hlow, -⟩ | ⟨hnumber, -⟩ := hother
  · exact UInt8.le_trans (by decide) hlow
  · rw [hnumber]
    exact UInt8.le_refl _

/-- Other reports change nothing, whatever the phase. -/
theorem react_of_isOther (hother : report.IsOther) : h.react report = h := by
  have hne (number : UInt8) (hnumber : number < 0x22) : report.data.at 1 ≠ number := by
    intro heq
    exact absurd hother.number (UInt8.not_le.mpr (heq ▸ hnumber))
  refine react_of_unexpected (fun _ => hne 0x20 (by decide)) (fun _ => ?_)
    fun _ => hne 0x21 (by decide)
  obtain ⟨hlow, -⟩ | ⟨-, hacked⟩ := hother
  · apply writeAck_of_number
    intro hnumber
    rw [hnumber] at hlow
    exact absurd hlow (by decide)
  · exact if_pos (.inr (.inr hacked))

/-- A report under eight bytes changes nothing. -/
theorem react_of_short (hlen : report.len < 8) : h.react report = h := if_pos hlen

/-- An acknowledgement sends the next report and enters the next phase. -/
theorem acknowledged_of_isWriteAck (hack : report.IsWriteAck) (payload : List UInt8)
    (next : ControllerReportState) :
    h.acknowledged report payload next = (h.send report.ch payload).enter next := by
  have herror : report.writeAck = some 0x00 := by
    rw [InputReport.writeAck, if_neg, hack.success]
    rintro (hlen | hnumber | hacked)
    · exact absurd hlen (UInt16.not_lt.mpr hack.length)
    · exact hnumber hack.number
    · exact hacked hack.acknowledged
  rw [Handshake.acknowledged, herror]
  exact if_pos rfl

/-- What the handshake is to hand over, and the Nunchuk it is to find. -/
structure Handshake.Completes (h h' : Handshake) (ch remoteCID : UInt16) : Prop where
  sent : h'.sent = h.sent ++ [
    reportPacket ch remoteCID enableExtensionReport,
    reportPacket ch remoteCID disableEncryptionReport,
    reportPacket ch remoteCID readIdentifierReport,
    reportPacket ch remoteCID
      (reportingModeReport (if h.wiimote.useAccelerometer then 0x35 else 0x32))]
  nunchuk : h'.wiimote.nunchukConnected = true

/-- Only the four reports of the handshake move it. -/
theorem runFrom_all (hr : r.IsHandshake ch) : runFrom Handshake.react h r.all =
    (((h.react r.status).react r.enabled).react r.decrypted).react r.response := by
  have hskip (reports : List InputReport) (hsub : ∀ report ∈ reports, report ∈ r.others)
      (h : Handshake) : reports.foldl Handshake.react h = h :=
    runFrom_of_ignored fun report hmem => react_of_isOther (hr.others report (hsub report hmem))
  have hmem (report : InputReport) : report ∈ r.others ↔ report ∈ r.beforeStatus ∨
      report ∈ r.beforeEnabled ∨ report ∈ r.beforeDecrypted ∨ report ∈ r.beforeResponse ∨
      report ∈ r.afterResponse := by
    simp only [HandshakeReports.others, List.mem_append, or_assoc]
  simp only [runFrom, HandshakeReports.all, List.foldl_append, List.foldl_cons]
  rw [hskip r.beforeStatus fun _ h => (hmem _).mpr (.inl h),
    hskip r.beforeEnabled fun _ h => (hmem _).mpr (.inr (.inl h)),
    hskip r.beforeDecrypted fun _ h => (hmem _).mpr (.inr (.inr (.inl h))),
    hskip r.beforeResponse fun _ h => (hmem _).mpr (.inr (.inr (.inr (.inl h)))),
    hskip r.afterResponse fun _ h => (hmem _).mpr (.inr (.inr (.inr (.inr h))))]

/-- The status report of an extension starts the handshake. -/
theorem react_status (hphase : h.phase = .init) (hstatus : report.IsStatus)
    (hattached : report.extensionAttached = true) :
    h.react report = ((h.update (·.setBatteryLevel (report.data.at 7))).send report.ch
      enableExtensionReport).enter .waitAckOutReport := by
  rw [Handshake.react, if_neg (UInt16.not_lt.mpr hstatus.length), hphase]
  simp only [if_pos hstatus.number, Handshake.statusReceived]
  exact if_pos (of_decide_eq_true hattached)

/-- An acknowledgement advances it, in the two phases that wait for one. -/
theorem react_writeAck (hack : report.IsWriteAck) (hlen : 8 ≤ report.len) :
    (h.phase = .waitAckOutReport → h.react report =
      (h.send report.ch disableEncryptionReport).enter .waitReadControllerType) ∧
    (h.phase = .waitReadControllerType → h.react report =
      (h.send report.ch readIdentifierReport).enter .waitReadResponse) := by
  rw [Handshake.react, if_neg (UInt16.not_lt.mpr hlen)]
  constructor
  · intro hphase
    rw [hphase]
    exact acknowledged_of_isWriteAck hack ..
  · intro hphase
    rw [hphase]
    exact acknowledged_of_isWriteAck hack ..

/-- The Nunchuk's identifier ends it. -/
theorem react_nunchukResponse (hphase : h.phase = .waitReadResponse)
    (hresponse : report.IsNunchukResponse) :
    h.react report = ((h.update fun state => { state with nunchukConnected := true }).send report.ch
      (reportingModeReport (if h.wiimote.useAccelerometer then 0x35 else 0x32))).enter .init := by
  have hlen : ¬report.len < 8 := UInt16.not_lt.mpr (UInt16.le_trans (by decide) hresponse.length)
  rw [Handshake.react, if_neg hlen, hphase]
  simp only [if_neg (UInt16.not_lt.mpr hresponse.length), if_pos hresponse.number,
    Handshake.responseReceived, if_pos hresponse.address, if_pos hresponse.identifier]

/-- A read response comes too early while an acknowledgement is due. -/
theorem react_response_early (hphase : h.phase ≠ .init ∧ h.phase ≠ .waitReadResponse)
    (hresponse : report.IsNunchukResponse) : h.react report = h := by
  refine react_of_unexpected (fun hinit => absurd hinit hphase.1) (fun _ => ?_)
    fun hwait => absurd hwait hphase.2
  apply writeAck_of_number
  rw [hresponse.number]
  decide

/-- A machine that handed over fewer reports did not complete the handshake. -/
theorem not_completes_of_length {h' : Handshake} {remoteCID : UInt16}
    (hlen : h'.sent.length < h.sent.length + 4) : ¬h.Completes h' ch remoteCID := by
  intro hcompletes
  rw [hcompletes.sent, List.length_append] at hlen
  exact absurd hlen (Nat.lt_irrefl _)

/-- The machine completes the handshake exactly when both acknowledgements are long enough for
the first guard. -/
theorem completes_iff {remoteCID : UInt16} (hphase : h.phase = .init)
    (hlink : ∀ payload, payload.length ≤ 255 → h.link ch payload = [reportPacket ch remoteCID payload])
    (hr : r.IsHandshake ch) :
    h.Completes (runFrom Handshake.react h r.all) ch remoteCID ↔
      8 ≤ r.enabled.len ∧ 8 ≤ r.decrypted.len := by
  have hsend (report : InputReport) (hmem : report ∈ [r.status, r.enabled, r.decrypted, r.response])
      (payload : List UInt8) (hlen : payload.length ≤ 255) :
      h.link report.ch payload = [reportPacket ch remoteCID payload] := by
    rw [hr.channel report hmem, hlink payload hlen]
  have henable := hsend r.status (by simp) enableExtensionReport (by decide)
  rw [runFrom_all hr, react_status hphase hr.status hr.attached]
  by_cases henabled : 8 ≤ r.enabled.len
  swap
  · -- the second acknowledgement is taken for the first, and the response comes too early
    rw [react_of_short (UInt16.not_le.mp henabled)]
    refine iff_of_false (not_completes_of_length ?_) fun hlong => henabled hlong.1
    by_cases hdecrypted : 8 ≤ r.decrypted.len
    · rw [(react_writeAck hr.decrypted hdecrypted).1 rfl,
        react_response_early ⟨by simp, by simp⟩ hr.response]
      simp [henable, hsend r.decrypted (by simp) disableEncryptionReport (by decide)]
    · rw [react_of_short (UInt16.not_le.mp hdecrypted),
        react_response_early ⟨by simp, by simp⟩ hr.response]
      simp [henable]
  have hdisable := hsend r.enabled (by simp) disableEncryptionReport (by decide)
  rw [(react_writeAck hr.enabled henabled).1 rfl]
  by_cases hdecrypted : 8 ≤ r.decrypted.len
  · rw [(react_writeAck hr.decrypted hdecrypted).2 rfl, react_nunchukResponse rfl hr.response]
    refine iff_of_true ⟨?_, rfl⟩ ⟨henabled, hdecrypted⟩
    have hread := hsend r.decrypted (by simp) readIdentifierReport (by decide)
    have hmode (mode : UInt8) := hsend r.response (by simp) (reportingModeReport mode) (by simp [reportingModeReport])
    simp [henable, hdisable, hread, hmode, WiimoteState.setBatteryLevel]
  · rw [react_of_short (UInt16.not_le.mp hdecrypted),
      react_response_early ⟨by simp, by simp⟩ hr.response]
    refine iff_of_false (not_completes_of_length ?_) fun hlong => hdecrypted hlong.2
    simp [henable, hdisable]

end Handshake

/-- The channel is in the table, and packets go out. -/
structure TwWorld.LinkReady (w : TwWorld) (ch remoteCID : UInt16) : Prop where
  entry : w.gRuntime.l2capConnections.getRemoteCid ch = some remoteCID
  sender : w.gRuntime.packetSender = true
  callback : w.gRuntime.hciInterface.hciSendPacket = true

/-- A handshake from the initial phase completes exactly when both acknowledgements have at
least eight bytes. -/
theorem nunchuk_handshake_completes_iff {w : TwWorld} {ch remoteCID : UInt16} {r : HandshakeReports}
    (hwired : w.ExtensionsWired) (hphase : w.handshake.phase = .init)
    (hlink : w.LinkReady ch remoteCID) (hr : r.IsHandshake ch) :
    w.handshake.Completes (runFrom TwWorld.handleReport w r.all).handshake ch remoteCID ↔
      8 ≤ r.enabled.len ∧ 8 ≤ r.decrypted.len := by
  rw [handshake_runFrom hwired]
  refine completes_iff hphase (fun payload hlen => ?_) hr
  change w.outgoing ch payload = _
  rw [TwWorld.outgoing, hlink.entry]
  exact if_pos ⟨hlink.sender, hlen, hlink.callback⟩

/-- A link is up. -/
def linkedWorld : TwWorld :=
  let response : List UInt8 := [0x03, 0x01, 0x08, 0x00, 0x42, 0x00, 0x40, 0x00, 0x00, 0x00, 0x00, 0x00]
  (exec (L2capSignaling.handleConnectionResponse 0x0040
    ⟨fun i => response.getD i 0x00, response.length, 0⟩ 12) (({} : TwWorld).afterInit ⟨true⟩)).2

/-- The reports of a handshake with acknowledgements of this many bytes, a data report among
them. -/
def nunchukReports (ackLength : ℕ) : HandshakeReports :=
  let ack : InputReport := .ofBytes 0x0040
    ([0xA1, 0x22, 0x00, 0x00, 0x16, 0x00] ++ List.replicate (ackLength - 6) 0x00)
  { status := .ofBytes 0x0040 [0xA1, 0x20, 0x00, 0x00, 0x02, 0x00, 0x00, 0x82]
    beforeEnabled := [.ofBytes 0x0040 [0xA1, 0x30, 0x00, 0x00]]
    enabled := ack
    decrypted := ack
    response := .ofBytes 0x0040
      [0xA1, 0x21, 0x00, 0x00, 0x50, 0x00, 0xFA, 0x00, 0x00, 0xA4, 0x20, 0x00, 0x00] }

/-- The reports of a Nunchuk are a handshake, with acknowledgements of either length. -/
theorem nunchukReports_isHandshake {ackLength : ℕ} (hlen : ackLength = 6 ∨ ackLength = 8) :
    (nunchukReports ackLength).IsHandshake 0x0040 := by
  have hack : (nunchukReports ackLength).enabled.IsWriteAck := by
    obtain rfl | rfl := hlen
    · exact ⟨by decide, by decide, by decide, by decide⟩
    · exact ⟨by decide, by decide, by decide, by decide⟩
  have hattached : (nunchukReports 0).status.extensionAttached = true := by decide
  refine ⟨?_, ⟨rfl, UInt16.le_refl 8⟩, hattached, hack, hack, ⟨rfl, rfl, rfl, UInt16.le_refl 13⟩, ?_⟩
  · intro report hmem
    simp only [List.mem_cons, List.not_mem_nil, or_false] at hmem
    obtain rfl | rfl | rfl | rfl := hmem <;> rfl
  · intro report hmem
    have hdata : report = .ofBytes 0x0040 [0xA1, 0x30, 0x00, 0x00] := by
      simpa [HandshakeReports.others, nunchukReports] using hmem
    subst hdata
    exact .inl ⟨by decide, by decide⟩

/-- The link is ready for a handshake. -/
theorem linkedWorld_ready : linkedWorld.LinkReady 0x0040 0x0042 := ⟨by decide, by decide, by decide⟩

/-- With acknowledgements of six bytes, as they are, the handshake hangs. -/
theorem nunchuk_handshake_does_not_always_complete :
    ¬∀ (w : TwWorld) (ch remoteCID : UInt16) (r : HandshakeReports), w.ExtensionsWired →
      w.handshake.phase = .init → w.LinkReady ch remoteCID → r.IsHandshake ch →
        w.handshake.Completes (runFrom TwWorld.handleReport w r.all).handshake ch remoteCID := by
  intro h
  have hcompletes := h linkedWorld 0x0040 0x0042 (nunchukReports 6)
    ⟨by decide, by decide, by decide⟩ (by decide) linkedWorld_ready
    (nunchukReports_isHandshake (.inl rfl))
  exact absurd hcompletes.nunchuk (by decide +kernel)

/-- With two bytes more it completes. -/
theorem nunchuk_handshake_completes_with_padding :
    linkedWorld.handshake.Completes
      (runFrom TwWorld.handleReport linkedWorld (nunchukReports 8).all).handshake 0x0040 0x0042 :=
  (nunchuk_handshake_completes_iff ⟨by decide, by decide, by decide⟩ (by decide) linkedWorld_ready
    (nunchukReports_isHandshake (.inr rfl))).mpr ⟨by decide, by decide⟩

end Esp32Wiimote.Bluetooth
