import Esp32Wiimote.Bluetooth.Extensions

/-!
# Status reports

A status report carries the battery level and says whether an extension is attached. The
handshake looks at it in its initial phase only.
-/

namespace Esp32Wiimote.Bluetooth

open StateProgram TransitionRun

/-- The level that a raw battery value stands for. -/
def scaledBattery (raw : UInt8) : UInt8 :=
  if raw > 208 then 100 else (raw.toNat * 100 / 208).toUInt8

/-- The status report is what the machine shows. -/
structure Handshake.Honours (h : Handshake) (report : InputReport) : Prop where
  battery : h.wiimote.batteryLevel = scaledBattery (report.data.at 7)
  unplugged : report.extensionAttached = false →
    h.wiimote.nunchukConnected = false ∧ h.phase = .init

/-- The machine looks at the report, or the report changes nothing. -/
def Handshake.TakesStatus (h : Handshake) (report : InputReport) : Prop :=
  h.phase = .init ∨
    report.extensionAttached = true ∧ h.wiimote.batteryLevel = scaledBattery (report.data.at 7)

section Status

variable {h : Handshake} {report : InputReport}

instance : Decidable (h.Honours report) :=
  decidable_of_iff
    (h.wiimote.batteryLevel = scaledBattery (report.data.at 7) ∧
      (report.extensionAttached = false → h.wiimote.nunchukConnected = false ∧ h.phase = .init))
    ⟨fun ⟨battery, unplugged⟩ => ⟨battery, unplugged⟩, fun ⟨battery, unplugged⟩ => ⟨battery, unplugged⟩⟩

instance : Decidable (h.TakesStatus report) := inferInstanceAs (Decidable (_ ∨ _ ∧ _))

/-- While the handshake waits for something else, a status report is dropped. -/
theorem react_status_of_waiting (hstatus : report.IsStatus) (hphase : h.phase ≠ .init) :
    h.react report = h := by
  have hne (number : UInt8) (hnumber : 0x20 ≠ number) : report.data.at 1 ≠ number := by
    rw [hstatus.number]
    exact hnumber
  exact react_of_unexpected (fun hinit => absurd hinit hphase)
    (fun _ => writeAck_of_number (hne 0x22 (by decide))) fun _ => hne 0x21 (by decide)

/-- In the initial phase a status report is honoured. -/
theorem statusReceived_honours (hphase : h.phase = .init) : (h.statusReceived report).Honours report := by
  simp only [Handshake.statusReceived]
  split
  next hattached =>
    refine ⟨rfl, fun hunplugged => ?_⟩
    simp [InputReport.extensionAttached, hattached] at hunplugged
  next => exact ⟨rfl, fun _ => ⟨rfl, hphase⟩⟩

/-- Elsewhere it is honoured exactly when the handshake takes it. -/
theorem react_honours_iff (hstatus : report.IsStatus) :
    (h.react report).Honours report ↔ h.TakesStatus report := by
  by_cases hphase : h.phase = .init
  · have hreact : h.react report = h.statusReceived report := by
      rw [Handshake.react, if_neg (UInt16.not_lt.mpr hstatus.length), hphase]
      exact if_pos hstatus.number
    rw [hreact]
    exact iff_of_true (statusReceived_honours hphase) (.inl hphase)
  · rw [react_status_of_waiting hstatus hphase]
    constructor
    · intro honours
      cases hattached : report.extensionAttached with
      | true => exact .inr ⟨hattached, honours.battery⟩
      | false => exact absurd (honours.unplugged hattached).2 hphase
    · rintro (hinit | ⟨hattached, hbattery⟩)
      · exact absurd hinit hphase
      · exact ⟨hbattery, fun hunplugged => by simp [hattached] at hunplugged⟩

end Status

/-- A status report is honoured in the state it leaves. -/
def StatusHonoured (w : TwWorld) (report : InputReport) : Prop :=
  report.IsStatus → (w.handleReport report).handshake.Honours report

/-- A status report comes when the handshake takes it. -/
def StatusTaken (w : TwWorld) (report : InputReport) : Prop :=
  report.IsStatus → w.handshake.TakesStatus report

instance (w : TwWorld) (report : InputReport) : Decidable (StatusHonoured w report) :=
  inferInstanceAs (Decidable (_ → _))

instance (w : TwWorld) (report : InputReport) : Decidable (StatusTaken w report) :=
  inferInstanceAs (Decidable (_ → _))

/-- In a run of reports every status report is honoured exactly when each comes in the initial
phase of the handshake, or changes nothing. -/
theorem status_reports_honoured_iff {w : TwWorld} (hwired : w.ExtensionsWired)
    (reports : List InputReport) :
    EveryStep StatusHonoured TwWorld.handleReport w reports ↔
      EveryStep StatusTaken TwWorld.handleReport w reports := by
  refine everyStep_congr (I := TwWorld.ExtensionsWired)
    (fun _ report _ h => h.handleReport report) (fun w report _ h => ?_) hwired
  exact forall_congr' fun hstatus => by rw [handshake_handleReport h, react_honours_iff hstatus]

/-- An extension is plugged in with a full battery and unplugged while the handshake waits, the
battery being empty. -/
def unpluggedWhileWaiting : List InputReport :=
  [.ofBytes 0x0040 [0xA1, 0x20, 0x00, 0x00, 0x02, 0x00, 0x00, 0xD0],
    .ofBytes 0x0040 [0xA1, 0x20, 0x00, 0x00, 0x00, 0x00, 0x00, 0x00]]

/-- The second report is dropped. -/
theorem status_reports_not_always_honoured :
    ¬∀ (w : TwWorld) (reports : List InputReport), w.ExtensionsWired →
      EveryStep StatusHonoured TwWorld.handleReport w reports := by
  intro h
  have hrun := h (({} : TwWorld).afterInit ⟨true⟩) unpluggedWhileWaiting
    (extensionsWired_afterInit _ _)
  exact absurd hrun (by decide +kernel)

/-- The first report is honoured. -/
theorem status_report_honoured_at_first :
    EveryStep StatusHonoured TwWorld.handleReport (({} : TwWorld).afterInit ⟨true⟩)
      (unpluggedWhileWaiting.take 1) :=
  (status_reports_honoured_iff (extensionsWired_afterInit _ _) (unpluggedWhileWaiting.take 1)).mpr
    (by decide +kernel)

end Esp32Wiimote.Bluetooth
