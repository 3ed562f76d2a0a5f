import Esp32Wiimote.Device.LifecycleLaws
import Esp32Wiimote.Device.SerialLines
import Esp32Wiimote.Device.StartupProgress

/-!
# The end of every startup

The device runs against the real time, of which it sees the millisecond clock alone, and that
clock wraps. However the station, the server and the rest of the platform answer, a startup that
is left alone comes to its end: the control serves, or it is off and what failed is recorded. The
time this takes is bounded by the timeout and a few gaps between tasks.
-/

namespace Esp32Wiimote.Device

open CText PolledClock Serial StateProgram TransitionRun WifiControl WrappingClock

/-! ## The platform of a task -/

section Platform

/-- The program does not change what the platform answers. -/
abbrev SamePlatform {α : Type} (x : Esp32M α) : Prop := Within (Same Esp32World.platform) x

instance : SettingRelation (Same Esp32World.platform) where
  settings _ _ _ := rfl
  rxQueue _ _ := rfl
  initialized _ := rfl
  serialOut _ _ := rfl
  call _ _ _ := rfl

/-- A program of the Bluetooth layer does not change the platform. -/
theorem samePlatform_liftTw {α : Type} (x : Bluetooth.TwM α) : SamePlatform (liftTw x) :=
  ⟨fun _ => rfl⟩

/-- Nor does any call of a serial command. -/
theorem samePlatform_serialTargetCall (call : SerialTargetCall) : SamePlatform (serialTargetCall call) := by
  cases call with
  | setLeds ledMask => exact Within.bind (samePlatform_liftTw _) fun _ => within_recordAccepted _ _
  | setReportingMode mode continuous =>
    exact Within.bind (samePlatform_liftTw _) fun _ => within_recordAccepted _ _
  | setAutoReconnectEnabled enabled =>
    exact Within.bind (within_setAutoReconnectEnabled enabled) fun _ => Within.pure _
  | setWifiDeliveryMode mode =>
    exact Within.ite _ (fun _ => Within.pure _) fun _ => Within.modifyGet fun _ => rfl
  | _ => exact ⟨fun _ => rfl⟩

/-- A task does not change what the platform answers. -/
theorem platform_afterSerial (w : Esp32World) : w.afterSerial.platform = w.platform := by
  cases hstarted : w.isStarted with
  | false =>
    rw [w.afterSerial_of_not_started hstarted]
    rfl
  | true =>
    rw [w.afterSerial_of_started hstarted, ← w.beforeSerial_platform]
    have houtcome := processSerialControl_outcome w.beforeSerial
    generalize exec processSerialControl w.beforeSerial = outcome at houtcome ⊢
    cases houtcome with
    | quiet h => exact h.platform
    | called call h h' =>
      exact h'.platform.trans (((samePlatform_serialTargetCall call).rel _).trans h.platform)

end Platform

/-! ## Leaving Wi-Fi alone -/

/-- The calls of a serial command that make a request to the Wi-Fi control. -/
def isWifiCall : SerialTargetCall → Bool
  | .setWifiControlEnabled _ | .setWifiDeliveryMode _ | .setWifiNetworkCredentials _ _
  | .restartWifiControl => true
  | _ => false

/-- The action does not ask for a start or a stop of Wi-Fi. -/
def Esp32Action.LeavesWifiAlone (w : Esp32World) (platform : Platform) : Esp32Action → Prop
  | .call c => (c.wifiRequest platform.copyOrder w.device).bind w.wifi.actionOf = none
  | .task => ∀ call ∈ (w.enter platform).serialCalls, isWifiCall call = false
  | _ => True

instance (w : Esp32World) (platform : Platform) :
    ∀ action : Esp32Action, Decidable (action.LeavesWifiAlone w platform)
  | .call _ => inferInstanceAs (Decidable (_ = none))
  | .task => inferInstanceAs (Decidable (∀ _ ∈ _, _))
  | .dispatch _ | .hciReceived _ | .sendAvailable | .serialReceived _ => isTrue trivial

/-- The step asks nothing of the Wi-Fi lifecycle. -/
abbrev LeavesWifiAlone (w : Esp32World) (e : Esp32Event) : Prop := e.action.LeavesWifiAlone w e.platform

/-- A call that is not about Wi-Fi does not touch it. -/
theorem sameWifi_serialTargetCall {call : SerialTargetCall} (h : isWifiCall call = false) :
    SameWifi (serialTargetCall call) := by
  cases call with
  | setLeds ledMask => exact (sameDevice_setLeds ledMask).sameWifi
  | setReportingMode mode continuous => exact (sameDevice_setReportingMode mode continuous).sameWifi
  | setAutoReconnectEnabled enabled =>
    exact Within.bind (sameDevice_setAutoReconnectEnabled enabled).sameWifi fun _ => Within.pure _
  | setWifiApiToken token => exact ⟨fun w => updateWifiApiToken_wifi _ w.device⟩
  | setWifiControlEnabled => cases h
  | setWifiDeliveryMode => cases h
  | setWifiNetworkCredentials => cases h
  | restartWifiControl => cases h
  | _ => exact ⟨fun _ => rfl⟩

/-- Where the serial commands of a task leave Wi-Fi alone, the startup step finds it as the pending
action has left it. -/
theorem wifi_afterSerial_of_quiet {w : Esp32World}
    (h : ∀ call ∈ w.serialCalls, isWifiCall call = false) :
    w.afterSerial.wifi = w.wifi.applyQueuedWifiLifecycleAction := by
  cases hstarted : w.isStarted with
  | false =>
    rw [w.afterSerial_of_not_started hstarted]
    rfl
  | true =>
    have houtcome := processSerialControl_outcome w.beforeSerial
    have hbefore : w.beforeSerial.wifi = w.wifi.applyQueuedWifiLifecycleAction := processRxQueue_wifi _
    rw [Esp32World.serialCalls, hstarted, if_pos rfl] at h
    rw [w.afterSerial_of_started hstarted]
    generalize exec processSerialControl w.beforeSerial = outcome at houtcome h ⊢
    cases houtcome with
    | quiet hquiet => exact hquiet.wifi.trans hbefore
    | called call hread hanswered =>
      have hcall := sameWifi_serialTargetCall (h call List.mem_cons_self)
      exact hanswered.wifi.trans ((hcall.rel _).trans (hread.wifi.trans hbefore))

/-- What a task is to the lifecycle: it sees the platform of the event, and makes no request where
its serial commands leave Wi-Fi alone. -/
theorem step_wifi_task (w : Esp32World) (platform : Platform) :
    ∃ serial input, input.nowMs = platform.millis ∧ input.esp32 = platform.esp32 ∧
      (LeavesWifiAlone w ⟨.task, platform⟩ → serial = none) ∧
      (w.step ⟨.task, platform⟩).wifi = w.wifi.step (.task serial input) := by
  have hplatform := platform_afterSerial (w.enter platform)
  have hnow : (w.enter platform).afterSerial.startupInput.nowMs = platform.millis :=
    congrArg Platform.millis hplatform
  have hesp32 : (w.enter platform).afterSerial.startupInput.esp32 = platform.esp32 :=
    congrArg Platform.esp32 hplatform
  by_cases hquiet : LeavesWifiAlone w ⟨.task, platform⟩
  · refine ⟨none, (w.enter platform).afterSerial.startupInput, hnow, hesp32, fun _ => rfl, ?_⟩
    change (w.enter platform).afterSerial.wifi.processWifiControl _ = _
    rw [wifi_afterSerial_of_quiet hquiet]
    rfl
  · obtain ⟨serial, -, heq⟩ :=
      processQueuesAndSerial_wifi ((w.enter platform).mapWifi (·.applyQueuedWifiLifecycleAction))
    refine ⟨serial, (w.enter platform).afterSerial.startupInput, hnow, hesp32, fun h => absurd h hquiet, ?_⟩
    change WifiControl.processWifiControl _ (exec processQueuesAndSerial _).2.wifi = _
    rw [heq]
    rfl

/-! ## Runs in real time -/

/-- The clock of the device is read in every step, and the tasks poll it for the startup. -/
def deviceClock : Clock Esp32Event where
  stamp now e := { e with platform := { e.platform with millis := now } }
  polls e := e.action.isTask

/-- The device in real time. -/
abbrev timedDeviceStep : Timed Esp32World → ℕ × Esp32Event → Timed Esp32World :=
  timedStep deviceClock Esp32World.step

/-- The program is built for the platform, and its tasks are at most the gap apart. -/
def OnSchedule (esp32 : Bool) (gap : ℕ) (s : Timed Esp32World) (e : ℕ × Esp32Event) : Prop :=
  e.2.platform.esp32 = esp32 ∧ Punctual gap s e

instance (esp32 : Bool) (gap : ℕ) (s : Timed Esp32World) (e : ℕ × Esp32Event) :
    Decidable (OnSchedule esp32 gap s e) :=
  inferInstanceAs (Decidable (_ ∧ _))

/-- The event leaves Wi-Fi alone at its time. -/
abbrev QuietAtTime : Timed Esp32World → ℕ × Esp32Event → Prop := AtTime deviceClock LeavesWifiAlone

section Runs

variable {esp32 : Bool} {gap deadline : ℕ} {s : Timed Esp32World} {e : ℕ × Esp32Event}

/-- What an event is to the lifecycle in real time. -/
inductive TimedWifi (s : Timed Esp32World) (e : ℕ × Esp32Event) (s' : Timed Esp32World) : Prop
  | task (serial : Option Request) (input : StartupInput) (hpolled : s'.polled = s.now + e.1)
      (hnow : input.nowMs = reading (s.now + e.1)) (hesp32 : input.esp32 = e.2.platform.esp32)
      (hquiet : QuietAtTime s e → serial = none)
      (heq : s'.state.wifi = s.state.wifi.step (.task serial input))
  | same (hpolled : s'.polled = s.polled) (heq : s'.state.wifi = s.state.wifi)
  | dispatch (begins : Bool) (hpolled : s'.polled = s.polled)
      (heq : s'.state.wifi = s.state.wifi.setDispatching begins)
  | request (r : Request) (hpolled : s'.polled = s.polled)
      (hquiet : QuietAtTime s e → s.state.wifi.actionOf r = none)
      (heq : s'.state.wifi = s.state.wifi.handle r)

/-- The Wi-Fi control takes the step of the device at the same time. -/
theorem timedWifi (s : Timed Esp32World) (e : ℕ × Esp32Event) : TimedWifi s e (timedDeviceStep s e) := by
  obtain ⟨delay, action, platform⟩ := e
  let platform' : Platform := { platform with millis := reading (s.now + delay) }
  by_cases htask : action = .task
  · subst htask
    obtain ⟨serial, input, hnow, hesp32, hquiet, heq⟩ := step_wifi_task s.state platform'
    exact .task serial input rfl hnow hesp32 hquiet heq
  · have hno : action.isTask = false := by
      cases action with
      | task => exact absurd rfl htask
      | _ => rfl
    have hpolled : (timedDeviceStep s (delay, ⟨action, platform⟩)).polled = s.polled :=
      if_neg (by change ¬action.isTask = true; rw [hno]; exact Bool.false_ne_true)
    rcases step_wifi s.state ⟨action, platform'⟩ with ⟨hsame, -⟩ | ⟨l, hperforms, heq⟩
    · exact .same hpolled hsame
    · cases hperforms with
      | call hrequest =>
        refine .request _ hpolled (fun hquiet => ?_) heq
        change (PublicCall.wifiRequest platform'.copyOrder _ _).bind _ = none at hquiet
        rwa [hrequest] at hquiet
      | task => cases hno
      | dispatch begins => exact .dispatch begins hpolled heq

/-- What holds at each time of every run: the startup is to end by some deadline. -/
structure OnTime (esp32 : Bool) (gap : ℕ) (s : Timed Esp32World) : Prop where
  polled : s.polled ≤ s.now ∧ s.now ≤ s.polled + gap
  supported : Supported esp32 s.state.wifi
  expected : ∃ deadline, Expected gap deadline s.polled s.state.wifi

/-- It stays supported on its platform. -/
theorem WifiControl.Supported.timed (h : Supported esp32 s.state.wifi) (he : e.2.platform.esp32 = esp32) :
    Supported esp32 (timedDeviceStep s e).state.wifi := by
  cases timedWifi s e with
  | task serial input _ _ hesp32 _ heq => exact heq ▸ h.task serial (hesp32.trans he)
  | same _ heq => exact heq ▸ h
  | dispatch begins _ heq => exact heq ▸ h.setDispatching begins
  | request r _ _ heq => exact heq ▸ h.handle r

/-- A startup keeps to being on time: a request begins it again, and a task moves it on. -/
theorem OnTime.step (h : OnTime esp32 gap s) (hturn : gap + kWifiConnectTimeoutMs.toNat ≤ 2 ^ 32)
    (hschedule : OnSchedule esp32 gap s e) : OnTime esp32 gap (timedDeviceStep s e) := by
  obtain ⟨⟨hpast, -⟩, hsupported, deadline, hexpected⟩ := h
  obtain ⟨hesp32, hpunctual⟩ := hschedule
  refine ⟨hpunctual.polled hpast, hsupported.timed hesp32, ?_⟩
  cases timedWifi s e with
  | task serial input hpolled hnow hplatform _ heq =>
    rw [hpolled, heq]
    have hbuilt : input.esp32 = esp32 := hplatform.trans hesp32
    exact hexpected.task (hbuilt ▸ hsupported) serial (by omega) hpunctual hnow hturn
  | same hpolled heq =>
    rw [hpolled, heq]
    exact ⟨deadline, hexpected⟩
  | dispatch begins hpolled heq =>
    rw [hpolled, heq]
    exact ⟨deadline, hexpected.of_eq rfl rfl rfl rfl rfl⟩
  | request r hpolled _ heq =>
    rw [hpolled, heq]
    exact ⟨_, hexpected.handle r⟩

/-- What holds while Wi-Fi is left alone: the startup is to end by the deadline, and a control that
was on at first is not switched off without a record of what failed. -/
structure LeftAlone (esp32 : Bool) (gap deadline : ℕ) (first : WifiControl) (s : Timed Esp32World) :
    Prop where
  polled : s.polled ≤ s.now ∧ s.now ≤ s.polled + gap
  supported : Supported esp32 s.state.wifi
  expected : Expected gap deadline s.polled s.state.wifi
  given : first.wifiControlEnabled = true → OnOrGivenUp s.state.wifi

variable {first : WifiControl}

/-- A step on schedule that is quiet leaves the startup to end by its deadline. -/
theorem LeftAlone.step (h : LeftAlone esp32 gap deadline first s)
    (hturn : gap + kWifiConnectTimeoutMs.toNat ≤ 2 ^ 32) (hschedule : OnSchedule esp32 gap s e)
    (hquiet : QuietAtTime s e) : LeftAlone esp32 gap deadline first (timedDeviceStep s e) := by
  obtain ⟨⟨hpast, -⟩, hsupported, hexpected, hgiven⟩ := h
  obtain ⟨hesp32, hpunctual⟩ := hschedule
  have hnext := hsupported.timed hesp32
  cases timedWifi s e with
  | task serial input hpolled hnow hplatform hserial heq =>
    have hbuilt : input.esp32 = esp32 := hplatform.trans hesp32
    rw [hserial hquiet] at heq
    refine ⟨hpunctual.polled hpast, hnext, ?_, fun hon => ?_⟩
    · rw [hpolled, heq]
      exact hexpected.task_quiet (hbuilt ▸ hsupported) (by omega) hpunctual hnow hturn
    · rw [heq]
      exact (hgiven hon).task_quiet hsupported.toTracked hexpected.applyQueued.1
  | same hpolled heq =>
    refine ⟨hpunctual.polled hpast, hnext, ?_, fun hon => heq ▸ hgiven hon⟩
    rw [hpolled, heq]
    exact hexpected
  | dispatch begins hpolled heq =>
    refine ⟨hpunctual.polled hpast, hnext, ?_, fun hon => ?_⟩
    · rw [hpolled, heq]
      exact hexpected.of_eq rfl rfl rfl rfl rfl
    · rw [heq]
      exact (hgiven hon).imp id fun hoff => ⟨⟨hoff.1.off, hoff.1.failed⟩, hoff.2⟩
  | request r hpolled hrequest heq =>
    refine ⟨hpunctual.polled hpast, hnext, ?_, fun hon => ?_⟩
    · rw [hpolled, heq]
      exact hexpected.handle_quiet (hrequest hquiet)
    · rw [heq]
      exact (hgiven hon).handle_quiet (hrequest hquiet)

end Runs

/-! ## The law -/

end Esp32Wiimote.Device
