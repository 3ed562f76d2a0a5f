import Esp32Wiimote.Device.ConfigTexts
import Esp32Wiimote.Device.Runtime
import Esp32Wiimote.Library.TransitionRun
import Esp32Wiimote.Serial.DispatchEffect

/-!
# The device refines the Wi-Fi lifecycle

Every step of the device is a step of its Wi-Fi lifecycle or leaves it alone. A public call
makes at most one request, which the call and the device determine; a task carries out the
pending action, handles at most one request of a serial command, and takes a startup step.
An invariant of the lifecycle therefore holds in every run of the device.
-/

namespace Esp32Wiimote.Device

open Bluetooth CText Serial StateProgram TransitionRun

/-! ## Programs -/

/-- The program does not touch the Wi-Fi lifecycle. -/
abbrev SameWifi {α : Type} (x : Esp32M α) : Prop := Within (Same Esp32World.wifi) x

/-- The device without the settings snapshot and the state of its store. -/
def ESP32Wiimote.settled (d : ESP32Wiimote) : ESP32Wiimote :=
  { d with runtimeConfigStoreReady := false, runtimeConfigSnapshot := initialSnapshot 0 }

/-- The program touches nothing else of the device. -/
abbrev SameDevice {α : Type} (x : Esp32M α) : Prop := Within (Same fun w => w.device.settled) x

/-- A program that touches nothing else of the device does not touch its Wi-Fi. -/
theorem SameDevice.sameWifi {α : Type} {x : Esp32M α} (h : SameDevice x) : SameWifi x := by
  refine ⟨fun w => ?_⟩
  have hdevice : (exec x w).2.device.settled = w.device.settled := h.rel w
  exact (congrArg ESP32Wiimote.wifi hdevice :)

/-- Nor does it touch the texts. -/
theorem SameDevice.texts {α : Type} {x : Esp32M α} (h : SameDevice x) (w : Esp32World) :
    (exec x w).2.device.texts = w.device.texts := by
  have hdevice : (exec x w).2.device.settled = w.device.settled := h.rel w
  exact (congrArg ESP32Wiimote.texts hdevice :)

/-- A program of the Bluetooth layer does not touch the device. -/
theorem sameDevice_liftTw {α : Type} (x : TwM α) : SameDevice (liftTw x) := ⟨fun _ => rfl⟩

/-! ## Setting something -/

/-- The calls of the Bluetooth layer that only set something there. -/
def isSettingCall : TwCall → Bool
  | .init _ | .setFastReconnectTtlMs _ | .setAutoReconnectEnabled _ => true
  | _ => false

/-- The single steps of the start of the device and of saving a setting lie in the relation. -/
class SettingRelation (R : Esp32World → Esp32World → Prop) : Prop extends IsPreorder Esp32World R where
  settings : ∀ w (f : ESP32Wiimote → ESP32Wiimote), (∀ d, (f d).settled = d.settled) →
    R w (w.mapDevice f)
  rxQueue : ∀ w queue, R w { w with rxQueue := queue }
  initialized : ∀ w, R w { w with btInitialized := true }
  serialOut : ∀ w lines, R w { w with serialOut := lines }
  call : ∀ w c, isSettingCall c = true → R w { w with tw := (exec c.run w.tw).2 }

instance : SettingRelation (Same fun w : Esp32World => w.device.settled) where
  settings w _ hf := hf w.device
  rxQueue _ _ := rfl
  initialized _ := rfl
  serialOut _ _ := rfl
  call _ _ _ := rfl

section Settings

variable {R : Esp32World → Esp32World → Prop} [SettingRelation R]

/-- An assignment that keeps the settled part is in the relation. -/
theorem within_modifyDevice {f : ESP32Wiimote → ESP32Wiimote} (hf : ∀ d, (f d).settled = d.settled) :
    Within R (modifyDevice f) := Within.modify fun w => SettingRelation.settings w f hf

/-- So is an assignment to the snapshot. -/
theorem within_modifySnapshot (f : RuntimeConfigSnapshot → RuntimeConfigSnapshot) :
    Within R (modifySnapshot f) := Within.modify fun w => SettingRelation.settings w _ fun _ => rfl

/-- So is a setting of the Bluetooth layer. -/
theorem within_settingCall {x : TwM Unit} (c : TwCall) (hx : x = c.run) (hc : isSettingCall c = true) :
    Within R (liftTw x) := by
  subst hx
  exact Within.modifyGet fun w => SettingRelation.call w c hc

/-- So is an update of the snapshot with its save. -/
theorem within_updateSnapshot (f : RuntimeConfigSnapshot → RuntimeConfigSnapshot) :
    Within R (updateSnapshot f) := by
  apply Within.bind (within_modifySnapshot f)
  intro _
  apply Within.modify
  intro w
  split
  · exact refl_of R w
  · split
    · exact SettingRelation.settings w _ fun _ => rfl
    · exact refl_of R w

/-- So is the record of an accepted setting. -/
theorem within_recordAccepted (accepted : Bool) (f : RuntimeConfigSnapshot → RuntimeConfigSnapshot) :
    Within R (recordAccepted accepted f) := by
  apply Within.ite
  · intro _
    exact Within.bind (within_updateSnapshot f) fun _ => Within.pure _
  · intro _
    exact Within.pure _

/-- So is the creation of the queues. -/
theorem within_createQueues : Within R createQueues := by
  apply Within.modifyGet
  intro w
  split
  · exact refl_of R w
  · split
    · exact SettingRelation.rxQueue w none
    · exact SettingRelation.rxQueue w (some [])

/-- So is the start of the controller. -/
theorem within_bluetoothControllerInit : Within R bluetoothControllerInit := by
  apply Within.get_bind
  intro w
  apply Within.ite
  · intro _
    exact Within.pure _
  · intro _
    apply Within.bind (within_settingCall (.init ⟨true⟩) rfl rfl)
    intro _
    apply Within.bind within_createQueues
    intro created
    apply Within.ite
    · intro _
      exact Within.pure _
    · intro _
      exact Within.bind (Within.modify SettingRelation.initialized) fun _ => Within.pure _

/-- So is the restore of the settings. -/
theorem within_restoreRuntimeConfig : Within R restoreRuntimeConfig := by
  apply Within.get_bind
  intro w
  apply Within.bind (within_modifySnapshot _)
  intro _
  refine Within.bind (within_modifyDevice fun _ => rfl) fun _ => ?_
  apply Within.ite
  · intro _
    exact Within.pure _
  · intro _
    cases w.platform.stored with
    | none => exact within_modifyDevice fun _ => rfl
    | some persisted =>
      apply Within.bind (within_modifySnapshot _)
      intro _
      apply Within.bind (within_settingCall (.setFastReconnectTtlMs _) rfl rfl)
      intro _
      exact within_settingCall (.setAutoReconnectEnabled _) rfl rfl

/-- The whole of `init()` is in the relation. -/
theorem within_init : Within R init := by
  apply Within.bind within_bluetoothControllerInit
  intro started
  apply Within.ite
  · intro _
    exact Within.pure _
  · intro _
    apply Within.get_bind
    intro w
    apply Within.bind (within_settingCall (.setFastReconnectTtlMs _) rfl rfl)
    intro _
    apply Within.bind within_restoreRuntimeConfig
    intro _
    apply Within.bind
    · apply Within.get_bind
      intro w
      apply Within.ite
      · intro _
        exact Within.modify fun w => SettingRelation.serialOut w _
      · intro _
        exact Within.pure _
    · intro _
      exact Within.pure _

/-- Setting the policy is in the relation. -/
theorem within_setAutoReconnectEnabled (enabled : Bool) : Within R (setAutoReconnectEnabled enabled) :=
  Within.bind (within_settingCall (.setAutoReconnectEnabled enabled) rfl rfl) fun _ =>
    within_updateSnapshot _

end Settings

/-! ## What leaves the device alone -/

/-- `init()` touches nothing but the snapshot and its store. -/
theorem sameDevice_init : SameDevice init := within_init

/-- Nor does setting the LEDs. -/
theorem sameDevice_setLeds (ledMask : UInt8) : SameDevice (setLeds ledMask) :=
  Within.bind (sameDevice_liftTw _) fun _ => within_recordAccepted _ _

/-- Nor does setting the reporting mode. -/
theorem sameDevice_setReportingMode (mode : UInt8) (continuous : Bool) :
    SameDevice (setReportingMode mode continuous) :=
  Within.bind (sameDevice_liftTw _) fun _ => within_recordAccepted _ _

/-- Nor does setting the policy. -/
theorem sameDevice_setAutoReconnectEnabled (enabled : Bool) :
    SameDevice (setAutoReconnectEnabled enabled) := within_setAutoReconnectEnabled enabled

/-! ## Public calls -/

/-- The request a public call makes. -/
def PublicCall.wifiRequest (order : CopyOrder) (d : ESP32Wiimote) :
    PublicCall → Option WifiControl.Request
  | .configure config => some (d.configureRequest order config)
  | .enableWifiControl enabled deliveryMode => some (.enable enabled deliveryMode)
  | .updateWifiNetworkCredentials ssid password =>
    if ESP32Wiimote.hasNetwork d.storage ⟨ssid, password⟩ then
      some (.network (d.storage.copyNetwork order ⟨ssid, password⟩).1)
    else none
  | .restartWifiControl => some .restart
  | .setWifiDeliveryMode deliveryMode => some (.deliveryMode deliveryMode)
  | _ => none

/-- A complete network is a request to the Wi-Fi control, any other changes nothing there. -/
theorem updateWifiNetworkCredentials_wifi (order : CopyOrder) (ssid password : CharPtr)
    (d : ESP32Wiimote) :
    (d.updateWifiNetworkCredentials order ssid password).2.wifi =
      if ESP32Wiimote.hasNetwork d.storage ⟨ssid, password⟩ then
        d.wifi.handle (.network (d.storage.copyNetwork order ⟨ssid, password⟩).1)
      else d.wifi := by
  unfold ESP32Wiimote.updateWifiNetworkCredentials
  cases ESP32Wiimote.hasNetwork d.storage ⟨ssid, password⟩ <;> rfl

/-- A token changes nothing there. -/
theorem updateWifiApiToken_wifi (token : CharPtr) (d : ESP32Wiimote) :
    (d.updateWifiApiToken token).2.wifi = d.wifi := by
  unfold ESP32Wiimote.updateWifiApiToken
  split <;> rfl

/-- Nor does switching serial control. -/
theorem enableSerialControl_wifi (enabled : Bool) (d : ESP32Wiimote) :
    (d.enableSerialControl enabled).wifi = d.wifi := by
  unfold ESP32Wiimote.enableSerialControl
  split <;> rfl

/-- A public call handles the request it makes, and otherwise leaves the lifecycle alone. -/
theorem PublicCall.run_wifi (c : PublicCall) (w : Esp32World) :
    (exec c.run w).2.wifi = w.wifi.handleSerial (c.wifiRequest w.platform.copyOrder w.device) := by
  cases c with
  | configure config => exact ESP32Wiimote.applyRuntimeConfig_wifi w.platform.copyOrder config w.device
  | enableWifiControl enabled deliveryMode => rfl
  | updateWifiNetworkCredentials ssid password =>
    have hcall := updateWifiNetworkCredentials_wifi w.platform.copyOrder ssid password w.device
    change (w.device.updateWifiNetworkCredentials w.platform.copyOrder ssid password).2.wifi = _
    rw [hcall]
    simp only [wifiRequest]
    split <;> rfl
  | restartWifiControl => rfl
  | updateWifiApiToken token => exact updateWifiApiToken_wifi token w.device
  | setWifiDeliveryMode deliveryMode => rfl
  | init => exact sameDevice_init.sameWifi.rel w
  | available =>
    have h : SameWifi Device.available := Within.get_bind fun w =>
      Within.ite _ (fun _ => Within.pure _) fun _ => (sameDevice_liftTw _).sameWifi.discard
    exact h.rel w
  | requestBatteryUpdate => rfl
  | setLeds ledMask => exact (sameDevice_setLeds ledMask).sameWifi.rel w
  | setReportingMode mode continuous => exact (sameDevice_setReportingMode mode continuous).sameWifi.rel w
  | setAccelerometerEnabled enabled => rfl
  | requestStatus => rfl
  | writeMemory addressSpace offset data len => rfl
  | readMemory addressSpace offset size => rfl
  | setScanEnabled enabled => rfl
  | startDiscovery => rfl
  | stopDiscovery => rfl
  | disconnectActiveController reason => rfl
  | setAutoReconnectEnabled enabled => exact (sameDevice_setAutoReconnectEnabled enabled).sameWifi.rel w
  | clearReconnectCache => rfl
  | enableSerialControl enabled => exact enableSerialControl_wifi enabled w.device
  | setLogLevel level => rfl
  | addFilter filter =>
    have h : SameWifi (Device.addFilter filter) :=
      Within.ite _ (fun _ => (sameDevice_liftTw _).sameWifi) fun _ => Within.pure _
    exact h.rel w

/-! ## Serial control -/

/-- Reading and answering a line, apart from the call it makes, changes the line, the session and
the serial port only. -/
structure SerialOnly (w t : Esp32World) : Prop where
  wifi : t.wifi = w.wifi
  snapshot : t.device.runtimeConfigSnapshot = w.device.runtimeConfigSnapshot
  tw : t.tw = w.tw
  texts : t.device.texts = w.device.texts
  platform : t.platform = w.platform

instance : IsPreorder Esp32World SerialOnly where
  refl _ := ⟨rfl, rfl, rfl, rfl, rfl⟩
  trans _ _ _ h h' :=
    ⟨h'.wifi.trans h.wifi, h'.snapshot.trans h.snapshot, h'.tw.trans h.tw, h'.texts.trans h.texts,
      h'.platform.trans h.platform⟩

/-- Serial control makes no call of the target, or one. -/
inductive SerialOutcome (w : Esp32World) : List SerialTargetCall × Esp32World → Prop
  | quiet {t} (h : SerialOnly w t) : SerialOutcome w ([], t)
  | called {t u} (call : SerialTargetCall) (h : SerialOnly w t)
      (h' : SerialOnly (exec (serialTargetCall call) t).2 u) : SerialOutcome w ([call], u)

/-- What happens before the line may touch line, session and port. -/
theorem SerialOutcome.before {w t : Esp32World} {outcome : List SerialTargetCall × Esp32World}
    (h : SerialOutcome t outcome) (hw : SerialOnly w t) : SerialOutcome w outcome := by
  cases h with
  | quiet h => exact .quiet (trans_of SerialOnly hw h)
  | called call h h' => exact .called call (trans_of SerialOnly hw h) h'

/-- So may what happens behind it. -/
theorem SerialOutcome.after {w t u : Esp32World} {calls : List SerialTargetCall}
    (h : SerialOutcome w (calls, t)) (ht : SerialOnly t u) : SerialOutcome w (calls, u) := by
  cases h with
  | quiet h => exact .quiet (trans_of SerialOnly h ht)
  | called call h h' => exact .called call h (trans_of SerialOnly h' ht)

/-- A call of the target does not touch the session. -/
theorem serialTargetCall_session (call : SerialTargetCall) (w : Esp32World) :
    (exec (serialTargetCall call) w).2.device.serialCommandSession =
      w.device.serialCommandSession := by
  have hsame {x : Esp32M Bool} (h : SameDevice x) :
      (exec x w).2.device.serialCommandSession = w.device.serialCommandSession := by
    have hdevice : (exec x w).2.device.settled = w.device.settled := h.rel w
    exact (congrArg ESP32Wiimote.serialCommandSession hdevice :)
  cases call with
  | setLeds ledMask => exact hsame (sameDevice_setLeds ledMask)
  | setReportingMode mode continuous => exact hsame (sameDevice_setReportingMode mode continuous)
  | setAutoReconnectEnabled enabled =>
    exact hsame (Within.bind (sameDevice_setAutoReconnectEnabled enabled) fun _ => Within.pure _)
  | setWifiDeliveryMode mode =>
    change (exec (setSerialWifiDeliveryMode mode) w).2.device.serialCommandSession = _
    unfold setSerialWifiDeliveryMode
    rw [exec_ite]
    split <;> rfl
  | setWifiNetworkCredentials ssid password =>
    change (w.device.updateWifiNetworkCredentials _ _ _).2.serialCommandSession = _
    unfold ESP32Wiimote.updateWifiNetworkCredentials
    split <;> rfl
  | setWifiApiToken token =>
    change (w.device.updateWifiApiToken _).2.serialCommandSession = _
    unfold ESP32Wiimote.updateWifiApiToken
    split <;> rfl
  | _ => rfl

/-- A line may unlock the session, but keeps its token. -/
theorem runSerialCommandLine_token (line : CString) (w : Esp32World) :
    (w.runSerialCommandLine line).session.token = w.device.serialCommandSession.token := by
  have hsession : (w.runSerialCommandLine line).session = _ :=
    processSerialCommandLine_session esp32SerialDevice line w.platform.millis w.serialControl
  rw [hsession]
  cases unlockSeconds w.serialControl.session.token line with
  | none => rfl
  | some seconds => exact SerialCommandSession.unlock_token ..

/-- Putting back the session with its token leaves the texts alone. -/
theorem texts_withSession (d : ESP32Wiimote) {session : SerialCommandSession}
    (h : session.token = d.serialCommandSession.token) :
    ({ d with serialCommandSession := session } : ESP32Wiimote).texts = d.texts := by
  simp only [ESP32Wiimote.texts, h]

/-- A command line makes at most one call. -/
theorem processSerialCommandLine_outcome (line : CString) (w : Esp32World) :
    SerialOutcome w (exec (processSerialCommandLine line) w) := by
  change SerialOutcome w ((w.runSerialCommandLine line).target.calls, _)
  rcases Serial.processSerialCommandLine_outcome esp32SerialDevice line w.platform.millis
    w.serialControl with htarget | ⟨call, htarget⟩
  · have hcalls : (w.runSerialCommandLine line).target.calls = [] :=
      congrArg TargetState.calls htarget
    have hdevice : (w.runSerialCommandLine line).target.device = w :=
      congrArg TargetState.device htarget
    rw [hcalls, hdevice]
    exact .quiet ⟨rfl, rfl, rfl, texts_withSession w.device (runSerialCommandLine_token line w), rfl⟩
  · have hcalls : (w.runSerialCommandLine line).target.calls = [call] :=
      congrArg TargetState.calls htarget
    have hdevice : (w.runSerialCommandLine line).target.device =
        (exec (serialTargetCall call) w).2 := congrArg TargetState.device htarget
    have htoken := runSerialCommandLine_token line w
    rw [← serialTargetCall_session call w] at htoken
    rw [hcalls, hdevice]
    exact .called call (refl_of SerialOnly w) ⟨rfl, rfl, rfl, texts_withSession _ htoken, rfl⟩

/-- So does the answer to a line, whatever the line is. -/
theorem answerSerialLine_outcome (w : Esp32World) :
    SerialOutcome w (exec answerSerialLine w) := by
  unfold answerSerialLine
  rw [exec_get_bind, exec_ite]
  split
  · exact .quiet ⟨rfl, rfl, rfl, rfl, rfl⟩
  · rw [exec_ite]
    split
    · exact processSerialCommandLine_outcome _ w
    · exact .quiet ⟨rfl, rfl, rfl, rfl, rfl⟩

/-- So does the end of a line. -/
theorem finishSerialLine_outcome (w : Esp32World) :
    SerialOutcome w (exec finishSerialLine w) :=
  (answerSerialLine_outcome w).after ⟨rfl, rfl, rfl, rfl, rfl⟩

/-- By induction on the bytes; the line is answered at the first end of a line. -/
theorem readSerialBytes_outcome (bytes : List UInt8) (w : Esp32World) :
    SerialOutcome w (exec (readSerialBytes bytes) w) := by
  induction bytes generalizing w with
  | nil => exact .quiet ⟨rfl, rfl, rfl, rfl, rfl⟩
  | cons ch rest ih =>
    unfold readSerialBytes
    rw [exec_ite]
    split
    · exact (finishSerialLine_outcome _).before ⟨rfl, rfl, rfl, rfl, rfl⟩
    · refine (ih _).before ?_
      unfold feedSerialByte
      change SerialOnly w (w.mapDevice _)
      constructor
      case tw => rfl
      case platform => rfl
      all_goals
        simp only [Esp32World.mapDevice, Esp32World.wifi]
        split_ifs <;> rfl

/-- So does serial control as a whole. -/
theorem processSerialControl_outcome (w : Esp32World) :
    SerialOutcome w (exec processSerialControl w) := by
  unfold processSerialControl
  rw [exec_get_bind, exec_ite]
  split
  · exact readSerialBytes_outcome _ w
  · exact .quiet (refl_of SerialOnly w)

/-- The request of a serial command is one a serial command can make. -/
def SerialStep (c c' : WifiControl) : Prop :=
  ∃ serial, (∀ r, serial = some r → c.SerialRequest r) ∧ c' = c.handleSerial serial

/-- No request is a serial step. -/
theorem SerialStep.of_eq {c c' : WifiControl} (h : c' = c) : SerialStep c c' :=
  ⟨none, fun r hnone => absurd hnone.symm (Option.some_ne_none r), h⟩

/-- A request a serial command can make is one. -/
theorem SerialStep.of_request {c : WifiControl} {r : WifiControl.Request}
    (h : c.SerialRequest r) : SerialStep c (c.handle r) := by
  refine ⟨some r, ?_, rfl⟩
  rintro r' heq
  cases heq
  exact h

/-- Every call of the target is a serial step of the Wi-Fi control. -/
theorem serialTargetCall_wifi (call : SerialTargetCall) (w : Esp32World) :
    SerialStep w.wifi (exec (serialTargetCall call) w).2.wifi := by
  cases call with
  | setLeds ledMask => exact .of_eq ((sameDevice_setLeds ledMask).sameWifi.rel w)
  | setReportingMode mode continuous =>
    exact .of_eq ((sameDevice_setReportingMode mode continuous).sameWifi.rel w)
  | setAutoReconnectEnabled enabled =>
    exact .of_eq ((sameDevice_setAutoReconnectEnabled enabled).sameWifi.rel w)
  | setWifiControlEnabled enabled => exact .of_request (.control enabled)
  | setWifiDeliveryMode mode =>
    change SerialStep w.wifi (exec (setSerialWifiDeliveryMode mode) w).2.wifi
    unfold setSerialWifiDeliveryMode
    rw [exec_ite]
    split
    · exact .of_eq rfl
    · exact .of_request (.deliveryMode _)
  | setWifiNetworkCredentials ssid password =>
    change SerialStep w.wifi (w.device.updateWifiNetworkCredentials _ _ _).2.wifi
    rw [updateWifiNetworkCredentials_wifi]
    split
    · exact .of_request (.network _)
    · exact .of_eq rfl
  | restartWifiControl => exact .of_request .restart
  | setWifiApiToken token => exact .of_eq (updateWifiApiToken_wifi _ w.device)
  | _ => exact .of_eq rfl

/-- So is serial control as a whole. -/
theorem processSerialControl_wifi (w : Esp32World) :
    SerialStep w.wifi (exec processSerialControl w).2.wifi := by
  have houtcome := processSerialControl_outcome w
  generalize exec processSerialControl w = outcome at houtcome ⊢
  cases houtcome with
  | quiet h => exact .of_eq h.wifi
  | called call h h' =>
    rw [h'.wifi, ← h.wifi]
    exact serialTargetCall_wifi call _

/-! ## Tasks -/

/-- The world in which a task looks at the serial line. -/
def Esp32World.beforeSerial (w : Esp32World) : Esp32World :=
  (exec processRxQueue (w.mapWifi (·.applyQueuedWifiLifecycleAction))).2

/-- The call a serial command makes in a task, if any. -/
def Esp32World.serialCalls (w : Esp32World) : List SerialTargetCall :=
  if w.isStarted then (exec processSerialControl w.beforeSerial).1 else []

/-- The world in which a task takes its startup step. -/
def Esp32World.afterSerial (w : Esp32World) : Esp32World :=
  (exec processQueuesAndSerial (w.mapWifi (·.applyQueuedWifiLifecycleAction))).2

/-- Taking up a received packet does not change what the platform answers. -/
theorem Esp32World.beforeSerial_platform (w : Esp32World) : w.beforeSerial.platform = w.platform := by
  change (exec processRxQueue _).2.platform = _
  unfold processRxQueue
  rw [exec_get_bind]
  split <;> rfl

/-- A task ends with the Wi-Fi control. -/
theorem exec_task (w : Esp32World) : (exec task w).2 = (exec processWifiControl w.afterSerial).2 := rfl

/-- Before the device is started a task only applies the queued action. -/
theorem Esp32World.afterSerial_of_not_started (w : Esp32World) (h : w.isStarted = false) :
    w.afterSerial = w.mapWifi (·.applyQueuedWifiLifecycleAction) := by
  have hstarted : (w.mapWifi (·.applyQueuedWifiLifecycleAction)).isStarted = false := h
  rw [afterSerial, processQueuesAndSerial, exec_get_bind, hstarted]
  rfl

/-- Afterwards it comes to serial control. -/
theorem Esp32World.afterSerial_of_started (w : Esp32World) (h : w.isStarted = true) :
    w.afterSerial = (exec processSerialControl w.beforeSerial).2 := by
  have hstarted : (w.mapWifi (·.applyQueuedWifiLifecycleAction)).isStarted = true := h
  rw [afterSerial, processQueuesAndSerial, exec_get_bind, hstarted]
  rfl

/-! ## Steps -/

/-- Handling the received packets does not touch the Wi-Fi control. -/
theorem processRxQueue_wifi (w : Esp32World) : (exec processRxQueue w).2.wifi = w.wifi := by
  unfold processRxQueue
  rw [exec_get_bind]
  split <;> rfl

/-- Queues and serial control are a serial step. -/
theorem processQueuesAndSerial_wifi (w : Esp32World) :
    SerialStep w.wifi (exec processQueuesAndSerial w).2.wifi := by
  unfold processQueuesAndSerial
  rw [exec_get_bind, exec_ite]
  split
  · exact .of_eq rfl
  · rw [exec_then, exec_discard]
    have hserial := processSerialControl_wifi (exec processRxQueue w).2
    rwa [processRxQueue_wifi] at hserial

/-- What an event of the device is to the lifecycle. -/
inductive Performs (w : Esp32World) : Esp32Event → WifiControl.Event → Prop
  | call {c : PublicCall} {platform r} (h : c.wifiRequest platform.copyOrder w.device = some r) :
      Performs w ⟨.call c, platform⟩ (.request r)
  | task {platform} (serial input)
      (h : ∀ r, serial = some r → w.wifi.applyQueuedWifiLifecycleAction.SerialRequest r) :
      Performs w ⟨.task, platform⟩ (.task serial input)
  | dispatch {platform} (begins : Bool) :
      Performs w ⟨.dispatch begins, platform⟩ (.dispatch begins)

/-- What is a task to the lifecycle is one. -/
theorem Performs.isTask {w : Esp32World} {e : Esp32Event} {serial : Option WifiControl.Request}
    {input : WifiControl.StartupInput} (h : Performs w e (.task serial input)) :
    e.action.isTask = true := by
  cases h with
  | task serial input h => rfl

/-- Every step of the device is a step of its Wi-Fi lifecycle, or leaves it alone. -/
theorem step_wifi (w : Esp32World) (e : Esp32Event) :
    (w.step e).wifi = w.wifi ∧ e.action.isTask = false ∨
      ∃ l, Performs w e l ∧ (w.step e).wifi = w.wifi.step l := by
  obtain ⟨action, platform⟩ := e
  cases action with
  | call c =>
    have hrun := c.run_wifi (w.enter platform)
    change (w.step ⟨.call c, platform⟩).wifi =
      w.wifi.handleSerial (c.wifiRequest platform.copyOrder w.device) at hrun
    rw [hrun]
    cases hrequest : c.wifiRequest platform.copyOrder w.device with
    | none => exact .inl ⟨rfl, rfl⟩
    | some r => exact .inr ⟨_, .call hrequest, rfl⟩
  | task =>
    right
    let start := (w.enter platform).mapWifi (·.applyQueuedWifiLifecycleAction)
    let input := (exec processQueuesAndSerial start).2.startupInput
    obtain ⟨serial, hserial, heq⟩ := processQueuesAndSerial_wifi start
    refine ⟨.task serial input, .task serial input hserial, ?_⟩
    change WifiControl.processWifiControl _ (exec processQueuesAndSerial _).2.wifi = _
    rw [heq]
    rfl
  | dispatch begins => exact .inr ⟨_, .dispatch begins, rfl⟩
  | hciReceived packet =>
    refine .inl ⟨?_, rfl⟩
    change (if packet.len = 0 then w.enter platform else _).wifi = _
    split <;> rfl
  | sendAvailable =>
    refine .inl ⟨?_, rfl⟩
    have h : SameWifi notifyHostSendAvailable := Within.get_bind fun w =>
      Within.ite _ (fun _ => Within.pure _) fun _ => (sameDevice_liftTw _).sameWifi
    exact h.rel (w.enter platform)
  | serialReceived bytes => exact .inl ⟨rfl, rfl⟩

/-! ## Invariants of runs -/

/-- An invariant that the lifecycle keeps under a condition on the events of the device holds at
the end of every run under the condition. -/
theorem wifi_invariant {I : WifiControl → Prop} {allowed : Esp32World → Esp32Event → Prop}
    (hstep : ∀ w e l, I w.wifi → allowed w e → Performs w e l → I (w.wifi.step l))
    {w : Esp32World} {events : List Esp32Event} (hw : I w.wifi)
    (hrun : EveryStep allowed Esp32World.step w events) :
    I (runFrom Esp32World.step w events).wifi := by
  apply invariant_runFrom (I := fun w => I w.wifi) ?_ hw hrun
  intro w e hI hallowed
  rcases step_wifi w e with ⟨hsame, -⟩ | ⟨l, hperforms, heq⟩
  · rw [hsame]
    exact hI
  · rw [heq]
    exact hstep w e l hI hallowed hperforms

/-- The lifecycle of a device just constructed is an initial one that was configured. -/
theorem construct_wifi (config : ESP32WiimoteConfig) :
    ∃ r, (Esp32World.construct config).wifi = ({ config := config.wifi } : WifiControl).handle r ∧
      ∃ network configured, r = .configure config.wifi network configured :=
  ⟨_, ESP32Wiimote.applyRuntimeConfig_wifi .ssidFirst config _, _, _, rfl⟩

end Esp32Wiimote.Device
