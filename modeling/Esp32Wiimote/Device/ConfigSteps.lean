import Esp32Wiimote.Device.Refinement

/-!
# Which steps change the texts

A step of the device takes at most one call that comes with texts: a public call, or the call
of a serial command that a task answers. It does to the texts what that call does.
-/

namespace Esp32Wiimote.Device

open Bluetooth CText Serial StateProgram TransitionRun

/-- The texts a public call comes with. -/
def PublicCall.textCall : PublicCall → Option TextCall
  | .configure config => some (.configure config)
  | .updateWifiNetworkCredentials ssid password => some (.updateWifiNetworkCredentials ssid password)
  | .updateWifiApiToken token => some (.updateWifiApiToken token)
  | _ => none

/-- The texts a serial command comes with. -/
def serialTextCall : SerialTargetCall → Option TextCall
  | .setWifiNetworkCredentials ssid password =>
    some (.updateWifiNetworkCredentials (.external ssid) (.external password))
  | .setWifiApiToken token => some (.updateWifiApiToken (.external token))
  | _ => none

/-- The texts a step comes with. -/
def Esp32World.textCall (w : Esp32World) (e : Esp32Event) : Option TextCall :=
  match e.action with
  | .call c => c.textCall
  | .task => (w.enter e.platform).serialCalls.findSome? serialTextCall
  | _ => none

/-- The texts after a call that may come with some. -/
def ConfigTexts.after (order : CopyOrder) (t : ConfigTexts) (c : Option TextCall) : ConfigTexts :=
  c.elim t (t.take order)

/-- A request to the lifecycle that comes without a network. -/
theorem texts_wifiRequest (d : ESP32Wiimote) {r : WifiControl.Request}
    (h : r.networksAfter d.wifi.networks = d.wifi.networks) :
    ({ d with wifi := d.wifi.handle r } : ESP32Wiimote).texts = d.texts := by
  simp only [ESP32Wiimote.texts, WifiControl.networks_handle, h]

/-- Serial control can be switched without touching the texts. -/
theorem texts_enableSerialControl (d : ESP32Wiimote) (enabled : Bool) :
    (d.enableSerialControl enabled).texts = d.texts := by
  unfold ESP32Wiimote.enableSerialControl
  split <;> rfl

/-- Every public call gives the texts it is called with, and no others. -/
theorem PublicCall.run_texts (c : PublicCall) (w : Esp32World) :
    (exec c.run w).2.device.texts = w.device.texts.after w.platform.copyOrder c.textCall := by
  cases c with
  | configure config => exact texts_takeText w.device _ (.configure config)
  | updateWifiNetworkCredentials ssid password =>
    exact texts_takeText w.device _ (.updateWifiNetworkCredentials ssid password)
  | updateWifiApiToken token =>
    exact texts_takeText w.device w.platform.copyOrder (.updateWifiApiToken token)
  | enableWifiControl enabled deliveryMode =>
    exact texts_wifiRequest w.device (r := .enable enabled deliveryMode) rfl
  | restartWifiControl => exact texts_wifiRequest w.device (r := .restart) rfl
  | setWifiDeliveryMode deliveryMode =>
    exact texts_wifiRequest w.device (r := .deliveryMode deliveryMode) rfl
  | init => exact sameDevice_init.texts w
  | available =>
    have h : SameDevice Device.available := Within.get_bind fun w =>
      Within.ite _ (fun _ => Within.pure _) fun _ => (sameDevice_liftTw _).discard
    exact h.texts w
  | setLeds ledMask => exact (sameDevice_setLeds ledMask).texts w
  | setReportingMode mode continuous => exact (sameDevice_setReportingMode mode continuous).texts w
  | setAutoReconnectEnabled enabled => exact (sameDevice_setAutoReconnectEnabled enabled).texts w
  | enableSerialControl enabled => exact texts_enableSerialControl w.device enabled
  | addFilter filter =>
    have h : SameDevice (Device.addFilter filter) :=
      Within.ite _ (fun _ => sameDevice_liftTw _) fun _ => Within.pure _
    exact h.texts w
  | _ => rfl

/-- So does every call of a serial command. -/
theorem serialTargetCall_texts (call : SerialTargetCall) (w : Esp32World) :
    (exec (serialTargetCall call) w).2.device.texts =
      w.device.texts.after w.platform.copyOrder (serialTextCall call) := by
  cases call with
  | setLeds ledMask => exact (sameDevice_setLeds ledMask).texts w
  | setReportingMode mode continuous => exact (sameDevice_setReportingMode mode continuous).texts w
  | setAutoReconnectEnabled enabled => exact (sameDevice_setAutoReconnectEnabled enabled).texts w
  | setWifiControlEnabled enabled =>
    exact texts_wifiRequest w.device (r := .enable enabled w.wifi.config.deliveryMode) rfl
  | setWifiDeliveryMode mode =>
    change (exec (setSerialWifiDeliveryMode mode) w).2.device.texts = _
    rw [setSerialWifiDeliveryMode, exec_ite]
    split
    · rfl
    · exact texts_wifiRequest w.device (r := .deliveryMode _) rfl
  | setWifiNetworkCredentials ssid password =>
    exact texts_takeText w.device _
      (.updateWifiNetworkCredentials (.external ssid) (.external password))
  | restartWifiControl => exact texts_wifiRequest w.device (r := .restart) rfl
  | setWifiApiToken token =>
    exact texts_takeText w.device w.platform.copyOrder (.updateWifiApiToken (.external token))
  | _ => rfl

/-- Serial control gives the texts of the call it makes. -/
theorem processSerialControl_texts (w : Esp32World) :
    (exec processSerialControl w).2.device.texts =
      w.device.texts.after w.platform.copyOrder
        ((exec processSerialControl w).1.findSome? serialTextCall) := by
  have houtcome := processSerialControl_outcome w
  generalize exec processSerialControl w = outcome at houtcome ⊢
  cases houtcome with
  | quiet h => exact h.texts
  | called call h h' =>
    have hcall : [call].findSome? serialTextCall = serialTextCall call := by
      simp only [List.findSome?_cons, List.findSome?_nil]
      cases serialTextCall call <;> rfl
    rw [h'.texts, serialTargetCall_texts, h.texts, h.platform, hcall]

/-- A change of the Wi-Fi lifecycle that keeps the networks keeps the texts. -/
theorem texts_mapWifi (w : Esp32World) {f : WifiControl → WifiControl}
    (hf : (f w.wifi).networks = w.wifi.networks) : (w.mapWifi f).device.texts = w.device.texts := by
  simp only [Esp32World.mapWifi, Esp32World.mapDevice, ESP32Wiimote.texts, hf]

/-- What a task does before serial control leaves the texts alone. -/
theorem beforeSerial_texts (w : Esp32World) : w.beforeSerial.device.texts = w.device.texts := by
  have hqueue : SameDevice processRxQueue := by
    apply Within.get_bind
    intro w
    split
    · exact Within.bind ⟨fun _ => rfl⟩ fun _ => sameDevice_liftTw _
    · exact Within.pure _
  rw [Esp32World.beforeSerial, hqueue.texts, texts_mapWifi w w.wifi.networks_applyQueued]

/-- The startup step changes no text. -/
theorem afterSerial_texts (w : Esp32World) :
    (exec task w).2.device.texts = w.afterSerial.device.texts := by
  rw [exec_task]
  exact texts_mapWifi w.afterSerial (w.afterSerial.wifi.networks_processWifiControl _)

/-- A task gives the texts of its serial call. -/
theorem task_texts (w : Esp32World) :
    (exec task w).2.device.texts =
      w.device.texts.after w.platform.copyOrder (w.serialCalls.findSome? serialTextCall) := by
  rw [afterSerial_texts, Esp32World.serialCalls]
  cases hstarted : w.isStarted with
  | false =>
    rw [w.afterSerial_of_not_started hstarted]
    exact texts_mapWifi w w.wifi.networks_applyQueued
  | true =>
    rw [w.afterSerial_of_started hstarted, processSerialControl_texts, beforeSerial_texts,
      w.beforeSerial_platform, if_pos rfl]

/-- A step does to the texts what the call does that comes with texts. -/
theorem step_texts (w : Esp32World) (e : Esp32Event) :
    (w.step e).device.texts = w.device.texts.after e.platform.copyOrder (w.textCall e) := by
  obtain ⟨action, platform⟩ := e
  cases action with
  | call c => exact c.run_texts (w.enter platform)
  | task => exact task_texts (w.enter platform)
  | dispatch begins => rfl
  | hciReceived packet =>
    change (if packet.len = 0 then w.enter platform else _).device.texts = w.device.texts
    split <;> rfl
  | sendAvailable =>
    have h : SameDevice notifyHostSendAvailable := Within.get_bind fun w =>
      Within.ite _ (fun _ => Within.pure _) fun _ => sameDevice_liftTw _
    exact h.texts (w.enter platform)
  | serialReceived bytes => rfl

end Esp32Wiimote.Device
