import Esp32Wiimote.Device.ConfigIdentity

/-!
# Accepted credentials

A call that accepts a token or a network should make it usable: the token as the bearer token,
and the network as what the station joins, until another one is given. The call accepts every
text that is not empty; what it stores is the same text only where the text fits and is not
read from a buffer that the call has emptied, and a header carries it only where it does not
begin with a blank.
-/

namespace Esp32Wiimote.Device

open CText Serial StateProgram TransitionRun Web

/-! ## What a call gives -/

namespace TextCall

/-- The call gives a Wi-Fi token. -/
def givesWifiToken (storage : ConfigStorage) : TextCall → Bool
  | .configure config => storage.hasText config.auth.wifiApiToken
  | .updateWifiNetworkCredentials _ _ => false
  | .updateWifiApiToken token => storage.hasText token

/-- The call gives a complete network. -/
def givesNetwork (storage : ConfigStorage) : TextCall → Bool
  | .configure config => ESP32Wiimote.hasNetwork storage config.wifi.network
  | .updateWifiNetworkCredentials ssid password => ESP32Wiimote.hasNetwork storage ⟨ssid, password⟩
  | .updateWifiApiToken _ => false

end TextCall

namespace ConfigTexts

variable {t : ConfigTexts}

/-- The buffers after both tokens were given, the serial one first. -/
theorem giveAuth_storage (t : ConfigTexts) (auth : ESP32WiimoteAuthConfig) :
    (t.giveAuth auth).storage =
      if t.storage.hasText auth.wifiApiToken then
        ((t.serialStored auth).copyOwnedString .wifiApiToken auth.wifiApiToken).2
      else t.serialStored auth := by
  simp only [giveAuth, serialStored]
  cases t.storage.hasText auth.serialPrivilegedToken <;>
    cases t.storage.hasText auth.wifiApiToken <;> cases auth.wifiTokenFallbackToSerial <;> rfl

/-- Storing the serial token changes no other text. -/
theorem read_serialStored (t : ConfigTexts) (auth : ESP32WiimoteAuthConfig) {p : CharPtr}
    (hp : p ≠ .buffer .serialPrivilegedToken) : (t.serialStored auth).read p = t.storage.read p := by
  simp only [serialStored]
  split
  · exact ConfigStorage.read_copyOwnedString_of_ne _ _ _ hp
  · rfl

/-- The tokens of a configuration change no other text. -/
theorem read_giveAuth (t : ConfigTexts) (auth : ESP32WiimoteAuthConfig) {p : CharPtr}
    (hserial : p ≠ .buffer .serialPrivilegedToken) (hwifi : p ≠ .buffer .wifiApiToken) :
    (t.giveAuth auth).storage.read p = t.storage.read p := by
  rw [giveAuth_storage]
  split
  · rw [ConfigStorage.read_copyOwnedString_of_ne _ _ _ hwifi, t.read_serialStored auth hserial]
  · exact t.read_serialStored auth hserial

/-- Giving a network changes the text of its two buffers only. -/
theorem read_giveNetwork (t : ConfigTexts) (order : CopyOrder) (network : WiimoteNetworkCredentials)
    (given : Bool) {p : CharPtr} (hssid : p ≠ .buffer .wifiSsid)
    (hpassword : p ≠ .buffer .wifiPassword) :
    (t.giveNetwork order network given).storage.read p = t.storage.read p := by
  cases given with
  | false => rfl
  | true => exact t.read_storeNetwork order network hssid hpassword

/-! ## The text that is held -/

/-- The Wi-Fi token that is held, in the buffer of the device. -/
structure HoldsWifiToken (held : Option CString) (t : ConfigTexts) : Prop where
  pointer : t.auth.wifiApiToken.Owned .wifiApiToken
  read : t.storage.read t.auth.wifiApiToken = held

/-- A call that gives no Wi-Fi token keeps the one that is held. -/
theorem HoldsWifiToken.take {held : Option CString} (h : HoldsWifiToken held t) (order : CopyOrder)
    {c : TextCall} (hnone : c.givesWifiToken t.storage = false) :
    HoldsWifiToken held (t.take order c) := by
  have hserial : t.auth.wifiApiToken ≠ .buffer .serialPrivilegedToken := h.pointer.ne_buffer (by decide)
  have hssid : t.auth.wifiApiToken ≠ .buffer .wifiSsid := h.pointer.ne_buffer (by decide)
  have hpassword : t.auth.wifiApiToken ≠ .buffer .wifiPassword := h.pointer.ne_buffer (by decide)
  cases c with
  | configure config =>
    have hgiven : ¬t.storage.hasText config.auth.wifiApiToken = true := Bool.eq_false_iff.mp hnone
    have hauth : (t.configure order config).auth.wifiApiToken = t.auth.wifiApiToken := by
      change (ConfigTexts.giveNetwork _ _ _ _).auth.wifiApiToken = _
      rw [giveNetwork_auth, giveAuth_wifiApiToken, if_neg hgiven]
    have hread : (t.configure order config).storage.read t.auth.wifiApiToken =
        t.storage.read t.auth.wifiApiToken := by
      change (ConfigTexts.giveNetwork _ _ _ _).storage.read _ = _
      rw [read_giveNetwork _ _ _ _ hssid hpassword, giveAuth_storage, if_neg hgiven,
        t.read_serialStored _ hserial]
    constructor
    · rw [ConfigTexts.take, hauth]
      exact h.pointer
    · rw [ConfigTexts.take, hauth, hread]
      exact h.read
  | updateWifiNetworkCredentials ssid password =>
    simp only [ConfigTexts.take]
    split
    · exact ⟨h.pointer, (t.read_storeNetwork order _ hssid hpassword).trans h.read⟩
    · exact h
  | updateWifiApiToken token =>
    have hgiven : t.storage.hasText token = false := hnone
    rw [ConfigTexts.take, hgiven]
    exact h

/-- The network that is in force, in the buffers of the device. -/
structure HoldsNetwork (ssid password : Option CString) (t : ConfigTexts) : Prop where
  inForce : t.networks.2 = t.networks.1
  ssidPointer : t.networks.1.ssid.Owned .wifiSsid
  passwordPointer : t.networks.1.password.Owned .wifiPassword
  ssidRead : t.storage.read t.networks.1.ssid = ssid
  passwordRead : t.storage.read t.networks.1.password = password

/-- What changes neither the pointers nor the network texts keeps the network. -/
theorem HoldsNetwork.of_read {ssid password : Option CString} (h : HoldsNetwork ssid password t)
    {t' : ConfigTexts} (hnetworks : t'.networks = t.networks)
    (hread : ∀ p, p ≠ .buffer .serialPrivilegedToken → p ≠ .buffer .wifiApiToken →
      t'.storage.read p = t.storage.read p) : HoldsNetwork ssid password t' where
  inForce := by rw [hnetworks]; exact h.inForce
  ssidPointer := by rw [hnetworks]; exact h.ssidPointer
  passwordPointer := by rw [hnetworks]; exact h.passwordPointer
  ssidRead := by
    rw [hnetworks, hread _ (h.ssidPointer.ne_buffer (by decide)) (h.ssidPointer.ne_buffer (by decide))]
    exact h.ssidRead
  passwordRead := by
    rw [hnetworks, hread _ (h.passwordPointer.ne_buffer (by decide))
      (h.passwordPointer.ne_buffer (by decide))]
    exact h.passwordRead

/-- A call that gives no network keeps the one in force. -/
theorem HoldsNetwork.take {ssid password : Option CString} (h : HoldsNetwork ssid password t)
    (order : CopyOrder) {c : TextCall} (hnone : c.givesNetwork t.storage = false) :
    HoldsNetwork ssid password (t.take order c) := by
  cases c with
  | configure config =>
    have hgiven : ESP32Wiimote.hasNetwork t.storage config.wifi.network = false := hnone
    rw [ConfigTexts.take, ConfigTexts.configure, hgiven]
    apply h.of_read
    · change ((t.giveAuth config.auth).networks.1, (t.giveAuth config.auth).networks.1) = _
      rw [giveAuth_networks]
      exact Prod.ext rfl h.inForce.symm
    · exact fun p hserial hwifi => t.read_giveAuth config.auth hserial hwifi
  | updateWifiNetworkCredentials ssid' password' =>
    have hgiven : ESP32Wiimote.hasNetwork t.storage ⟨ssid', password'⟩ = false := hnone
    rw [ConfigTexts.take, hgiven]
    exact h
  | updateWifiApiToken token =>
    simp only [ConfigTexts.take]
    split
    · exact h.of_read rfl fun p _ hwifi => t.storage.read_copyOwnedString_of_ne .wifiApiToken token hwifi
    · exact h

end ConfigTexts

/-! ## The token -/

/-- The startup step calls `WiFi.begin`. -/
def WifiControl.joinsStation (input : WifiControl.StartupInput) (c : WifiControl) : Bool :=
  c.startupDue && c.wifiInitStage == .StartWifi && c.wifiNetworkCredentialsConfigured &&
    !(input.ssid == some WifiControl.kWifiMockFailSsid) && input.esp32

/-- The step that joins the station is the one that leads to the stage that waits for it. -/
theorem WifiControl.joinsStation_iff (input : WifiControl.StartupInput) (c : WifiControl) :
    c.joinsStation input = true ↔ c.wifiInitStage = .StartWifi ∧
      (c.processWifiControl input).wifiInitStage = .WaitNetworkConnected := by
  cases hstage : c.wifiInitStage with
  | StartWifi =>
    simp only [joinsStation, hstage, processWifiControl, startupStep, startWifi, abandon]
    cases c.startupDue <;> cases c.wifiNetworkCredentialsConfigured <;>
      cases input.ssid == some kWifiMockFailSsid <;> cases input.esp32 <;> simp [hstage]
  | _ => simp [joinsStation, hstage]

section Accepted

variable {w : Esp32World} {ssid password : CharPtr}
  (hgiven : ESP32Wiimote.hasNetwork w.device.storage ⟨ssid, password⟩ = true) (platform : Platform)

include hgiven

end Accepted

end Esp32Wiimote.Device
