import Esp32Wiimote.Device.ESP32Wiimote
import Esp32Wiimote.Device.LifecycleEffect

/-!
# The texts of the configuration

What the configuration points to, what the buffers hold, and which token unlocks the serial
session. Three calls change these texts; each copies what it is given into the buffers.
-/

namespace Esp32Wiimote.Device

open CText Serial

/-! ## The network texts in the lifecycle -/

namespace WifiControl

/-- The network of the configuration, and the one the station joins. -/
def networks (c : WifiControl) : WiimoteNetworkCredentials × WiimoteNetworkCredentials :=
  (c.config.network, c.networkCredentials)

variable (c : WifiControl)

/-- Carrying out an action keeps the networks. -/
@[simp] theorem networks_carryOut (a : WifiLifecycleAction) : (c.carryOut a).networks = c.networks := by
  simp only [carryOut, resetWifiLifecycleState_eq]
  rfl

/-- So does acting on a request. -/
@[simp] theorem networks_act (action : Option WifiLifecycleAction) :
    (c.act action).networks = c.networks := by
  cases action with
  | none => rfl
  | some a =>
    obtain ⟨-, hdefer⟩ | ⟨-, hcarry⟩ := act_some c a
    · rw [hdefer]
      rfl
    · rw [hcarry, networks_carryOut]

/-- A request that comes with a network sets both, and applying a configuration puts the network
of the configuration in force. -/
def Request.networksAfter (networks : WiimoteNetworkCredentials × WiimoteNetworkCredentials) :
    Request → WiimoteNetworkCredentials × WiimoteNetworkCredentials
  | .network given => (given, given)
  | .configure _ given _ => (given.getD networks.1, given.getD networks.1)
  | _ => networks

/-- A request changes the networks as it says. -/
theorem networks_handle (r : Request) : (c.handle r).networks = r.networksAfter c.networks := by
  rw [handle_eq, networks_act]
  cases r with
  | enable enabled deliveryMode =>
    cases enabled with
    | false => rfl
    | true =>
      simp only [settings, allowWifi]
      split <;> rfl
  | restart =>
    simp only [settings]
    split <;> rfl
  | deliveryMode deliveryMode => rfl
  | network network => rfl
  | configure config network networkConfigured => rfl

/-- The queued action keeps the networks. -/
@[simp] theorem networks_applyQueued : c.applyQueuedWifiLifecycleAction.networks = c.networks := by
  rw [applyQueuedWifiLifecycleAction_eq]
  split
  · exact networks_carryOut _ _
  · rfl

/-- So does every startup step. -/
theorem networks_startupStep (input : StartupInput) : (c.startupStep input).networks = c.networks := by
  simp only [startupStep]
  split
  · simp only [startWifi]
    split
    · rfl
    · split <;> rfl
  · simp only [waitNetworkConnected]
    split
    · rfl
    · split
      · rfl
      · split <;> rfl
  · rfl
  · have hstarted : (c.startWifiHttpServer input.serverBegins).2.networks = c.networks := by
      simp only [startWifiHttpServer]
      split
      · rfl
      · split <;> rfl
    simp only [registerApiRoutes]
    split
    · exact hstarted
    · split <;> exact hstarted
  · rfl
  · rfl

/-- So does the whole of `processWifiControl`. -/
@[simp] theorem networks_processWifiControl (input : StartupInput) :
    (c.processWifiControl input).networks = c.networks := by
  simp only [processWifiControl]
  split
  · rfl
  · exact networks_startupStep _ input

end WifiControl

/-! ## The texts -/

/-- What the device holds of texts: the pointers, the buffers and the token of the serial session. -/
structure ConfigTexts where
  auth : ESP32WiimoteAuthConfig
  networks : WiimoteNetworkCredentials × WiimoteNetworkCredentials
  storage : ConfigStorage
  unlockToken : Option CString

/-- The texts of a device. -/
def ESP32Wiimote.texts (d : ESP32Wiimote) : ConfigTexts where
  auth := d.auth
  networks := d.wifi.networks
  storage := d.storage
  unlockToken := d.serialCommandSession.token

/-- A call that comes with texts. -/
inductive TextCall
  | configure (config : ESP32WiimoteConfig)
  | updateWifiNetworkCredentials (ssid password : CharPtr)
  | updateWifiApiToken (token : CharPtr)

/-- The device after such a call, made with one order of the copies. -/
def ESP32Wiimote.takeText (order : CopyOrder) (d : ESP32Wiimote) : TextCall → ESP32Wiimote
  | .configure config => d.configure order config
  | .updateWifiNetworkCredentials ssid password =>
    (d.updateWifiNetworkCredentials order ssid password).2
  | .updateWifiApiToken token => (d.updateWifiApiToken token).2

namespace ConfigTexts

section Operations

variable (t : ConfigTexts)

/-- Copies a serial token into its buffer. -/
def storeSerialToken (token : CharPtr) : ConfigTexts :=
  let copied := t.storage.copyOwnedString .serialPrivilegedToken token
  { t with auth := { t.auth with serialPrivilegedToken := copied.1 }, storage := copied.2 }

/-- Copies a Wi-Fi token into its buffer. -/
def storeWifiToken (token : CharPtr) : ConfigTexts :=
  let copied := t.storage.copyOwnedString .wifiApiToken token
  { t with auth := { t.auth with wifiApiToken := copied.1 }, storage := copied.2 }

/-- Copy the network, and put the copies in force. -/
def storeNetwork (order : CopyOrder) (network : WiimoteNetworkCredentials) : ConfigTexts :=
  let copied := t.storage.copyNetwork order network
  { t with networks := (copied.1, copied.1), storage := copied.2 }

/-- Put in force what the configuration points to. -/
def settle : ConfigTexts :=
  { t with
    networks := (t.networks.1, t.networks.1)
    unlockToken := t.storage.read t.auth.serialPrivilegedToken }

/-- Copies the tokens that are given; the fallback is taken over unless neither is. -/
def giveAuth (auth : ESP32WiimoteAuthConfig) : ConfigTexts :=
  let kHasSerialToken := t.storage.hasText auth.serialPrivilegedToken
  let kHasWifiApiToken := t.storage.hasText auth.wifiApiToken
  let t := if kHasSerialToken then t.storeSerialToken auth.serialPrivilegedToken else t
  let t := if kHasWifiApiToken then t.storeWifiToken auth.wifiApiToken else t
  if kHasSerialToken || kHasWifiApiToken || !auth.wifiTokenFallbackToSerial then
    { t with
      auth := { t.auth with wifiTokenFallbackToSerial := auth.wifiTokenFallbackToSerial } }
  else t

/-- The network of a configuration, where it comes with both texts. -/
def giveNetwork (order : CopyOrder) (network : WiimoteNetworkCredentials) (given : Bool) :
    ConfigTexts :=
  if given then t.storeNetwork order network else t

/-- Which texts are given is decided before anything is copied. -/
def configure (order : CopyOrder) (config : ESP32WiimoteConfig) : ConfigTexts :=
  ((t.giveAuth config.auth).giveNetwork order config.wifi.network
    (ESP32Wiimote.hasNetwork t.storage config.wifi.network)).settle

/-- What a call does to the texts. -/
def take (order : CopyOrder) : TextCall → ConfigTexts
  | .configure config => t.configure order config
  | .updateWifiNetworkCredentials ssid password =>
    if ESP32Wiimote.hasNetwork t.storage ⟨ssid, password⟩ then t.storeNetwork order ⟨ssid, password⟩
    else t
  | .updateWifiApiToken token => if t.storage.hasText token then t.storeWifiToken token else t

end Operations

end ConfigTexts

/-! ## Refinement -/

section Refinement

variable (d : ESP32Wiimote)

/-- Storing a serial token in the device stores it in its texts. -/
theorem texts_storeSerial (token : CharPtr) (given : Bool) :
    (if given then d.storeSerialPrivilegedToken token else d).texts =
      if given then d.texts.storeSerialToken token else d.texts := by
  cases given <;> rfl

/-- So does storing a Wi-Fi token. -/
theorem texts_storeWifi (token : CharPtr) (given : Bool) :
    (if given then d.storeWifiApiToken token else d).texts =
      if given then d.texts.storeWifiToken token else d.texts := by
  cases given <;> rfl

/-- The device takes tokens as its texts do. -/
theorem texts_applyAuthConfig (auth : ESP32WiimoteAuthConfig) :
    (d.applyAuthConfig auth).texts = d.texts.giveAuth auth := by
  have hstorage : d.texts.storage = d.storage := rfl
  simp only [ESP32Wiimote.applyAuthConfig, ConfigTexts.giveAuth, hstorage]
  rw [← texts_storeSerial, ← texts_storeWifi]
  split <;> rfl

/-- It takes a configuration as its texts do. -/
theorem texts_configure (order : CopyOrder) (config : ESP32WiimoteConfig) :
    (d.configure order config).texts = d.texts.configure order config := by
  let given := ESP32Wiimote.hasNetwork d.storage config.wifi.network
  let authorized := d.applyAuthConfig config.auth
  have hauth : authorized.texts = d.texts.giveAuth config.auth := texts_applyAuthConfig d config.auth
  have hwifi : authorized.wifi = d.wifi := d.applyAuthConfig_wifi config.auth
  have hnetworks (network : Option WiimoteNetworkCredentials) (configured : Bool) :
      (authorized.wifi.applyWifiConfig config.wifi network configured).networks =
        (network.getD authorized.wifi.config.network, network.getD authorized.wifi.config.network) :=
    authorized.wifi.networks_handle (.configure config.wifi network configured)
  rw [ConfigTexts.configure, ← hauth]
  change (ESP32Wiimote.deriveTokens (authorized.applyNetworkConfig order config.wifi given)).texts =
    (authorized.texts.giveNetwork order config.wifi.network given).settle
  simp only [ESP32Wiimote.deriveTokens, ESP32Wiimote.applyNetworkConfig, ESP32Wiimote.texts, hnetworks,
    ESP32Wiimote.copyGivenNetwork]
  cases given <;> rfl

/-- It takes every call as its texts do. -/
theorem texts_takeText (order : CopyOrder) (c : TextCall) :
    (d.takeText order c).texts = d.texts.take order c := by
  cases c with
  | configure config => exact texts_configure d order config
  | updateWifiNetworkCredentials ssid password =>
    simp only [ESP32Wiimote.takeText, ESP32Wiimote.updateWifiNetworkCredentials, ConfigTexts.take]
    change _ = if ESP32Wiimote.hasNetwork d.storage ⟨ssid, password⟩ then _ else _
    cases ESP32Wiimote.hasNetwork d.storage ⟨ssid, password⟩ with
    | false => rfl
    | true =>
      have hnetworks (network : WiimoteNetworkCredentials) :
          (d.wifi.setNetworkCredentials network).networks = (network, network) :=
        d.wifi.networks_handle (.network network)
      simp only [Bool.not_true, Bool.false_eq_true, if_false, if_true, ESP32Wiimote.texts, hnetworks]
      rfl
  | updateWifiApiToken token =>
    simp only [ESP32Wiimote.takeText, ESP32Wiimote.updateWifiApiToken, ConfigTexts.take]
    change _ = if d.storage.hasText token then _ else _
    cases d.storage.hasText token <;> rfl

end Refinement

end Esp32Wiimote.Device
