import Esp32Wiimote.Device.ConfigSteps
import Esp32Wiimote.Device.TokenLaw

/-!
# Configuring with the own configuration

`configure` preserves what a configuration omits, so configuring a device with its own
configuration could be expected to change nothing. In a device that was constructed and run a
text of the configuration is in the buffer of the device or there is none, and a buffer copied
onto itself is lost: nothing changes exactly when there is no text to lose.
-/

namespace Esp32Wiimote.Device

open CText Serial TransitionRun Web

/-! ## Where the texts are -/

/-- The pointer leads to the buffer of the device for its text, or to no text. -/
def CharPtr.Owned (own : ConfigBuffer) (p : CharPtr) : Prop :=
  p = .buffer own ∨ p.IsOutside ∧ ConfigStorage.zeroed.hasText p = false

/-- The pointers lead to the buffers of the device, or outside and not to two texts. -/
def WiimoteNetworkCredentials.Owned (network : WiimoteNetworkCredentials) : Prop :=
  network.ssid.Owned .wifiSsid ∧ network.password.Owned .wifiPassword ∨
    (network.ssid.IsOutside ∧ network.password.IsOutside) ∧
      ESP32Wiimote.hasNetwork .zeroed network = false

/-- An owned pointer with a text leads to its buffer. -/
theorem CharPtr.Owned.eq_buffer {own : ConfigBuffer} {p : CharPtr} (h : p.Owned own)
    {storage : ConfigStorage} (htext : storage.hasText p = true) : p = .buffer own := by
  rcases h with howned | ⟨houtside, hnone⟩
  · exact howned
  · rw [houtside.hasText storage .zeroed, hnone] at htext
    exact absurd htext Bool.false_ne_true

/-- An owned pointer does not lead to another buffer. -/
theorem CharPtr.Owned.ne_buffer {own b : ConfigBuffer} {p : CharPtr} (h : p.Owned own)
    (hb : own ≠ b) : p ≠ .buffer b :=
  ne_buffer_of_pointer (h.symm.imp And.left id) hb

/-- A copy answers an owned pointer. -/
theorem owned_copyOwnedString (storage : ConfigStorage) (dst : ConfigBuffer) (src : CharPtr) :
    (storage.copyOwnedString dst src).1.Owned dst := by
  rcases storage.copyOwnedString_fst dst src with hnull | hbuffer
  · rw [hnull]
    exact .inr ⟨fun b => CharPtr.noConfusion, rfl⟩
  · exact .inl hbuffer

/-- So does the copy of a network, for both of its texts. -/
theorem owned_copyNetwork (storage : ConfigStorage) (order : CopyOrder)
    (network : WiimoteNetworkCredentials) :
    (storage.copyNetwork order network).1.ssid.Owned .wifiSsid ∧
      (storage.copyNetwork order network).1.password.Owned .wifiPassword := by
  cases order <;> exact ⟨owned_copyOwnedString .., owned_copyOwnedString ..⟩

/-- An owned network that is complete leads to the two buffers. -/
theorem WiimoteNetworkCredentials.Owned.eq_buffers {network : WiimoteNetworkCredentials}
    (h : network.Owned) {storage : ConfigStorage}
    (htext : ESP32Wiimote.hasNetwork storage network = true) :
    network = ⟨.buffer .wifiSsid, .buffer .wifiPassword⟩ := by
  obtain ⟨hssid, hpassword⟩ := Bool.and_eq_true_iff.mp htext
  rcases h with ⟨hs, hp⟩ | ⟨⟨hs, hp⟩, hnone⟩
  · exact congrArg₂ WiimoteNetworkCredentials.mk (hs.eq_buffer hssid) (hp.eq_buffer hpassword)
  · rw [ESP32Wiimote.hasNetwork, hs.hasText .zeroed storage, hp.hasText .zeroed storage, hssid,
      hpassword] at hnone
    exact absurd hnone Bool.false_ne_true.symm

namespace ConfigTexts

/-- Every text of the configuration is in the device, and the serial token is in force. -/
structure Settled (t : ConfigTexts) : Prop where
  serial : t.auth.serialPrivilegedToken.Owned .serialPrivilegedToken
  wifi : t.auth.wifiApiToken.Owned .wifiApiToken
  network : t.networks.1.Owned
  networks : t.networks.2 = t.networks.1
  unlock : t.unlockToken = t.storage.read t.auth.serialPrivilegedToken

variable {t : ConfigTexts}

/-- Storing a network changes the text of its two buffers only. -/
theorem read_storeNetwork (t : ConfigTexts) (order : CopyOrder) (network : WiimoteNetworkCredentials)
    {p : CharPtr} (hssid : p ≠ .buffer .wifiSsid) (hpassword : p ≠ .buffer .wifiPassword) :
    (t.storeNetwork order network).storage.read p = t.storage.read p :=
  t.storage.read_copyNetwork order network hssid hpassword

/-- Storing a Wi-Fi token leaves the texts settled. -/
theorem Settled.storeWifiToken (h : t.Settled) (token : CharPtr) : (t.storeWifiToken token).Settled where
  serial := h.serial
  wifi := owned_copyOwnedString ..
  network := h.network
  networks := h.networks
  unlock := h.unlock.trans
    (t.storage.read_copyOwnedString_of_ne .wifiApiToken token (h.serial.ne_buffer (by decide))).symm

/-- So does storing a network. -/
theorem Settled.storeNetwork (h : t.Settled) (order : CopyOrder)
    (network : WiimoteNetworkCredentials) : (t.storeNetwork order network).Settled where
  serial := h.serial
  wifi := h.wifi
  network := .inl (owned_copyNetwork ..)
  networks := rfl
  unlock := h.unlock.trans
    (t.read_storeNetwork order network (h.serial.ne_buffer (by decide))
      (h.serial.ne_buffer (by decide))).symm

/-! ## Applying a configuration -/

/-- A given serial token is copied, a missing one leaves the old. -/
theorem giveAuth_serialPrivilegedToken (t : ConfigTexts) (auth : ESP32WiimoteAuthConfig) :
    (t.giveAuth auth).auth.serialPrivilegedToken =
      if t.storage.hasText auth.serialPrivilegedToken then
        (t.storage.copyOwnedString .serialPrivilegedToken auth.serialPrivilegedToken).1
      else t.auth.serialPrivilegedToken := by
  simp only [giveAuth]
  cases t.storage.hasText auth.serialPrivilegedToken <;>
    cases t.storage.hasText auth.wifiApiToken <;> cases auth.wifiTokenFallbackToSerial <;> rfl

/-- The storage when the Wi-Fi token of a configuration is copied. -/
def serialStored (t : ConfigTexts) (auth : ESP32WiimoteAuthConfig) : ConfigStorage :=
  if t.storage.hasText auth.serialPrivilegedToken then
    (t.storage.copyOwnedString .serialPrivilegedToken auth.serialPrivilegedToken).2
  else t.storage

/-- So it is with the Wi-Fi token, behind the copy of the serial one. -/
theorem giveAuth_wifiApiToken (t : ConfigTexts) (auth : ESP32WiimoteAuthConfig) :
    (t.giveAuth auth).auth.wifiApiToken =
      if t.storage.hasText auth.wifiApiToken then
        ((t.serialStored auth).copyOwnedString .wifiApiToken auth.wifiApiToken).1
      else t.auth.wifiApiToken := by
  simp only [giveAuth, serialStored]
  cases t.storage.hasText auth.serialPrivilegedToken <;>
    cases t.storage.hasText auth.wifiApiToken <;> cases auth.wifiTokenFallbackToSerial <;> rfl

/-- Tokens leave the networks alone. -/
@[simp] theorem giveAuth_networks (t : ConfigTexts) (auth : ESP32WiimoteAuthConfig) :
    (t.giveAuth auth).networks = t.networks := by
  simp only [giveAuth]
  cases t.storage.hasText auth.serialPrivilegedToken <;>
    cases t.storage.hasText auth.wifiApiToken <;> cases auth.wifiTokenFallbackToSerial <;> rfl

/-- A network leaves the tokens alone. -/
@[simp] theorem giveNetwork_auth (t : ConfigTexts) (order : CopyOrder)
    (network : WiimoteNetworkCredentials) (given : Bool) :
    (t.giveNetwork order network given).auth = t.auth := by
  cases given <;> rfl

/-- A configuration takes what it comes with from the caller, and leaves the rest. -/
theorem configure_settled (order : CopyOrder) {config : ESP32WiimoteConfig}
    (hserial : t.storage.hasText config.auth.serialPrivilegedToken = true ∨
      t.auth.serialPrivilegedToken.Owned .serialPrivilegedToken)
    (hwifi : t.storage.hasText config.auth.wifiApiToken = true ∨
      t.auth.wifiApiToken.Owned .wifiApiToken)
    (hnetwork : ESP32Wiimote.hasNetwork t.storage config.wifi.network = true ∨ t.networks.1.Owned) :
    (t.configure order config).Settled where
  serial := by
    change (ConfigTexts.giveNetwork _ _ _ _).auth.serialPrivilegedToken.Owned _
    rw [giveNetwork_auth, giveAuth_serialPrivilegedToken]
    split
    · exact owned_copyOwnedString ..
    · rename_i hnone
      exact hserial.resolve_left hnone
  wifi := by
    change (ConfigTexts.giveNetwork _ _ _ _).auth.wifiApiToken.Owned _
    rw [giveNetwork_auth, giveAuth_wifiApiToken]
    split
    · exact owned_copyOwnedString ..
    · rename_i hnone
      exact hwifi.resolve_left hnone
  network := by
    change (ConfigTexts.giveNetwork _ _ _ _).networks.1.Owned
    simp only [giveNetwork]
    split
    · exact .inl (owned_copyNetwork ..)
    · rename_i hnone
      rw [giveAuth_networks]
      exact hnetwork.resolve_left hnone
  networks := rfl
  unlock := rfl

/-- Every call that gives texts leaves them settled. -/
theorem Settled.take (h : t.Settled) (order : CopyOrder) (c : TextCall) :
    (t.take order c).Settled := by
  cases c with
  | configure config => exact configure_settled order (.inr h.serial) (.inr h.wifi) (.inr h.network)
  | updateWifiNetworkCredentials ssid password =>
    simp only [ConfigTexts.take]
    split
    · exact h.storeNetwork order _
    · exact h
  | updateWifiApiToken token =>
    simp only [ConfigTexts.take]
    split
    · exact h.storeWifiToken token
    · exact h

end ConfigTexts

/-! ## After a run -/

/-- The pointers of a configuration lead to memory of the caller. -/
structure ESP32WiimoteConfig.IsOutside (config : ESP32WiimoteConfig) : Prop where
  serial : config.auth.serialPrivilegedToken.IsOutside
  wifi : config.auth.wifiApiToken.IsOutside
  ssid : config.wifi.network.ssid.IsOutside
  password : config.wifi.network.password.IsOutside

/-- A construction from texts outside settles them. -/
theorem settled_construct {config : ESP32WiimoteConfig} (h : config.IsOutside) :
    (ESP32Wiimote.construct config).texts.Settled := by
  have htexts := texts_configure (.unconfigured config) .ssidFirst config
  rw [ESP32Wiimote.construct]
  change (ESP32Wiimote.configure .ssidFirst config (.unconfigured config)).texts.Settled
  rw [htexts]
  -- what the configuration does not give stays with the caller
  apply ConfigTexts.configure_settled
  · by_cases hgiven : ConfigStorage.zeroed.hasText config.auth.serialPrivilegedToken = true
    · exact .inl hgiven
    · exact .inr (.inr ⟨h.serial, Bool.eq_false_iff.mpr hgiven⟩)
  · by_cases hgiven : ConfigStorage.zeroed.hasText config.auth.wifiApiToken = true
    · exact .inl hgiven
    · exact .inr (.inr ⟨h.wifi, Bool.eq_false_iff.mpr hgiven⟩)
  · by_cases hgiven : ESP32Wiimote.hasNetwork .zeroed config.wifi.network = true
    · exact .inl hgiven
    · exact .inr (.inr ⟨⟨h.ssid, h.password⟩, Bool.eq_false_iff.mpr hgiven⟩)

/-- They are settled after every run. -/
theorem settled_run {config : ESP32WiimoteConfig} (h : config.IsOutside) (events : List Esp32Event) :
    (runFrom Esp32World.step (.construct config) events).device.texts.Settled := by
  apply invariant_of_step (I := fun w : Esp32World => w.device.texts.Settled) ?_
    (settled_construct h)
  intro w e hsettled
  rw [step_texts]
  cases w.textCall e with
  | none => exact hsettled
  | some c => exact hsettled.take _ c

/-! ## Configuring -/

/-- What can be read through the configuration. -/
structure ConfigReadings where
  serialPrivilegedToken : Option CString
  wifiApiToken : Option CString
  ssid : Option CString
  password : Option CString
  deriving DecidableEq

namespace ESP32Wiimote

/-- What is read at the four pointers of the configuration. -/
def readings (d : ESP32Wiimote) : ConfigReadings where
  serialPrivilegedToken := d.storage.read d.getConfig.auth.serialPrivilegedToken
  wifiApiToken := d.storage.read d.getConfig.auth.wifiApiToken
  ssid := d.storage.read d.getConfig.wifi.network.ssid
  password := d.storage.read d.getConfig.wifi.network.password

/-- The tokens of the configuration stored as the configuration itself gives them. The fallback
setting is assigned to itself. -/
def storeOwnTokens (d : ESP32Wiimote) : ESP32Wiimote :=
  let kHasSerialToken := d.storage.hasText d.auth.serialPrivilegedToken
  let kHasWifiApiToken := d.storage.hasText d.auth.wifiApiToken
  let d := if kHasSerialToken then d.storeSerialPrivilegedToken d.auth.serialPrivilegedToken else d
  if kHasWifiApiToken then d.storeWifiApiToken d.auth.wifiApiToken else d

/-- `configure` with the configuration of the device, which is passed by reference: a field is read
where it stands when it is needed. -/
def configureOwn (order : CopyOrder) (d : ESP32Wiimote) : ESP32Wiimote :=
  let kHasWifiNetwork := hasNetwork d.storage d.wifi.config.network
  let d := d.storeOwnTokens
  (d.applyNetworkConfig order d.wifi.config kHasWifiNetwork).deriveTokens

/-- The configuration has texts to lose: a token, or a network. -/
def holdsText (d : ESP32Wiimote) : Bool :=
  d.storage.hasText d.getConfig.auth.serialPrivilegedToken ||
    d.storage.hasText d.getConfig.auth.wifiApiToken || hasNetwork d.storage d.getConfig.wifi.network

/-- To store the own tokens is to apply the own authentication. -/
theorem storeOwnTokens_eq (d : ESP32Wiimote) : d.storeOwnTokens = d.applyAuthConfig d.auth := by
  have hwifi : (if d.storage.hasText d.auth.serialPrivilegedToken then
      d.storeSerialPrivilegedToken d.auth.serialPrivilegedToken else d).auth.wifiApiToken =
        d.auth.wifiApiToken := by
    split <;> rfl
  have hfallback : d.storeOwnTokens.auth.wifiTokenFallbackToSerial =
      d.auth.wifiTokenFallbackToSerial := by
    simp only [storeOwnTokens]
    split <;> split <;> rfl
  have hassigned : { d.storeOwnTokens with
      auth := { d.storeOwnTokens.auth with
        wifiTokenFallbackToSerial := d.auth.wifiTokenFallbackToSerial } } = d.storeOwnTokens := by
    rw [← hfallback]
  simp only [storeOwnTokens, hwifi] at hassigned
  simp only [storeOwnTokens, applyAuthConfig, hwifi, hassigned, ite_self]

/-- Every field is read before it is written, so a copy of the configuration does the same. -/
theorem configureOwn_eq (order : CopyOrder) (d : ESP32Wiimote) :
    d.configureOwn order = d.configure order d.getConfig := by
  have hwifi := d.applyAuthConfig_wifi d.auth
  rw [← storeOwnTokens_eq] at hwifi
  change (d.storeOwnTokens.applyNetworkConfig order d.storeOwnTokens.wifi.config _).deriveTokens =
    ((d.applyAuthConfig d.auth).applyNetworkConfig order d.wifi.config _).deriveTokens
  rw [hwifi, storeOwnTokens_eq]
  rfl

end ESP32Wiimote

/-- The texts that can be read, and what is accepted as serial and as HTTP token. -/
structure SameCredentials (d d' : ESP32Wiimote) : Prop where
  readings : d'.readings = d.readings
  serialUnlock : ∀ token,
    d'.serialCommandSession.validateToken token = d.serialCommandSession.validateToken token
  httpBearer : ∀ authHeaderValue,
    webAuthValidate authHeaderValue d'.heldToken = webAuthValidate authHeaderValue d.heldToken

/-- Configuring with the own configuration, or with a copy of it, keeps the credentials. -/
def ConfiguringKeeps (order : CopyOrder) (d : ESP32Wiimote) : Prop :=
  SameCredentials d (d.configureOwn order) ∧ SameCredentials d (d.configure order d.getConfig)

/-! ## What is lost -/

namespace ConfigTexts

/-- What is read at the four pointers of the texts. -/
def readings (t : ConfigTexts) : ConfigReadings where
  serialPrivilegedToken := t.storage.read t.auth.serialPrivilegedToken
  wifiApiToken := t.storage.read t.auth.wifiApiToken
  ssid := t.storage.read t.networks.1.ssid
  password := t.storage.read t.networks.1.password

/-- The texts after configuring with the own configuration. -/
def configureOwn (order : CopyOrder) (t : ConfigTexts) : ConfigTexts :=
  ((t.giveAuth t.auth).giveNetwork order t.networks.1
    (ESP32Wiimote.hasNetwork t.storage t.networks.1)).settle

variable {order : CopyOrder} {t : ConfigTexts}

/-- Without texts nothing is copied, and what is put in force is in force already. -/
theorem Settled.configureOwn_of_not_given (h : t.Settled)
    (hserial : t.storage.hasText t.auth.serialPrivilegedToken = false)
    (hwifi : t.storage.hasText t.auth.wifiApiToken = false)
    (hnetwork : ESP32Wiimote.hasNetwork t.storage t.networks.1 = false) : t.configureOwn order = t := by
  have hauth : t.giveAuth t.auth = t := by
    simp only [giveAuth, hserial, hwifi, Bool.false_eq_true, if_false]
    split <;> rfl
  have hforce : (t.networks.1, t.networks.1) = t.networks := Prod.ext rfl h.networks.symm
  rw [configureOwn, hauth, hnetwork, giveNetwork, if_neg Bool.false_ne_true, settle, hforce, ← h.unlock]

/-- A text that is copied onto itself cannot be read any more. -/
theorem reading_ne_of_lost {storage : ConfigStorage} {p : CharPtr} (htext : storage.hasText p = true)
    (storage' : ConfigStorage) : storage'.read .null ≠ storage.read p := by
  obtain ⟨token, hread, -⟩ := (storage.hasText_iff p).mp htext
  rw [hread]
  exact (Option.some_ne_none token).symm

/-- A serial token is lost when the device is configured with its own configuration. -/
theorem Settled.lost_serial (h : t.Settled)
    (hserial : t.storage.hasText t.auth.serialPrivilegedToken = true) :
    (t.configureOwn order).readings ≠ t.readings := by
  have hnull : (t.configureOwn order).auth.serialPrivilegedToken = .null := by
    change (ConfigTexts.giveNetwork _ _ _ _).auth.serialPrivilegedToken = .null
    rw [giveNetwork_auth, giveAuth_serialPrivilegedToken, if_pos hserial, h.serial.eq_buffer hserial,
      ConfigStorage.copyOwnedString_self]
  intro heq
  apply reading_ne_of_lost hserial (t.configureOwn order).storage
  rw [← hnull]
  exact congrArg ConfigReadings.serialPrivilegedToken heq

/-- So is a Wi-Fi token. -/
theorem Settled.lost_wifi (h : t.Settled) (hwifi : t.storage.hasText t.auth.wifiApiToken = true) :
    (t.configureOwn order).readings ≠ t.readings := by
  have hnull : (t.configureOwn order).auth.wifiApiToken = .null := by
    change (ConfigTexts.giveNetwork _ _ _ _).auth.wifiApiToken = .null
    rw [giveNetwork_auth, giveAuth_wifiApiToken, if_pos hwifi, h.wifi.eq_buffer hwifi,
      ConfigStorage.copyOwnedString_self]
  intro heq
  apply reading_ne_of_lost hwifi (t.configureOwn order).storage
  rw [← hnull]
  exact congrArg ConfigReadings.wifiApiToken heq

/-- So is a network. -/
theorem Settled.lost_network (h : t.Settled)
    (hnetwork : ESP32Wiimote.hasNetwork t.storage t.networks.1 = true) :
    (t.configureOwn order).readings ≠ t.readings := by
  have hnull : (t.configureOwn order).networks.1.ssid = .null := by
    change (ConfigTexts.giveNetwork _ _ _ _).networks.1.ssid = .null
    rw [giveNetwork, hnetwork, if_pos rfl, h.network.eq_buffers hnetwork]
    cases order <;>
      simp only [ConfigTexts.storeNetwork, ConfigStorage.copyNetwork, ConfigStorage.copyOwnedString_self]
  intro heq
  apply reading_ne_of_lost (Bool.and_eq_true_iff.mp hnetwork).1 (t.configureOwn order).storage
  rw [← hnull]
  exact congrArg ConfigReadings.ssid heq

end ConfigTexts

/-- Configuring with the own configuration changes the texts as `configureOwn` says. -/
theorem texts_configure_own (order : CopyOrder) (d : ESP32Wiimote) :
    (d.configure order d.getConfig).texts = d.texts.configureOwn order :=
  texts_configure d order d.getConfig

/-- Devices with the same texts have the same credentials. -/
theorem sameCredentials_of_texts {d d' : ESP32Wiimote} (h : d'.texts = d.texts) :
    SameCredentials d d' where
  readings := (congrArg ConfigTexts.readings h :)
  serialUnlock token := by
    have htoken : d'.serialCommandSession.token = d.serialCommandSession.token :=
      congrArg ConfigTexts.unlockToken h
    simp only [SerialCommandSession.validateToken, htoken]
  httpBearer authHeaderValue := by
    have hheld : d'.heldToken = d.heldToken := (congrArg (·.readings.wifiApiToken) h :)
    rw [hheld]

/-- After any run configuring with the own configuration keeps the credentials exactly when there
are no texts to lose, whichever network text is copied first. The pointers of the construction cannot
lead into a device that does not exist yet. -/
theorem configuringKeeps_iff (config : ESP32WiimoteConfig) (hconfig : config.IsOutside)
    (events : List Esp32Event) (order : CopyOrder) :
    ConfiguringKeeps order (runFrom Esp32World.step (.construct config) events).device ↔
      (runFrom Esp32World.step (.construct config) events).device.holdsText = false := by
  have hsettled := settled_run hconfig events
  generalize (runFrom Esp32World.step (.construct config) events).device = d at hsettled ⊢
  have htexts := texts_configure_own order d
  have hlost (hne : (d.texts.configureOwn order).readings ≠ d.texts.readings) :
      ¬ConfiguringKeeps order d := by
    intro hkeeps
    rw [← htexts] at hne
    exact hne hkeeps.2.readings
  constructor
  · intro hkeeps
    rw [← Bool.not_eq_true, ESP32Wiimote.holdsText, Bool.or_eq_true, Bool.or_eq_true]
    rintro ((hserial | hwifi) | hnetwork)
    · exact hlost (hsettled.lost_serial hserial) hkeeps
    · exact hlost (hsettled.lost_wifi hwifi) hkeeps
    · exact hlost (hsettled.lost_network hnetwork) hkeeps
  · intro hnone
    obtain ⟨htokens, hnetwork⟩ := Bool.or_eq_false_iff.mp hnone
    obtain ⟨hserial, hwifi⟩ := Bool.or_eq_false_iff.mp htokens
    have hsame : SameCredentials d (d.configure order d.getConfig) :=
      sameCredentials_of_texts
        (htexts.trans (hsettled.configureOwn_of_not_given hserial hwifi hnetwork))
    refine ⟨?_, hsame⟩
    rw [ESP32Wiimote.configureOwn_eq]
    exact hsame

/-- A device that was given a network name only keeps it. -/
theorem configuringKeeps_of_ssid :
    ConfiguringKeeps .passwordFirst (runFrom Esp32World.step
      (.construct { wifi := { network := { ssid := .external (ascii "home") } } })
      [⟨.call (.enableWifiControl true .RestOnly), {}⟩, ⟨.task, {}⟩]).device := by
  apply (configuringKeeps_iff _ ⟨?_, ?_, ?_, ?_⟩ _ _).mpr
  · decide +kernel
  all_goals exact fun _ => CharPtr.noConfusion

/-- A device that was given a serial token loses it. -/
theorem not_configuringKeeps :
    ¬ConfiguringKeeps .ssidFirst
        (runFrom Esp32World.step (.construct serialTokenConfig) []).device ∧
      ¬ConfiguringKeeps .passwordFirst
        (runFrom Esp32World.step (.construct serialTokenConfig) []).device := by
  constructor
  · intro hkeeps
    exact absurd hkeeps.2.readings (by decide +kernel)
  · intro hkeeps
    exact absurd hkeeps.2.readings (by decide +kernel)

end Esp32Wiimote.Device
