import Esp32Wiimote.Device.WifiLifecycle
import Esp32Wiimote.Serial.Session

/-!
# The device object

The fields of `ESP32Wiimote`, its construction, and the calls that configure it. The tokens
in force are derived from the configuration, and are kept as pointers beside it.
-/

namespace Esp32Wiimote.Device

open CText Serial

/-- `wifi` holds the Wi-Fi fields with `config_.wifi`, and `auth` is `config_.auth`; the line is
`serialInputLine_` up to `serialInputLen_`. -/
structure ESP32Wiimote where
  nunchukStickThreshold : ℤ
  txQueueSize : ℤ
  rxQueueSize : ℤ
  fastReconnectTtlMs : UInt32
  auth : ESP32WiimoteAuthConfig
  wifi : WifiControl
  serialPrivilegedToken : CharPtr := .null
  wifiApiToken : CharPtr := .null
  wifiTokenFallbackToSerial : Bool := false
  storage : ConfigStorage := .zeroed
  runtimeConfigStoreReady : Bool := false
  runtimeConfigSnapshot : RuntimeConfigSnapshot
  serialControlEnabled : Bool := false
  serialPrivilegedCommandsRequireUnlock : Bool := true
  serialCommandSession : SerialCommandSession := .initial
  serialInputLine : List UInt8 := []
  serialInputOverflow : Bool := false

namespace ESP32Wiimote

/-- The configuration as `getConfig()` puts it together. -/
def getConfig (d : ESP32Wiimote) : ESP32WiimoteConfig where
  nunchukStickThreshold := d.nunchukStickThreshold
  txQueueSize := d.txQueueSize
  rxQueueSize := d.rxQueueSize
  fastReconnectTtlMs := d.fastReconnectTtlMs
  auth := d.auth
  wifi := d.wifi.config

/-- Whether the Wi-Fi token has a text. -/
def hasWifiApiToken (d : ESP32Wiimote) : Bool := d.storage.hasText d.wifiApiToken

/-! ## Applying a configuration -/

/-- Copy a token, and point `config_.auth` to the copy. -/
def storeSerialPrivilegedToken (token : CharPtr) (d : ESP32Wiimote) : ESP32Wiimote :=
  let copied := d.storage.copyOwnedString .serialPrivilegedToken token
  { d with auth := { d.auth with serialPrivilegedToken := copied.1 }, storage := copied.2 }

/-- Copies the token into its buffer and points to the copy. -/
def storeWifiApiToken (token : CharPtr) (d : ESP32Wiimote) : ESP32Wiimote :=
  let copied := d.storage.copyOwnedString .wifiApiToken token
  { d with auth := { d.auth with wifiApiToken := copied.1 }, storage := copied.2 }

/-- Whether both texts of a network are there. -/
def hasNetwork (storage : ConfigStorage) (network : WiimoteNetworkCredentials) : Bool :=
  storage.hasText network.ssid && storage.hasText network.password

/-- The part of `applyRuntimeConfig` that concerns the tokens. -/
def applyAuthConfig (auth : ESP32WiimoteAuthConfig) (d : ESP32Wiimote) : ESP32Wiimote :=
  let kHasSerialToken := d.storage.hasText auth.serialPrivilegedToken
  let kHasWifiApiToken := d.storage.hasText auth.wifiApiToken
  let d := if kHasSerialToken then d.storeSerialPrivilegedToken auth.serialPrivilegedToken else d
  let d := if kHasWifiApiToken then d.storeWifiApiToken auth.wifiApiToken else d
  if kHasSerialToken || kHasWifiApiToken || !auth.wifiTokenFallbackToSerial then
    { d with
      auth := { d.auth with wifiTokenFallbackToSerial := auth.wifiTokenFallbackToSerial } }
  else d

/-- The copied network texts, where the configuration came with both of them. -/
def copyGivenNetwork (order : CopyOrder) (network : WiimoteNetworkCredentials) (given : Bool)
    (d : ESP32Wiimote) : Option WiimoteNetworkCredentials × ConfigStorage :=
  if given then
    let copied := d.storage.copyNetwork order network
    (some copied.1, copied.2)
  else (none, d.storage)

/-- The part that concerns Wi-Fi. -/
def applyNetworkConfig (order : CopyOrder) (wifi : ESP32WiimoteWifiConfig) (given : Bool)
    (d : ESP32Wiimote) : ESP32Wiimote :=
  let copied := d.copyGivenNetwork order wifi.network given
  let inForce := copied.1.getD d.wifi.config.network
  { d with
    storage := copied.2
    wifi := d.wifi.applyWifiConfig wifi copied.1 (hasNetwork copied.2 inForce) }

/-- Derive the tokens in force from the configuration. -/
def deriveTokens (d : ESP32Wiimote) : ESP32Wiimote :=
  let fallback := d.auth.wifiTokenFallbackToSerial && !d.storage.hasText d.auth.wifiApiToken
  { d with
    serialPrivilegedToken := d.auth.serialPrivilegedToken
    wifiApiToken := if fallback then d.auth.serialPrivilegedToken else d.auth.wifiApiToken
    wifiTokenFallbackToSerial := fallback
    serialCommandSession :=
      d.serialCommandSession.setToken (d.storage.read d.auth.serialPrivilegedToken) }

/-- Whether the network texts are given is decided before anything is copied. The lifecycle does
not look at the tokens, so they are derived last. -/
def applyRuntimeConfig (order : CopyOrder) (config : ESP32WiimoteConfig) (d : ESP32Wiimote) :
    ESP32Wiimote :=
  let kHasWifiNetwork := hasNetwork d.storage config.wifi.network
  ((d.applyAuthConfig config.auth).applyNetworkConfig order config.wifi kHasWifiNetwork).deriveTokens

/-- The snapshot of a device just constructed. -/
def initialSnapshot (fastReconnectTtlMs : UInt32) : RuntimeConfigSnapshot where
  autoReconnectEnabled := false
  fastReconnectTtlMs := fastReconnectTtlMs
  ledMask := 0
  reportingMode := 0x30
  reportingContinuous := false

/-- The device as the constructor's initialisers leave it: the configuration is stored as it is. -/
def unconfigured (config : ESP32WiimoteConfig) : ESP32Wiimote where
  nunchukStickThreshold := config.nunchukStickThreshold
  txQueueSize := config.txQueueSize
  rxQueueSize := config.rxQueueSize
  fastReconnectTtlMs := config.fastReconnectTtlMs
  auth := config.auth
  wifi := { config := config.wifi }
  runtimeConfigSnapshot := initialSnapshot config.fastReconnectTtlMs

/-- The constructor. There is no text in the device yet, so the order of the copies does not show. -/
def construct (config : ESP32WiimoteConfig) (order : CopyOrder := .ssidFirst) : ESP32Wiimote :=
  applyRuntimeConfig order config (unconfigured config)

/-- `configure`. -/
def configure (order : CopyOrder) (config : ESP32WiimoteConfig) (d : ESP32Wiimote) : ESP32Wiimote :=
  d.applyRuntimeConfig order config

/-! ## Configuring calls -/

/-- The Wi-Fi control carries it out. -/
def enableWifiControl (enabled : Bool) (deliveryMode : WifiDeliveryMode) (d : ESP32Wiimote) :
    ESP32Wiimote :=
  { d with wifi := d.wifi.enableWifiControl enabled deliveryMode }

/-- Copy the network and put the copies in force, where there is a text for both. -/
def updateWifiNetworkCredentials (order : CopyOrder) (ssid password : CharPtr) (d : ESP32Wiimote) :
    Bool × ESP32Wiimote :=
  if !hasNetwork d.storage ⟨ssid, password⟩ then (false, d)
  else
    let copied := d.storage.copyNetwork order ⟨ssid, password⟩
    (true, { d with storage := copied.2, wifi := d.wifi.setNetworkCredentials copied.1 })

/-- The answer is whether a restart is allowed. -/
def restartWifiControl (d : ESP32Wiimote) : Bool × ESP32Wiimote :=
  (d.wifi.canRestart, { d with wifi := d.wifi.restartWifiControl })

/-- A token without text is refused; any other ends the fallback. -/
def updateWifiApiToken (token : CharPtr) (d : ESP32Wiimote) : Bool × ESP32Wiimote :=
  if !d.storage.hasText token then (false, d)
  else
    let d := d.storeWifiApiToken token
    (true, { d with wifiApiToken := d.auth.wifiApiToken, wifiTokenFallbackToSerial := false })

/-- Always accepted. -/
def setWifiDeliveryMode (deliveryMode : WifiDeliveryMode) (d : ESP32Wiimote) :
    Bool × ESP32Wiimote :=
  (true, { d with wifi := d.wifi.setWifiDeliveryMode deliveryMode })

/-- Switching serial control off locks the session and drops the line read so far. -/
def enableSerialControl (enabled : Bool) (d : ESP32Wiimote) : ESP32Wiimote :=
  if enabled then { d with serialControlEnabled := true }
  else
    { d with
      serialControlEnabled := false
      serialCommandSession := d.serialCommandSession.lock
      serialInputLine := []
      serialInputOverflow := false }

/-- A device just constructed is the same whichever text of the network was copied first. -/
theorem construct_order (config : ESP32WiimoteConfig) (order : CopyOrder) :
    construct config order = construct config := by
  have hcopied (d : ESP32Wiimote) :
      d.copyGivenNetwork order config.wifi.network (hasNetwork .zeroed config.wifi.network) =
        d.copyGivenNetwork .ssidFirst config.wifi.network
          (hasNetwork .zeroed config.wifi.network) := by
    unfold copyGivenNetwork
    split
    · rename_i hgiven
      obtain ⟨hssid, hpassword⟩ := Bool.and_eq_true_iff.mp hgiven
      rw [ConfigStorage.copyNetwork_of_outside (isOutside_of_hasText_zeroed hssid)
        (isOutside_of_hasText_zeroed hpassword)]
    · rfl
  have happlied (d : ESP32Wiimote) :
      d.applyNetworkConfig order config.wifi (hasNetwork .zeroed config.wifi.network) =
        d.applyNetworkConfig .ssidFirst config.wifi (hasNetwork .zeroed config.wifi.network) := by
    unfold applyNetworkConfig
    rw [hcopied]
  exact congrArg deriveTokens (happlied _)

/-! ## Configuring as a request -/

/-- What applying a configuration asks of the Wi-Fi lifecycle. -/
def configureRequest (order : CopyOrder) (config : ESP32WiimoteConfig) (d : ESP32Wiimote) :
    WifiControl.Request :=
  let copied := (d.applyAuthConfig config.auth).copyGivenNetwork order config.wifi.network
    (hasNetwork d.storage config.wifi.network)
  .configure config.wifi copied.1
    (hasNetwork copied.2 (copied.1.getD d.wifi.config.network))

/-- Applying tokens leaves the Wi-Fi control alone. -/
theorem applyAuthConfig_wifi (auth : ESP32WiimoteAuthConfig) (d : ESP32Wiimote) :
    (d.applyAuthConfig auth).wifi = d.wifi := by
  unfold applyAuthConfig
  dsimp only
  split_ifs <;> rfl

/-- To apply a configuration is a request to the Wi-Fi control. -/
theorem applyRuntimeConfig_wifi (order : CopyOrder) (config : ESP32WiimoteConfig)
    (d : ESP32Wiimote) :
    (d.applyRuntimeConfig order config).wifi = d.wifi.handle (d.configureRequest order config) := by
  unfold applyRuntimeConfig deriveTokens applyNetworkConfig configureRequest
  dsimp only
  rw [applyAuthConfig_wifi]
  rfl

end ESP32Wiimote

end Esp32Wiimote.Device
