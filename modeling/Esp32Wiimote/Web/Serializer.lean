import Esp32Wiimote.Library.CText

/-!
# The web response serializer

Each serializer formats one answer into a buffer and says whether it is complete.
-/

namespace Esp32Wiimote.Web

open CText

/-- The results of a serializer. -/
inductive WebSerializeResult
  | Ok
  | BufferTooSmall
  deriving DecidableEq, Repr

/-- The input of the controller. -/
structure WebWiimoteInputSnapshot where
  buttonMask : UInt32
  accelX : UInt8
  accelY : UInt8
  accelZ : UInt8
  nunchukX : UInt8
  nunchukY : UInt8
  deriving DecidableEq, Repr

/-- The status of the controller. -/
structure WebWiimoteStatusSnapshot where
  connected : Bool
  batteryLevel : UInt8
  deriving DecidableEq, Repr

/-- The state of the Bluetooth controller. -/
structure WebControllerStatusSnapshot where
  initialized : Bool
  started : Bool
  scanning : Bool
  connected : Bool
  activeConnectionHandle : UInt16
  fastReconnectActive : Bool
  autoReconnectEnabled : Bool
  deriving DecidableEq, Repr

/-- The configuration. -/
structure WebConfigSnapshot where
  nunchukStickThreshold : ℤ
  txQueueSize : ℤ
  rxQueueSize : ℤ
  fastReconnectTtlMs : UInt32
  deriving DecidableEq, Repr

/-- The state of the Wi-Fi control. -/
structure WebWifiControlStateSnapshot where
  enabled : Bool
  ready : Bool
  networkCredentialsConfigured : Bool
  networkConnectAttempted : Bool
  networkConnected : Bool
  networkConnectFailed : Bool
  restAndWebSocket : Bool
  serverStarted : Bool
  serverBindFailed : Bool
  hasToken : Bool
  deriving DecidableEq, Repr

/-- `%d` of an `int`. -/
def decimalInt (n : ℤ) : CString := if n < 0 then ascii "-" ++ decimal n.natAbs else decimal n.natAbs

/-- The words for the booleans. -/
def boolStr (v : Bool) : CString := if v then ascii "true" else ascii "false"

/-- Format a text into a buffer that may be null: what the buffer holds afterwards, `none`
where it is not written. -/
def serialize (size : ℕ) (text : CString) : WebSerializeResult × Option CString :=
  if size = 0 then (.BufferTooSmall, none)
  else
    let written := snprintf size text
    (if 0 < written.1 ∧ written.1 < size then .Ok else .BufferTooSmall, some written.2)

/-- A text that fits is complete. -/
theorem serialize_of_lt {size : ℕ} {text : CString} (htext : text ≠ []) (hroom : text.length < size) :
    serialize size text = (.Ok, some text) := by
  have hpos := List.length_pos_iff.mpr htext
  have hfits : 0 < (snprintf size text).1 ∧ (snprintf size text).1 < size :=
    ⟨Int.ofNat_lt.mpr hpos, Int.ofNat_lt.mpr hroom⟩
  rw [serialize, if_neg (by omega)]
  dsimp only
  rw [if_pos hfits, snprintf, List.take_of_length_le (by omega)]

/-- A text that does not fit is reported. -/
theorem serialize_of_le {size : ℕ} {text : CString} (hshort : size ≤ text.length) :
    (serialize size text).1 = .BufferTooSmall := by
  have hfits : ¬(0 < (snprintf size text).1 ∧ (snprintf size text).1 < size) := fun h =>
    absurd (Int.ofNat_lt.mp h.2) (not_lt.mpr hshort)
  rw [serialize]
  split
  · rfl
  · exact if_neg hfits

/-- The body of a success. -/
def serializeOk (size : ℕ) : WebSerializeResult × Option CString :=
  serialize size (ascii "\x7b\"status\":\"ok\"\x7d")

/-- The body of an error. -/
def serializeError (size : ℕ) (message : CString) : WebSerializeResult × Option CString :=
  serialize size (ascii "\x7b\"status\":\"error\",\"message\":\"" ++ message ++ ascii "\"\x7d")

/-- The body of an input event. -/
def serializeWiimoteInput (size : ℕ) (input : WebWiimoteInputSnapshot) :
    WebSerializeResult × Option CString :=
  serialize size
    (ascii "\x7b\"buttons\":\"" ++ hexPadded 8 input.buttonMask.toNat
      ++ ascii "\",\"accelX\":" ++ decimal input.accelX.toNat
      ++ ascii ",\"accelY\":" ++ decimal input.accelY.toNat
      ++ ascii ",\"accelZ\":" ++ decimal input.accelZ.toNat
      ++ ascii ",\"nunchukX\":" ++ decimal input.nunchukX.toNat
      ++ ascii ",\"nunchukY\":" ++ decimal input.nunchukY.toNat ++ ascii "\x7d")

/-- The body of the status. -/
def serializeWiimoteStatus (size : ℕ) (st : WebWiimoteStatusSnapshot) :
    WebSerializeResult × Option CString :=
  serialize size
    (ascii "\x7b\"connected\":" ++ boolStr st.connected ++ ascii ",\"batteryLevel\":"
      ++ decimal st.batteryLevel.toNat ++ ascii "\x7d")

/-- The body of the configuration. -/
def serializeConfig (size : ℕ) (cfg : WebConfigSnapshot) : WebSerializeResult × Option CString :=
  serialize size
    (ascii "\x7b\"nunchukStickThreshold\":" ++ decimalInt cfg.nunchukStickThreshold
      ++ ascii ",\"txQueueSize\":" ++ decimalInt cfg.txQueueSize
      ++ ascii ",\"rxQueueSize\":" ++ decimalInt cfg.rxQueueSize
      ++ ascii ",\"fastReconnectTtlMs\":" ++ decimal cfg.fastReconnectTtlMs.toNat ++ ascii "\x7d")

/-- The body of the Wi-Fi state. -/
def serializeWifiControlState (size : ℕ) (state : WebWifiControlStateSnapshot) :
    WebSerializeResult × Option CString :=
  serialize size
    (ascii "\x7b\"enabled\":" ++ boolStr state.enabled ++ ascii ",\"ready\":" ++ boolStr state.ready
      ++ ascii ",\"networkCredentialsConfigured\":" ++ boolStr state.networkCredentialsConfigured
      ++ ascii ",\"networkConnectAttempted\":" ++ boolStr state.networkConnectAttempted
      ++ ascii ",\"networkConnected\":" ++ boolStr state.networkConnected
      ++ ascii ",\"networkConnectFailed\":" ++ boolStr state.networkConnectFailed
      ++ ascii ",\"serverStarted\":" ++ boolStr state.serverStarted
      ++ ascii ",\"serverBindFailed\":" ++ boolStr state.serverBindFailed
      ++ ascii ",\"deliveryMode\":\""
      ++ (if state.restAndWebSocket then ascii "rest-ws" else ascii "rest")
      ++ ascii "\",\"hasToken\":" ++ boolStr state.hasToken ++ ascii "\x7d")

end Esp32Wiimote.Web
