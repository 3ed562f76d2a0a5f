import Esp32Wiimote.Serial.Dispatcher

/-!
# What a serial command asks for

The tokens of a command denote one call of the target: its verb which one, and the tokens behind it the
arguments. A number is a whole numeral that is not negative, a boolean one of three words for each
value.
-/

namespace Esp32Wiimote.Serial

open CText

/-! ## Tokens -/

/-- The serial line reads a whole number that is not negative and at most 255. -/
theorem serialParseUint8_of_whole {text : CString} {negative : Bool} {value : ℕ}
    (h : readInteger (numberBase text) text = (some (negative, value), [])) :
    serialParseUint8 text =
      if (negative = true ∧ value ≠ 0) ∨ 255 < value then none else some (UInt8.ofNat value) := by
  have hne := ne_nil_of_readInteger h
  have hwhole : ¬(([] : CString) = text ∨ ([] : CString) ≠ []) :=
    not_or.mpr ⟨fun heq => hne heq.symm, fun hrest => hrest rfl⟩
  rw [serialParseUint8, serialParseUpTo, if_neg hne, strtol, h]
  cases negative with
  | true =>
    dsimp only
    rw [if_neg hwhole]
    by_cases hzero : value = 0
    · subst hzero
      rfl
    · rw [if_pos (Or.inl (by omega)), if_pos (Or.inl ⟨rfl, hzero⟩)]
      rfl
  | false =>
    dsimp only
    rw [if_neg hwhole]
    by_cases hlarge : 255 < value
    · rw [if_pos (Or.inr (by omega)), if_pos (Or.inr hlarge)]
      rfl
    · rw [if_neg (by omega), if_neg (by simpa using hlarge), min_eq_right (by omega)]
      rfl

/-- A text that is no whole number is not read by the serial line. -/
theorem serialParseUint8_of_not_whole {text : CString}
    (h : ∀ number, readInteger (numberBase text) text ≠ (some number, [])) :
    serialParseUint8 text = none := by
  rw [serialParseUint8, serialParseUpTo]
  by_cases hne : text = []
  · rw [if_pos hne]
    rfl
  · rw [if_neg hne]
    simp only [strtol_snd, if_pos (end_of_not_whole h)]
    rfl

/-- The token is a whole numeral with this value. -/
def DenotesByte (token : CString) (value : UInt8) : Prop :=
  ∃ negative, readInteger (numberBase token) token = (some (negative, value.toNat), []) ∧
    (negative = true → value = 0)

/-- The token is one of the words for this value. -/
def DenotesBool (token : CString) (value : Bool) : Prop :=
  token ∈ if value then [ascii "on", ascii "true", ascii "1"] else [ascii "off", ascii "false", ascii "0"]

/-- The token is a word for this delivery mode. -/
def DenotesMode (token : CString) (mode : UInt8) : Prop :=
  token = ascii "rest" ∧ mode = 0 ∨ (token = ascii "rest-ws" ∨ token = ascii "rest-websocket") ∧ mode = 1

/-! ## Commands -/

/-- The method of the call has no result. -/
def SerialTargetCall.isVoid : SerialTargetCall → Bool
  | .setScanEnabled _ | .setAutoReconnectEnabled _ | .clearReconnectCache => true
  | _ => false

/-- The command has this verb, and `count` tokens or more. -/
def SerialParsedCommand.Has (cmd : SerialParsedCommand) (verb : String) (count : ℕ) : Prop :=
  cmd.token 1 = ascii verb ∧ count ≤ cmd.tokenCount

/-- The call that the tokens of a command denote. The second argument of `mode` and the reason of
`disconnect` may be left out. -/
inductive SerialParsedCommand.Denotes (cmd : SerialParsedCommand) : SerialTargetCall → Prop
  | led {mask} (hcmd : cmd.Has "led" 3) (hmask : DenotesByte (cmd.token 2) mask) : cmd.Denotes (.setLeds mask)
  | mode {mode} (hcmd : cmd.Has "mode" 3) (hshort : cmd.tokenCount < 4)
      (hmode : DenotesByte (cmd.token 2) mode) : cmd.Denotes (.setReportingMode mode false)
  | modeContinuous {mode continuous} (hcmd : cmd.Has "mode" 4) (hmode : DenotesByte (cmd.token 2) mode)
      (hcontinuous : DenotesBool (cmd.token 3) continuous) : cmd.Denotes (.setReportingMode mode continuous)
  | accel {enabled} (hcmd : cmd.Has "accel" 3) (henabled : DenotesBool (cmd.token 2) enabled) :
      cmd.Denotes (.setAccelerometerEnabled enabled)
  | requestStatus (hcmd : cmd.Has "request-status" 2) : cmd.Denotes .requestStatus
  | scan {enabled} (hcmd : cmd.Has "scan" 3) (henabled : DenotesBool (cmd.token 2) enabled) :
      cmd.Denotes (.setScanEnabled enabled)
  | discoverStart (hcmd : cmd.Has "discover" 3) (hword : cmd.token 2 = ascii "start") :
      cmd.Denotes .startDiscovery
  | discoverStop (hcmd : cmd.Has "discover" 3) (hword : cmd.token 2 = ascii "stop") : cmd.Denotes .stopDiscovery
  | disconnect (hcmd : cmd.Has "disconnect" 2) (hshort : cmd.tokenCount < 3) :
      cmd.Denotes (.disconnectActiveController 0x16)
  | disconnectReason {reason} (hcmd : cmd.Has "disconnect" 3) (hreason : DenotesByte (cmd.token 2) reason) :
      cmd.Denotes (.disconnectActiveController reason)
  | reconnect {enabled} (hcmd : cmd.Has "reconnect" 3) (henabled : DenotesBool (cmd.token 2) enabled) :
      cmd.Denotes (.setAutoReconnectEnabled enabled)
  | reconnectClear (hcmd : cmd.Has "reconnect" 3) (hword : cmd.token 2 = ascii "clear") :
      cmd.Denotes .clearReconnectCache
  | wifiControl {enabled} (hcmd : cmd.Has "wifi-control" 3) (henabled : DenotesBool (cmd.token 2) enabled) :
      cmd.Denotes (.setWifiControlEnabled enabled)
  | wifiMode {mode} (hcmd : cmd.Has "wifi-mode" 3) (hmode : DenotesMode (cmd.token 2) mode) :
      cmd.Denotes (.setWifiDeliveryMode mode)
  | wifiSetNetwork (hcmd : cmd.Has "wifi-set-network" 4) :
      cmd.Denotes (.setWifiNetworkCredentials (cmd.token 2) (cmd.token 3))
  | wifiRestart (hcmd : cmd.Has "wifi-restart" 2) : cmd.Denotes .restartWifiControl
  | wifiSetToken (hcmd : cmd.Has "wifi-set-token" 3) : cmd.Denotes (.setWifiApiToken (cmd.token 2))

/-! ## Reading tokens -/

section Read

variable {token : CString}

/-- A byte that is read is denoted by its token. -/
theorem denotesByte_of_read {value : UInt8} (h : serialParseUint8 token = some value) : DenotesByte token value := by
  by_cases hwhole : ∃ number, readInteger (numberBase token) token = (some number, [])
  · obtain ⟨⟨negative, magnitude⟩, hread⟩ := hwhole
    rw [serialParseUint8_of_whole hread] at h
    split at h
    · cases h
    next hrange =>
      obtain ⟨hsign, hsmall⟩ := not_or.mp hrange
      cases h
      have hvalue : (UInt8.ofNat magnitude).toNat = magnitude := by
        rw [UInt8.toNat_ofNat']
        omega
      refine ⟨negative, by rw [hvalue]; exact hread, fun hnegative => ?_⟩
      rw [not_not.mp fun hne => hsign ⟨hnegative, hne⟩]
      rfl
  · rw [serialParseUint8_of_not_whole fun number hread => hwhole ⟨number, hread⟩] at h
    cases h

/-- So is a switch. -/
theorem denotesBool_of_read {value : Bool} (h : serialParseBool token = some value) : DenotesBool token value := by
  unfold serialParseBool at h
  split at h
  next hword =>
    cases h
    simpa [DenotesBool] using hword
  next =>
    split at h
    next hword =>
      cases h
      simpa [DenotesBool] using hword
    next => cases h

/-- So is a delivery mode. -/
theorem denotesMode_of_read {mode : UInt8} (h : serialParseWifiDeliveryMode token = some mode) :
    DenotesMode token mode := by
  unfold serialParseWifiDeliveryMode at h
  split at h
  next hword =>
    cases h
    exact .inl ⟨hword, rfl⟩
  next =>
    split at h
    next hword =>
      cases h
      exact .inr ⟨hword, rfl⟩
    next => cases h

end Read

end Esp32Wiimote.Serial
