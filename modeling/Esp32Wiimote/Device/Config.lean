import Esp32Wiimote.Serial.Parser

/-!
# The device configuration

A configuration points to texts. The device keeps copies of the texts it is given in
buffers of its own, and `getConfig` hands out pointers to these copies, so a pointer in a
configuration may lead into the buffer that is about to be written.
-/

namespace Esp32Wiimote.Device

open CText Serial

/-- Whether events are delivered over a WebSocket as well. -/
inductive WifiDeliveryMode
  | RestOnly
  | RestAndWebSocket
  deriving DecidableEq, Repr

/-! ## Texts and pointers -/

/-- The buffers of the device, named after the text each one holds. -/
inductive ConfigBuffer
  | serialPrivilegedToken
  | wifiApiToken
  | wifiSsid
  | wifiPassword
  deriving DecidableEq, Repr

/-- A pointer in a configuration: null, to memory of the caller, or to the start of a buffer of
the device. -/
inductive CharPtr
  | null
  | external (text : CString)
  | buffer (b : ConfigBuffer)
  deriving DecidableEq, Repr

/-- The pointer does not lead into the device. -/
def CharPtr.IsOutside (p : CharPtr) : Prop := ∀ b, p ≠ .buffer b

/-- The size of the buffers: the longest serial line and its terminator. -/
def kStoredConfigStringCapacity : ℕ := kSerialMaxLineLength + 1

/-- The text in each buffer. -/
abbrev ConfigStorage : Type := ConfigBuffer → CString

namespace ConfigStorage

/-- The storage of a device just constructed. -/
def zeroed : ConfigStorage := fun _ => []

/-- The text a pointer leads to. -/
def read (storage : ConfigStorage) : CharPtr → Option CString
  | .null => none
  | .external text => some (cStringAt text 0)
  | .buffer b => some (storage b)

/-- The pointer is not null and its text is not empty. -/
def hasText (storage : ConfigStorage) (src : CharPtr) : Bool :=
  match storage.read src with
  | some (_ :: _) => true
  | _ => false

/-- The text a pointer leads to, where there is one that is not empty. -/
def text (storage : ConfigStorage) (src : CharPtr) : Option CString :=
  if storage.hasText src then storage.read src else none

/-- The buffer is emptied before the source is looked at. -/
def copyOwnedString (storage : ConfigStorage) (dst : ConfigBuffer) (src : CharPtr) :
    CharPtr × ConfigStorage :=
  let cleared : ConfigStorage := Function.update storage dst []
  match cleared.read src with
  | some (c :: text) =>
    (.buffer dst,
      Function.update cleared dst (snprintf kStoredConfigStringCapacity (c :: text)).2)
  | _ => (.null, cleared)

end ConfigStorage

/-! ## The configuration -/

/-- The network to join. -/
structure WiimoteNetworkCredentials where
  ssid : CharPtr := .null
  password : CharPtr := .null
  deriving DecidableEq, Repr

/-- The two tokens, and whether the serial one stands in for a missing Wi-Fi token. -/
structure ESP32WiimoteAuthConfig where
  serialPrivilegedToken : CharPtr := .null
  wifiApiToken : CharPtr := .null
  wifiTokenFallbackToSerial : Bool := true
  deriving DecidableEq, Repr

/-- The part of the configuration about Wi-Fi. -/
structure ESP32WiimoteWifiConfig where
  enabled : Bool := false
  deliveryMode : WifiDeliveryMode := .RestOnly
  network : WiimoteNetworkCredentials := {}
  deriving DecidableEq, Repr

/-- The configuration, with the defaults of its declaration. -/
structure ESP32WiimoteConfig where
  nunchukStickThreshold : ℤ := 1
  txQueueSize : ℤ := 32
  rxQueueSize : ℤ := 32
  fastReconnectTtlMs : UInt32 := 3 * 60 * 1000
  auth : ESP32WiimoteAuthConfig := {}
  wifi : ESP32WiimoteWifiConfig := {}
  deriving DecidableEq, Repr

/-- What is persisted and restored on startup. -/
structure RuntimeConfigSnapshot where
  autoReconnectEnabled : Bool
  fastReconnectTtlMs : UInt32
  ledMask : UInt8
  reportingMode : UInt8
  reportingContinuous : Bool
  deriving DecidableEq, Repr

/-! ## Copying -/

/-- Which text of a network is copied first. The two copies are arguments of one constructor call,
and the language leaves their order to the compiler. -/
inductive CopyOrder
  | ssidFirst
  | passwordFirst
  deriving DecidableEq, Repr

namespace ConfigStorage

/-- Copy the network texts: the credentials that point to the copies, and the storage. -/
def copyNetwork (storage : ConfigStorage) (order : CopyOrder) (network : WiimoteNetworkCredentials) :
    WiimoteNetworkCredentials × ConfigStorage :=
  match order with
  | .ssidFirst =>
    let ssid := storage.copyOwnedString .wifiSsid network.ssid
    let password := ssid.2.copyOwnedString .wifiPassword network.password
    (⟨ssid.1, password.1⟩, password.2)
  | .passwordFirst =>
    let password := storage.copyOwnedString .wifiPassword network.password
    let ssid := password.2.copyOwnedString .wifiSsid network.ssid
    (⟨ssid.1, password.1⟩, ssid.2)

variable (storage : ConfigStorage) (dst : ConfigBuffer)

/-- A pointer has text exactly when a string that is not empty is read there. -/
theorem hasText_iff (src : CharPtr) :
    storage.hasText src = true ↔ ∃ token, storage.read src = some token ∧ token ≠ [] := by
  unfold hasText
  split
  · rename_i c rest hread
    exact iff_of_true rfl ⟨c :: rest, hread, List.cons_ne_nil c rest⟩
  · rename_i hnone
    refine iff_of_false Bool.false_ne_true ?_
    rintro ⟨token, hread, hne⟩
    obtain ⟨c, rest, rfl⟩ := List.exists_cons_of_ne_nil hne
    exact hnone c rest hread

/-- The text of a pointer is the string read there, unless it is empty. -/
theorem text_eq_some_iff (src : CharPtr) (token : CString) :
    storage.text src = some token ↔ storage.read src = some token ∧ token ≠ [] := by
  unfold text
  split
  · rename_i htext
    obtain ⟨token', hread, hne⟩ := (storage.hasText_iff src).mp htext
    rw [hread]
    constructor
    · rintro ⟨⟩
      exact ⟨rfl, hne⟩
    · exact And.left
  · rename_i htext
    refine iff_of_false nofun ?_
    rintro ⟨hread, hne⟩
    exact htext ((storage.hasText_iff src).mpr ⟨token, hread, hne⟩)

/-- There is no text exactly when `hasText` says so. -/
theorem text_eq_none_iff (src : CharPtr) : storage.text src = none ↔ storage.hasText src = false := by
  unfold text
  cases htext : storage.hasText src with
  | false => exact iff_of_true rfl rfl
  | true =>
    obtain ⟨token, hread, -⟩ := (storage.hasText_iff src).mp htext
    rw [hread]
    exact iff_of_false nofun Bool.noConfusion

/-- The text depends on what is read only. -/
theorem text_congr {storage' : ConfigStorage} {src : CharPtr}
    (h : storage'.read src = storage.read src) : storage'.text src = storage.text src := by
  unfold text hasText
  rw [h]

/-- A pointer outside the buffer that is written reads as before. -/
theorem read_update {src : CharPtr} (hsrc : src ≠ .buffer dst) (token : CString) :
    ConfigStorage.read (Function.update storage dst token) src = storage.read src := by
  cases src with
  | null => rfl
  | external _ => rfl
  | buffer b =>
    have hb : b ≠ dst := fun h => hsrc (congrArg CharPtr.buffer h)
    exact congrArg some (Function.update_of_ne hb token storage)

/-- A copy is where it is expected to be, or there is none. -/
theorem copyOwnedString_fst (src : CharPtr) :
    (storage.copyOwnedString dst src).1 = .null ∨
      (storage.copyOwnedString dst src).1 = .buffer dst := by
  unfold copyOwnedString
  dsimp only
  split
  · exact .inr rfl
  · exact .inl rfl

/-- Copying writes one buffer. -/
theorem read_copyOwnedString_of_ne (src : CharPtr) {p : CharPtr} (hp : p ≠ .buffer dst) :
    (storage.copyOwnedString dst src).2.read p = storage.read p := by
  unfold copyOwnedString
  dsimp only
  split
  · rw [Function.update_idem]
    exact read_update storage dst hp _
  · exact read_update storage dst hp _

/-- A buffer copied onto itself is lost. -/
theorem copyOwnedString_self :
    storage.copyOwnedString dst (.buffer dst) = (.null, Function.update storage dst []) := by
  have hread : ConfigStorage.read (Function.update storage dst []) (.buffer dst) = some [] :=
    congrArg some (Function.update_self dst [] storage)
  unfold copyOwnedString
  dsimp only
  rw [hread]

/-- Any other text is kept, up to the capacity. -/
theorem read_copyOwnedString {src : CharPtr} (hsrc : src ≠ .buffer dst) :
    (storage.copyOwnedString dst src).2.read (storage.copyOwnedString dst src).1 =
      (storage.text src).map fun token => token.take kSerialMaxLineLength := by
  unfold copyOwnedString
  dsimp only
  rw [read_update storage dst hsrc]
  split
  · rename_i c rest hread
    have htext := (storage.text_eq_some_iff src (c :: rest)).mpr ⟨hread, List.cons_ne_nil c rest⟩
    rw [htext]
    exact congrArg some (Function.update_self dst _ _)
  · rename_i hnone
    have htext : storage.text src = none := by
      rw [Option.eq_none_iff_forall_ne_some]
      intro token htext
      obtain ⟨hread, hne⟩ := (storage.text_eq_some_iff src token).mp htext
      obtain ⟨c, rest, rfl⟩ := List.exists_cons_of_ne_nil hne
      exact hnone c rest hread
    rw [htext]
    rfl

/-- What copying a text from elsewhere gives, in terms of the storage before it. -/
theorem copyOwnedString_eq {src : CharPtr} (hsrc : src ≠ .buffer dst) :
    storage.copyOwnedString dst src =
      (if storage.hasText src then .buffer dst else .null,
        Function.update storage dst (((storage.text src).getD []).take kSerialMaxLineLength)) := by
  unfold copyOwnedString text hasText
  dsimp only
  rw [read_update storage dst hsrc]
  split
  · rename_i c rest hread
    rw [hread, Function.update_idem]
    rfl
  · rfl

/-! ### Copying two texts -/

/-- Copying a network writes the two buffers of the network only. -/
theorem read_copyNetwork (order : CopyOrder) (network : WiimoteNetworkCredentials) {p : CharPtr}
    (hssid : p ≠ .buffer .wifiSsid) (hpassword : p ≠ .buffer .wifiPassword) :
    (storage.copyNetwork order network).2.read p = storage.read p := by
  cases order with
  | ssidFirst =>
    exact (read_copyOwnedString_of_ne _ .wifiPassword network.password hpassword).trans
      (read_copyOwnedString_of_ne _ .wifiSsid network.ssid hssid)
  | passwordFirst =>
    exact (read_copyOwnedString_of_ne _ .wifiSsid network.ssid hssid).trans
      (read_copyOwnedString_of_ne _ .wifiPassword network.password hpassword)

end ConfigStorage

/-- What the caller's memory holds does not depend on the storage. -/
theorem CharPtr.IsOutside.read {p : CharPtr} (h : p.IsOutside) (storage storage' : ConfigStorage) :
    storage.read p = storage'.read p := by
  cases p with
  | null => rfl
  | external _ => rfl
  | buffer b => exact absurd rfl (h b)

/-- Whether the caller's memory holds a text does not depend on the storage. -/
theorem CharPtr.IsOutside.hasText {p : CharPtr} (h : p.IsOutside) (storage storage' : ConfigStorage) :
    storage.hasText p = storage'.hasText p := by
  simp only [ConfigStorage.hasText, h.read storage storage']

/-- A device just constructed has no text, so a pointer to one leads to the caller. -/
theorem isOutside_of_hasText_zeroed {p : CharPtr} (h : ConfigStorage.zeroed.hasText p = true) :
    p.IsOutside := by
  intro b hb
  rw [hb] at h
  exact Bool.noConfusion h

/-- The order of the copies does not show where neither text is read from the device. -/
theorem ConfigStorage.copyNetwork_of_outside {network : WiimoteNetworkCredentials}
    (hssid : network.ssid.IsOutside) (hpassword : network.password.IsOutside)
    (storage : ConfigStorage) (order : CopyOrder) :
    storage.copyNetwork order network = storage.copyNetwork .ssidFirst network := by
  have htext {p : CharPtr} (h : p.IsOutside) (dst : ConfigBuffer) (token : CString) :
      ConfigStorage.text (Function.update storage dst token) p = storage.text p :=
    ConfigStorage.text_congr storage (h.read _ storage)
  have hhas {p : CharPtr} (h : p.IsOutside) (dst : ConfigBuffer) (token : CString) :
      ConfigStorage.hasText (Function.update storage dst token) p = storage.hasText p :=
    h.hasText _ storage
  cases order with
  | ssidFirst => rfl
  | passwordFirst =>
    simp only [copyNetwork, copyOwnedString_eq _ _ (hssid _), copyOwnedString_eq _ _ (hpassword _),
      htext hssid, htext hpassword, hhas hssid, hhas hpassword]
    rw [Function.update_comm (by decide)]

/-- A pointer to the outside, or to one buffer, is none to another buffer. -/
theorem ne_buffer_of_pointer {p : CharPtr} {own b : ConfigBuffer}
    (h : p.IsOutside ∨ p = .buffer own) (hb : own ≠ b) : p ≠ .buffer b := by
  rcases h with houtside | rfl
  · exact houtside b
  · exact fun heq => hb (CharPtr.buffer.inj heq)

/-- A copy answers the buffer it copied to, or no text at all. -/
theorem pointer_copyOwnedString (storage : ConfigStorage) (dst : ConfigBuffer) (src : CharPtr) :
    (storage.copyOwnedString dst src).1.IsOutside ∨
      (storage.copyOwnedString dst src).1 = .buffer dst := by
  rcases storage.copyOwnedString_fst dst src with hnull | hbuffer
  · left
    rw [hnull]
    exact fun b => CharPtr.noConfusion
  · exact .inr hbuffer

end Esp32Wiimote.Device
