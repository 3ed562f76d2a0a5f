import Esp32Wiimote.Device.HttpHandler
import Esp32Wiimote.Library.LatestSetting

/-!
# The token of the HTTP surface

Which headers pass the authentication is decided by the text the Wi-Fi token of the current
configuration points to. It is compared with the token that should be in force: the one
supplied last, or the serial token where none was supplied and the configuration falls back
to it. The two are the same exactly when the supplied token survived its copy, and without
one only where the configuration was constructed with a null pointer and there is nothing to
fall back to.
-/

namespace Esp32Wiimote.Device

open CText LatestSetting Serial TransitionRun Web

/-! ## The calls -/

/-- A call that may supply a token; `configure` also copies a network, in one order or the other. -/
inductive TokenCall
  | configure (order : CopyOrder) (config : ESP32WiimoteConfig)
  | updateWifiApiToken (token : CharPtr)

/-- The call of the public interface. -/
def TokenCall.publicCall : TokenCall → PublicCall
  | .configure _ config => .configure config
  | .updateWifiApiToken token => .updateWifiApiToken token

/-- The tokens the call comes with. -/
def TokenCall.auth : TokenCall → ESP32WiimoteAuthConfig
  | .configure _ config => config.auth
  | .updateWifiApiToken token => { wifiApiToken := token }

/-- The device after the call. -/
def ESP32Wiimote.take (d : ESP32Wiimote) : TokenCall → ESP32Wiimote
  | .configure order config => d.configure order config
  | .updateWifiApiToken token => (d.updateWifiApiToken token).2

/-- The platform copies a network in the order of the call. -/
def TokenCall.MadeOn (platform : Platform) : TokenCall → Prop
  | .configure order _ => platform.copyOrder = order
  | .updateWifiApiToken _ => True

/-- A step that makes the call takes it. -/
theorem step_device (w : Esp32World) {c : TokenCall} {platform : Platform} (h : c.MadeOn platform) :
    (w.step ⟨.call c.publicCall, platform⟩).device = w.device.take c := by
  cases c with
  | configure order config =>
    cases h
    rfl
  | updateWifiApiToken token => rfl

/-- Along a run of such calls, whatever else the platform answers, the device takes one after
another. -/
theorem runFrom_device (w : Esp32World) (run : List (TokenCall × Platform))
    (h : ∀ e ∈ run, e.1.MadeOn e.2) :
    (runFrom Esp32World.step w (run.map fun e => ⟨.call e.1.publicCall, e.2⟩)).device =
      runFrom ESP32Wiimote.take w.device (run.map Prod.fst) := by
  induction run generalizing w with
  | nil => rfl
  | cons e rest ih =>
    obtain ⟨hfirst, hrest⟩ := List.forall_mem_cons.mp h
    have htaken := ih (w.step ⟨.call e.1.publicCall, e.2⟩) hrest
    rw [step_device w hfirst] at htaken
    exact htaken

/-- The device after a sequence of calls from its construction. -/
abbrev deviceAfter (config : ESP32WiimoteConfig) (calls : List TokenCall) : ESP32Wiimote :=
  runFrom ESP32Wiimote.take (.construct config) calls

/-! ## The token supplied last -/

/-- The Wi-Fi token is not copied from a buffer that the same call has written: its own, or that
of the serial token, unless the same text was written there. -/
def ESP32WiimoteAuthConfig.KeepsWifiApiToken (storage : ConfigStorage)
    (auth : ESP32WiimoteAuthConfig) : Prop :=
  auth.wifiApiToken ≠ .buffer .wifiApiToken ∧
    (auth.wifiApiToken = .buffer .serialPrivilegedToken →
      storage.hasText auth.serialPrivilegedToken = true →
      auth.serialPrivilegedToken ≠ .buffer .serialPrivilegedToken ∧
        storage.read auth.serialPrivilegedToken = storage.read auth.wifiApiToken)

instance (storage : ConfigStorage) (auth : ESP32WiimoteAuthConfig) :
    Decidable (auth.KeepsWifiApiToken storage) := inferInstanceAs (Decidable (_ ∧ _))

/-- A token that was supplied, and whether its copy keeps it. -/
structure WifiTokenSupply where
  token : CString
  kept : Bool

/-- A Wi-Fi token that is null or empty is not supplied. -/
def ESP32WiimoteAuthConfig.supply (storage : ConfigStorage) (auth : ESP32WiimoteAuthConfig) :
    Option WifiTokenSupply :=
  (storage.text auth.wifiApiToken).map fun token => ⟨token, decide (auth.KeepsWifiApiToken storage)⟩

/-- The Wi-Fi token a call supplies, if it supplies one. -/
def TokenCall.supply (d : ESP32Wiimote) (c : TokenCall) : Option WifiTokenSupply :=
  c.auth.supply d.storage

/-- The construction may supply a token, too. -/
def latestSupply (config : ESP32WiimoteConfig) (calls : List TokenCall) : Option WifiTokenSupply :=
  (runFrom (recordStep ESP32Wiimote.take TokenCall.supply)
    (.construct config, config.auth.supply .zeroed) calls).2

/-! ## The property -/

/-- The token that should be in force. -/
def ESP32Wiimote.effectiveToken (supply : Option WifiTokenSupply) (d : ESP32Wiimote) :
    Option CString :=
  match supply with
  | some supply => some supply.token
  | none =>
    if d.getConfig.auth.wifiTokenFallbackToSerial then
      d.storage.text d.getConfig.auth.serialPrivilegedToken
    else none

/-- A request that is not static passes the authentication exactly when there is a token in force
and its header is valid for it. -/
def AuthenticationAgrees (effective : Option CString) (d : ESP32Wiimote) : Prop :=
  ∀ assets (request : WifiHttpRequest) responseBufSize response (s : WebApiState Esp32World),
    s.userData.device = d → responseBufSize ≠ 0 → ¬request.IsStatic →
    (isUnauthorized (handleWifiHttpRequest assets request responseBufSize response s).1.status =
        false ↔
      ∃ token, effective = some token ∧
        webAuthValidate request.authHeader (some token) = .Ok)

/-- The token the handler compares with. -/
def ESP32Wiimote.heldToken (d : ESP32Wiimote) : Option CString :=
  d.storage.read d.getConfig.auth.wifiApiToken

/-- The authentication agrees with a token exactly when it is the one the handler compares with. -/
theorem authenticationAgrees_iff_heldToken {effective : Option CString} {d : ESP32Wiimote}
    (heffective : ∀ token ∈ effective, trimLeading token = token)
    (hheld : effective = none → ∀ token ∈ d.heldToken, trimLeading token = token) :
    AuthenticationAgrees effective d ↔ d.heldToken = effective := by
  rw [← webAuthValidate_agree_iff heffective hheld]
  constructor
  · intro hagrees authHeader
    let request : WifiHttpRequest := ⟨.Post, [], authHeader, none, 0⟩
    let s : WebApiState Esp32World := Esp32World.webApiState { device := d } []
    have hpost : ascii "POST" ≠ ascii "GET" := by decide +kernel
    have hstatic : ¬request.IsStatic := fun h => hpost h.1
    have hstatus := handleWifiHttpRequest_isUnauthorized ⟨[], [], []⟩ hstatic Nat.one_ne_zero {} s
    rw [← hagrees ⟨[], [], []⟩ request 1 {} s rfl Nat.one_ne_zero hstatic, ← Bool.not_eq_true,
      hstatus, not_not]
    rfl
  · rintro hagrees assets request responseBufSize response s rfl hsize hstatic
    have hstatus := handleWifiHttpRequest_isUnauthorized assets hstatic hsize response s
    rw [← hagrees request.authHeader, ← Bool.not_eq_true, hstatus, not_not]
    rfl

/-! ## What the configuration points to -/

/-- The tokens a call comes with fit in their buffers and have no leading blanks. -/
def ProperTokens (storage : ConfigStorage) (auth : ESP32WiimoteAuthConfig) : Prop :=
  ∀ p, p = auth.serialPrivilegedToken ∨ p = auth.wifiApiToken → ∀ token, storage.read p = some token →
    token.length ≤ kSerialMaxLineLength ∧ trimLeading token = token

/-- The call comes with proper tokens. -/
def TokenCall.Proper (d : ESP32Wiimote) (c : TokenCall) : Prop := ProperTokens d.storage c.auth

/-- The serial token is the caller's or the copy, and has no leading blanks. -/
structure SerialTokenState (d : ESP32Wiimote) : Prop where
  pointer : d.auth.serialPrivilegedToken.IsOutside ∨
    d.auth.serialPrivilegedToken = .buffer .serialPrivilegedToken
  trimmed : ∀ token, d.storage.read d.auth.serialPrivilegedToken = some token →
    trimLeading token = token

/-- The Wi-Fi token is the one supplied last where that one was kept, and otherwise another one or
none; before any is supplied it is the one of the construction. -/
structure WifiTokenState (config : ESP32WiimoteConfig) (latest : Option WifiTokenSupply)
    (d : ESP32Wiimote) : Prop where
  pointer : d.auth.wifiApiToken.IsOutside ∨ d.auth.wifiApiToken = .buffer .wifiApiToken
  supplied : ∀ supply, latest = some supply → trimLeading supply.token = supply.token ∧
    (d.heldToken = some supply.token ↔ supply.kept = true)
  unsupplied : latest = none → d.auth.wifiApiToken = config.auth.wifiApiToken ∧
    config.auth.supply .zeroed = none

/-- Neither state depends on more than the two pointers and the two buffers. -/
structure SameTokens (d d' : ESP32Wiimote) : Prop where
  serial : d'.auth.serialPrivilegedToken = d.auth.serialPrivilegedToken
  wifi : d'.auth.wifiApiToken = d.auth.wifiApiToken
  read : ∀ p, p ≠ .buffer .wifiSsid → p ≠ .buffer .wifiPassword →
    d'.storage.read p = d.storage.read p

/-- The state of the serial token depends on the tokens only. -/
theorem SameTokens.serialTokenState {d d' : ESP32Wiimote} (h : SameTokens d d')
    (hd : SerialTokenState d) : SerialTokenState d' := by
  have hread := h.read d.auth.serialPrivilegedToken
    (ne_buffer_of_pointer hd.pointer (by decide)) (ne_buffer_of_pointer hd.pointer (by decide))
  constructor
  · rw [h.serial]
    exact hd.pointer
  · rw [h.serial, hread]
    exact hd.trimmed

/-- So does that of the Wi-Fi token. -/
theorem SameTokens.wifiTokenState {config : ESP32WiimoteConfig} {latest : Option WifiTokenSupply}
    {d d' : ESP32Wiimote} (h : SameTokens d d') (hd : WifiTokenState config latest d) :
    WifiTokenState config latest d' := by
  have hread := h.read d.auth.wifiApiToken
    (ne_buffer_of_pointer hd.pointer (by decide)) (ne_buffer_of_pointer hd.pointer (by decide))
  have hheld : d'.heldToken = d.heldToken := by
    unfold ESP32Wiimote.heldToken ESP32Wiimote.getConfig
    dsimp only
    rw [h.wifi, hread]
  constructor
  · rw [h.wifi]
    exact hd.pointer
  · rw [hheld]
    exact hd.supplied
  · rw [h.wifi]
    exact hd.unsupplied

/-! ## Storing the tokens -/

/-- A copy has no leading blanks where the text has none. -/
theorem trimmed_copyOwnedString {storage : ConfigStorage} {dst : ConfigBuffer} {src : CharPtr}
    (hsrc : ∀ token, storage.read src = some token →
      token.length ≤ kSerialMaxLineLength ∧ trimLeading token = token) {token : CString}
    (h : (storage.copyOwnedString dst src).2.read (storage.copyOwnedString dst src).1 = some token) :
    trimLeading token = token := by
  by_cases hself : src = .buffer dst
  · rw [hself, storage.copyOwnedString_self dst] at h
    exact nomatch h
  · rw [storage.read_copyOwnedString dst hself] at h
    obtain ⟨source, htext, rfl⟩ := Option.map_eq_some_iff.mp h
    obtain ⟨hlength, htrim⟩ := hsrc source ((storage.text_eq_some_iff src source).mp htext).1
    rw [List.take_of_length_le hlength]
    exact htrim

/-- A proper serial token is stored as it should be. -/
theorem SerialTokenState.storeSerial {d : ESP32Wiimote} {token : CharPtr}
    (htoken : ∀ source, d.storage.read token = some source →
      source.length ≤ kSerialMaxLineLength ∧ trimLeading source = source) :
    SerialTokenState (d.storeSerialPrivilegedToken token) where
  pointer := pointer_copyOwnedString d.storage .serialPrivilegedToken token
  trimmed := fun _ h => trimmed_copyOwnedString htoken h

/-- Storing it leaves the Wi-Fi token in its state. -/
theorem WifiTokenState.storeSerial {config : ESP32WiimoteConfig} {latest : Option WifiTokenSupply}
    {d : ESP32Wiimote} (hd : WifiTokenState config latest d) (token : CharPtr) :
    WifiTokenState config latest (d.storeSerialPrivilegedToken token) := by
  have hheld : (d.storeSerialPrivilegedToken token).heldToken = d.heldToken :=
    d.storage.read_copyOwnedString_of_ne .serialPrivilegedToken token
      (ne_buffer_of_pointer hd.pointer (by decide))
  exact ⟨hd.pointer, by rw [hheld]; exact hd.supplied, hd.unsupplied⟩

/-- Storing a Wi-Fi token leaves the serial token in its state. -/
theorem SerialTokenState.storeWifi {d : ESP32Wiimote} (hd : SerialTokenState d) (token : CharPtr) :
    SerialTokenState (d.storeWifiApiToken token) := by
  have hread : (d.storeWifiApiToken token).storage.read d.auth.serialPrivilegedToken =
      d.storage.read d.auth.serialPrivilegedToken :=
    d.storage.read_copyOwnedString_of_ne .wifiApiToken token
      (ne_buffer_of_pointer hd.pointer (by decide))
  refine ⟨hd.pointer, fun source h => hd.trimmed source ?_⟩
  rw [← hread]
  exact h

/-- Storing a supplied token puts it in force exactly when it is kept. -/
theorem WifiTokenState.storeWifi (config : ESP32WiimoteConfig) {d : ESP32Wiimote}
    {token : CharPtr} {supply : WifiTokenSupply} (htrim : trimLeading supply.token = supply.token)
    (hkept : (d.storeWifiApiToken token).heldToken = some supply.token ↔ supply.kept = true) :
    WifiTokenState config (some supply) (d.storeWifiApiToken token) where
  pointer := pointer_copyOwnedString d.storage .wifiApiToken token
  supplied := by
    rintro supply' heq
    cases heq
    exact ⟨htrim, hkept⟩
  unsupplied := nofun

/-! ## Whether a supplied token is kept -/

/-- The device when the Wi-Fi token of a call is about to be stored. -/
def ESP32Wiimote.withSerialStored (auth : ESP32WiimoteAuthConfig) (d : ESP32Wiimote) :
    ESP32Wiimote :=
  if d.storage.hasText auth.serialPrivilegedToken then
    d.storeSerialPrivilegedToken auth.serialPrivilegedToken
  else d

/-- A token copied onto itself is gone. -/
theorem heldToken_storeWifi_self (d : ESP32Wiimote) :
    (d.storeWifiApiToken (.buffer .wifiApiToken)).heldToken = none := by
  unfold ESP32Wiimote.heldToken ESP32Wiimote.getConfig ESP32Wiimote.storeWifiApiToken
  dsimp only
  rw [d.storage.copyOwnedString_self .wifiApiToken]
  rfl

/-- Any other is held, if it fits the buffer. -/
theorem heldToken_storeWifi (d : ESP32Wiimote) {src : CharPtr} (hsrc : src ≠ .buffer .wifiApiToken)
    (hlength : ∀ token, d.storage.read src = some token → token.length ≤ kSerialMaxLineLength) :
    (d.storeWifiApiToken src).heldToken = d.storage.text src := by
  have hread : (d.storeWifiApiToken src).heldToken =
      (d.storage.text src).map fun token => token.take kSerialMaxLineLength :=
    d.storage.read_copyOwnedString .wifiApiToken hsrc
  rw [hread]
  cases htext : d.storage.text src with
  | none => rfl
  | some token =>
    have htoken := hlength token ((d.storage.text_eq_some_iff src token).mp htext).1
    exact congrArg some (List.take_of_length_le htoken)

/-- What the serial buffer holds once a serial token was stored: nothing after a copy onto itself,
and otherwise that token. -/
theorem text_serial_stored {storage : ConfigStorage} {src : CharPtr}
    (htext : storage.hasText src = true)
    (hlength : ∀ token, storage.read src = some token → token.length ≤ kSerialMaxLineLength) :
    (storage.copyOwnedString .serialPrivilegedToken src).2.text (.buffer .serialPrivilegedToken) =
      if src = .buffer .serialPrivilegedToken then none else storage.read src := by
  split
  · rename_i hself
    rw [hself, storage.copyOwnedString_self .serialPrivilegedToken]
    have hread : ConfigStorage.read (Function.update storage .serialPrivilegedToken [])
        (.buffer .serialPrivilegedToken) = some [] :=
      congrArg some (Function.update_self ConfigBuffer.serialPrivilegedToken [] storage)
    unfold ConfigStorage.text ConfigStorage.hasText
    rw [hread]
    rfl
  · rename_i hself
    obtain ⟨token, hread, hne⟩ := (storage.hasText_iff src).mp htext
    have hcopy := storage.read_copyOwnedString .serialPrivilegedToken hself
    rw [(storage.text_eq_some_iff src token).mpr ⟨hread, hne⟩, Option.map_some,
      List.take_of_length_le (hlength token hread)] at hcopy
    rcases storage.copyOwnedString_fst .serialPrivilegedToken src with hnull | hbuffer
    · rw [hnull] at hcopy
      exact nomatch hcopy
    · rw [hbuffer] at hcopy
      rw [hread, ConfigStorage.text_eq_some_iff]
      exact ⟨hcopy, hne⟩

/-- The supplied token is in force exactly when the call keeps it. -/
theorem heldToken_stored_iff {d : ESP32Wiimote} {auth : ESP32WiimoteAuthConfig} {token : CString}
    (hproper : ProperTokens d.storage auth)
    (htoken : d.storage.text auth.wifiApiToken = some token) :
    ((d.withSerialStored auth).storeWifiApiToken auth.wifiApiToken).heldToken = some token ↔
      auth.KeepsWifiApiToken d.storage := by
  obtain ⟨hread, hne⟩ := (d.storage.text_eq_some_iff _ token).mp htoken
  have hwifi := fun token h => (hproper auth.wifiApiToken (.inr rfl) token h).1
  have hserial := fun token h => (hproper auth.serialPrivilegedToken (.inl rfl) token h).1
  unfold ESP32WiimoteAuthConfig.KeepsWifiApiToken ESP32Wiimote.withSerialStored
  by_cases hself : auth.wifiApiToken = .buffer .wifiApiToken
  · rw [hself, heldToken_storeWifi_self]
    exact iff_of_false nofun fun h => h.1 rfl
  cases hgiven : d.storage.hasText auth.serialPrivilegedToken with
  | false =>
    rw [if_neg Bool.false_ne_true, heldToken_storeWifi d hself hwifi]
    exact iff_of_true htoken ⟨hself, fun _ h => Bool.noConfusion h⟩
  | true =>
    rw [if_pos rfl]
    by_cases halias : auth.wifiApiToken = .buffer .serialPrivilegedToken
    · have hstored : (d.storeSerialPrivilegedToken auth.serialPrivilegedToken).storage.text
          auth.wifiApiToken = if auth.serialPrivilegedToken = .buffer .serialPrivilegedToken then none
            else d.storage.read auth.serialPrivilegedToken := by
        rw [halias]
        exact text_serial_stored hgiven hserial
      have hlength : ∀ source, (d.storeSerialPrivilegedToken auth.serialPrivilegedToken).storage.read
          auth.wifiApiToken = some source → source.length ≤ kSerialMaxLineLength := by
        intro source hsource
        by_cases hempty : source = []
        · rw [hempty]
          exact Nat.zero_le _
        · have htext := (ConfigStorage.text_eq_some_iff _ _ source).mpr ⟨hsource, hempty⟩
          rw [hstored] at htext
          split at htext
          · exact nomatch htext
          · exact hserial source htext
      rw [heldToken_storeWifi _ hself hlength, hstored]
      split
      · rename_i hlost
        exact iff_of_false nofun fun h => (h.2 halias rfl).1 hlost
      · rename_i hkept
        rw [hread]
        exact ⟨fun h => ⟨hself, fun _ _ => ⟨hkept, h⟩⟩, fun h => (h.2 halias rfl).2⟩
    · have hsame : (d.storeSerialPrivilegedToken auth.serialPrivilegedToken).storage.read
          auth.wifiApiToken = d.storage.read auth.wifiApiToken :=
        d.storage.read_copyOwnedString_of_ne .serialPrivilegedToken _ halias
      rw [heldToken_storeWifi _ hself (by rw [hsame]; exact hwifi), d.storage.text_congr hsame]
      exact iff_of_true htoken ⟨hself, fun h => absurd h halias⟩

/-! ## Steps and runs -/

/-- No token is supplied exactly when the pointer has no text. -/
theorem supply_eq_none_iff (storage : ConfigStorage) (auth : ESP32WiimoteAuthConfig) :
    auth.supply storage = none ↔ storage.hasText auth.wifiApiToken = false := by
  rw [← storage.text_eq_none_iff]
  exact Option.map_eq_none_iff

/-- A token that is supplied has a text. -/
theorem hasText_of_supply {storage : ConfigStorage} {auth : ESP32WiimoteAuthConfig}
    {supply : WifiTokenSupply} (h : auth.supply storage = some supply) :
    storage.hasText auth.wifiApiToken = true := by
  rw [← Bool.not_eq_false, ← supply_eq_none_iff, h]
  exact Option.some_ne_none supply

/-- Storing the Wi-Fi token of a call that supplies one. -/
theorem WifiTokenState.supplied_stored {config : ESP32WiimoteConfig} {d : ESP32Wiimote}
    {auth : ESP32WiimoteAuthConfig} {supply : WifiTokenSupply}
    (hproper : ProperTokens d.storage auth) (hsupply : auth.supply d.storage = some supply) :
    WifiTokenState config (some supply)
      ((d.withSerialStored auth).storeWifiApiToken auth.wifiApiToken) := by
  obtain ⟨token, htoken, rfl⟩ := Option.map_eq_some_iff.mp hsupply
  obtain ⟨hread, -⟩ := (d.storage.text_eq_some_iff _ token).mp htoken
  apply WifiTokenState.storeWifi config (hproper _ (.inr rfl) token hread).2
  rw [heldToken_stored_iff hproper htoken]
  exact decide_eq_true_iff.symm

/-- Applying proper tokens leaves both in their states. -/
theorem tokenState_applyAuthConfig {config : ESP32WiimoteConfig} {latest : Option WifiTokenSupply}
    {d : ESP32Wiimote} {auth : ESP32WiimoteAuthConfig} (hproper : ProperTokens d.storage auth)
    (hserial : SerialTokenState d)
    (hwifi : auth.supply d.storage = none → WifiTokenState config latest d) :
    SerialTokenState (d.applyAuthConfig auth) ∧
      WifiTokenState config ((auth.supply d.storage).or latest) (d.applyAuthConfig auth) := by
  have hserial' : SerialTokenState (d.withSerialStored auth) := by
    unfold ESP32Wiimote.withSerialStored
    split
    · exact SerialTokenState.storeSerial (hproper _ (.inl rfl))
    · exact hserial
  have hwifi' (h : WifiTokenState config latest d) :
      WifiTokenState config latest (d.withSerialStored auth) := by
    unfold ESP32Wiimote.withSerialStored
    split
    · exact h.storeSerial _
    · exact h
  let stored := if d.storage.hasText auth.wifiApiToken then
    (d.withSerialStored auth).storeWifiApiToken auth.wifiApiToken else d.withSerialStored auth
  have hsame : SameTokens stored (d.applyAuthConfig auth) := by
    change SameTokens stored (if _ then { stored with auth := _ } else stored)
    split <;> exact ⟨rfl, rfl, fun _ _ _ => rfl⟩
  have hstored : SerialTokenState stored ∧
      WifiTokenState config ((auth.supply d.storage).or latest) stored := by
    change SerialTokenState (if _ then _ else _) ∧ WifiTokenState _ _ (if _ then _ else _)
    cases hsupply : auth.supply d.storage with
    | none =>
      rw [(supply_eq_none_iff _ _).mp hsupply, if_neg Bool.false_ne_true]
      exact ⟨hserial', hwifi' (hwifi hsupply)⟩
    | some supply =>
      rw [hasText_of_supply hsupply, if_pos rfl]
      exact ⟨hserial'.storeWifi _, .supplied_stored hproper hsupply⟩
  exact ⟨hsame.serialTokenState hstored.1, hsame.wifiTokenState hstored.2⟩

/-- Copying the network texts leaves the tokens alone. -/
theorem sameTokens_applyRuntimeConfig (order : CopyOrder) (config : ESP32WiimoteConfig)
    (d : ESP32Wiimote) :
    SameTokens (d.applyAuthConfig config.auth) (d.applyRuntimeConfig order config) := by
  refine ⟨rfl, rfl, fun p hssid hpassword => ?_⟩
  let applied := d.applyAuthConfig config.auth
  change (applied.copyGivenNetwork order config.wifi.network _).2.read p = applied.storage.read p
  unfold ESP32Wiimote.copyGivenNetwork
  split
  · exact applied.storage.read_copyNetwork order config.wifi.network hssid hpassword
  · rfl

/-- So does every proper call. -/
theorem tokenState_take {config : ESP32WiimoteConfig} {latest : Option WifiTokenSupply}
    {d : ESP32Wiimote} {c : TokenCall} (hproper : c.Proper d)
    (hserial : SerialTokenState d) (hwifi : WifiTokenState config latest d) :
    SerialTokenState (d.take c) ∧ WifiTokenState config ((c.supply d).or latest) (d.take c) := by
  cases c with
  | configure order given =>
    have hsame := sameTokens_applyRuntimeConfig order given d
    obtain ⟨hserial', hwifi'⟩ := tokenState_applyAuthConfig hproper hserial fun _ => hwifi
    exact ⟨hsame.serialTokenState hserial', hsame.wifiTokenState hwifi'⟩
  | updateWifiApiToken token =>
    have htake : d.take (.updateWifiApiToken token) = (d.updateWifiApiToken token).2 := rfl
    rw [htake]
    unfold ESP32Wiimote.updateWifiApiToken
    cases hsupply : TokenCall.supply d (.updateWifiApiToken token) with
    | none =>
      have hgiven : d.storage.hasText token = false := (supply_eq_none_iff _ _).mp hsupply
      rw [hgiven]
      exact ⟨hserial, hwifi⟩
    | some supply =>
      have hgiven : d.storage.hasText token = true := hasText_of_supply hsupply
      -- no serial token comes with the call, so nothing is stored before the Wi-Fi token
      have hwifi' : WifiTokenState config (some supply) (d.storeWifiApiToken token) :=
        WifiTokenState.supplied_stored hproper hsupply
      have hsame : SameTokens (d.storeWifiApiToken token)
          { d.storeWifiApiToken token with
            wifiApiToken := (d.storeWifiApiToken token).auth.wifiApiToken
            wifiTokenFallbackToSerial := false } := ⟨rfl, rfl, fun _ _ _ => rfl⟩
      rw [hgiven]
      exact ⟨hsame.serialTokenState (hserial.storeWifi token), hsame.wifiTokenState hwifi'⟩

/-- They are in their states after the construction. -/
theorem tokenState_construct {config : ESP32WiimoteConfig}
    (hserial : config.auth.serialPrivilegedToken.IsOutside)
    (hwifi : config.auth.wifiApiToken.IsOutside) (hproper : ProperTokens .zeroed config.auth) :
    SerialTokenState (.construct config) ∧
      WifiTokenState config (config.auth.supply .zeroed) (.construct config) := by
  have hsame := sameTokens_applyRuntimeConfig .ssidFirst config (.unconfigured config)
  have hserial₀ : SerialTokenState (.unconfigured config) :=
    ⟨.inl hserial, fun token h => (hproper _ (.inl rfl) token h).2⟩
  have hwifi₀ (h : config.auth.supply .zeroed = none) :
      WifiTokenState config none (.unconfigured config) := ⟨.inl hwifi, nofun, fun _ => ⟨rfl, h⟩⟩
  obtain ⟨hserial', hwifi'⟩ := tokenState_applyAuthConfig hproper hserial₀ hwifi₀
  rw [Option.or_none] at hwifi'
  exact ⟨hsame.serialTokenState hserial', hsame.wifiTokenState hwifi'⟩

/-- The supplied token was kept; or none was supplied, the device was constructed with a null
pointer, and there is no serial token to fall back to. -/
def HoldsEffectiveToken (config : ESP32WiimoteConfig) (latest : Option WifiTokenSupply)
    (d : ESP32Wiimote) : Prop :=
  match latest with
  | some supply => supply.kept = true
  | none =>
    config.auth.wifiApiToken = .null ∧
      ¬(d.getConfig.auth.wifiTokenFallbackToSerial = true ∧
        d.storage.hasText d.getConfig.auth.serialPrivilegedToken = true)

/-- There is no token in force exactly when none was supplied and there is no fallback. -/
theorem effectiveToken_eq_none_iff (d : ESP32Wiimote) :
    d.effectiveToken none = none ↔
      ¬(d.getConfig.auth.wifiTokenFallbackToSerial = true ∧
        d.storage.hasText d.getConfig.auth.serialPrivilegedToken = true) := by
  unfold ESP32Wiimote.effectiveToken
  dsimp only
  cases d.getConfig.auth.wifiTokenFallbackToSerial with
  | false => exact iff_of_true rfl fun h => Bool.noConfusion h.1
  | true =>
    rw [if_pos rfl, ConfigStorage.text_eq_none_iff, ← Bool.not_eq_true]
    exact not_congr (and_iff_right rfl).symm

/-- A token to fall back to is not empty. -/
theorem effectiveToken_none_ne_nil (d : ESP32Wiimote) : d.effectiveToken none ≠ some [] := by
  unfold ESP32Wiimote.effectiveToken
  dsimp only
  split
  · intro h
    exact ((d.storage.text_eq_some_iff _ []).mp h).2 rfl
  · exact nofun

/-- Until a token is supplied, the one of the construction is held. -/
theorem WifiTokenState.heldToken_unsupplied {config : ESP32WiimoteConfig} {d : ESP32Wiimote}
    (h : WifiTokenState config none d) (hwifi : config.auth.wifiApiToken.IsOutside) :
    d.heldToken = ConfigStorage.zeroed.read config.auth.wifiApiToken := by
  unfold ESP32Wiimote.heldToken ESP32Wiimote.getConfig
  dsimp only
  rw [(h.unsupplied rfl).1]
  exact hwifi.read d.storage .zeroed

/-- A token in force has no leading blanks. -/
theorem trimmed_effectiveToken {config : ESP32WiimoteConfig} {latest : Option WifiTokenSupply}
    {d : ESP32Wiimote} (hserial : SerialTokenState d) (hwifi : WifiTokenState config latest d)
    {token : CString} (h : d.effectiveToken latest = some token) : trimLeading token = token := by
  cases latest with
  | some supply =>
    obtain rfl : supply.token = token := Option.some.inj h
    exact (hwifi.supplied supply rfl).1
  | none =>
    unfold ESP32Wiimote.effectiveToken at h
    dsimp only at h
    split at h
    · exact hserial.trimmed token ((d.storage.text_eq_some_iff _ token).mp h).1
    · exact nomatch h

/-- Nor has one that is held while none is in force. -/
theorem trimmed_heldToken {config : ESP32WiimoteConfig} {latest : Option WifiTokenSupply}
    {d : ESP32Wiimote} (houtside : config.auth.wifiApiToken.IsOutside)
    (hconfig : ProperTokens .zeroed config.auth) (hwifi : WifiTokenState config latest d)
    (hnone : d.effectiveToken latest = none) {token : CString} (h : d.heldToken = some token) :
    trimLeading token = token := by
  cases latest with
  | some supply => exact nomatch hnone
  | none =>
    rw [hwifi.heldToken_unsupplied houtside] at h
    exact (hconfig _ (.inr rfl) token h).2

/-- The token held is the one in force exactly when the device holds it. -/
theorem heldToken_eq_iff {config : ESP32WiimoteConfig} {latest : Option WifiTokenSupply}
    {d : ESP32Wiimote} (hwifi : config.auth.wifiApiToken.IsOutside)
    (hstate : WifiTokenState config latest d) :
    d.heldToken = d.effectiveToken latest ↔ HoldsEffectiveToken config latest d := by
  cases latest with
  | some supply => exact (hstate.supplied supply rfl).2
  | none =>
    obtain ⟨-, hnone⟩ := hstate.unsupplied rfl
    change _ ↔ config.auth.wifiApiToken = .null ∧ _
    rw [hstate.heldToken_unsupplied hwifi, ← effectiveToken_eq_none_iff]
    cases hconfigured : config.auth.wifiApiToken with
    | null =>
      rw [eq_self, true_and]
      exact eq_comm
    | buffer b => exact absurd hconfigured (hwifi b)
    | external text =>
      -- the text is empty, or it would have been supplied
      have hempty : cStringAt text 0 = [] := by
        by_contra hne
        have hgiven := (ConfigStorage.zeroed.hasText_iff (.external text)).mpr ⟨_, rfl, hne⟩
        rw [← hconfigured, (supply_eq_none_iff _ _).mp hnone] at hgiven
        exact Bool.noConfusion hgiven
      refine iff_of_false (fun h => ?_) (fun h => CharPtr.noConfusion h.1)
      apply effectiveToken_none_ne_nil d
      rw [← h, ← hempty]
      rfl

/-- After any sequence of calls with proper tokens the authentication agrees with the effective token
exactly when the device holds it. The pointers of the construction cannot lead into a device that
does not exist yet. -/
theorem authenticationAgrees_iff (config : ESP32WiimoteConfig) (calls : List TokenCall)
    (hserial : config.auth.serialPrivilegedToken.IsOutside)
    (hwifi : config.auth.wifiApiToken.IsOutside) (hconfig : ProperTokens .zeroed config.auth)
    (hcalls : EveryStep TokenCall.Proper ESP32Wiimote.take (.construct config) calls) :
    AuthenticationAgrees ((deviceAfter config calls).effectiveToken (latestSupply config calls))
        (deviceAfter config calls) ↔
      HoldsEffectiveToken config (latestSupply config calls) (deviceAfter config calls) := by
  have hproper : EveryStep (fun r c => TokenCall.Proper r.1 c)
      (recordStep ESP32Wiimote.take TokenCall.supply)
      (.construct config, config.auth.supply .zeroed) calls :=
    (everyStep_recordStep (P := TokenCall.Proper) _ calls).mpr hcalls
  have hinvariant := invariant_runFrom
    (I := fun r : ESP32Wiimote × Option WifiTokenSupply =>
      SerialTokenState r.1 ∧ WifiTokenState config r.2 r.1)
    (fun r c hstate hproper => tokenState_take hproper hstate.1 hstate.2)
    (tokenState_construct hserial hwifi hconfig) hproper
  rw [runFrom_recordStep_fst] at hinvariant
  obtain ⟨hserialState, hwifiState⟩ := hinvariant
  rw [authenticationAgrees_iff_heldToken]
  · exact heldToken_eq_iff hwifi hwifiState
  · intro token h
    exact trimmed_effectiveToken hserialState hwifiState h
  · intro hnone token h
    exact trimmed_heldToken hwifi hconfig hwifiState hnone h

/-- A token that is supplied later is in force. -/
theorem authenticationAgrees_of_update :
    AuthenticationAgrees (some (ascii "token"))
      (deviceAfter {} [.updateWifiApiToken (.external (ascii "token"))]) := by
  apply (authenticationAgrees_iff {} [.updateWifiApiToken (.external (ascii "token"))]
    (fun _ => CharPtr.noConfusion) (fun _ => CharPtr.noConfusion) ?_ ⟨?_, trivial⟩).mpr rfl
  · rintro p (rfl | rfl) token h
    · exact nomatch h
    · exact nomatch h
  · rintro p (rfl | rfl) token h
    · exact nomatch h
    · cases h
      decide +kernel

/-- A device with a serial token only, which falls back to it by default. -/
def serialTokenConfig : ESP32WiimoteConfig :=
  { auth := { serialPrivilegedToken := .external (ascii "serial") } }

/-- The fallback does not reach the handler: the serial token is rejected. -/
theorem not_authenticationAgrees_of_fallback :
    ¬AuthenticationAgrees ((deviceAfter serialTokenConfig []).effectiveToken
      (latestSupply serialTokenConfig [])) (deviceAfter serialTokenConfig []) := by
  intro hagrees
  have hpasses := (hagrees ⟨[], [], []⟩
    ⟨.Get, ascii "/api/wifi/control", some (ascii "Bearer serial"), none, 0⟩ 8192 {}
    (Esp32World.webApiState (.construct serialTokenConfig) []) rfl (by decide) (by decide +kernel)).mpr
    ⟨ascii "serial", by decide +kernel, by decide +kernel⟩
  exact absurd hpasses (by decide +kernel)

end Esp32Wiimote.Device
