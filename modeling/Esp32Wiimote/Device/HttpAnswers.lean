import Esp32Wiimote.Device.HttpHandler
import Esp32Wiimote.Web.JsonAnswers

/-!
# What a client finds in the answers

The server sends what the handler leaves in its buffer. A client that reads the body as JSON finds one whole
object: an error of the list where the request failed, and otherwise what became of the request. The object of
a snapshot tells it without loss.
-/

namespace Esp32Wiimote.Device

open CText JsonValue Web

/-! ## Every answer -/

/-- A whole answer is read back. -/
theorem readJson_of_answersWith {σ : Type} {size : ℕ} (hsize : 128 ≤ size)
    {tells : WebApiState σ → ℕ → Json → Prop} {answer : WebApiRouteResult × WebApiState σ} {value : Json}
    (h : AnswersWith size tells answer value) : readJson answer.2.responseBuf = some value := by
  rw [h.body, List.take_of_length_le (Nat.le_sub_one_of_lt (h.fits hsize)), readJson_write]

/-- A request is told of a success with one of two statuses. -/
theorem status_of_tells {σ : Type} {ctx : WebApiContext σ} {method path : CString} {request : WebRequestBody}
    {s t : WebApiState σ} {status : ℕ} {value : Json} (h : Tells ctx method path request s t status value) :
    status = 200 ∨ status = 202 := by
  cases h with
  | command _ _ _ htells =>
    cases htells with
    | carriedOut => exact .inl rfl
    | accepted => exact .inr rfl
    | scan => exact .inl rfl
  | commandStatus => exact .inl rfl
  | wiimoteStatus => exact .inl rfl
  | config => exact .inl rfl
  | wifiControlState => exact .inl rfl

/-- A JSON answer is no upgrade. -/
theorem not_upgrade_of_json {σ : Type} {ctx : WebApiContext σ} {method path : CString}
    {request : WebRequestBody} {size : ℕ} {s : WebApiState σ} {answer : WebApiRouteResult × WebApiState σ}
    (h : IsJsonAnswer size (Tells ctx method path request s) answer) : answer.1.httpStatus ≠ 101 := by
  obtain ⟨value, hvalue⟩ := h
  intro hstatus
  have hagrees := hvalue.agrees
  rw [AgreesWith, hstatus, if_neg (by decide)] at hagrees
  exact absurd (status_of_tells hagrees) (by decide)

/-- The device has no event stream, so nothing is upgraded. -/
theorem webSocketUpgrade_device (device : ESP32Wiimote) (method path : CString) :
    webSocketUpgrade (makeWebApiContext device) method path = none := if_neg fun h => by cases h.2

/-- Whatever the request is, its answer is one JSON object, unless the request is static. The object is an
error of the list exactly where the status is 400 or more, and tells what became of the request otherwise. -/
theorem handleWifiHttpRequest_json (assets : WebAssets) {request : WifiHttpRequest}
    (hstatic : ¬request.IsStatic) {responseBufSize : ℕ} (hsize : 128 ≤ responseBufSize)
    (response : WifiHttpResponse) (s : WebApiState Esp32World) :
    let answer := handleWifiHttpRequest assets request responseBufSize response s
    ∃ value,
      (if 400 ≤ answer.1.status then IsError answer.1.status value
        else Tells (makeWebApiContext s.userData.device) (wifiHttpMethodToString request.method) request.path
          ⟨request.body, request.bodyLen⟩ s answer.2 answer.1.status value) ∧
      answer.1.contentType = applicationJson ∧ readJson answer.2.responseBuf = some value := by
  intro answer
  have hpos : 0 < responseBufSize := by omega
  have hjson : IsJsonAnswer responseBufSize (Tells (makeWebApiContext s.userData.device)
      (wifiHttpMethodToString request.method) request.path ⟨request.body, request.bodyLen⟩ s)
      (webApiRoute assets (makeWebApiContext s.userData.device) (some (wifiHttpMethodToString request.method))
        (some request.path) request.authHeader ⟨request.body, request.bodyLen⟩ responseBufSize s) := by
    rcases json_webApiRoute (makeWebApiContext s.userData.device) hpos s _ _
      ⟨request.body, request.bodyLen⟩ assets hstatic request.authHeader with ⟨-, hupgrade⟩ | hjson
    · rw [webSocketUpgrade_device] at hupgrade
      cases hupgrade
    · exact hjson
  have hanswer : answer = handleWifiHttpRequest assets request responseBufSize response s := rfl
  rw [handleWifiHttpRequest, if_neg hpos.ne'] at hanswer
  dsimp only at hanswer
  rw [if_neg (not_upgrade_of_json hjson)] at hanswer
  obtain ⟨value, hvalue⟩ := hjson
  rw [hanswer]
  exact ⟨value, hvalue.agrees, hvalue.contentType, readJson_of_answersWith hsize hvalue⟩

/-- A request for the settings, of a client that knows the token. -/
def configRequest : WifiHttpRequest where
  method := .Get
  path := ascii "/api/wiimote/config"
  authHeader := some (ascii "Bearer token")
  body := none
  bodyLen := 0

/-- The device of that token. -/
def tokenWorld : Esp32World where
  device := .construct { auth := { wifiApiToken := .external (ascii "token") } }

/-- The answer to the request for the settings. -/
theorem handleWifiHttpRequest_json_config :
    let answer := handleWifiHttpRequest ⟨[], [], []⟩ configRequest 8192 {} (tokenWorld.webApiState [])
    ∃ value,
      (if 400 ≤ answer.1.status then IsError answer.1.status value
        else Tells (makeWebApiContext tokenWorld.device) (ascii "GET") (ascii "/api/wiimote/config") ⟨none, 0⟩
          (tokenWorld.webApiState []) answer.2 answer.1.status value) ∧
      answer.1.contentType = applicationJson ∧ readJson answer.2.responseBuf = some value :=
  handleWifiHttpRequest_json ⟨[], [], []⟩ (by decide +kernel) (by decide) {} (tokenWorld.webApiState [])

/-! ## Snapshots -/

/-- What the routes that are read answer with. -/
inductive Snapshot
  | wiimoteStatus (st : WebWiimoteStatusSnapshot)
  | config (cfg : WebConfigSnapshot)
  | wifiControlState (state : WebWifiControlStateSnapshot)

/-- The object a snapshot is serialized as. -/
def Snapshot.json : Snapshot → Json
  | .wiimoteStatus st => wiimoteStatusJson st
  | .config cfg => configJson cfg
  | .wifiControlState state => wifiControlStateJson state

/-- A byte is known from its number. -/
theorem toNat_cast_inj {a b : UInt8} : (a.toNat : ℤ) = b.toNat ↔ a = b := by
  rw [Int.natCast_inj, UInt8.toNat_inj]

/-- So is a word of 32 bits. -/
theorem toNat_cast_inj' {a b : UInt32} : (a.toNat : ℤ) = b.toNat ↔ a = b := by
  rw [Int.natCast_inj, UInt32.toNat_inj]

/-- The text of the delivery mode tells the mode. -/
theorem deliveryModeText_inj {a b : Bool} : deliveryModeText a = deliveryModeText b ↔ a = b := by
  revert a b
  decide +kernel

/-- The object of a status snapshot tells the snapshot. -/
theorem wiimoteStatusJson_inj {st st' : WebWiimoteStatusSnapshot} :
    wiimoteStatusJson st = wiimoteStatusJson st' ↔ st = st' := by
  cases st
  cases st'
  simp only [wiimoteStatusJson, Json.object.injEq, Json.bool.injEq, Json.number.injEq, List.cons.injEq,
    Prod.mk.injEq, toNat_cast_inj, true_and, and_true, WebWiimoteStatusSnapshot.mk.injEq]

/-- So does the object of a configuration snapshot. -/
theorem configJson_inj {cfg cfg' : WebConfigSnapshot} : configJson cfg = configJson cfg' ↔ cfg = cfg' := by
  cases cfg
  cases cfg'
  simp only [configJson, Json.object.injEq, Json.number.injEq, List.cons.injEq, Prod.mk.injEq,
    toNat_cast_inj', true_and, and_true, WebConfigSnapshot.mk.injEq]

/-- So does the object of a Wi-Fi state. -/
theorem wifiControlStateJson_inj {state state' : WebWifiControlStateSnapshot} :
    wifiControlStateJson state = wifiControlStateJson state' ↔ state = state' := by
  cases state
  cases state'
  simp only [wifiControlStateJson, Json.object.injEq, Json.bool.injEq, Json.string.injEq, List.cons.injEq,
    Prod.mk.injEq, deliveryModeText_inj, true_and, and_true, WebWifiControlStateSnapshot.mk.injEq]
  constructor <;> rintro ⟨rfl, rfl, rfl, rfl, rfl, rfl, rfl, rfl, rfl, rfl⟩ <;> simp

/-- The first key of the object, which tells the kind of a snapshot. -/
def firstMember : Json → Option JsonString
  | .object members => members.head?.map Prod.fst
  | _ => none

/-- The object of a snapshot tells the snapshot. -/
theorem snapshot_json_inj {snapshot other : Snapshot} : snapshot.json = other.json ↔ snapshot = other := by
  refine ⟨fun h => ?_, congrArg Snapshot.json⟩
  have hkey := congrArg firstMember h
  cases snapshot <;> cases other
  case wiimoteStatus.wiimoteStatus st st' => exact congrArg _ (wiimoteStatusJson_inj.mp h)
  case config.config cfg cfg' => exact congrArg _ (configJson_inj.mp h)
  case wifiControlState.wifiControlState state state' => exact congrArg _ (wifiControlStateJson_inj.mp h)
  all_goals exact absurd (Option.some.inj hkey) (by dsimp only; decide +kernel)

/-- The snapshot that the path is answered with. -/
def snapshotOn (path : CString) (w : Esp32World) : Option Snapshot :=
  if path = ascii "/api/wiimote/status" then some (.wiimoteStatus w.webGetWiimoteStatus)
  else if path = ascii "/api/wiimote/config" then some (.config w.webGetConfig)
  else if path = ascii "/api/wifi/control" then some (.wifiControlState w.webGetWifiControlState)
  else none

/-- A path with a snapshot is not one of the static files. -/
theorem snapshotOn_ne_static {path : CString} {w : Esp32World} {snapshot : Snapshot}
    (hpath : snapshotOn path w = some snapshot) :
    ¬(path = ascii "/" ∨ path = ascii "/index.html" ∨ path = ascii "/app.js" ∨ path = ascii "/styles.css" ∨
      path = ascii "/openapi.json") := by
  have hread : ∀ read ∈ [ascii "/api/wiimote/status", ascii "/api/wiimote/config", ascii "/api/wifi/control"],
      ¬(read = ascii "/" ∨ read = ascii "/index.html" ∨ read = ascii "/app.js" ∨ read = ascii "/styles.css" ∨
        read = ascii "/openapi.json") := by decide +kernel
  unfold snapshotOn at hpath
  split at hpath
  case isTrue hstatus =>
    rw [hstatus]
    exact hread _ List.mem_cons_self
  case isFalse =>
    split at hpath
    case isTrue hconfig =>
      rw [hconfig]
      exact hread _ (List.mem_cons_of_mem _ List.mem_cons_self)
    case isFalse =>
      split at hpath
      case isTrue hcontrol =>
        rw [hcontrol]
        exact hread _ (List.mem_cons_of_mem _ (List.mem_cons_of_mem _ List.mem_cons_self))
      case isFalse => cases hpath

/-- A snapshot is answered as a success where its text fits, and tells itself to the client. -/
structure TellsSnapshot {σ : Type} (size : ℕ) (snapshot : Snapshot)
    (answer : WebApiRouteResult × WebApiState σ) : Prop where
  status : answer.1.httpStatus = if snapshot.json.write.length < size then 200 else 500
  body : answer.1.httpStatus = 200 → readJson answer.2.responseBuf = some snapshot.json

/-- The response to a snapshot that was serialized tells it. -/
theorem tellsSnapshot_snapshotResponse {σ : Type} {size : ℕ} (snapshot : Snapshot)
    (failure : CommandDispatchMessageTemplate) (t : WebApiState σ) :
    TellsSnapshot size snapshot (snapshotResponse size (serialize size snapshot.json.write) failure t) := by
  have hne : snapshot.json.write ≠ [] := by
    cases snapshot <;> exact List.cons_ne_nil _ _
  rcases Nat.lt_or_ge snapshot.json.write.length size with hroom | hshort
  · rw [snapshotResponse, serialize_of_lt hne hroom]
    exact ⟨(if_pos hroom).symm, fun _ => readJson_write snapshot.json⟩
  · have hcut : (serialize size snapshot.json.write).1 ≠ .Ok := by
      rw [serialize_of_le hshort]
      decide
    rw [snapshotResponse, if_pos hcut]
    exact ⟨(if_neg hshort.not_gt).symm, fun h => absurd h (by decide : (500 : ℕ) ≠ 200)⟩

/-- It leaves the device as it was. -/
theorem snapshotResponse_userData {σ : Type} {size : ℕ} (serialized : WebSerializeResult × Option CString)
    (failure : CommandDispatchMessageTemplate) (t : WebApiState σ) :
    (snapshotResponse size serialized failure t).2.userData = t.userData := by
  unfold snapshotResponse
  split <;> rfl

/-- A path that is read goes to its handler. -/
theorem routeAuthorized_get {σ : Type} {ctx : WebApiContext σ} (hstream : ctx.hasEventStream = false)
    {path : CString} {route : RouteEntry σ} (hid : parseCommandStatusPath path = none)
    (hfound : (kRoutes.find? fun route : RouteEntry σ => route.method == ascii "GET" && route.path == path) =
      some route) (hbody : route.requiresBody = false) (request : WebRequestBody) (size : ℕ)
    (s : WebApiState σ) :
    routeAuthorized ctx (ascii "GET") path request size s = route.handler ctx .empty size s := by
  have hupgrade : webSocketUpgrade ctx (ascii "GET") path = none := by
    rw [webSocketUpgrade, if_neg]
    rintro ⟨-, hset⟩
    rw [hstream] at hset
    cases hset
  rw [routeAuthorized, if_pos rfl, handleGetCommandStatus, hid]
  dsimp only
  rw [hupgrade]
  dsimp only
  rw [dispatchRoute, hfound]
  dsimp only
  rw [hbody]
  rfl

/-- The route of a snapshot tells the snapshot of this device. -/
theorem routeAuthorized_snapshot (device : ESP32Wiimote) {path : CString} {w : Esp32World}
    {snapshot : Snapshot} (hpath : snapshotOn path w = some snapshot) (request : WebRequestBody) (size : ℕ)
    (responseBuf : CString) :
    TellsSnapshot size snapshot
        (routeAuthorized (makeWebApiContext device) (ascii "GET") path request size (w.webApiState responseBuf)) ∧
      (routeAuthorized (makeWebApiContext device) (ascii "GET") path request size
        (w.webApiState responseBuf)).2.userData = w := by
  suffices hanswer : ∃ failure t, routeAuthorized (makeWebApiContext device) (ascii "GET") path request size
      (w.webApiState responseBuf) = snapshotResponse size (serialize size snapshot.json.write) failure t ∧
        t.userData = w by
    obtain ⟨failure, t, hanswer, hsame⟩ := hanswer
    rw [hanswer]
    exact ⟨tellsSnapshot_snapshotResponse snapshot failure t, (snapshotResponse_userData _ _ t).trans hsame⟩
  unfold snapshotOn at hpath
  split at hpath
  case isTrue hstatus =>
    cases hpath
    subst hstatus
    rw [routeAuthorized_get rfl (by decide +kernel) rfl rfl]
    exact ⟨_, _, congrArg (snapshotResponse size · _ _) (serializeWiimoteStatus_eq size _), rfl⟩
  case isFalse =>
    split at hpath
    case isTrue hconfig =>
      cases hpath
      subst hconfig
      rw [routeAuthorized_get rfl (by decide +kernel) rfl rfl]
      exact ⟨_, _, congrArg (snapshotResponse size · _ _) (serializeConfig_eq size _), rfl⟩
    case isFalse =>
      split at hpath
      case isTrue hcontrol =>
        cases hpath
        subst hcontrol
        rw [routeAuthorized_get rfl (by decide +kernel) rfl rfl]
        exact ⟨_, _, congrArg (snapshotResponse size · _ _) (serializeWifiControlState_eq size _), rfl⟩
      case isFalse => cases hpath

/-! ## Requests of the device -/

/-- The device has no event stream, so that its routes are never upgraded. -/
theorem routeAuthorized_ne_upgrade (device : ESP32Wiimote) (method path : CString) (request : WebRequestBody)
    {size : ℕ} (hsize : 0 < size) (s : WebApiState Esp32World) :
    (routeAuthorized (makeWebApiContext device) method path request size s).1.httpStatus ≠ 101 := by
  rcases json_routeAuthorized (makeWebApiContext device) hsize s method path request with
    ⟨-, hupgrade⟩ | hjson
  · rw [webSocketUpgrade_device] at hupgrade
    cases hupgrade
  · exact not_upgrade_of_json hjson

/-- A request of an accepted header that is not static is answered by its route. -/
theorem handleWifiHttpRequest_of_accepted (assets : WebAssets) {request : WifiHttpRequest}
    (hstatic : ¬request.IsStatic) {s : WebApiState Esp32World}
    (hauth : webAuthValidate request.authHeader
      (s.userData.device.storage.read s.userData.device.getConfig.auth.wifiApiToken) = .Ok)
    {size : ℕ} (hsize : 0 < size) (response : WifiHttpResponse) :
    let answer := routeAuthorized (makeWebApiContext s.userData.device) (wifiHttpMethodToString request.method)
      request.path ⟨request.body, request.bodyLen⟩ size s
    handleWifiHttpRequest assets request size response s =
      (⟨answer.1.httpStatus, answer.1.contentType⟩, answer.2) := by
  intro answer
  have hroute : webApiRoute assets (makeWebApiContext s.userData.device)
      (some (wifiHttpMethodToString request.method)) (some request.path) request.authHeader
      ⟨request.body, request.bodyLen⟩ size s = answer := by
    rw [webApiRoute_of_accepted assets _ _ _ _ _ size s hsize hauth, tryServeStatic_eq_none hstatic,
      Option.getD_none]
  rw [handleWifiHttpRequest, if_neg hsize.ne', hroute]
  exact if_neg (routeAuthorized_ne_upgrade _ _ _ _ hsize s)

/-- A path that is read is answered with the snapshot of the device, which is not changed. A client that
reads the body of a success finds no other snapshot in it. -/
theorem handleWifiHttpRequest_snapshot (assets : WebAssets) {w : Esp32World} {path : CString}
    {snapshot : Snapshot} (hpath : snapshotOn path w = some snapshot) {authHeader : Option CString}
    (hauth : webAuthValidate authHeader (w.device.storage.read w.device.getConfig.auth.wifiApiToken) = .Ok)
    (body : Option (List UInt8)) (bodyLen : ℕ) {size : ℕ} (hsize : 0 < size) (response : WifiHttpResponse)
    (responseBuf : CString) :
    let answer := handleWifiHttpRequest assets ⟨.Get, path, authHeader, body, bodyLen⟩ size response
      (w.webApiState responseBuf)
    answer.1.status = (if snapshot.json.write.length < size then 200 else 500) ∧
      (answer.1.status = 200 → ∀ other : Snapshot,
        readJson answer.2.responseBuf = some other.json ↔ other = snapshot) ∧
      answer.2.userData = w := by
  intro answer
  have hstatic : ¬WifiHttpRequest.IsStatic ⟨.Get, path, authHeader, body, bodyLen⟩ := fun h =>
    snapshotOn_ne_static hpath h.2
  have hanswer : answer = _ := handleWifiHttpRequest_of_accepted assets hstatic hauth hsize response
  obtain ⟨htells, hsame⟩ := routeAuthorized_snapshot w.device hpath ⟨body, bodyLen⟩ size responseBuf
  have hread : answer.1.status = 200 → readJson answer.2.responseBuf = some snapshot.json := by
    rw [hanswer]
    exact htells.body
  refine ⟨?_, fun hok other => ?_, ?_⟩
  · rw [hanswer]
    exact htells.status
  · rw [hread hok, Option.some_inj, snapshot_json_inj, eq_comm]
  · rw [hanswer]
    exact hsame

/-- The settings of a new device are read back. -/
theorem handleWifiHttpRequest_snapshot_config :
    (handleWifiHttpRequest ⟨[], [], []⟩ configRequest 8192 {} (tokenWorld.webApiState [])).1.status = 200 ∧
      readJson (handleWifiHttpRequest ⟨[], [], []⟩ configRequest 8192 {}
        (tokenWorld.webApiState [])).2.responseBuf = some (Snapshot.config tokenWorld.webGetConfig).json := by
  have hpath : snapshotOn (ascii "/api/wiimote/config") tokenWorld =
      some (.config tokenWorld.webGetConfig) := rfl
  have hauth : webAuthValidate (some (ascii "Bearer token"))
      (tokenWorld.device.storage.read tokenWorld.device.getConfig.auth.wifiApiToken) = .Ok := by
    decide +kernel
  have hfits : (Snapshot.config tokenWorld.webGetConfig).json.write.length < 8192 := by decide +kernel
  have hanswer := handleWifiHttpRequest_snapshot ⟨[], [], []⟩ hpath hauth none 0 (by decide : 0 < 8192) {} []
  rw [if_pos hfits] at hanswer
  rw [configRequest]
  generalize handleWifiHttpRequest ⟨[], [], []⟩ _ 8192 {} (tokenWorld.webApiState []) = answer at hanswer ⊢
  exact ⟨hanswer.1, (hanswer.2.1 hanswer.1 (.config tokenWorld.webGetConfig)).mpr rfl⟩

end Esp32Wiimote.Device
