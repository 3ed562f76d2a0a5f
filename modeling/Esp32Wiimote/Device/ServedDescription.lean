import Esp32Wiimote.Device.HttpAnswers
import Esp32Wiimote.Web.ApiDescription

/-!
# The description that the device serves

The table of the router is described in full, in a text that fits in the buffer of the server. The paths and
methods in it are those of the requests that the device finds.
-/

namespace Esp32Wiimote.Device

open CText JsonValue Web

/-- The buffer of the server. -/
def kResponseBufSize : ℕ := 8192

/-! ## The table as JSON -/

/-- The routes of the table, as the description shows them. -/
def describedRoutes : List RouteDescription :=
  (kRoutes : List (RouteEntry Unit)).map RouteEntry.toRouteDescription

/-- The description that is served. -/
def apiJson : Json := openApiJson describedRoutes kOpenApiExtraRoutes

/-- A text of plain characters is plain. -/
theorem isPlain_ofList {chars : List Char} (h : chars.all isPlainChar = true) :
    isPlain (ascii (String.ofList chars)) = true := by
  refine List.all_eq_true.mpr fun c hc => ?_
  obtain ⟨hprintable, hquote, hbackslash⟩ := plain_ofList h c hc
  rw [hprintable, bne_iff_ne.mpr hquote, bne_iff_ne.mpr hbackslash]
  rfl

/-- The descriptions of the reasons are plain. -/
theorem isPlain_described (reason : CommandDispatchReason) :
    isPlain (commandDispatchReasonToOpenApiDescription reason) = true := by
  cases reason <;> exact isPlain_ofList rfl

/-- The tables of responses. -/
def responseTables : List (List RouteResponseEntry) :=
  [kReadResponses, kCommandResponses, kWifiStateResponses, kWifiCommandResponses, kWifiTokenResponses,
    kCommandStatusResponses]

/-- The descriptions in these tables are plain. -/
theorem isPlain_responses : ∀ responses ∈ responseTables, ∀ response ∈ responses,
    isPlain response.description = true := by
  simp only [responseTables, List.forall_mem_cons, List.not_mem_nil, false_implies, implies_true, and_true,
    kReadResponses, kCommandResponses, kWifiStateResponses, kWifiCommandResponses, kWifiTokenResponses,
    kCommandStatusResponses, responseEntry, isPlain_described, true_and]
  exact ⟨isPlain_ofList rfl, isPlain_ofList rfl, isPlain_ofList rfl⟩

section Routes

variable {path summary : String} {handler : RouteHandler Unit} {responses : List RouteResponseEntry}
  (hpath : isPlain (ascii path) = true) (hsummary : isPlain (ascii summary) = true)
  (hresponses : responses ∈ responseTables)

include hpath hsummary hresponses

/-- A route that is read is described in plain texts. -/
theorem isPlain_getRoute : (getRoute path handler summary responses).toRouteDescription.IsPlain := by
  have hmethod : openApiMethodName (ascii "GET") = ascii "get" := if_pos rfl
  refine ⟨?_, hpath, hsummary, isPlain_responses responses hresponses⟩
  exact (congrArg isPlain hmethod).trans (isPlain_ofList rfl)

/-- So is a route that is written. -/
theorem isPlain_postRoute : (postRoute path handler summary responses).toRouteDescription.IsPlain := by
  have hother : ascii "POST" ≠ ascii "GET" := by
    rw [ascii_ofList, ascii_ofList]
    decide
  have hmethod : openApiMethodName (ascii "POST") = ascii "post" := (if_neg hother).trans (if_pos rfl)
  refine ⟨?_, hpath, hsummary, isPlain_responses responses hresponses⟩
  exact (congrArg isPlain hmethod).trans (isPlain_ofList rfl)

end Routes

/-- The texts of the routes need no escape. -/
theorem isPlain_describedRoutes : ∀ route ∈ describedRoutes, route.IsPlain := by
  simp only [describedRoutes, kRoutes, List.map_cons, List.map_nil, List.forall_mem_cons]
  refine ⟨?_, ?_, ?_, ?_, ?_, ?_, ?_, ?_, ?_, ?_, ?_, ?_, ?_, ?_, ?_, ?_, ?_⟩
  iterate 3 exact isPlain_getRoute (isPlain_ofList rfl) (isPlain_ofList rfl) (by simp [responseTables])
  iterate 13 exact isPlain_postRoute (isPlain_ofList rfl) (isPlain_ofList rfl) (by simp [responseTables])
  exact fun route hroute => absurd hroute List.not_mem_nil

/-- The routes outside the API table are described in plain texts. -/
theorem isPlain_extraRoutes : ∀ route ∈ kOpenApiExtraRoutes, route.IsPlain := by
  have hmethod : openApiMethodName (ascii "GET") = ascii "get" := if_pos rfl
  refine List.forall_mem_singleton.mpr ⟨?_, isPlain_ofList rfl, isPlain_ofList rfl, ?_⟩
  · exact (congrArg isPlain hmethod).trans (isPlain_ofList rfl)
  · exact isPlain_responses _ (by simp [responseTables])

/-- The description is served whole where it fits, and is read back. -/
theorem readJson_buildOpenApiJson {size : ℕ} (hsize : (buildOpenApiJson size).2 < size) :
    readJson (buildOpenApiJson size).1 = some apiJson := by
  have hwritten := JsonWriter.appendAll_eq (Nat.zero_lt_of_lt hsize)
    (openApiTexts describedRoutes kOpenApiExtraRoutes)
  rw [flatten_openApiTexts isPlain_describedRoutes isPlain_extraRoutes] at hwritten
  have hbuild : buildOpenApiJson size = (apiJson.write.take (size - 1), apiJson.write.length) := by
    rw [buildOpenApiJson]
    change (((⟨[], size, 0⟩ : JsonWriter).appendAll (openApiTexts describedRoutes kOpenApiExtraRoutes)).buffer,
      ((⟨[], size, 0⟩ : JsonWriter).appendAll (openApiTexts describedRoutes kOpenApiExtraRoutes)).written) = _
    rw [hwritten]
    rfl
  rw [hbuild] at hsize ⊢
  rw [List.take_of_length_le (Nat.le_sub_one_of_lt hsize), readJson_write]

/-- A described route is read or written. -/
theorem method_describedRoutes : ∀ route ∈ describedRoutes, route.method ∈ [ascii "GET", ascii "POST"] := by
  simp only [describedRoutes, kRoutes, List.map_cons, List.map_nil, List.forall_mem_cons]
  refine ⟨?_, ?_, ?_, ?_, ?_, ?_, ?_, ?_, ?_, ?_, ?_, ?_, ?_, ?_, ?_, ?_, ?_⟩
  iterate 3 exact List.mem_cons_self
  iterate 13 exact List.mem_cons_of_mem _ List.mem_cons_self
  exact fun route hroute => absurd hroute List.not_mem_nil

/-- The routes of the table are described alike, whatever the user data are. -/
theorem exists_route_iff {σ : Type} {method path : CString} :
    (∃ route ∈ (kRoutes : List (RouteEntry σ)), route.method = method ∧ route.path = path) ↔
      ∃ route ∈ describedRoutes, route.method = method ∧ route.path = path := by
  have hsame : (kRoutes : List (RouteEntry σ)).map RouteEntry.toRouteDescription = describedRoutes := rfl
  rw [← hsame]
  constructor
  · rintro ⟨route, hroute, hmatched⟩
    exact ⟨route.toRouteDescription, List.mem_map_of_mem hroute, hmatched⟩
  · rintro ⟨shown, hshown, hmatched⟩
    obtain ⟨route, hroute, rfl⟩ := List.mem_map.mp hshown
    exact ⟨route, hroute, hmatched⟩

/-- A request whose method is known to the description is found where the description shows its path. -/
theorem dispatchRoute_found_iff {σ : Type} {method path : CString} (ctx : WebApiContext σ) (s : WebApiState σ)
    (size : ℕ) (request : WebRequestBody)
    (hmethod : method ∈ [ascii "GET", ascii "POST", ascii "UNKNOWN"])
    (hextra : path ≠ ascii "/api/commands/\x7bid\x7d/status") :
    (dispatchRoute ctx method path request size s).1.httpStatus ≠ 404 ↔
      (path, openApiMethodName method) ∈ describedOperations apiJson := by
  have hname : ∀ shown ∈ [ascii "GET", ascii "POST"], ∀ known ∈ [ascii "GET", ascii "POST", ascii "UNKNOWN"],
      (openApiMethodName shown = openApiMethodName known ↔ shown = known) := by
    decide +kernel
  have hpath : ∀ route ∈ kOpenApiExtraRoutes, route.path = ascii "/api/commands/\x7bid\x7d/status" :=
    List.forall_mem_singleton.mpr rfl
  rw [ne_eq, dispatchRoute_notFound_iff, apiJson, mem_describedOperations isPlain_describedRoutes isPlain_extraRoutes]
  push Not
  rw [exists_route_iff]
  constructor
  · rintro ⟨route, hroute, rfl, rfl⟩
    exact ⟨route, List.mem_append_left _ hroute, rfl, rfl⟩
  · rintro ⟨route, hroute, rfl, hsame⟩
    rcases List.mem_append.mp hroute with hroute | hroute
    · exact ⟨route, hroute, (hname _ (method_describedRoutes route hroute) method hmethod).mp hsame, rfl⟩
    · exact absurd (hpath route hroute) hextra

/-! ## What is described is answered -/

/-- The description is served as a static file. -/
theorem tryServeStatic_openApi {σ : Type} (assets : WebAssets) (size : ℕ) (s : WebApiState σ) :
    tryServeStatic assets (ascii "GET") (ascii "/openapi.json") size s =
      some (makeResult 200 applicationJson, s.respond (some (buildOpenApiJson size).1)) := by
  rw [tryServeStatic, if_neg (not_not.mpr rfl), if_neg (by decide +kernel), if_neg (by decide +kernel),
    if_neg (by decide +kernel), if_pos rfl]

/-- A request for it is answered with its text. -/
theorem handleWifiHttpRequest_openApi (assets : WebAssets) (authHeader : Option CString)
    (body : Option (List UInt8)) (bodyLen : ℕ) {size : ℕ} (hsize : 0 < size) (response : WifiHttpResponse)
    (s : WebApiState Esp32World) :
    (handleWifiHttpRequest assets ⟨.Get, ascii "/openapi.json", authHeader, body, bodyLen⟩ size response
      s).2.responseBuf = (buildOpenApiJson size).1 := by
  have hroute : webApiRoute assets (makeWebApiContext s.userData.device) (some (ascii "GET"))
      (some (ascii "/openapi.json")) authHeader ⟨body, bodyLen⟩ size s =
        (makeResult 200 applicationJson, s.respond (some (buildOpenApiJson size).1)) := by
    rw [webApiRoute, if_neg hsize.ne', tryServeStatic_openApi]
  rw [handleWifiHttpRequest, if_neg hsize.ne']
  dsimp only [wifiHttpMethodToString]
  rw [hroute]
  generalize (buildOpenApiJson size).1 = text
  rfl

/-- The description that the device serves tells which requests are found: those with a path and a method
that it shows. The status of a queued command is left out, as it depends on the command. -/
theorem described_iff_found (assets : WebAssets) (w : Esp32World) : ∃ doc : Json,
    (∀ authHeader body bodyLen response responseBuf,
      readJson (handleWifiHttpRequest assets ⟨.Get, ascii "/openapi.json", authHeader, body, bodyLen⟩
        kResponseBufSize response (w.webApiState responseBuf)).2.responseBuf = some doc) ∧
    ∀ request : WifiHttpRequest, ¬request.IsStatic →
      webAuthValidate request.authHeader
        (w.device.storage.read w.device.getConfig.auth.wifiApiToken) = .Ok →
      parseCommandStatusPath request.path = none → ∀ response responseBuf,
        ((handleWifiHttpRequest assets request kResponseBufSize response (w.webApiState responseBuf)).1.status ≠
            404 ↔
          (request.path, openApiMethodName (wifiHttpMethodToString request.method)) ∈
            describedOperations doc) := by
  refine ⟨apiJson, fun authHeader body bodyLen response responseBuf => ?_, ?_⟩
  · rw [handleWifiHttpRequest_openApi assets authHeader body bodyLen (by decide) response]
    exact readJson_buildOpenApiJson (by decide +kernel)
  · intro request hstatic hauth hid response responseBuf
    have hmethod : wifiHttpMethodToString request.method ∈ [ascii "GET", ascii "POST", ascii "UNKNOWN"] := by
      cases request.method <;> decide +kernel
    have hextra : request.path ≠ ascii "/api/commands/\x7bid\x7d/status" := by
      intro hpath
      rw [hpath] at hid
      exact absurd hid (by decide +kernel)
    rw [handleWifiHttpRequest_of_accepted assets hstatic hauth (by decide) response]
    have hnone : (if wifiHttpMethodToString request.method = ascii "GET" then
        handleGetCommandStatus request.path kResponseBufSize (w.webApiState responseBuf) else none) = none := by
      rw [handleGetCommandStatus, hid]
      exact ite_self none
    have hupgrade : webSocketUpgrade (makeWebApiContext w.device) (wifiHttpMethodToString request.method)
        request.path = none := if_neg fun h => by cases h.2
    have hroute : routeAuthorized (makeWebApiContext w.device) (wifiHttpMethodToString request.method)
        request.path ⟨request.body, request.bodyLen⟩ kResponseBufSize (w.webApiState responseBuf) =
          dispatchRoute (makeWebApiContext w.device) (wifiHttpMethodToString request.method) request.path
            ⟨request.body, request.bodyLen⟩ kResponseBufSize (w.webApiState responseBuf) := by
      rw [routeAuthorized, hnone]
      dsimp only
      rw [hupgrade]
    have hfound := dispatchRoute_found_iff (makeWebApiContext w.device) (w.webApiState responseBuf)
      kResponseBufSize ⟨request.body, request.bodyLen⟩ hmethod hextra
    rw [← hroute] at hfound
    exact hfound

/-- The request for the settings is found and described. -/
theorem config_described_and_found : ∃ doc : Json,
    readJson (handleWifiHttpRequest ⟨[], [], []⟩ ⟨.Get, ascii "/openapi.json", none, none, 0⟩ kResponseBufSize {}
      (tokenWorld.webApiState [])).2.responseBuf = some doc ∧
    (handleWifiHttpRequest ⟨[], [], []⟩ configRequest kResponseBufSize {}
      (tokenWorld.webApiState [])).1.status ≠ 404 ∧
    (ascii "/api/wiimote/config", ascii "get") ∈ describedOperations doc := by
  obtain ⟨doc, hserved, hfound⟩ := described_iff_found ⟨[], [], []⟩ tokenWorld
  have hiff := hfound configRequest (by decide +kernel) (by decide +kernel) (by decide +kernel) {} []
  have hanswered : (handleWifiHttpRequest ⟨[], [], []⟩ configRequest kResponseBufSize {}
      (tokenWorld.webApiState [])).1.status ≠ 404 := by
    decide +kernel
  exact ⟨doc, hserved none none 0 {} [], hanswered, hiff.mp hanswered⟩

end Esp32Wiimote.Device
