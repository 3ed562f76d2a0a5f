import Esp32Wiimote.Web.Auth
import Esp32Wiimote.Web.RouteHandlers

/-!
# The web API router

Static assets and the API description are served to everybody. Every other request is
authenticated first, and then goes to the status of a queued command, to a WebSocket
upgrade, or to the route of the table with its method and path; a POST body is parsed
before its handler runs.
-/

namespace Esp32Wiimote.Web

open CText

variable {σ : Type}

/-! ## Route table -/

/-- A response a route can give. -/
structure RouteResponseEntry where
  code : ℕ
  description : CString

/-- The response entry of a reason, described as another one. -/
def responseEntry (reason described : CommandDispatchReason) : RouteResponseEntry :=
  ⟨commandDispatchReasonToHttpStatus reason, commandDispatchReasonToOpenApiDescription described⟩

/-- The responses of the reads. -/
def kReadResponses : List RouteResponseEntry :=
  [responseEntry .Ok .Ok, responseEntry .BadArgument .BadArgument,
    responseEntry .Unauthorized .Unauthorized, responseEntry .PolicyBlocked .Locked]

/-- The responses of the commands. -/
def kCommandResponses : List RouteResponseEntry :=
  [responseEntry .Ok .Ok, responseEntry .BadArgument .BadArgument,
    responseEntry .Unauthorized .Unauthorized, responseEntry .PolicyBlocked .Locked,
    responseEntry .Rejected .Rejected]

/-- The responses of the Wi-Fi state. -/
def kWifiStateResponses : List RouteResponseEntry :=
  [⟨commandDispatchReasonToHttpStatus .Ok, ascii "Wi-Fi control lifecycle state"⟩,
    responseEntry .Unauthorized .Unauthorized]

/-- The responses of the Wi-Fi commands. -/
def kWifiCommandResponses : List RouteResponseEntry :=
  [responseEntry .Ok .Ok, responseEntry .BadArgument .BadArgument,
    responseEntry .Unauthorized .Unauthorized, responseEntry .Rejected .Rejected]

/-- The responses of the token command. -/
def kWifiTokenResponses : List RouteResponseEntry :=
  [responseEntry .Ok .Ok, responseEntry .BadArgument .BadArgument,
    responseEntry .Unauthorized .Unauthorized, responseEntry .PolicyBlocked .PolicyBlocked,
    responseEntry .Rejected .Rejected]

/-- The responses of the status of a queued command. -/
def kCommandStatusResponses : List RouteResponseEntry :=
  [⟨commandDispatchReasonToHttpStatus .Queued, ascii "Queued command status"⟩,
    responseEntry .BadArgument .BadArgument, responseEntry .Unauthorized .Unauthorized,
    responseEntry .PolicyBlocked .Locked,
    ⟨commandDispatchReasonToHttpStatus .NotFound, ascii "Command not found"⟩]

/-- A route as the API description shows it. -/
structure RouteDescription where
  method : CString
  path : CString
  summary : CString
  responses : List RouteResponseEntry

/-- A route: its description, its handler, and whether it takes a body. -/
structure RouteEntry (σ : Type) extends RouteDescription where
  handler : RouteHandler σ
  requiresBody : Bool

/-- A route that is read. -/
def getRoute (path : String) (handler : RouteHandler σ) (summary : String)
    (responses : List RouteResponseEntry) : RouteEntry σ :=
  ⟨⟨ascii "GET", ascii path, ascii summary, responses⟩, handler, false⟩

/-- A route that takes a command. -/
def postRoute (path : String) (handler : RouteHandler σ) (summary : String)
    (responses : List RouteResponseEntry) : RouteEntry σ :=
  ⟨⟨ascii "POST", ascii path, ascii summary, responses⟩, handler, true⟩

/-- The routes in the order of the source. -/
def kRoutes : List (RouteEntry σ) :=
  [getRoute "/api/wiimote/status" handleGetStatus "Get Wiimote status snapshot" kReadResponses,
    getRoute "/api/wiimote/config" handleGetConfig "Get runtime configuration snapshot"
      kReadResponses,
    getRoute "/api/wifi/control" handleGetWifiControl "Get Wi-Fi control lifecycle state"
      kWifiStateResponses,
    postRoute "/api/wiimote/commands/leds" handlePostLeds "Set LED mask" kCommandResponses,
    postRoute "/api/wiimote/commands/reporting-mode" handlePostReportingMode "Set reporting mode"
      kCommandResponses,
    postRoute "/api/wiimote/commands/accelerometer" handlePostAccelerometer
      "Enable or disable accelerometer parsing" kCommandResponses,
    postRoute "/api/wiimote/commands/request-status" handlePostRequestStatus
      "Request status report from controller" kCommandResponses,
    postRoute "/api/wiimote/commands/scan" handlePostScan "Start or stop scan" kCommandResponses,
    postRoute "/api/wiimote/commands/discovery" handlePostDiscovery "Start or stop discovery"
      kCommandResponses,
    postRoute "/api/wiimote/commands/disconnect" handlePostDisconnect
      "Disconnect active controller" kCommandResponses,
    postRoute "/api/wiimote/commands/reconnect-policy" handlePostReconnectPolicy
      "Set reconnect policy" kCommandResponses,
    postRoute "/api/wifi/control" handlePostWifiControl "Enable or disable Wi-Fi control"
      kWifiCommandResponses,
    postRoute "/api/wifi/delivery-mode" handlePostWifiMode "Set Wi-Fi delivery mode"
      kWifiCommandResponses,
    postRoute "/api/wifi/network" handlePostWifiNetwork "Update Wi-Fi network credentials"
      kWifiCommandResponses,
    postRoute "/api/wifi/restart" handlePostWifiRestart "Restart Wi-Fi control service"
      kWifiCommandResponses,
    postRoute "/api/wifi/token" handlePostWifiToken "Update Wi-Fi API token" kWifiTokenResponses]

/-- The route that is described but not in the table. -/
def kOpenApiExtraRoutes : List RouteDescription :=
  [⟨ascii "GET", ascii "/api/commands/\x7bid\x7d/status", ascii "Get queued command status",
    kCommandStatusResponses⟩]

/-! ## API description -/

/-- A writer into a fixed buffer: the text in front of the NUL, and the length of everything
formatted so far. -/
structure JsonWriter where
  buffer : CString
  size : ℕ
  written : ℕ

/-- Format a text behind what is written, as far as it fits; whether it fits. -/
def JsonWriter.appendFormat (writer : JsonWriter) (text : CString) : Bool × JsonWriter :=
  if writer.size = 0 then (false, writer)
  else
    let kOffset := if writer.written < writer.size then writer.written else writer.size - 1
    let kAvailable := writer.size - kOffset
    let kResult := snprintf kAvailable text
    if kResult.1 < 0 then (false, writer)
    else
      (decide (kResult.1.toNat < kAvailable),
        { writer with buffer := writer.buffer.take kOffset ++ kResult.2,
                      written := writer.written + kResult.1.toNat })

/-- Format texts one after the other. -/
def JsonWriter.appendAll (writer : JsonWriter) (texts : List CString) : JsonWriter :=
  texts.foldl (fun writer text => (writer.appendFormat text).2) writer

/-- The name of a method in the description. -/
def openApiMethodName (method : CString) : CString :=
  if method = ascii "GET" then ascii "get"
  else if method = ascii "POST" then ascii "post"
  else method

/-- The texts that describe the responses of a route. -/
def openApiResponses (responses : List RouteResponseEntry) : List CString :=
  [ascii "\"responses\":\x7b"] ++
    (List.intercalate [ascii ","] (responses.map fun response =>
      [ascii "\"" ++ decimal response.code ++ ascii "\":\x7b\"description\":\""
        ++ response.description ++ ascii "\"\x7d"])) ++
    [ascii "\x7d"]

/-- The texts that describe one method of a path. -/
def openApiOperation (route : RouteDescription) : List CString :=
  [ascii "\"" ++ openApiMethodName route.method ++ ascii "\":\x7b",
    ascii "\"summary\":\"" ++ route.summary ++ ascii "\",",
    ascii "\"security\":[\x7b\"bearerAuth\":[]\x7d]", ascii ","] ++
    openApiResponses route.responses ++ [ascii "\x7d"]

/-- The texts that describe a path with the operations of the routes on it. -/
def openApiPath (path : CString) (operations : List RouteDescription) : List CString :=
  [ascii "\"" ++ path ++ ascii "\":\x7b"] ++
    List.intercalate [ascii ","] (operations.map openApiOperation) ++ [ascii "\x7d"]

/-- Each path once, at its first route, with all the routes on it. -/
def openApiRoutePaths : List RouteDescription → List RouteDescription → List (List CString)
  | _, [] => []
  | seen, route :: rest =>
    if seen.any fun earlier => earlier.path == route.path then
      openApiRoutePaths (seen ++ [route]) rest
    else
      openApiPath route.path ((route :: rest).filter fun later => later.path == route.path) ::
        openApiRoutePaths (seen ++ [route]) rest

/-- The texts of the API description, in order. -/
def openApiTexts (routes extraRoutes : List RouteDescription) : List CString :=
  [ascii "\x7b\"openapi\":\"3.0.3\",\"info\":\x7b\"title\":\"ESP32Wiimote Wi-Fi API\"," ++
      ascii "\"version\":\"0.4.0\"\x7d,\"paths\":\x7b"] ++
    List.intercalate [ascii ","] (openApiRoutePaths [] routes ++
      extraRoutes.map fun route => openApiPath route.path [route]) ++
    [ascii "\x7d,\"components\":\x7b\"securitySchemes\":\x7b\"bearerAuth\":" ++
      ascii "\x7b\"type\":\"http\",\"scheme\":\"bearer\"\x7d\x7d\x7d\x7d"]

/-- Write the API description: the text in the buffer, and its full length. -/
def buildOpenApiJson (size : ℕ) : CString × ℕ :=
  let writer := (⟨[], size, 0⟩ : JsonWriter).appendAll
    (openApiTexts ((kRoutes : List (RouteEntry Unit)).map RouteEntry.toRouteDescription)
      kOpenApiExtraRoutes)
  (writer.buffer, writer.written)

/-! ## Static assets -/

/-- The files compiled into the program. -/
structure WebAssets where
  indexHtml : List UInt8
  appJs : List UInt8
  stylesCss : List UInt8

/-- A file that does not fit is an error. -/
def writeStaticResponse (body : List UInt8) (contentType : CString) (size : ℕ)
    (s : WebApiState σ) : WebApiRouteResult × WebApiState σ :=
  if size < body.length + 1 then
    reasonResponse size .InternalError (some (commandDispatchMessageText .ResponseBufferTooSmall)) s
  else (makeResult 200 contentType, s.respond (some body))

/-- The answer to a request that needs no authentication. -/
def tryServeStatic (assets : WebAssets) (method path : CString) (size : ℕ) (s : WebApiState σ) :
    Option (WebApiRouteResult × WebApiState σ) :=
  if method ≠ ascii "GET" then none
  else if path = ascii "/" ∨ path = ascii "/index.html" then
    some (writeStaticResponse assets.indexHtml (ascii "text/html") size s)
  else if path = ascii "/app.js" then
    some (writeStaticResponse assets.appJs (ascii "application/javascript") size s)
  else if path = ascii "/styles.css" then
    some (writeStaticResponse assets.stylesCss (ascii "text/css") size s)
  else if path = ascii "/openapi.json" then
    some (makeResult 200 applicationJson, s.respond (some (buildOpenApiJson size).1))
  else none

/-! ## Routing -/

/-- The channel of a path. -/
def webEventStreamMatchPath (path : CString) : Option WebEventStreamChannel :=
  if path = ascii "/api/wiimote/input/events" then some .Input
  else if path = ascii "/api/wiimote/status/events" then some .Status
  else none

/-- The body of a request: null, or its bytes and its length. -/
structure WebRequestBody where
  body : Option (List UInt8)
  bodyLen : ℕ

/-- Parse the body and run the handler. -/
def handleWithBody (ctx : WebApiContext σ) (handler : RouteHandler σ) (request : WebRequestBody)
    (size : ℕ) (s : WebApiState σ) : WebApiRouteResult × WebApiState σ :=
  if request.body = none ∨ request.bodyLen = 0 then
    reasonResponse size .MissingArgument (some (commandDispatchMessageText .MissingRequestBody)) s
  else
    let parsed := webRequestParse request.body request.bodyLen .empty
    if parsed.1 = .BodyTooLarge then
      reasonResponse size .BadArgument (some (commandDispatchMessageText .RequestBodyTooLarge)) s
    else if parsed.1 ≠ .Ok then
      reasonResponse size .BadArgument (some (commandDispatchMessageText .MalformedRequestBody)) s
    else handler ctx parsed.2.1 size s

/-- Dispatch an authenticated request that is neither a command status nor an upgrade. -/
def dispatchRoute (ctx : WebApiContext σ) (method path : CString) (request : WebRequestBody)
    (size : ℕ) (s : WebApiState σ) : WebApiRouteResult × WebApiState σ :=
  match kRoutes.find? fun route => route.method == method && route.path == path with
  | some route =>
    if route.requiresBody then handleWithBody ctx route.handler request size s
    else route.handler ctx .empty size s
  | none => reasonResponse size .NotFound none s

/-- The upgrade of a GET request on a path of the event stream. -/
def webSocketUpgrade (ctx : WebApiContext σ) (method path : CString) :
    Option WebEventStreamChannel :=
  if method = ascii "GET" ∧ ctx.hasEventStream then webEventStreamMatchPath path else none

/-- Route an authenticated request. -/
def routeAuthorized (ctx : WebApiContext σ) (method path : CString) (request : WebRequestBody)
    (size : ℕ) (s : WebApiState σ) : WebApiRouteResult × WebApiState σ :=
  match if method = ascii "GET" then handleGetCommandStatus path size s else none with
  | some answer => answer
  | none =>
    match webSocketUpgrade ctx method path with
    | some channel => ({ makeResult 101 applicationJson with upgradeChannel := channel }, s)
    | none => dispatchRoute ctx method path request size s

/-- Static files come first, then the check of the token, then the routes. -/
def webApiRoute (assets : WebAssets) (ctx : WebApiContext σ) (method path : Option CString)
    (authHeader : Option CString) (request : WebRequestBody) (size : ℕ) (s : WebApiState σ) :
    WebApiRouteResult × WebApiState σ :=
  match method, path with
  | some method, some path =>
    if size = 0 then (makeResult 400 applicationJson, s)
    else
      match tryServeStatic assets method path size s with
      | some answer => answer
      | none =>
        if webAuthValidate authHeader ctx.wifiApiToken ≠ .Ok then
          reasonResponse size .Unauthorized none s
        else routeAuthorized ctx method path request size s
  | _, _ => (makeResult 400 applicationJson, s)

end Esp32Wiimote.Web
