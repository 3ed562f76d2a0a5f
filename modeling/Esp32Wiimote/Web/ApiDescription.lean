import Esp32Wiimote.Web.JsonAnswers
import Esp32Wiimote.Web.WriterBuffer

/-!
# The API description as JSON

The description of the API is written piece by piece, with the commas between the pieces. The pieces are
the text of one JSON object, for every table of routes whose texts need no escape. The paths and methods
that a client finds in the object are the ones that the router answers.
-/

namespace Esp32Wiimote.Web

open CText JsonValue

/-! ## The object -/

/-- A text that needs no escape, as a JSON string. -/
def plainText (text : CString) : JsonString :=
  if h : text.all isPrintable = true then ⟨text, printable_of_all h⟩ else emptyString

/-- The text can stand in a JSON string without an escape. -/
def isPlain (text : CString) : Bool := text.all fun c => isPrintable c && c != 0x22 && c != 0x5C

/-- The object of a response. -/
def responseJson (response : RouteResponseEntry) : JsonString × Json :=
  (plainText (decimal response.code), .object [(jsonText "description", .string (plainText response.description))])

/-- The object of an operation. -/
def operationJson (route : RouteDescription) : JsonString × Json :=
  (plainText (openApiMethodName route.method),
    .object [(jsonText "summary", .string (plainText route.summary)),
      (jsonText "security", .array [.object [(jsonText "bearerAuth", .array [])]]),
      (jsonText "responses", .object (route.responses.map responseJson))])

/-- The object of a path. -/
def pathJson (path : CString) (operations : List RouteDescription) : JsonString × Json :=
  (plainText path, .object (operations.map operationJson))

/-- Each path once, at its first route, with all the routes on it. -/
def pathsJson : List RouteDescription → List RouteDescription → List (JsonString × Json)
  | _, [] => []
  | seen, route :: rest =>
    if seen.any fun earlier => earlier.path == route.path then pathsJson (seen ++ [route]) rest
    else
      pathJson route.path ((route :: rest).filter fun later => later.path == route.path) ::
        pathsJson (seen ++ [route]) rest

/-- The whole description. -/
def openApiJson (routes extraRoutes : List RouteDescription) : Json :=
  .object [(jsonText "openapi", .string (jsonText "3.0.3")),
    (jsonText "info", .object [(jsonText "title", .string (jsonText "ESP32Wiimote Wi-Fi API")),
      (jsonText "version", .string (jsonText "0.4.0"))]),
    (jsonText "paths", .object (pathsJson [] routes ++ extraRoutes.map fun route => pathJson route.path [route])),
    (jsonText "components", .object [(jsonText "securitySchemes",
      .object [(jsonText "bearerAuth", .object [(jsonText "type", .string (jsonText "http")),
        (jsonText "scheme", .string (jsonText "bearer"))])])])]

/-! ## The pieces are its text -/

/-- A string value is written as a string. -/
theorem write_string (s : JsonString) : (Json.string s).write = writeString s := by rw [Json.write]

/-- An object is its members in braces. -/
theorem write_members (members : List (JsonString × Json)) :
    (Json.object members).write = 0x7B :: (writeMembers members ++ [0x7D]) := by rw [Json.write]

section Plain

variable {text : CString}

/-- A plain text is its own JSON string. -/
theorem plainText_val (h : isPlain text = true) : (plainText text).val = text := by
  have hprintable : ∀ c ∈ text, isPrintable c = true := by
    intro c hc
    have hplain := List.all_eq_true.mp h c hc
    simp only [Bool.and_eq_true] at hplain
    exact hplain.1.1
  rw [plainText, dif_pos (List.all_eq_true.mpr hprintable)]

/-- It is written between quotes as it is. -/
theorem writeString_plainText (h : isPlain text = true) : writeString (plainText text) = 0x22 :: (text ++ [0x22]) := by
  have hval := plainText_val h
  rw [writeString_plain, hval]
  intro c hc
  rw [hval] at hc
  have hplain := List.all_eq_true.mp h c hc
  simp only [Bool.and_eq_true, bne_iff_ne] at hplain
  exact ⟨hplain.1.2, hplain.2⟩

/-- Digits are plain. -/
theorem isPlain_of_isdigit (h : ∀ c ∈ text, isdigit c = true) : isPlain text = true := by
  refine List.all_eq_true.mpr fun c hc => ?_
  have hdigit := h c hc
  simp only [isdigit, isPrintable, Bool.and_eq_true, decide_eq_true_eq, bne_iff_ne, ne_eq] at hdigit ⊢
  rw [UInt8.le_iff_toNat_le, UInt8.le_iff_toNat_le] at hdigit
  rw [UInt8.le_iff_toNat_le, UInt8.lt_iff_toNat_lt]
  have hlow : 0x30 ≤ c.toNat := hdigit.1
  have hhigh : c.toNat ≤ 0x39 := hdigit.2
  refine ⟨⟨⟨?_, ?_⟩, ?_⟩, ?_⟩
  · change 0x20 ≤ c.toNat
    omega
  · change c.toNat < 0x7F
    omega
  · rintro rfl
    exact absurd hlow (by decide)
  · rintro rfl
    exact absurd hhigh (by decide)

end Plain

/-- The texts of a route need no escape. -/
def RouteDescription.IsPlain (route : RouteDescription) : Prop :=
  isPlain (openApiMethodName route.method) = true ∧ isPlain route.path = true ∧
    isPlain route.summary = true ∧ ∀ response ∈ route.responses, isPlain response.description = true

instance : DecidablePred RouteDescription.IsPlain := fun _ => inferInstanceAs (Decidable (_ ∧ _))

/-- The pieces with commas between them, one after the other. -/
theorem flatten_intercalate (sep : CString) (pieces : List (List CString)) :
    (List.intercalate [sep] pieces).flatten = List.intercalate sep (pieces.map List.flatten) := by
  induction pieces with
  | nil => rfl
  | cons piece rest ih =>
    cases rest with
    | nil => rw [List.intercalate_singleton, List.map_singleton, List.intercalate_singleton]
    | cons next rest =>
      simp only [List.map_cons, List.intercalate_cons_cons, List.flatten_append, List.flatten_singleton] at ih ⊢
      rw [ih]

/-- A comma is one byte. -/
theorem ascii_comma : ascii "," = [0x2C] := ascii_ofList _

/-- The texts of a response are its object. -/
theorem flatten_response {response : RouteResponseEntry} (h : isPlain response.description = true) :
    [ascii "\"" ++ decimal response.code ++ ascii "\":\x7b\"description\":\""
        ++ response.description ++ ascii "\"\x7d"].flatten = writeMember (responseJson response) := by
  have hquote : ascii "\"" = [0x22] := ascii_ofList _
  have hopen : ascii "\":\x7b\"description\":\"" =
      0x22 :: 0x3A :: (firstKey (jsonText "description") ++ [0x22]) := by
    rw [firstKey, writeString_jsonText, ascii_ofList, ascii_ofList] <;> rfl
  rw [responseJson, writeMember, write_object, hquote, hopen, ascii_quote_brace,
    writeString_plainText (isPlain_of_isdigit (DecimalText.isNumeral_decimal response.code).2)]
  simp only [List.flatten_singleton, List.flatMap_nil, Json.write, writeString_plainText h, List.append_assoc,
    List.cons_append, List.nil_append]

/-- So are those of the responses of an operation. -/
theorem flatten_openApiResponses {responses : List RouteResponseEntry}
    (h : ∀ response ∈ responses, isPlain response.description = true) :
    (openApiResponses responses).flatten =
      writeString (jsonText "responses") ++ 0x3A :: (Json.object (responses.map responseJson)).write := by
  have hopen : ascii "\"responses\":\x7b" = writeString (jsonText "responses") ++ [0x3A, 0x7B] := by
    rw [writeString_jsonText, ascii_ofList, ascii_ofList] <;> rfl
  have hpieces : (responses.map fun response =>
      [ascii "\"" ++ decimal response.code ++ ascii "\":\x7b\"description\":\""
        ++ response.description ++ ascii "\"\x7d"]).map List.flatten =
      (responses.map responseJson).map writeMember := by
    rw [List.map_map, List.map_map]
    exact List.map_congr_left fun response hresponse => flatten_response (h response hresponse)
  rw [openApiResponses, List.flatten_append, List.flatten_append, flatten_intercalate, hpieces, ascii_comma,
    ← writeMembers_eq, Json.write, List.flatten_singleton, List.flatten_singleton, hopen, ascii_brace]
  simp only [List.append_assoc, List.cons_append, List.nil_append]

/-- So are those of an operation. -/
theorem flatten_openApiOperation {route : RouteDescription} (h : route.IsPlain) :
    (openApiOperation route).flatten = writeMember (operationJson route) := by
  obtain ⟨hmethod, -, htext, hresponses⟩ := h
  have hquote : ascii "\"" = [0x22] := ascii_ofList _
  have hopen : ascii "\":\x7b" = [0x22, 0x3A, 0x7B] := ascii_ofList _
  have hsummary : ascii "\"summary\":\"" = writeString (jsonText "summary") ++ [0x3A, 0x22] := by
    rw [writeString_jsonText, ascii_ofList, ascii_ofList] <;> rfl
  have hcomma : ascii "\"," = [0x22, 0x2C] := ascii_ofList _
  have hsecurity : ascii "\"security\":[\x7b\"bearerAuth\":[]\x7d]" =
      writeString (jsonText "security") ++ 0x3A ::
        (Json.array [.object [(jsonText "bearerAuth", .array [])]]).write := by
    rw [Json.write, writeElements, write_object, Json.write, writeElements, firstKey, writeString_jsonText,
      writeString_jsonText, ascii_ofList, ascii_ofList, ascii_ofList] <;> rfl
  rw [openApiOperation, List.flatten_append, List.flatten_append, flatten_openApiResponses hresponses,
    operationJson, writeMember, write_object, writeString_plainText hmethod, hquote, hopen, hsummary, hcomma,
    hsecurity, ascii_comma, ascii_brace]
  simp only [List.flatten_cons, List.flatten_nil, List.flatMap_cons, List.flatMap_nil, firstKey, nextKey,
    Json.write, writeString_plainText htext, List.append_assoc, List.cons_append, List.nil_append,
    List.append_nil]

/-- So are those of a path. -/
theorem flatten_openApiPath {path : CString} (hpath : isPlain path = true) {operations : List RouteDescription}
    (h : ∀ route ∈ operations, route.IsPlain) :
    (openApiPath path operations).flatten = writeMember (pathJson path operations) := by
  have hquote : ascii "\"" = [0x22] := ascii_ofList _
  have hopen : ascii "\":\x7b" = [0x22, 0x3A, 0x7B] := ascii_ofList _
  have hpieces : (operations.map openApiOperation).map List.flatten =
      (operations.map operationJson).map writeMember := by
    rw [List.map_map, List.map_map]
    exact List.map_congr_left fun route hroute => flatten_openApiOperation (h route hroute)
  rw [openApiPath, List.flatten_append, List.flatten_append, flatten_intercalate, hpieces, ascii_comma,
    ← writeMembers_eq, pathJson, writeMember, Json.write, writeString_plainText hpath, hquote, hopen, ascii_brace]
  simp only [List.flatten_singleton, List.append_assoc, List.cons_append, List.nil_append]

/-- So are those of all paths. -/
theorem flatten_openApiRoutePaths (seen : List RouteDescription) {routes : List RouteDescription}
    (h : ∀ route ∈ routes, route.IsPlain) :
    (openApiRoutePaths seen routes).map List.flatten = (pathsJson seen routes).map writeMember := by
  induction routes generalizing seen with
  | nil => rfl
  | cons route rest ih =>
    have hrest := ih (seen ++ [route]) fun later hlater => h later (List.mem_cons_of_mem route hlater)
    rw [openApiRoutePaths, pathsJson]
    split
    · exact hrest
    · rw [List.map_cons, List.map_cons, hrest]
      congr 1
      refine flatten_openApiPath (h route List.mem_cons_self).2.1 fun later hlater => h later ?_
      exact (List.mem_filter.mp hlater).1

/-- The pieces of the description are the text of the object. -/
theorem flatten_openApiTexts {routes extraRoutes : List RouteDescription}
    (hroutes : ∀ route ∈ routes, route.IsPlain) (hextra : ∀ route ∈ extraRoutes, route.IsPlain) :
    (openApiTexts routes extraRoutes).flatten = (openApiJson routes extraRoutes).write := by
  have hpieces : (openApiRoutePaths [] routes ++
        extraRoutes.map fun route => openApiPath route.path [route]).map List.flatten =
      (pathsJson [] routes ++ extraRoutes.map fun route => pathJson route.path [route]).map writeMember := by
    rw [List.map_append, List.map_append, flatten_openApiRoutePaths [] hroutes, List.map_map, List.map_map]
    congr 1
    refine List.map_congr_left fun route hroute => ?_
    refine flatten_openApiPath (hextra route hroute).2.1 fun other hother => ?_
    rw [List.mem_singleton.mp hother]
    exact hextra route hroute
  have hopen : ascii "\x7b\"openapi\":\"3.0.3\",\"info\":\x7b\"title\":\"ESP32Wiimote Wi-Fi API\"," ++
      ascii "\"version\":\"0.4.0\"\x7d,\"paths\":\x7b" =
      firstKey (jsonText "openapi") ++ (writeString (jsonText "3.0.3") ++ (nextKey (jsonText "info") ++
        ((Json.object [(jsonText "title", .string (jsonText "ESP32Wiimote Wi-Fi API")),
          (jsonText "version", .string (jsonText "0.4.0"))]).write ++
            (nextKey (jsonText "paths") ++ [0x7B])))) := by
    rw [write_object]
    simp only [List.flatMap_cons, List.flatMap_nil, Json.write, firstKey, nextKey]
    repeat rw [writeString_jsonText]
    repeat rw [ascii_ofList]
    all_goals rfl
  have hclose : ascii "\x7d,\"components\":\x7b\"securitySchemes\":\x7b\"bearerAuth\":" ++
      ascii "\x7b\"type\":\"http\",\"scheme\":\"bearer\"\x7d\x7d\x7d\x7d" =
      0x7D :: (nextKey (jsonText "components") ++ ((Json.object [(jsonText "securitySchemes",
        .object [(jsonText "bearerAuth", .object [(jsonText "type", .string (jsonText "http")),
          (jsonText "scheme", .string (jsonText "bearer"))])])]).write ++ [0x7D])) := by
    rw [write_object, write_object, write_object]
    simp only [List.flatMap_cons, List.flatMap_nil, Json.write, firstKey, nextKey]
    repeat rw [writeString_jsonText]
    repeat rw [ascii_ofList]
    all_goals rfl
  rw [openApiTexts, List.flatten_append, List.flatten_append, flatten_intercalate, hpieces, ascii_comma,
    ← writeMembers_eq, openApiJson, write_object, List.flatten_singleton, List.flatten_singleton, hopen, hclose,
    List.flatMap_cons, List.flatMap_cons, List.flatMap_cons, List.flatMap_nil]
  generalize pathsJson [] routes ++ extraRoutes.map (fun route => pathJson route.path [route]) = paths
  rw [write_string, write_members paths]
  simp only [List.append_assoc, List.cons_append, List.nil_append, List.append_nil]

/-! ## What a client finds -/

/-- The members of an object. -/
def jsonMembers : Json → List (JsonString × Json)
  | .object members => members
  | _ => []

/-- The methods on a path. -/
def pathOperations (path : JsonString × Json) : List (CString × CString) :=
  (jsonMembers path.2).map fun operation => (path.1.val, operation.1.val)

/-- The paths of a description with the methods on them. -/
def describedOperations (doc : Json) : List (CString × CString) :=
  ((jsonMembers doc).filter fun m => m.1 == jsonText "paths").flatMap fun paths =>
    (jsonMembers paths.2).flatMap pathOperations

section Operations

variable {path name : CString} {routes : List RouteDescription}

/-- A path has an operation exactly when one of its routes does. -/
theorem mem_pathOperations {shown : CString} (hpath : isPlain shown = true) (h : ∀ route ∈ routes, route.IsPlain) :
    (path, name) ∈ pathOperations (pathJson shown routes) ↔
      ∃ route ∈ routes, shown = path ∧ openApiMethodName route.method = name := by
  rw [pathOperations, pathJson, jsonMembers, List.map_map, List.mem_map, plainText_val hpath]
  have hname : ∀ route ∈ routes, (operationJson route).1.val = openApiMethodName route.method :=
    fun route hroute => plainText_val (h route hroute).1
  constructor
  · rintro ⟨route, hroute, hsame⟩
    obtain ⟨hshown, hmethod⟩ := Prod.mk.inj hsame
    exact ⟨route, hroute, hshown, (hname route hroute).symm.trans hmethod⟩
  · rintro ⟨route, hroute, rfl, rfl⟩
    exact ⟨route, hroute, Prod.ext rfl (hname route hroute)⟩

/-- Whatever was seen before, the paths that are not among it are shown with all their methods. -/
theorem mem_pathsJson (seen : List RouteDescription) (h : ∀ route ∈ routes, route.IsPlain) :
    (path, name) ∈ (pathsJson seen routes).flatMap pathOperations ↔
      (∀ earlier ∈ seen, earlier.path ≠ path) ∧
        ∃ route ∈ routes, route.path = path ∧ openApiMethodName route.method = name := by
  induction routes generalizing seen with
  | nil => simp only [pathsJson, List.flatMap_nil, List.not_mem_nil, false_and, exists_false, and_false]
  | cons route rest ih =>
    have hrest := ih (seen ++ [route]) fun later hlater => h later (List.mem_cons_of_mem route hlater)
    have hseen : (∀ earlier ∈ seen ++ [route], earlier.path ≠ path) ↔
        (∀ earlier ∈ seen, earlier.path ≠ path) ∧ route.path ≠ path := by
      rw [List.forall_mem_append, List.forall_mem_singleton]
    rw [hseen] at hrest
    rw [pathsJson]
    split
    case isTrue hknown =>
      -- the path of the route was seen, so that the route tells nothing new
      obtain ⟨earlier, hearlier, hsame⟩ := List.any_eq_true.mp hknown
      rw [beq_iff_eq] at hsame
      rw [hrest]
      constructor
      · rintro ⟨⟨hnot, -⟩, later, hlater, hshown⟩
        exact ⟨hnot, later, List.mem_cons_of_mem route hlater, hshown⟩
      · rintro ⟨hnot, later, hlater, hshown⟩
        have hother : route.path ≠ path := fun hpath => hnot earlier hearlier (hsame.trans hpath)
        rcases List.mem_cons.mp hlater with rfl | hlater
        · exact absurd hshown.1 hother
        · exact ⟨⟨hnot, hother⟩, later, hlater, hshown⟩
    case isFalse hnew =>
      have hsame : ∀ later ∈ (route :: rest).filter fun later => later.path == route.path, later.IsPlain :=
        fun later hlater => h later (List.mem_filter.mp hlater).1
      rw [List.flatMap_cons, List.mem_append, hrest, mem_pathOperations (h route List.mem_cons_self).2.1 hsame]
      constructor
      · rintro (⟨later, hlater, hpath, hname⟩ | ⟨⟨hnot, -⟩, later, hlater, hshown⟩)
        · obtain ⟨hmem, hlaterPath⟩ := List.mem_filter.mp hlater
          rw [beq_iff_eq] at hlaterPath
          refine ⟨fun earlier hearlier hearlierPath => hnew ?_, later, hmem, hlaterPath.trans hpath, hname⟩
          exact List.any_eq_true.mpr ⟨earlier, hearlier, beq_iff_eq.mpr (hearlierPath.trans hpath.symm)⟩
        · exact ⟨hnot, later, List.mem_cons_of_mem route hlater, hshown⟩
      · rintro ⟨hnot, later, hlater, hlaterPath, hname⟩
        by_cases hpath : route.path = path
        · exact .inl ⟨later, List.mem_filter.mpr ⟨hlater, beq_iff_eq.mpr (hlaterPath.trans hpath.symm)⟩, hpath, hname⟩
        · rcases List.mem_cons.mp hlater with rfl | hlater
          · exact absurd hlaterPath hpath
          · exact .inr ⟨⟨hnot, hpath⟩, later, hlater, hlaterPath, hname⟩

/-- The description shows the routes it is made of, and no others. -/
theorem mem_describedOperations {extraRoutes : List RouteDescription}
    (hroutes : ∀ route ∈ routes, route.IsPlain) (hextra : ∀ route ∈ extraRoutes, route.IsPlain) :
    (path, name) ∈ describedOperations (openApiJson routes extraRoutes) ↔
      ∃ route ∈ routes ++ extraRoutes, route.path = path ∧ openApiMethodName route.method = name := by
  have hdoc : describedOperations (openApiJson routes extraRoutes) =
      (pathsJson [] routes ++ extraRoutes.map fun route => pathJson route.path [route]).flatMap pathOperations := by
    have hother : (jsonText "openapi" == jsonText "paths") = false ∧ (jsonText "info" == jsonText "paths") = false ∧
        (jsonText "components" == jsonText "paths") = false := ⟨rfl, rfl, rfl⟩
    rw [describedOperations, openApiJson, jsonMembers, List.filter_cons, List.filter_cons, List.filter_cons,
      List.filter_cons, hother.1, hother.2.1, hother.2.2]
    exact List.append_nil _
  rw [hdoc, List.flatMap_append, List.mem_append, mem_pathsJson [] hroutes]
  constructor
  · rintro (⟨-, route, hroute, hshown⟩ | hshown)
    · exact ⟨route, List.mem_append_left _ hroute, hshown⟩
    · obtain ⟨shown, hmem, hoperation⟩ := List.mem_flatMap.mp hshown
      obtain ⟨route, hroute, rfl⟩ := List.mem_map.mp hmem
      have hplain : ∀ other ∈ [route], other.IsPlain := List.forall_mem_singleton.mpr (hextra route hroute)
      obtain ⟨other, hother, hpath, hname⟩ := (mem_pathOperations (hextra route hroute).2.1 hplain).mp hoperation
      rw [List.mem_singleton.mp hother] at hname
      exact ⟨route, List.mem_append_right _ hroute, hpath, hname⟩
  · rintro ⟨route, hroute, hpath, hname⟩
    rcases List.mem_append.mp hroute with hroute | hroute
    · exact .inl ⟨fun earlier hearlier => absurd hearlier List.not_mem_nil, route, hroute, hpath, hname⟩
    · refine .inr (List.mem_flatMap.mpr ⟨_, List.mem_map_of_mem hroute, ?_⟩)
      have hplain : ∀ other ∈ [route], other.IsPlain := List.forall_mem_singleton.mpr (hextra route hroute)
      exact (mem_pathOperations (hextra route hroute).2.1 hplain).mpr
        ⟨route, List.mem_singleton_self route, hpath, hname⟩

end Operations

/-! ## What is described is answered -/

section Found

variable {σ : Type} {ctx : WebApiContext σ} {s : WebApiState σ} {size : ℕ}

/-- A formatted response is not answered with 404, unless its status is. -/
theorem formattedResponse_found {status : ℕ} (hstatus : status ≠ 404) (text : CString) (t : WebApiState σ) :
    (formattedResponse size status text t).1.httpStatus ≠ 404 := by
  rw [formattedResponse_eq]
  split
  · exact hstatus
  · exact (by decide : 500 ≠ 404)

/-- No handler answers that the request was not found. -/
theorem PostForm.found {asked : Option WebApiCall} {queues : Bool}
    {answer : ℕ → WebApiRouteResult × WebApiState σ} (h : PostForm ctx s asked queues answer) :
    (answer size).1.httpStatus ≠ 404 := by
  have hargument : ∀ reason ∈ argumentReasons, commandDispatchReasonToHttpStatus reason ≠ 404 := by decide
  have hcall : ∀ reason ∈ callReasons, commandDispatchReasonToHttpStatus reason ≠ 404 := by decide
  induction h with
  | refused hreason message => exact hargument _ hreason
  | called hvoid hrejected =>
    unfold callOrReject
    dsimp only
    split
    · exact hcall _ (hrejected.form _).1
    · exact (by decide : 200 ≠ 404)
  | reconnectPolicy enabled => exact (by decide : 200 ≠ 404)
  | scan hcommand enabled => exact formattedResponse_found (by decide) _ _
  | queued path verb hdirect ih =>
    unfold queueOr enqueueCommandIfConfigured
    cases s.commandQueue with
    | none => exact ih
    | some queue =>
      dsimp only
      split
      · exact (by decide : 503 ≠ 404)
      · exact formattedResponse_found (by decide) _ _

/-- Nor is a snapshot. -/
theorem snapshotResponse_found (serialized : WebSerializeResult × Option CString)
    (failure : CommandDispatchMessageTemplate) (t : WebApiState σ) :
    (snapshotResponse size serialized failure t).1.httpStatus ≠ 404 := by
  unfold snapshotResponse
  split
  · exact (by decide : 500 ≠ 404)
  · exact (by decide : 200 ≠ 404)

/-- Nor is any route of the table. -/
theorem route_found {route : RouteEntry σ} (hroute : route ∈ kRoutes) (cmd : WebParsedCommand) :
    (route.handler ctx cmd size s).1.httpStatus ≠ 404 := by
  rcases route_form ctx hroute with ⟨-, -, hhandler⟩ | ⟨-, -, hform⟩
  · simp only [List.mem_cons, List.not_mem_nil, or_false] at hhandler
    rcases hhandler with hhandler | hhandler | hhandler <;> rw [hhandler]
    · exact snapshotResponse_found _ _ _
    · exact snapshotResponse_found _ _ _
    · exact snapshotResponse_found _ _ _
  · exact (hform cmd s).found

variable (ctx s) in
/-- A request is not found where the table has no route for it, and nowhere else. -/
theorem dispatchRoute_notFound_iff (method path : CString) (request : WebRequestBody) :
    (dispatchRoute ctx method path request size s).1.httpStatus = 404 ↔
      ∀ route ∈ (kRoutes : List (RouteEntry σ)), ¬(route.method = method ∧ route.path = path) := by
  unfold dispatchRoute
  split
  case h_1 route hfound =>
    have hroute := List.mem_of_find?_eq_some hfound
    have hmatched := List.find?_some hfound
    rw [Bool.and_eq_true, beq_iff_eq, beq_iff_eq] at hmatched
    refine iff_of_false ?_ fun hnone => hnone route hroute hmatched
    split
    · unfold handleWithBody
      dsimp only
      split
      · exact (by decide : 400 ≠ 404)
      · split
        · exact (by decide : 400 ≠ 404)
        · split
          · exact (by decide : 400 ≠ 404)
          · exact route_found hroute _
    · exact route_found hroute _
  case h_2 hnone =>
    refine iff_of_true rfl fun route hroute hmatched => ?_
    have hother := List.find?_eq_none.mp hnone route hroute
    rw [Bool.and_eq_true, beq_iff_eq, beq_iff_eq] at hother
    exact hother hmatched

end Found

end Esp32Wiimote.Web
