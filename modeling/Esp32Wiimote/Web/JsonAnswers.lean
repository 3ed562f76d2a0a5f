import Esp32Wiimote.Web.AnswerJson
import Esp32Wiimote.Web.Authorization
import Esp32Wiimote.Web.RequestLaw

/-!
# Requests are answered with JSON

Whatever a request is, its answer is one JSON object. Where the request fails it is an error of a fixed list,
with the message that goes with the status. Otherwise it tells what the request did or asked for: the command
that was carried out, the number that a command was queued under, the entry of a queued command, or a snapshot.
A buffer of 128 bytes holds each of the errors, and an answer that is longer is replaced by one.
-/

namespace Esp32Wiimote.Web

open CText JsonValue

variable {σ : Type}

/-! ## Messages -/

/-- A message that needs no escape and leaves room for the text around it. -/
def isMessage (message : CString) : Bool :=
  decide (message.length < 96) && message.all fun c => isPrintable c && c != 0x22 && c != 0x5C

/-- A short text of plain characters is a message. -/
theorem isMessage_ofList {chars : List Char} (hshort : chars.length < 96)
    (h : chars.all isPlainChar = true) : isMessage (ascii (String.ofList chars)) = true := by
  have hlength : (ascii (String.ofList chars)).length < 96 := by
    rwa [ascii_ofList, List.length_map]
  rw [isMessage, decide_eq_true hlength, Bool.true_and, List.all_eq_true]
  intro c hc
  obtain ⟨hprintable, hquote, hbackslash⟩ := plain_ofList h c hc
  rw [hprintable, bne_iff_ne.mpr hquote, bne_iff_ne.mpr hbackslash]
  rfl

/-- The message of a reason is one. -/
theorem isMessage_reason (reason : CommandDispatchReason) :
    isMessage (commandDispatchReasonToWebMessage reason) = true := by
  cases reason <;> exact isMessage_ofList (by decide) rfl

/-- So is every fixed text. -/
theorem isMessage_text (template : CommandDispatchMessageTemplate) :
    isMessage (commandDispatchMessageText template) = true := by
  cases template <;> exact isMessage_ofList (by decide) rfl

/-- A text in front of a message or behind it leaves a message. -/
theorem isMessage_append {first second : CString} (hfirst : isMessage first = true)
    (hsecond : isMessage second = true) (hshort : (first ++ second).length < 96) :
    isMessage (first ++ second) = true := by
  rw [isMessage, Bool.and_eq_true] at hfirst hsecond
  rw [isMessage, decide_eq_true hshort, Bool.true_and, List.all_append, hfirst.2, hsecond.2]
  rfl

/-- The text of a message about a field. -/
def fieldMessage (template : CommandDispatchFieldMessage) (field : CString) : CString :=
  match template with
  | .MissingField => ascii "missing field: " ++ field
  | .InvalidField => ascii "invalid field: " ++ field
  | .EmptyField => field ++ ascii " must not be empty"

/-- The fields that each message is about. -/
def messageFields : CommandDispatchFieldMessage → List CString
  | .MissingField =>
    [ascii "mask", ascii "mode", ascii "enabled", ascii "ssid", ascii "password", ascii "token"]
  | .InvalidField => [ascii "mask", ascii "mode", ascii "reason"]
  | .EmptyField => [ascii "ssid", ascii "password", ascii "token"]

/-- The names of the fields are short. -/
theorem isMessage_messageFields {template : CommandDispatchFieldMessage} {field : CString}
    (hfield : field ∈ messageFields template) : isMessage field = true ∧ field.length ≤ 8 := by
  have hnames : field = ascii "mask" ∨ field = ascii "mode" ∨ field = ascii "enabled" ∨ field = ascii "reason" ∨
      field = ascii "ssid" ∨ field = ascii "password" ∨ field = ascii "token" := by
    cases template <;> simp only [messageFields, List.mem_cons, List.not_mem_nil, or_false] at hfield <;> tauto
  rcases hnames with rfl | rfl | rfl | rfl | rfl | rfl | rfl
  all_goals exact ⟨isMessage_ofList (by decide) rfl, by rw [ascii_ofList]; decide⟩

/-- A message about a field is short, too. -/
theorem length_fieldMessage {template : CommandDispatchFieldMessage} {field : CString}
    (hfield : field ∈ messageFields template) : (fieldMessage template field).length < 32 := by
  have hshort := (isMessage_messageFields hfield).2
  have hmissing : ascii "missing field: " = _ := ascii_ofList _
  have hinvalid : ascii "invalid field: " = _ := ascii_ofList _
  have hempty : ascii " must not be empty" = _ := ascii_ofList _
  cases template
  case MissingField =>
    rw [fieldMessage, List.length_append, hmissing, List.length_map]
    exact Nat.add_lt_add_of_lt_of_le (by decide : _ < 24) hshort
  case InvalidField =>
    rw [fieldMessage, List.length_append, hinvalid, List.length_map]
    exact Nat.add_lt_add_of_lt_of_le (by decide : _ < 24) hshort
  case EmptyField =>
    rw [fieldMessage, List.length_append, hempty, List.length_map]
    exact Nat.add_lt_add_of_le_of_lt hshort (by decide : _ < 24)

/-- So is every text about a field. -/
theorem isMessage_field {template : CommandDispatchFieldMessage} {field : CString}
    (hfield : field ∈ messageFields template) : isMessage (fieldMessage template field) = true := by
  have hname := (isMessage_messageFields hfield).1
  have hshort : (fieldMessage template field).length < 96 := (length_fieldMessage hfield).trans (by decide)
  cases template
  case MissingField => exact isMessage_append (isMessage_ofList (by decide) rfl) hname hshort
  case InvalidField => exact isMessage_append (isMessage_ofList (by decide) rfl) hname hshort
  case EmptyField => exact isMessage_append hname (isMessage_ofList (by decide) rfl) hshort

/-- The buffers of the messages hold each message about a field. -/
theorem commandDispatchFormatMessage_eq {template : CommandDispatchFieldMessage} {field : CString}
    (hfield : field ∈ messageFields template) {outSize : ℕ} (hsize : 64 ≤ outSize) :
    commandDispatchFormatMessage template field outSize = (true, fieldMessage template field) := by
  have hlength := length_fieldMessage hfield
  have hformat : commandDispatchFormatMessage template field outSize =
      (decide (0 ≤ ((fieldMessage template field).length : ℤ) ∧
        ((fieldMessage template field).length : ℤ) < outSize),
        (fieldMessage template field).take (outSize - 1)) := by
    cases template <;> rfl
  rw [hformat, List.take_of_length_le (by omega), decide_eq_true (by omega)]

section Message

variable {message : CString}

/-- A message is short, printable, and has no quote or backslash. -/
theorem isMessage_iff : isMessage message = true ↔
    message.length < 96 ∧ ∀ c ∈ message, isPrintable c = true ∧ c ≠ 0x22 ∧ c ≠ 0x5C := by
  simp only [isMessage, Bool.and_eq_true, decide_eq_true_eq, List.all_eq_true, bne_iff_ne, and_assoc]

/-- The message as a JSON string. -/
def messageText (message : CString) (h : isMessage message = true) : JsonString :=
  ⟨message, fun c hc => ((isMessage_iff.mp h).2 c hc).1⟩

/-- An error is written with its message as it is. -/
theorem write_messageJson (h : isMessage message = true) : (errorJson (messageText message h)).write =
    ascii "\x7b\"status\":\"error\",\"message\":\"" ++ message ++ ascii "\"\x7d" :=
  write_errorJson fun c hc => ((isMessage_iff.mp h).2 c hc).2

/-- An error fits 128 bytes. -/
theorem length_write_messageJson (h : isMessage message = true) :
    (errorJson (messageText message h)).write.length < 128 := by
  have hshort := (isMessage_iff.mp h).1
  have hopen : (ascii "\x7b\"status\":\"error\",\"message\":\"").length = 29 := by
    rw [ascii_ofList]
    rfl
  rw [write_messageJson, List.length_append, List.length_append, hopen, ascii_quote_brace, List.length_cons,
    List.length_singleton]
  omega

end Message

/-! ## Errors -/

/-- The reasons that are answered with the message of the reason. -/
def plainReasons : List CommandDispatchReason := [.Unauthorized, .NotFound, .QueueFull] ++ callReasons

/-- The reasons that are answered with another text. -/
def textErrors : List (CommandDispatchReason × CommandDispatchMessageTemplate) :=
  [(.MissingArgument, .MissingRequestBody), (.BadArgument, .RequestBodyTooLarge),
    (.BadArgument, .MalformedRequestBody), (.BadArgument, .InvalidCommandId), (.BadArgument, .InvalidWifiMode),
    (.InvalidVerb, .UnknownScanVerb), (.InvalidVerb, .UnknownDiscoveryVerb),
    (.PolicyBlocked, .WifiApiTokenMutationDisabledByPolicy), (.NotFound, .CommandNotFound),
    (.InternalError, .ResponseBufferTooSmall), (.InternalError, .FailedSerializeWiimoteStatus),
    (.InternalError, .FailedSerializeRuntimeConfig), (.InternalError, .FailedSerializeWifiControlState)]

/-- The reason behind a message about a field. -/
def fieldReason : CommandDispatchFieldMessage → CommandDispatchReason
  | .MissingField => .MissingArgument
  | .InvalidField | .EmptyField => .BadArgument

/-- The messages about a field, with their status. -/
def fieldErrors (template : CommandDispatchFieldMessage) : List (ℕ × CString) :=
  (messageFields template).map fun field =>
    (commandDispatchReasonToHttpStatus (fieldReason template), fieldMessage template field)

/-- All errors that a request is answered with: the status and the message. -/
def apiErrors : List (ℕ × CString) :=
  (plainReasons.map fun reason =>
      (commandDispatchReasonToHttpStatus reason, commandDispatchReasonToWebMessage reason)) ++
    (textErrors.map fun error =>
      (commandDispatchReasonToHttpStatus error.1, commandDispatchMessageText error.2)) ++
    (fieldErrors .MissingField ++ fieldErrors .InvalidField ++ fieldErrors .EmptyField)

/-- A reason and its message are an error of the API. -/
theorem mem_apiErrors_reason {reason : CommandDispatchReason} (h : reason ∈ plainReasons) :
    (commandDispatchReasonToHttpStatus reason, commandDispatchReasonToWebMessage reason) ∈ apiErrors :=
  List.mem_append_left _ (List.mem_append_left _ (List.mem_map_of_mem h))

/-- So are a reason and one of its texts. -/
theorem mem_apiErrors_text {reason : CommandDispatchReason} {template : CommandDispatchMessageTemplate}
    (h : (reason, template) ∈ textErrors) :
    (commandDispatchReasonToHttpStatus reason, commandDispatchMessageText template) ∈ apiErrors :=
  List.mem_append_left _ (List.mem_append_right _ (List.mem_map_of_mem h))

/-- So are a reason and a text about a field. -/
theorem mem_apiErrors_field {template : CommandDispatchFieldMessage} {field : CString}
    (h : field ∈ messageFields template) :
    (commandDispatchReasonToHttpStatus (fieldReason template), fieldMessage template field) ∈ apiErrors := by
  apply List.mem_append_right
  have hlisted : (commandDispatchReasonToHttpStatus (fieldReason template), fieldMessage template field) ∈
      fieldErrors template := List.mem_map_of_mem h
  cases template
  case MissingField => exact List.mem_append_left _ (List.mem_append_left _ hlisted)
  case InvalidField => exact List.mem_append_left _ (List.mem_append_right _ hlisted)
  case EmptyField => exact List.mem_append_right _ hlisted

/-- Each error has a status from 400 on and a message that needs no escape. -/
theorem error_of_mem_apiErrors {status : ℕ} {message : CString} (h : (status, message) ∈ apiErrors) :
    400 ≤ status ∧ isMessage message = true := by
  have hfield : ∀ template, (status, message) ∈ fieldErrors template → 400 ≤ status ∧ isMessage message = true := by
    intro template hlisted
    obtain ⟨field, hfield, heq⟩ := List.mem_map.mp hlisted
    obtain ⟨rfl, rfl⟩ := Prod.mk.inj heq
    exact ⟨by cases template <;> decide, isMessage_field hfield⟩
  rcases List.mem_append.mp h with hfixed | hnamed
  · rcases List.mem_append.mp hfixed with hplain | htext
    · obtain ⟨reason, hreason, heq⟩ := List.mem_map.mp hplain
      obtain ⟨rfl, rfl⟩ := Prod.mk.inj heq
      have hstatus : ∀ reason ∈ plainReasons, 400 ≤ commandDispatchReasonToHttpStatus reason := by decide
      exact ⟨hstatus reason hreason, isMessage_reason reason⟩
    · obtain ⟨error, herror, heq⟩ := List.mem_map.mp htext
      obtain ⟨rfl, rfl⟩ := Prod.mk.inj heq
      have hstatus : ∀ error ∈ textErrors, 400 ≤ commandDispatchReasonToHttpStatus error.1 := by decide
      exact ⟨hstatus error herror, isMessage_text error.2⟩
  · rcases List.mem_append.mp hnamed with hnamed | hempty
    · rcases List.mem_append.mp hnamed with hmissing | hinvalid
      · exact hfield _ hmissing
      · exact hfield _ hinvalid
    · exact hfield _ hempty

/-- The object of an error of the list. -/
inductive IsError : ℕ → Json → Prop
  | listed {status : ℕ} {message : CString} (h : (status, message) ∈ apiErrors) :
      IsError status (errorJson (messageText message (error_of_mem_apiErrors h).2))

/-! ## Answers -/

/-- The state of a queued command as a JSON string. -/
def queueStatusText (status : WebCommandQueueStatus) : JsonString :=
  ⟨queueStatusToString status, by cases status <;> exact printable_ofList rfl⟩

/-- The result of a queued command as a JSON string. -/
def queueResultText (result : WebCommandQueueResult) : JsonString :=
  ⟨queueResultToString result, by cases result <;> exact printable_ofList rfl⟩

/-- The verb that starts or stops the scan. -/
def scanCommandText (scanEnabled : Bool) : JsonString :=
  if scanEnabled then jsonText "scan_start" else jsonText "scan_stop"

/-- What the object of a success tells about a command: the call that was asked for was made and accepted,
the command was queued under a number, or the scan was switched as the verb says. -/
inductive TellsCommand (asked : Option WebApiCall) (path verb : CString) (s t : WebApiState σ) :
    ℕ → Json → Prop
  | carriedOut {call : WebApiCall} (hasked : asked = some call)
      (hinvoked : t.invoked = s.invoked ++ [.command call true]) (hqueue : t.commandQueue = s.commandQueue) :
      TellsCommand asked path verb s t 200 okJson
  | accepted {queue : WebCommandQueue} {commandId : UInt32} (hconfigured : s.commandQueue = some queue)
      (hid : (webCommandQueueEnqueue queue path verb).1 = some commandId)
      (hqueue : t.commandQueue = some (webCommandQueueEnqueue queue path verb).2)
      (hinvoked : t.invoked = s.invoked) : TellsCommand asked path verb s t 202 (acceptedJson commandId)
  | scan {scanEnabled : Bool} (hpath : path = ascii "/api/wiimote/commands/scan")
      (hverb : verb = (scanCommandText scanEnabled).val)
      (hinvoked : t.invoked = s.invoked ++ [.command (.setScanEnabled scanEnabled) true])
      (hqueue : t.commandQueue = s.commandQueue) :
      TellsCommand asked path verb s t 200 (scanJson (scanCommandText scanEnabled) scanEnabled)

/-- The verb that a command is queued with; the request of a status drops it. -/
def queuedVerb (path : CString) (cmd : WebParsedCommand) : CString :=
  if path = ascii "/api/wiimote/commands/request-status" then [] else cmd.verb

/-- What the object of a success tells about the request, the state it found and the state it left: what
became of the command in the body, the entry of the queued command in the path, or the snapshot of the path. -/
inductive Tells (ctx : WebApiContext σ) (method path : CString) (request : WebRequestBody)
    (s t : WebApiState σ) : ℕ → Json → Prop
  | command {cmd : WebParsedCommand} {status : ℕ} {value : Json} (hmethod : method = ascii "POST")
      (hparsed : (webRequestParse request.body request.bodyLen .empty).1 = .Ok)
      (hcmd : (webRequestParse request.body request.bodyLen .empty).2.1 = cmd)
      (htells : TellsCommand (commandOn ctx path cmd).1 path (queuedVerb path cmd) s t status value) :
      Tells ctx method path request s t status value
  | commandStatus {commandId : UInt32} {queue : WebCommandQueue} {entry : WebCommandQueueEntry}
      (hmethod : method = ascii "GET") (hpath : parseCommandStatusPath path = some (some commandId))
      (hconfigured : s.commandQueue = some queue) (hentry : webCommandQueueGet queue commandId = some entry) :
      Tells ctx method path request s t 200
        (commandStatusJson commandId (queueStatusText entry.status) (queueResultText entry.result))
  | wiimoteStatus (hmethod : method = ascii "GET") (hpath : path = ascii "/api/wiimote/status") :
      Tells ctx method path request s t 200 (wiimoteStatusJson (ctx.getWiimoteStatus s.userData).1)
  | config (hmethod : method = ascii "GET") (hpath : path = ascii "/api/wiimote/config") :
      Tells ctx method path request s t 200 (configJson (ctx.getConfig s.userData).1)
  | wifiControlState (hmethod : method = ascii "GET") (hpath : path = ascii "/api/wifi/control") :
      Tells ctx method path request s t 200 (wifiControlStateJson (ctx.getWifiControlState s.userData).1)

/-- The object agrees with the status: an error of the list exactly where the request fails, and what the
request is told otherwise. -/
def AgreesWith (tells : WebApiState σ → ℕ → Json → Prop) (answer : WebApiRouteResult × WebApiState σ)
    (value : Json) : Prop :=
  if 400 ≤ answer.1.httpStatus then IsError answer.1.httpStatus value
  else tells answer.2 answer.1.httpStatus value

/-- The buffer holds the text of the object, which is whole where there are 128 bytes. -/
structure AnswersWith (size : ℕ) (tells : WebApiState σ → ℕ → Json → Prop)
    (answer : WebApiRouteResult × WebApiState σ) (value : Json) : Prop where
  agrees : AgreesWith tells answer value
  contentType : answer.1.contentType = applicationJson
  body : answer.2.responseBuf = value.write.take (size - 1)
  fits : 128 ≤ size → value.write.length < size

/-- The answer is a JSON object. -/
def IsJsonAnswer (size : ℕ) (tells : WebApiState σ → ℕ → Json → Prop)
    (answer : WebApiRouteResult × WebApiState σ) : Prop :=
  ∃ value, AnswersWith size tells answer value

/-- What an answer is told in one way it is told in a weaker one. -/
theorem IsJsonAnswer.mono {size : ℕ} {tells tells' : WebApiState σ → ℕ → Json → Prop}
    {answer : WebApiRouteResult × WebApiState σ} (h : IsJsonAnswer size tells answer)
    (hweaker : ∀ status value, tells answer.2 status value → tells' answer.2 status value) :
    IsJsonAnswer size tells' answer := by
  obtain ⟨value, hvalue⟩ := h
  refine ⟨value, ?_, hvalue.contentType, hvalue.body, hvalue.fits⟩
  have hagrees := hvalue.agrees
  unfold AgreesWith at hagrees ⊢
  split
  case isTrue hfails => rwa [if_pos hfails] at hagrees
  case isFalse hfails =>
    rw [if_neg hfails] at hagrees
    exact hweaker _ _ hagrees

section Responses

variable {size : ℕ} (hsize : 0 < size) {s : WebApiState σ} {tells : WebApiState σ → ℕ → Json → Prop}

include hsize

/-- The buffer has as much of the text as it can. -/
theorem serialize_snd (text : CString) : (serialize size text).2 = some (text.take (size - 1)) := by
  rw [serialize, if_neg (by omega)]
  rfl

/-- An error of the list is answered as such. -/
theorem json_errorResponse {status : ℕ} {message : CString} (h : (status, message) ∈ apiErrors) :
    IsJsonAnswer size tells (errorResponse size status message s) := by
  obtain ⟨hstatus, hmessage⟩ := error_of_mem_apiErrors h
  refine ⟨errorJson (messageText message hmessage), ?_, rfl, ?_, fun hroom => ?_⟩
  · exact (if_pos hstatus).mpr (.listed h)
  · rw [errorResponse, serializeError, serialize_snd hsize, write_messageJson]
    rfl
  · exact (length_write_messageJson hmessage).trans_le hroom

/-- A response with a reason is an answer in JSON. -/
theorem json_reasonResponse {reason : CommandDispatchReason} (h : reason ∈ plainReasons) :
    IsJsonAnswer size tells (reasonResponse size reason none s) :=
  json_errorResponse hsize (mem_apiErrors_reason h)

/-- So is one with a fixed text. -/
theorem json_textResponse {reason : CommandDispatchReason} {template : CommandDispatchMessageTemplate}
    (h : (reason, template) ∈ textErrors) :
    IsJsonAnswer size tells (reasonResponse size reason (some (commandDispatchMessageText template)) s) :=
  json_errorResponse hsize (mem_apiErrors_text h)

/-- A message about a field fits in its buffer, so the fixed text instead of it is never used. -/
theorem json_fieldResponse {template : CommandDispatchFieldMessage} {field : CString}
    (h : field ∈ messageFields template) {messageSize : ℕ} (hroom : 64 ≤ messageSize)
    (fallback : CommandDispatchMessageTemplate) :
    IsJsonAnswer size tells
      (fieldResponse size (fieldReason template) template messageSize fallback field s) := by
  rw [fieldResponse, commandDispatchFormatMessage_eq h hroom]
  exact json_errorResponse hsize (mem_apiErrors_field h)

/-- So is one about a missing field. -/
theorem json_missingField {field : CString} (h : field ∈ messageFields .MissingField) :
    IsJsonAnswer size tells (missingFieldResponse size field s) :=
  json_fieldResponse hsize h (by decide) _

/-- So is one about an invalid field. -/
theorem json_invalidField {field : CString} (h : field ∈ messageFields .InvalidField) :
    IsJsonAnswer size tells (invalidFieldResponse size field s) :=
  json_fieldResponse hsize h (by decide) _

/-- So is one about an empty field. -/
theorem json_emptyField {field : CString} (h : field ∈ messageFields .EmptyField) :
    IsJsonAnswer size tells (emptyFieldResponse size field s) :=
  json_fieldResponse hsize h (by decide) _

/-- A formatted answer is the object where its text fits, and an error where it does not. -/
theorem json_formattedResponse {status : ℕ} (hstatus : ¬400 ≤ status) {value : Json}
    (h : tells (s.respond (some value.write)) status value) :
    IsJsonAnswer size tells (formattedResponse size status value.write s) := by
  rw [formattedResponse_eq]
  split
  case isTrue hroom =>
    have hwhole : value.write.take (size - 1) = value.write := List.take_of_length_le (by omega)
    exact ⟨value, (if_neg hstatus).mpr h, rfl, hwhole.symm, fun _ => hroom⟩
  case isFalse => exact json_textResponse hsize (by decide)

/-- A snapshot is the object where its text fits, and an error where it does not. -/
theorem json_snapshotResponse {value : Json} (hne : value.write ≠ [])
    (h : tells (s.respond (some value.write)) 200 value) {failure : CommandDispatchMessageTemplate}
    (hfailure : (.InternalError, failure) ∈ textErrors) :
    IsJsonAnswer size tells (snapshotResponse size (serialize size value.write) failure s) := by
  rcases Nat.lt_or_ge value.write.length size with hroom | hshort
  · have hwhole : value.write.take (size - 1) = value.write := List.take_of_length_le (by omega)
    rw [snapshotResponse, serialize_of_lt hne hroom]
    exact ⟨value, h, rfl, hwhole.symm, fun _ => hroom⟩
  · have hcut : (serialize size value.write).1 ≠ .Ok := by
      rw [serialize_of_le hshort]
      decide
    rw [snapshotResponse, if_pos hcut]
    exact json_textResponse hsize hfailure

/-- A success is an answer in JSON that tells what was done. -/
theorem json_okResponse (h : ∀ written, tells (s.respond written) 200 okJson) :
    IsJsonAnswer size tells (okResponse size s) := by
  have hlength : okJson.write.length = 15 := by
    rw [write_okJson, ascii_ofList]
    rfl
  refine ⟨okJson, h _, rfl, ?_, fun hroom => by omega⟩
  rw [okResponse, serializeOk, serialize_snd hsize, write_okJson]
  rfl

/-- So is the number of a queued command. -/
theorem json_acceptedResponse {commandId : UInt32}
    (h : ∀ written, tells (s.respond written) 202 (acceptedJson commandId)) :
    IsJsonAnswer size tells (acceptedResponse size commandId s) := by
  rw [acceptedResponse, ← write_acceptedJson]
  exact json_formattedResponse hsize (by decide) (h _)

/-- So is the answer to a scan. -/
theorem json_scanCommandResponse (scanEnabled : Bool)
    (h : ∀ written, tells (s.respond written) 200 (scanJson (scanCommandText scanEnabled) scanEnabled)) :
    IsJsonAnswer size tells
      (scanCommandResponse size (scanCommandText scanEnabled).val scanEnabled s) := by
  have hplain : ∀ c ∈ (scanCommandText scanEnabled).val, c ≠ 0x22 ∧ c ≠ 0x5C := by
    cases scanEnabled <;> exact fun c hc => (plain_ofList rfl c hc).2
  rw [scanCommandResponse, ← write_scanJson hplain]
  exact json_formattedResponse hsize (by decide) (h _)

/-- So is the status of a queued command. -/
theorem json_commandStatus {entry : WebCommandQueueEntry}
    (h : ∀ written, tells (s.respond written) 200
      (commandStatusJson entry.id (queueStatusText entry.status) (queueResultText entry.result))) :
    IsJsonAnswer size tells (formattedResponse size 200
      (ascii "\x7b\"commandId\":" ++ decimal entry.id.toNat ++ ascii ",\"status\":\""
        ++ queueStatusToString entry.status ++ ascii "\",\"result\":\""
        ++ queueResultToString entry.result ++ ascii "\"\x7d") s) := by
  have hstatus : ∀ c ∈ (queueStatusText entry.status).val, c ≠ 0x22 ∧ c ≠ 0x5C := by
    cases entry.status <;> exact fun c hc => (plain_ofList rfl c hc).2
  have hresult : ∀ c ∈ (queueResultText entry.result).val, c ≠ 0x22 ∧ c ≠ 0x5C := by
    cases entry.result <;> exact fun c hc => (plain_ofList rfl c hc).2
  have hanswer := json_formattedResponse (s := s) hsize (by decide : ¬400 ≤ 200) (h _)
  rwa [write_commandStatusJson entry.id hstatus hresult] at hanswer

end Responses

/-! ## Commands -/

section Commands

variable {ctx : WebApiContext σ} {size : ℕ} (hsize : 0 < size) {s : WebApiState σ} {path verb : CString}

include hsize

/-- A call that is refused is answered with its reason, and one that is accepted was made. -/
theorem json_callOrReject {call : WebApiCall} {rejected : RejectReason σ} (h : IsRejectReason ctx rejected) :
    IsJsonAnswer size (TellsCommand (some call) path verb s) (callOrReject ctx call rejected size s) := by
  unfold callOrReject
  dsimp only
  cases hresult : (ctx.call call s.userData).1 with
  | false =>
    rw [WebApiContext.invoke, hresult]
    exact json_reasonResponse hsize (List.mem_append_right _ (h.form _).1)
  | true =>
    rw [WebApiContext.invoke, hresult]
    exact json_okResponse hsize fun _ => .carriedOut rfl rfl rfl

/-- A call without a result counts as made. -/
theorem json_invokeVoid (call : WebApiCall) :
    IsJsonAnswer size (TellsCommand (some call) path verb s) (okResponse size (ctx.invokeVoid call s)) :=
  json_okResponse hsize fun _ => .carriedOut rfl rfl rfl

/-- A command that is queued is answered with its number. -/
theorem json_queueOr {asked : Option WebApiCall} {direct : WebApiState σ → WebApiRouteResult × WebApiState σ}
    (h : IsJsonAnswer size (TellsCommand asked path verb s) (direct s)) :
    IsJsonAnswer size (TellsCommand asked path verb s) (queueOr path verb size direct s) := by
  unfold queueOr enqueueCommandIfConfigured
  cases hconfigured : s.commandQueue with
  | none => exact h
  | some queue =>
    dsimp only
    cases hid : (webCommandQueueEnqueue queue path verb).1 with
    | none => exact json_reasonResponse hsize (by decide)
    | some commandId => exact json_acceptedResponse hsize fun _ => .accepted hconfigured hid rfl rfl

variable (cmd : WebParsedCommand)

/-- The LED handler answers in JSON. -/
theorem json_handlePostLeds :
    IsJsonAnswer size (TellsCommand (ledsCall cmd) (ascii "/api/wiimote/commands/leds") cmd.verb s)
      (handlePostLeds ctx cmd size s) := by
  unfold handlePostLeds ledsCall
  cases findField cmd (ascii "mask") with
  | none => exact json_missingField hsize (by simp [messageFields])
  | some maskVal =>
    dsimp only [Option.bind_some]
    cases parseU8 maskVal with
    | none => exact json_invalidField hsize (by simp [messageFields])
    | some mask => exact json_queueOr hsize (json_callOrReject hsize .wiimoteCommand)

/-- So does the reporting-mode handler. -/
theorem json_handlePostReportingMode :
    IsJsonAnswer size
      (TellsCommand (reportingModeCall cmd) (ascii "/api/wiimote/commands/reporting-mode") cmd.verb s)
      (handlePostReportingMode ctx cmd size s) := by
  unfold handlePostReportingMode reportingModeCall
  cases findField cmd (ascii "mode") with
  | none => exact json_missingField hsize (by simp [messageFields])
  | some modeVal =>
    dsimp only [Option.bind_some]
    cases parseU8 modeVal with
    | none => exact json_invalidField hsize (by simp [messageFields])
    | some mode => exact json_queueOr hsize (json_callOrReject hsize .wiimoteCommand)

/-- So does the accelerometer handler. -/
theorem json_handlePostAccelerometer :
    IsJsonAnswer size
      (TellsCommand (enabledCall .setAccelEnabled cmd) (ascii "/api/wiimote/commands/accelerometer") cmd.verb s)
      (handlePostAccelerometer ctx cmd size s) := by
  unfold handlePostAccelerometer enabledCall
  cases findField cmd (ascii "enabled") with
  | none => exact json_missingField hsize (by simp [messageFields])
  | some enabledVal => exact json_queueOr hsize (json_callOrReject hsize .wiimoteCommand)

/-- So does the handler of the status request. -/
theorem json_handlePostRequestStatus :
    IsJsonAnswer size
      (TellsCommand (some .requestStatus) (ascii "/api/wiimote/commands/request-status") [] s)
      (handlePostRequestStatus ctx cmd size s) :=
  json_queueOr hsize (json_callOrReject hsize .wiimoteCommand)

/-- So does the scan handler. -/
theorem json_handlePostScan :
    IsJsonAnswer size (TellsCommand none (ascii "/api/wiimote/commands/scan") cmd.verb s)
      (handlePostScan ctx cmd size s) := by
  unfold handlePostScan
  split
  case isTrue hstart =>
    exact json_queueOr hsize (json_scanCommandResponse hsize true fun _ =>
      .scan rfl hstart rfl rfl)
  case isFalse =>
    split
    case isTrue hstop =>
      exact json_queueOr hsize (json_scanCommandResponse hsize false fun _ =>
        .scan rfl hstop rfl rfl)
    case isFalse => exact json_textResponse hsize (by decide)

/-- So does the discovery handler. -/
theorem json_handlePostDiscovery :
    IsJsonAnswer size (TellsCommand (discoveryCall cmd) (ascii "/api/wiimote/commands/discovery") cmd.verb s)
      (handlePostDiscovery ctx cmd size s) := by
  unfold handlePostDiscovery discoveryCall
  split
  · exact json_queueOr hsize (json_callOrReject hsize .discoveryStart)
  · split
    · exact json_queueOr hsize (json_callOrReject hsize .discoveryStop)
    · exact json_textResponse hsize (by decide)

/-- So does the disconnect handler. -/
theorem json_handlePostDisconnect :
    IsJsonAnswer size (TellsCommand (disconnectCall cmd) (ascii "/api/wiimote/commands/disconnect") cmd.verb s)
      (handlePostDisconnect ctx cmd size s) := by
  unfold handlePostDisconnect disconnectCall
  cases (findField cmd (ascii "reason")).elim (some 0x16) parseU8 with
  | none => exact json_invalidField hsize (by simp [messageFields])
  | some reason => exact json_queueOr hsize (json_callOrReject hsize .disconnect)

/-- So does the reconnect-policy handler. -/
theorem json_handlePostReconnectPolicy :
    IsJsonAnswer size
      (TellsCommand (enabledCall .setAutoReconnect cmd) (ascii "/api/wiimote/commands/reconnect-policy")
        cmd.verb s) (handlePostReconnectPolicy ctx cmd size s) := by
  unfold handlePostReconnectPolicy enabledCall
  cases findField cmd (ascii "enabled") with
  | none => exact json_missingField hsize (by simp [messageFields])
  | some enabledVal => exact json_queueOr hsize (json_invokeVoid hsize _)

/-- So does the Wi-Fi control handler. -/
theorem json_handlePostWifiControl :
    IsJsonAnswer size (TellsCommand (enabledCall .setWifiControlEnabled cmd) path verb s)
      (handlePostWifiControl ctx cmd size s) := by
  unfold handlePostWifiControl enabledCall
  cases findField cmd (ascii "enabled") with
  | none => exact json_missingField hsize (by simp [messageFields])
  | some enabledVal => exact json_callOrReject hsize .rejected

/-- So does the delivery-mode handler. -/
theorem json_handlePostWifiMode :
    IsJsonAnswer size (TellsCommand (wifiModeCall cmd) path verb s) (handlePostWifiMode ctx cmd size s) := by
  unfold handlePostWifiMode wifiModeCall
  cases findField cmd (ascii "mode") with
  | none => exact json_missingField hsize (by simp [messageFields])
  | some modeVal =>
    dsimp only [Option.bind_some]
    split
    · exact json_callOrReject hsize .rejected
    · split
      · exact json_callOrReject hsize .rejected
      · exact json_textResponse hsize (by decide)

/-- So does the network handler. -/
theorem json_handlePostWifiNetwork :
    IsJsonAnswer size (TellsCommand (wifiNetworkCall cmd) path verb s)
      (handlePostWifiNetwork ctx cmd size s) := by
  unfold handlePostWifiNetwork wifiNetworkCall
  cases findField cmd (ascii "ssid") with
  | none => exact json_missingField hsize (by simp [messageFields])
  | some ssid =>
    cases findField cmd (ascii "password") with
    | none => exact json_missingField hsize (by simp [messageFields])
    | some password =>
      dsimp only [Option.bind_some]
      by_cases hssid : ssid = []
      · rw [if_pos hssid]
        exact json_emptyField hsize (by simp [messageFields])
      by_cases hpassword : password = []
      · rw [if_neg hssid, if_pos hpassword]
        exact json_emptyField hsize (by simp [messageFields])
      rw [if_neg hssid, if_neg hpassword, if_neg (not_or.mpr ⟨hssid, hpassword⟩)]
      exact json_callOrReject hsize .rejected

/-- So does the restart handler. -/
theorem json_handlePostWifiRestart :
    IsJsonAnswer size (TellsCommand (some .restartWifiControl) path verb s)
      (handlePostWifiRestart ctx cmd size s) :=
  json_callOrReject hsize .wifiControlDisabled

/-- So does the token handler. -/
theorem json_handlePostWifiToken :
    IsJsonAnswer size (TellsCommand (wifiTokenCall ctx.allowWifiApiTokenMutation cmd) path verb s)
      (handlePostWifiToken ctx cmd size s) := by
  unfold handlePostWifiToken wifiTokenCall
  cases ctx.allowWifiApiTokenMutation with
  | false => exact json_textResponse hsize (by decide)
  | true =>
    simp only [Bool.not_true, Bool.false_eq_true, if_false, if_true]
    cases findField cmd (ascii "token") with
    | none => exact json_missingField hsize (by simp [messageFields])
    | some token =>
      dsimp only [Option.bind_some]
      split
      · exact json_emptyField hsize (by simp [messageFields])
      · exact json_callOrReject hsize .rejected

end Commands

/-! ## Routes -/

/-- A lookup gives the entry with the number that was asked for. -/
theorem id_of_webCommandQueueGet {queue : WebCommandQueue} {commandId : UInt32}
    {entry : WebCommandQueueEntry} (h : webCommandQueueGet queue commandId = some entry) :
    entry.id = commandId := by
  unfold webCommandQueueGet at h
  split at h
  · cases h
  · have hfound : isCommand commandId entry = true := List.find?_some h
    exact beq_iff_eq.mp (Bool.and_eq_true_iff.mp hfound).2

section Routes

variable (ctx : WebApiContext σ) {size : ℕ} (hsize : 0 < size) (s : WebApiState σ)

include hsize

/-- A route of the table is read and answered with its snapshot, or takes a command and tells what became
of it. -/
theorem json_route {route : RouteEntry σ} (hroute : route ∈ kRoutes) :
    (route.requiresBody = false ∧ ∀ request, IsJsonAnswer size (Tells ctx route.method route.path request s)
        (route.handler ctx .empty size s)) ∨
      (route.requiresBody = true ∧ route.method = ascii "POST" ∧ ∀ cmd, IsJsonAnswer size
        (TellsCommand (commandOn ctx route.path cmd).1 route.path (queuedVerb route.path cmd) s)
          (route.handler ctx cmd size s)) := by
  have hopen : ∀ members, (Json.object members).write ≠ [] := fun members => List.cons_ne_nil _ _
  simp only [kRoutes, List.mem_cons, List.not_mem_nil, or_false] at hroute
  rcases hroute with rfl | rfl | rfl | rfl | rfl | rfl | rfl | rfl | rfl | rfl | rfl | rfl | rfl |
    rfl | rfl | rfl
  · refine .inl ⟨rfl, fun request => ?_⟩
    change IsJsonAnswer size _ (snapshotResponse size (serializeWiimoteStatus size _) _ _)
    rw [serializeWiimoteStatus_eq]
    exact json_snapshotResponse hsize (hopen _) (.wiimoteStatus rfl rfl) (by decide)
  · refine .inl ⟨rfl, fun request => ?_⟩
    change IsJsonAnswer size _ (snapshotResponse size (serializeConfig size _) _ _)
    rw [serializeConfig_eq]
    exact json_snapshotResponse hsize (hopen _) (.config rfl rfl) (by decide)
  · refine .inl ⟨rfl, fun request => ?_⟩
    change IsJsonAnswer size _ (snapshotResponse size (serializeWifiControlState size _) _ _)
    rw [serializeWifiControlState_eq]
    exact json_snapshotResponse hsize (hopen _) (.wifiControlState rfl rfl) (by decide)
  · exact .inr ⟨rfl, rfl, json_handlePostLeds hsize⟩
  · exact .inr ⟨rfl, rfl, json_handlePostReportingMode hsize⟩
  · exact .inr ⟨rfl, rfl, json_handlePostAccelerometer hsize⟩
  · exact .inr ⟨rfl, rfl, json_handlePostRequestStatus hsize⟩
  · exact .inr ⟨rfl, rfl, json_handlePostScan hsize⟩
  · exact .inr ⟨rfl, rfl, json_handlePostDiscovery hsize⟩
  · exact .inr ⟨rfl, rfl, json_handlePostDisconnect hsize⟩
  · exact .inr ⟨rfl, rfl, json_handlePostReconnectPolicy hsize⟩
  · exact .inr ⟨rfl, rfl, fun cmd => json_handlePostWifiControl hsize cmd⟩
  · exact .inr ⟨rfl, rfl, fun cmd => json_handlePostWifiMode hsize cmd⟩
  · exact .inr ⟨rfl, rfl, fun cmd => json_handlePostWifiNetwork hsize cmd⟩
  · exact .inr ⟨rfl, rfl, fun cmd => json_handlePostWifiRestart hsize cmd⟩
  · exact .inr ⟨rfl, rfl, fun cmd => json_handlePostWifiToken hsize cmd⟩

variable {method path : CString} (request : WebRequestBody)

/-- The status of a queued command is answered in JSON. -/
theorem json_handleGetCommandStatus (hmethod : method = ascii "GET")
    {answer : WebApiRouteResult × WebApiState σ} (h : handleGetCommandStatus path size s = some answer) :
    IsJsonAnswer size (Tells ctx method path request s) answer := by
  unfold handleGetCommandStatus at h
  split at h
  case h_1 => cases h
  case h_2 =>
    cases h
    exact json_textResponse hsize (by decide)
  case h_3 commandId hpath =>
    split at h
    case h_1 =>
      cases h
      exact json_reasonResponse hsize (by decide)
    case h_2 queue hconfigured =>
      split at h
      case h_1 =>
        cases h
        exact json_textResponse hsize (by decide)
      case h_2 entry hentry =>
        cases h
        have hid := id_of_webCommandQueueGet hentry
        apply json_commandStatus hsize
        intro written
        rw [hid]
        exact .commandStatus hmethod hpath hconfigured hentry

/-- Every route answers in JSON. -/
theorem json_dispatchRoute :
    IsJsonAnswer size (Tells ctx method path request s) (dispatchRoute ctx method path request size s) := by
  unfold dispatchRoute
  split
  case h_1 route hfound =>
    have hmatched := List.find?_some hfound
    simp only [Bool.and_eq_true, beq_iff_eq] at hmatched
    obtain ⟨rfl, rfl⟩ := hmatched
    rcases json_route ctx hsize s (List.mem_of_find?_eq_some hfound) with
      ⟨hbody, hsnapshot⟩ | ⟨hbody, hpost, hcommand⟩
    · rw [hbody]
      exact hsnapshot request
    · rw [hbody, if_pos rfl]
      unfold handleWithBody
      dsimp only
      split
      · exact json_textResponse hsize (by decide)
      · split
        · exact json_textResponse hsize (by decide)
        · split
          · exact json_textResponse hsize (by decide)
          · rename_i hparsed
            exact (hcommand _).mono fun _ _ htells => .command hpost (not_not.mp hparsed) rfl htells
  case h_2 => exact json_reasonResponse hsize (by decide)

variable (method path)

/-- An authorized request is upgraded, or answered with a JSON object. -/
theorem json_routeAuthorized :
    ((routeAuthorized ctx method path request size s).1.httpStatus = 101 ∧
        (webSocketUpgrade ctx method path).isSome) ∨
      IsJsonAnswer size (Tells ctx method path request s)
        (routeAuthorized ctx method path request size s) := by
  unfold routeAuthorized
  split
  case h_1 answer hanswer =>
    right
    split at hanswer
    case isTrue hmethod => exact json_handleGetCommandStatus ctx hsize s request hmethod hanswer
    case isFalse => cases hanswer
  case h_2 =>
    split
    case h_1 channel hchannel => exact .inl ⟨rfl, by rw [hchannel]; rfl⟩
    case h_2 => exact .inr (json_dispatchRoute ctx hsize s request)

/-- Whatever the request is, it is upgraded or answered with a JSON object, unless it is static. -/
theorem json_webApiRoute (assets : WebAssets) (hstatic : ¬IsStaticRequest method path)
    (authHeader : Option CString) :
    ((webApiRoute assets ctx (some method) (some path) authHeader request size s).1.httpStatus = 101 ∧
        (webSocketUpgrade ctx method path).isSome) ∨
      IsJsonAnswer size (Tells ctx method path request s)
        (webApiRoute assets ctx (some method) (some path) authHeader request size s) := by
  have hserved := tryServeStatic_eq_none hstatic assets size s
  by_cases hauth : webAuthValidate authHeader ctx.wifiApiToken = .Ok
  · rw [webApiRoute_of_accepted assets ctx method path authHeader request size s hsize hauth, hserved,
      Option.getD_none]
    exact json_routeAuthorized ctx hsize s method path request
  · rw [webApiRoute_of_rejected assets ctx method path authHeader request size s hsize hauth, hserved,
      Option.getD_none]
    exact .inr (json_reasonResponse hsize (by decide))

end Routes

end Esp32Wiimote.Web
