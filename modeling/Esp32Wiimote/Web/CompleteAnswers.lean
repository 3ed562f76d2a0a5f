import Esp32Wiimote.Web.Authorization
import Esp32Wiimote.Web.RequestLaw

/-!
# Complete answers

A handler that formats an answer looks whether it fits, and answers with an error where it does not. The
answer to a command that was carried out is the exception: its text is cut where it does not fit, and the
status tells of a success all the same. What an answer does with the room it has is seen by asking the same
request at every size of the buffer.
-/

namespace Esp32Wiimote.Web

open CText

variable {σ : Type}

/-! ## Complete bodies -/

/-- The bodies of the answers of success. A serialized body is one that its serializer calls complete. -/
inductive IsAnswerBody : CString → Prop
  | ok {size text} (hserialized : serializeOk size = (.Ok, some text)) : IsAnswerBody text
  | wiimoteStatus {size st text} (hserialized : serializeWiimoteStatus size st = (.Ok, some text)) :
      IsAnswerBody text
  | config {size cfg text} (hserialized : serializeConfig size cfg = (.Ok, some text)) : IsAnswerBody text
  | wifiControlState {size state text}
      (hserialized : serializeWifiControlState size state = (.Ok, some text)) : IsAnswerBody text
  | accepted (commandId : UInt32) :
      IsAnswerBody
        (ascii "\x7b\"status\":\"accepted\",\"commandId\":" ++ decimal commandId.toNat ++ ascii "\x7d")
  | scanCommand {command} (hcommand : command ∈ [ascii "scan_start", ascii "scan_stop"]) (scanEnabled : Bool) :
      IsAnswerBody
        (ascii "\x7b\"status\":\"ok\",\"command\":\"" ++ command ++ ascii "\",\"scanEnabled\":"
          ++ boolStr scanEnabled ++ ascii "\x7d")
  | commandStatus (entry : WebCommandQueueEntry) :
      IsAnswerBody
        (ascii "\x7b\"commandId\":" ++ decimal entry.id.toNat ++ ascii ",\"status\":\""
          ++ queueStatusToString entry.status ++ ascii "\",\"result\":\""
          ++ queueResultToString entry.result ++ ascii "\"\x7d")

/-- The buffer holds a whole body, and with more room the answer and its body are the same. -/
structure IsComplete (answer : ℕ → WebApiRouteResult × WebApiState σ) (size : ℕ) : Prop where
  body : IsAnswerBody (answer size).2.responseBuf
  settled : ∀ larger, size ≤ larger → (answer larger).1 = (answer size).1 ∧
    (answer larger).2.responseBuf = (answer size).2.responseBuf

/-- What an answer does with the room it has. It is never a success; or it is one exactly where its body
fits; or, where a command was carried out, it is one at every size. -/
inductive Answers (carriedOut : Prop) (answer : ℕ → WebApiRouteResult × WebApiState σ) : Prop
  | failed (hcommand : ¬carriedOut) (hfailed : ∀ size, ¬IsSuccess (answer size).1.httpStatus) :
      Answers carriedOut answer
  | checked (hcommand : ¬carriedOut) (result : WebApiRouteResult) {text : CString}
      (hbody : IsAnswerBody text)
      (hfits : ∀ size, text.length < size →
        (answer size).1 = result ∧ (answer size).2.responseBuf = text)
      (hshort : ∀ size, size ≤ text.length → ¬IsSuccess (answer size).1.httpStatus) :
      Answers carriedOut answer
  | unchecked (hcommand : carriedOut)
      (hcut : ∀ size, 0 < size → (answer size).1 = makeResult 200 applicationJson ∧
        some (answer size).2.responseBuf = (serializeOk size).2) : Answers carriedOut answer

/-- The text of a success, cut to the buffer. -/
theorem serializeOk_snd {size : ℕ} (hsize : 0 < size) :
    (serializeOk size).2 = some ((ascii "\x7b\"status\":\"ok\"\x7d").take (size - 1)) := by
  rw [serializeOk, serialize, if_neg (by omega)]
  rfl

/-- A success is a complete answer, except where a command was carried out and the buffer is too small for
the answer of it. -/
theorem Answers.complete_iff {carriedOut : Prop} {answer : ℕ → WebApiRouteResult × WebApiState σ}
    (h : Answers carriedOut answer) {size : ℕ} (hsize : 0 < size) :
    (IsSuccess (answer size).1.httpStatus → IsComplete answer size) ↔ 16 ≤ size ∨ ¬carriedOut := by
  have hlength : (ascii "\x7b\"status\":\"ok\"\x7d").length = 15 := by decide +kernel
  cases h with
  | failed hcommand hfailed => exact iff_of_true (fun hsuccess => absurd hsuccess (hfailed size)) (.inr hcommand)
  | checked hcommand result hbody hfits hshort =>
    refine iff_of_true (fun hsuccess => ?_) (.inr hcommand)
    have hroom := not_le.mp fun hle => hshort size hle hsuccess
    obtain ⟨hresult, hwritten⟩ := hfits size hroom
    refine ⟨hwritten ▸ hbody, fun larger hlarger => ?_⟩
    obtain ⟨hresult', hwritten'⟩ := hfits larger (hroom.trans_le hlarger)
    exact ⟨hresult'.trans hresult.symm, hwritten'.trans hwritten.symm⟩
  | unchecked hcommand hcut =>
    have hbody : ∀ room, 0 < room →
        (answer room).2.responseBuf = (ascii "\x7b\"status\":\"ok\"\x7d").take (room - 1) := by
      intro room hroom
      exact Option.some.inj ((hcut room hroom).2.trans (serializeOk_snd hroom))
    constructor
    · intro hcomplete
      refine .inl (not_lt.mp fun hshort => ?_)
      -- with the room for the whole text the buffer would hold more
      have hsame := ((hcomplete (by rw [(hcut size hsize).1]; decide)).settled 16 (by omega)).2
      rw [hbody 16 (by omega), hbody size hsize] at hsame
      have hlengths := congrArg List.length hsame
      simp only [List.length_take, hlength] at hlengths
      omega
    · rintro (hroom | hnot)
      · have hok : serializeOk 16 = (.Ok, some (ascii "\x7b\"status\":\"ok\"\x7d")) := rfl
        have hwhole : ∀ room, 16 ≤ room →
            (answer room).2.responseBuf = ascii "\x7b\"status\":\"ok\"\x7d" := by
          intro room hroom
          rw [hbody room (by omega), List.take_of_length_le (by omega)]
        refine fun _ => ⟨hwhole size hroom ▸ .ok hok, fun larger hlarger => ⟨?_, ?_⟩⟩
        · exact (hcut larger (by omega)).1.trans (hcut size hsize).1.symm
        · exact (hwhole larger (by omega)).trans (hwhole size hroom).symm
      · exact absurd hcommand hnot

/-! ## The answers -/

/-- Only whether a command was carried out matters. -/
theorem Answers.of_iff {carriedOut carriedOut' : Prop} {answer : ℕ → WebApiRouteResult × WebApiState σ}
    (h : Answers carriedOut answer) (hiff : carriedOut' ↔ carriedOut) : Answers carriedOut' answer := by
  rwa [propext hiff]

section Responses

variable {s : WebApiState σ}

/-- A reason that is no success is not answered as one. -/
theorem reasonResponse_failed (reason : CommandDispatchReason) (message : Option CString)
    (hreason : commandDispatchReasonIsSuccess reason = false) (size : ℕ) :
    ¬IsSuccess (reasonResponse size reason message s).1.httpStatus := not_isSuccess_reason hreason

/-- A formatted answer is a success where its text fits. -/
theorem answers_formattedResponse {carriedOut : Prop} (hcommand : ¬carriedOut) {status : ℕ} {text : CString}
    (hbody : IsAnswerBody text) (t : WebApiState σ) :
    Answers carriedOut fun size => formattedResponse size status text t := by
  refine .checked hcommand (makeResult status applicationJson) hbody (fun size hroom => ?_) fun size hshort => ?_
  · rw [formattedResponse_eq, if_pos hroom]
    exact ⟨rfl, rfl⟩
  · rw [formattedResponse_eq, if_neg (not_lt.mpr hshort)]
    exact reasonResponse_failed .InternalError _ rfl size

/-- A serialized snapshot is a success where its text fits. -/
theorem answers_snapshotResponse {carriedOut : Prop} (hcommand : ¬carriedOut) {text : CString}
    (htext : text ≠ []) (hbody : ∀ {size}, serialize size text = (.Ok, some text) → IsAnswerBody text)
    (failure : CommandDispatchMessageTemplate) (t : WebApiState σ) :
    Answers carriedOut fun size => snapshotResponse size (serialize size text) failure t := by
  refine .checked hcommand (makeResult 200 applicationJson)
    (hbody (serialize_of_lt htext (Nat.lt_succ_self _))) (fun size hroom => ?_) fun size hshort => ?_
  · rw [snapshotResponse, serialize_of_lt htext hroom]
    exact ⟨rfl, rfl⟩
  · have hcut : (serialize size text).1 ≠ .Ok := by
      rw [serialize_of_le hshort]
      exact nofun
    rw [snapshotResponse, if_pos hcut]
    exact reasonResponse_failed .InternalError _ rfl size

/-- The answer to a command that was carried out is a success, cut where it does not fit. -/
theorem answers_okResponse {carriedOut : Prop} (hcommand : carriedOut) (t : WebApiState σ) :
    Answers carriedOut fun size => okResponse size t := by
  refine .unchecked hcommand fun size hsize => ⟨rfl, ?_⟩
  rw [okResponse, serializeOk_snd hsize]
  rfl

end Responses

/-! ## Commands -/

/-- The device takes the call. -/
def WebApiContext.accepts (ctx : WebApiContext σ) (call : WebApiCall) (u : σ) : Bool :=
  call.isVoid || (ctx.call call u).1

/-- A call is asked for, does not go to a queue, and is taken by the device. -/
def CarriesOut (ctx : WebApiContext σ) (s : WebApiState σ) (queues : Bool) (asked : Option WebApiCall) : Prop :=
  ∃ call ∈ asked, (queues = true → s.commandQueue = none) ∧ ctx.accepts call s.userData = true

section Commands

variable {ctx : WebApiContext σ} {s : WebApiState σ}

/-- Without a call nothing is carried out. -/
theorem not_carriesOut_none (queues : Bool) : ¬CarriesOut ctx s queues none := by
  rintro ⟨call, hcall, -⟩
  cases hcall

/-- A command at once is a success where the device takes it. -/
theorem answers_callOrReject {call : WebApiCall} (hvoid : call.isVoid = false) {rejected : RejectReason σ}
    (hrejected : Harmless rejected) :
    Answers (CarriesOut ctx s false (some call)) fun size => callOrReject ctx call rejected size s := by
  have hcarries : CarriesOut ctx s false (some call) ↔ (ctx.call call s.userData).1 = true := by
    simp [CarriesOut, WebApiContext.accepts, hvoid]
  cases hresult : (ctx.call call s.userData).1 with
  | true =>
    have hsame : ∀ size, callOrReject ctx call rejected size s = okResponse size (ctx.invoke call s).2 := by
      intro size
      rw [callOrReject, WebApiContext.invoke, hresult]
      rfl
    simp only [hsame]
    exact answers_okResponse (hcarries.mpr hresult) _
  | false =>
    refine .failed (fun h => ?_) fun size => ?_
    · rw [hcarries, hresult] at h
      cases h
    · rw [callOrReject, WebApiContext.invoke, hresult]
      exact reasonResponse_failed _ none (hrejected.notSuccess _) size

/-- A command that is queued is a success where the identifier fits. -/
theorem answers_queueOr (path verb : CString) {direct : ℕ → WebApiState σ → WebApiRouteResult × WebApiState σ}
    {asked : Option WebApiCall} (hdirect : Answers (CarriesOut ctx s false asked) fun size => direct size s) :
    Answers (CarriesOut ctx s true asked) fun size => queueOr path verb size (direct size) s := by
  cases hqueue : s.commandQueue with
  | none =>
    have hcarries : CarriesOut ctx s true asked ↔ CarriesOut ctx s false asked := by
      simp [CarriesOut, hqueue]
    simp only [queueOr_of_none _ _ _ _ hqueue]
    exact hdirect.of_iff hcarries
  | some queue =>
    have hnot : ¬CarriesOut ctx s true asked := by
      rintro ⟨call, -, hnone, -⟩
      exact absurd ((hnone rfl).symm.trans hqueue) nofun
    simp only [queueOr, enqueueCommandIfConfigured, hqueue]
    cases (webCommandQueueEnqueue queue path verb).1 with
    | none => exact .failed hnot fun size => reasonResponse_failed .QueueFull none rfl size
    | some commandId => exact answers_formattedResponse hnot (.accepted commandId) _

/-- The answers of a handler, by its form. -/
theorem PostForm.answers {asked : Option WebApiCall} {queues : Bool}
    {answer : ℕ → WebApiRouteResult × WebApiState σ} (h : PostForm ctx s asked queues answer) :
    Answers (CarriesOut ctx s queues asked) answer := by
  induction h with
  | refused hreason message =>
    exact .failed (not_carriesOut_none _) (reasonResponse_failed _ _ (notSuccess_of_argumentReason _ hreason))
  | called hvoid hrejected => exact answers_callOrReject hvoid hrejected.harmless
  | reconnectPolicy enabled => exact answers_okResponse ⟨_, rfl, nofun, rfl⟩ _
  | scan hcommand enabled =>
    exact answers_formattedResponse (not_carriesOut_none false) (.scanCommand hcommand enabled) _
  | queued path verb hdirect ih => exact answers_queueOr path verb ih

end Commands

/-! ## Routes -/

/-- The command on the path is carried out. -/
def CarriesOutOn (ctx : WebApiContext σ) (path : CString) (cmd : WebParsedCommand) (s : WebApiState σ) : Prop :=
  CarriesOut ctx s (commandOn ctx path cmd).2 (commandOn ctx path cmd).1

/-- A request brings a command that is carried out at once. It may be one of any path but the one of the
scan, without a queue or on a path that has none. -/
def RunsAtOnce (ctx : WebApiContext σ) (method path : CString) (request : WebRequestBody)
    (s : WebApiState σ) : Prop :=
  method = ascii "POST" ∧ (webRequestParse request.body request.bodyLen .empty).1 = .Ok ∧
    CarriesOutOn ctx path (webRequestParse request.body request.bodyLen .empty).2.1 s

section Routes

variable {ctx : WebApiContext σ} {method path : CString} {request : WebRequestBody} {s : WebApiState σ}

/-- A path without a route is the path of no command. -/
theorem not_carriesOutOn (cmd : WebParsedCommand)
    (hfound : (kRoutes.find? fun route : RouteEntry σ =>
      route.method == ascii "POST" && route.path == path) = none) :
    ¬CarriesOutOn ctx path cmd s := by
  have hroutes : ∀ command ∈ commandRoutes ctx, (kRoutes.find? fun route : RouteEntry σ =>
      route.method == ascii "POST" && route.path == command.path).isSome = true := by
    intro command hcommand
    simp only [commandRoutes, List.mem_cons, List.not_mem_nil, or_false] at hcommand
    rcases hcommand with rfl | rfl | rfl | rfl | rfl | rfl | rfl | rfl | rfl | rfl | rfl | rfl <;> rfl
  have hnone : (commandRoutes ctx).find? (fun command => command.path == path) = none := by
    refine List.find?_eq_none.mpr fun command hcommand hpath => ?_
    obtain rfl := beq_iff_eq.mp hpath
    exact absurd (hroutes command hcommand) (by rw [hfound]; exact nofun)
  rw [CarriesOutOn, commandOn, hnone]
  exact not_carriesOut_none true

/-- The routes that are read are checked. -/
theorem answers_getHandler {handler : RouteHandler σ}
    (hhandler : handler ∈ [handleGetStatus, handleGetConfig, handleGetWifiControl]) (cmd : WebParsedCommand) :
    Answers False fun size => handler ctx cmd size s := by
  have hclosed : ∀ text : CString, text ++ ascii "\x7d" ≠ [] := fun text =>
    List.append_ne_nil_of_right_ne_nil text (by decide +kernel)
  simp only [List.mem_cons, List.not_mem_nil, or_false] at hhandler
  rcases hhandler with rfl | rfl | rfl
  · exact answers_snapshotResponse not_false (hclosed _) .wiimoteStatus _ _
  · exact answers_snapshotResponse not_false (hclosed _) .config _ _
  · exact answers_snapshotResponse not_false (hclosed _) .wifiControlState _ _

/-- A handler answers so behind the parser of bodies, too. -/
theorem answers_handleWithBody {handler : RouteHandler σ} {carriedOut : WebParsedCommand → Prop}
    (hhandler : ∀ cmd, Answers (carriedOut cmd) fun size => handler ctx cmd size s) :
    Answers ((webRequestParse request.body request.bodyLen .empty).1 = .Ok ∧
      carriedOut (webRequestParse request.body request.bodyLen .empty).2.1) fun size =>
        handleWithBody ctx handler request size s := by
  by_cases hok : (webRequestParse request.body request.bodyLen .empty).1 = .Ok
  · simp only [handleWithBody_of_ok hok]
    exact (hhandler _).of_iff (and_iff_right hok)
  · refine .failed (fun h => hok h.1) fun size => ?_
    rw [handleWithBody_of_not_ok hok]
    decide

/-- So does the dispatch by route. -/
theorem answers_dispatchRoute :
    Answers (RunsAtOnce ctx method path request s) fun size => dispatchRoute ctx method path request size s := by
  unfold dispatchRoute
  cases hfound : kRoutes.find? fun route : RouteEntry σ => route.method == method && route.path == path with
  | none =>
    refine .failed ?_ (reasonResponse_failed .NotFound none rfl)
    rintro ⟨rfl, -, hcarries⟩
    exact not_carriesOutOn _ hfound hcarries
  | some route =>
    have hmatched := List.find?_some hfound
    simp only [Bool.and_eq_true, beq_iff_eq] at hmatched
    obtain ⟨rfl, rfl⟩ := hmatched
    rcases route_form ctx (List.mem_of_find?_eq_some hfound) with
      ⟨hget, hbody, hhandler⟩ | ⟨hpost, hbody, hform⟩
    · simp only [hbody, Bool.false_eq_true, if_false]
      refine (answers_getHandler hhandler .empty).of_iff (iff_of_false ?_ not_false)
      rintro ⟨hpost, -⟩
      exact absurd (hget.symm.trans hpost) (by decide +kernel)
    · simp only [hbody, if_true]
      exact (answers_handleWithBody fun cmd => (hform cmd s).answers).of_iff (and_iff_right hpost)

/-- So does everything behind the check of the token. -/
theorem answers_routeAuthorized :
    Answers (RunsAtOnce ctx method path request s) fun size =>
      routeAuthorized ctx method path request size s := by
  unfold routeAuthorized
  by_cases hget : method = ascii "GET"
  · have hnot : ¬RunsAtOnce ctx method path request s := by
      rintro ⟨hpost, -⟩
      exact absurd (hget.symm.trans hpost) (by decide +kernel)
    simp only [if_pos hget]
    rcases handleGetCommandStatus_form path s with
      hnone | ⟨reason, hreason, message, hrefused⟩ | ⟨entry, hfound⟩
    · simp only [hnone]
      cases webSocketUpgrade ctx method path with
      | none => exact answers_dispatchRoute
      | some channel => exact .failed hnot fun size => (by decide : ¬IsSuccess 101)
    · simp only [hrefused]
      simp only [List.mem_cons, List.not_mem_nil, or_false] at hreason
      rcases hreason with rfl | rfl
      · exact .failed hnot (reasonResponse_failed .BadArgument message rfl)
      · exact .failed hnot (reasonResponse_failed .NotFound message rfl)
    · simp only [hfound]
      exact answers_formattedResponse hnot (.commandStatus entry) s
  · simp only [if_neg hget, webSocketUpgrade, if_neg fun h : method = ascii "GET" ∧ _ => hget h.1]
    exact answers_dispatchRoute

end Routes

/-! ## Requests -/

/-- Two answers may differ for an empty buffer. -/
theorem Answers.congr {carriedOut : Prop} {answer answer' : ℕ → WebApiRouteResult × WebApiState σ}
    (h : Answers carriedOut answer) (hsame : ∀ size, 0 < size → answer' size = answer size)
    (hzero : ¬IsSuccess (answer' 0).1.httpStatus) : Answers carriedOut answer' := by
  cases h with
  | failed hcommand hfailed =>
    refine .failed hcommand fun size => ?_
    rcases Nat.eq_zero_or_pos size with rfl | hsize
    · exact hzero
    · exact hsame size hsize ▸ hfailed size
  | checked hcommand result hbody hfits hshort =>
    refine .checked hcommand result hbody (fun size hroom => ?_) fun size hle => ?_
    · exact hsame size (by omega) ▸ hfits size hroom
    · rcases Nat.eq_zero_or_pos size with rfl | hsize
      · exact hzero
      · exact hsame size hsize ▸ hshort size hle
  | unchecked hcommand hcut =>
    exact .unchecked hcommand fun size hsize => hsame size hsize ▸ hcut size hsize

/-- Every answer to an authenticated request that is not static is checked, but the one to a command that is
carried out at once. -/
theorem answers_webApiRoute (assets : WebAssets) {ctx : WebApiContext σ} {method path : CString}
    (hstatic : ¬IsStaticRequest method path) {authHeader : Option CString}
    (hauth : webAuthValidate authHeader ctx.wifiApiToken = .Ok) (request : WebRequestBody) (s : WebApiState σ) :
    Answers (RunsAtOnce ctx method path request s) fun size =>
      webApiRoute assets ctx (some method) (some path) authHeader request size s := by
  refine answers_routeAuthorized.congr (fun size hsize => ?_) (by decide : ¬IsSuccess 400)
  rw [webApiRoute_of_accepted assets ctx method path authHeader request size s hsize hauth,
    tryServeStatic_eq_none hstatic, Option.getD_none]

/-- A success of an authenticated request that is not static is the complete answer, at every size, exactly
where the buffer has 16 bytes or no command is carried out at once. -/
theorem success_complete_iff (assets : WebAssets) (ctx : WebApiContext σ) {method path : CString}
    (hstatic : ¬IsStaticRequest method path) {authHeader : Option CString}
    (hauth : webAuthValidate authHeader ctx.wifiApiToken = .Ok) (request : WebRequestBody) (s : WebApiState σ)
    {size : ℕ} (hsize : 0 < size) :
    (IsSuccess (webApiRoute assets ctx (some method) (some path) authHeader request size s).1.httpStatus →
        IsComplete (fun room => webApiRoute assets ctx (some method) (some path) authHeader request room s)
          size) ↔
      16 ≤ size ∨ ¬RunsAtOnce ctx method path request s :=
  (answers_webApiRoute assets hstatic hauth request s).complete_iff hsize

/-- A request to set the LEDs, of the device that accepts every command. -/
def setLeds (size : ℕ) : WebApiRouteResult × WebApiState Unit :=
  webApiRoute ⟨[], [], []⟩ acceptingContext (some (ascii "POST"))
    (some (ascii "/api/wiimote/commands/leds")) (some (ascii "Bearer token"))
    ⟨some (ascii "\x7b\"command\":\"set\",\"mask\":\"3\"\x7d"), 28⟩ size ⟨(), none, [], []⟩

/-- Sixteen bytes have room for the answer to an accepted mask. -/
theorem success_complete_of_setLeds : IsComplete setLeds 16 := by
  have hstatic : ¬IsStaticRequest (ascii "POST") (ascii "/api/wiimote/commands/leds") := by decide +kernel
  exact (success_complete_iff ⟨[], [], []⟩ acceptingContext hstatic (by decide +kernel) _ _
    (by decide)).mpr (.inl le_rfl) (by decide +kernel)

/-- With 8 bytes the LEDs are set, and the body of the success is the cut text `{"statu`. -/
theorem success_not_always_complete :
    ¬∀ (assets : WebAssets) (ctx : WebApiContext Unit) (method path : CString) (authHeader : Option CString)
        (request : WebRequestBody) (size : ℕ) (s : WebApiState Unit), ¬IsStaticRequest method path →
      webAuthValidate authHeader ctx.wifiApiToken = .Ok → 0 < size →
      IsSuccess (webApiRoute assets ctx (some method) (some path) authHeader request size s).1.httpStatus →
      IsComplete (fun room => webApiRoute assets ctx (some method) (some path) authHeader request room s)
        size := by
  intro h
  have hcomplete : IsComplete setLeds 8 := h _ _ _ _ _ _ _ _ (by decide +kernel) (by decide +kernel)
    (by decide) (by decide +kernel)
  exact absurd (hcomplete.settled 16 (by decide)).2 (by decide +kernel)

end Esp32Wiimote.Web
