import Esp32Wiimote.Web.HandlerForm
import Mathlib.Logic.Relation

/-!
# What a request can do behind the authentication

No handler answers with the status 401, so that status tells that the header was rejected.
A handler acts on the user data through the callbacks of the context only.
-/

namespace Esp32Wiimote.Web

open CText

variable {σ : Type}

/-- One callback of the context is invoked on the user data. -/
inductive Invokes (ctx : WebApiContext σ) (u : σ) : σ → Prop
  | getWiimoteStatus : Invokes ctx u (ctx.getWiimoteStatus u).2
  | getControllerStatus : Invokes ctx u (ctx.getControllerStatus u).2
  | getConfig : Invokes ctx u (ctx.getConfig u).2
  | getWifiControlState : Invokes ctx u (ctx.getWifiControlState u).2
  | call (call : WebApiCall) : Invokes ctx u (ctx.call call u).2

/-- Callbacks of the context, one after the other, lead from the one user data to the other. -/
abbrev CallbacksLead (ctx : WebApiContext σ) : σ → σ → Prop := Relation.ReflTransGen (Invokes ctx)

/-- The status of a failed authentication. -/
def isUnauthorized (status : ℕ) : Bool := status == 401

/-- An answer of an authorized request. -/
structure Authorized (ctx : WebApiContext σ) (s : WebApiState σ)
    (answer : WebApiRouteResult × WebApiState σ) : Prop where
  status : isUnauthorized answer.1.httpStatus = false
  userData : CallbacksLead ctx s.userData answer.2.userData

variable (ctx : WebApiContext σ)

/-- What happened before the answer is part of it. -/
theorem Authorized.after {s t : WebApiState σ} {answer : WebApiRouteResult × WebApiState σ}
    (h : Authorized ctx t answer) (hst : CallbacksLead ctx s.userData t.userData) :
    Authorized ctx s answer := ⟨h.status, hst.trans h.userData⟩

/-! ## Responses -/

/-- A reason that is not a failed authentication answers an authorized request. -/
theorem authorized_reasonResponse (size : ℕ) {reason : CommandDispatchReason}
    (message : Option CString) (s : WebApiState σ)
    (h : isUnauthorized (commandDispatchReasonToHttpStatus reason) = false) :
    Authorized ctx s (reasonResponse size reason message s) := ⟨h, .refl⟩

/-- So does a formatted response. -/
theorem authorized_formattedResponse (size : ℕ) {status : ℕ} (text : CString) (s : WebApiState σ)
    (h : isUnauthorized status = false) : Authorized ctx s (formattedResponse size status text s) := by
  unfold formattedResponse
  dsimp only
  split
  · exact ⟨rfl, .refl⟩
  · exact ⟨h, .refl⟩

/-- So does a snapshot. -/
theorem authorized_snapshotResponse (size : ℕ) (serialized : WebSerializeResult × Option CString)
    (failure : CommandDispatchMessageTemplate) (s : WebApiState σ) :
    Authorized ctx s (snapshotResponse size serialized failure s) := by
  unfold snapshotResponse
  split
  · exact ⟨rfl, .refl⟩
  · exact ⟨rfl, .refl⟩

/-! ## Callbacks -/

/-- Reading the status is a callback of the context. -/
theorem leads_readWiimoteStatus (s : WebApiState σ) :
    CallbacksLead ctx s.userData (ctx.readWiimoteStatus s).2.userData :=
  .single .getWiimoteStatus

/-- So is reading the state of the controller. -/
theorem leads_readControllerStatus (s : WebApiState σ) :
    CallbacksLead ctx s.userData (ctx.readControllerStatus s).2.userData :=
  .single .getControllerStatus

/-- A reason that is found by invoking callbacks, and that is not a failed authentication. -/
structure Inquires (rejected : RejectReason σ) : Prop where
  status : ∀ s, isUnauthorized (commandDispatchReasonToHttpStatus (rejected s).1) = false
  userData : ∀ s : WebApiState σ, CallbacksLead ctx s.userData (rejected s).2.userData

/-- The reasons to reject are found by callbacks. -/
theorem IsRejectReason.inquires {rejected : RejectReason σ} (h : IsRejectReason ctx rejected) :
    Inquires ctx rejected := by
  constructor
  · intro s
    have hstatus : ∀ reason ∈ callReasons,
        isUnauthorized (commandDispatchReasonToHttpStatus reason) = false := by decide
    exact hstatus _ (h.form s).1
  · intro s
    have hwiimote := leads_readWiimoteStatus ctx s
    rcases (h.form s).2 with hsame | hsame | hsame | hsame
    · rw [hsame]
    · rw [hsame]
      exact hwiimote
    · rw [hsame]
      exact leads_readControllerStatus ctx s
    · rw [hsame]
      exact hwiimote.trans (leads_readControllerStatus ctx _)

/-- A call that is carried out or rejected answers an authorized request. -/
theorem authorized_callOrReject (call : WebApiCall) {rejected : RejectReason σ}
    (hrejected : Inquires ctx rejected) (size : ℕ) (s : WebApiState σ) :
    Authorized ctx s (callOrReject ctx call rejected size s) := by
  have hinvoke : CallbacksLead ctx s.userData (ctx.invoke call s).2.userData := .single (.call call)
  unfold callOrReject
  dsimp only
  split
  · refine ⟨hrejected.status _, ?_⟩
    exact hinvoke.trans (hrejected.userData _)
  · exact ⟨rfl, hinvoke⟩

/-- So does a command that may be queued. -/
theorem authorized_queueOr (path verb : CString) (size : ℕ)
    {direct : WebApiState σ → WebApiRouteResult × WebApiState σ} (s : WebApiState σ)
    (hdirect : Authorized ctx s (direct s)) :
    Authorized ctx s (queueOr path verb size direct s) := by
  unfold queueOr enqueueCommandIfConfigured
  cases s.commandQueue with
  | none => exact hdirect
  | some queue =>
    dsimp only
    split
    · exact ⟨rfl, .refl⟩
    · rename_i commandId _
      have hanswer := authorized_formattedResponse ctx size
        (ascii "\x7b\"status\":\"accepted\",\"commandId\":" ++ decimal commandId.toNat ++ ascii "\x7d")
        { s with commandQueue := some (webCommandQueueEnqueue queue path verb).2 }
        (show isUnauthorized (commandDispatchReasonToHttpStatus .Queued) = false from rfl)
      exact ⟨hanswer.status, hanswer.userData⟩

/-! ## Handlers -/

/-- Every answer of the handler is one of an authorized request. -/
abbrev AuthorizedHandler (handler : RouteHandler σ) : Prop :=
  ∀ cmd size s, Authorized ctx s (handler ctx cmd size s)

/-- The status handler answers authorized requests. -/
theorem authorized_handleGetStatus : AuthorizedHandler ctx handleGetStatus := fun _ size s =>
  (authorized_snapshotResponse ctx size _ _ _).after ctx (leads_readWiimoteStatus ctx s)

/-- So does the configuration handler. -/
theorem authorized_handleGetConfig : AuthorizedHandler ctx handleGetConfig := fun _ size _ =>
  (authorized_snapshotResponse ctx size _ _ _).after ctx (.single .getConfig)

/-- So does the handler of the Wi-Fi state. -/
theorem authorized_handleGetWifiControl : AuthorizedHandler ctx handleGetWifiControl :=
  fun _ size _ =>
    (authorized_snapshotResponse ctx size _ _ _).after ctx (.single .getWifiControlState)

/-- So does the answer to a scan. -/
theorem authorized_scan (enabled : Bool) (command : CString) (size : ℕ) (s : WebApiState σ) :
    Authorized ctx s
      (scanCommandResponse size command enabled (ctx.invokeVoid (.setScanEnabled enabled) s)) := by
  have hinvoke : CallbacksLead ctx s.userData (ctx.invokeVoid (.setScanEnabled enabled) s).userData :=
    .single (.call _)
  exact (authorized_formattedResponse ctx size _ _ rfl).after ctx hinvoke

/-- The answers of a handler are ones of an authorized request, by its form. -/
theorem PostForm.authorized {s : WebApiState σ} {asked : Option WebApiCall} {queues : Bool}
    {answer : ℕ → WebApiRouteResult × WebApiState σ} (h : PostForm ctx s asked queues answer) (size : ℕ) :
    Authorized ctx s (answer size) := by
  induction h with
  | refused hreason message =>
    have hstatus : ∀ reason ∈ argumentReasons,
        isUnauthorized (commandDispatchReasonToHttpStatus reason) = false := by decide
    exact authorized_reasonResponse ctx size _ s (hstatus _ hreason)
  | called hvoid hrejected => exact authorized_callOrReject ctx _ (hrejected.inquires ctx) size s
  | reconnectPolicy enabled => exact ⟨rfl, .single (.call _)⟩
  | @scan command hcommand enabled => exact authorized_scan ctx enabled command size s
  | queued path verb hdirect ih => exact authorized_queueOr ctx path verb size s ih

/-- So does every route of the table. -/
theorem authorized_route {route : RouteEntry σ} (hroute : route ∈ kRoutes) :
    AuthorizedHandler ctx route.handler := by
  rcases route_form ctx hroute with ⟨-, -, hhandler⟩ | ⟨-, -, hform⟩
  · simp only [List.mem_cons, List.not_mem_nil, or_false] at hhandler
    rcases hhandler with hhandler | hhandler | hhandler
    · rw [hhandler]
      exact authorized_handleGetStatus ctx
    · rw [hhandler]
      exact authorized_handleGetConfig ctx
    · rw [hhandler]
      exact authorized_handleGetWifiControl ctx
  · intro cmd size s
    exact (hform cmd s).authorized ctx size

/-! ## Requests -/

/-- So does the status of a queued command. -/
theorem authorized_handleGetCommandStatus (path : CString) (size : ℕ) (s : WebApiState σ)
    {answer : WebApiRouteResult × WebApiState σ}
    (h : handleGetCommandStatus path size s = some answer) : Authorized ctx s answer := by
  rcases handleGetCommandStatus_form path s with hnone | ⟨reason, hreason, message, hrefused⟩ | ⟨entry, hfound⟩
  · rw [hnone] at h
    cases h
  · rw [hrefused] at h
    cases h
    simp only [List.mem_cons, List.not_mem_nil, or_false] at hreason
    rcases hreason with rfl | rfl
    · exact authorized_reasonResponse ctx size message s rfl
    · exact authorized_reasonResponse ctx size message s rfl
  · rw [hfound] at h
    cases h
    exact authorized_formattedResponse ctx size _ s rfl

/-- So does the dispatch by route. -/
theorem authorized_dispatchRoute (method path : CString) (request : WebRequestBody) (size : ℕ)
    (s : WebApiState σ) : Authorized ctx s (dispatchRoute ctx method path request size s) := by
  unfold dispatchRoute
  split
  · rename_i route hfound
    have hroute := authorized_route ctx (List.mem_of_find?_eq_some hfound)
    split
    · unfold handleWithBody
      dsimp only
      split_ifs
      · exact authorized_reasonResponse ctx size _ s rfl
      · exact authorized_reasonResponse ctx size _ s rfl
      · exact authorized_reasonResponse ctx size _ s rfl
      · exact hroute _ size s
    · exact hroute .empty size s
  · exact authorized_reasonResponse ctx size _ s rfl

/-- So does everything behind the check. -/
theorem authorized_routeAuthorized (method path : CString) (request : WebRequestBody) (size : ℕ)
    (s : WebApiState σ) : Authorized ctx s (routeAuthorized ctx method path request size s) := by
  unfold routeAuthorized
  split
  · rename_i answer hstatus
    split at hstatus
    · exact authorized_handleGetCommandStatus ctx path size s hstatus
    · exact nomatch hstatus
  · split
    · exact ⟨rfl, .refl⟩
    · exact authorized_dispatchRoute ctx method path request size s

/-- The request is answered without authentication. -/
def IsStaticRequest (method path : CString) : Prop :=
  method = ascii "GET" ∧ (path = ascii "/" ∨ path = ascii "/index.html" ∨ path = ascii "/app.js" ∨
    path = ascii "/styles.css" ∨ path = ascii "/openapi.json")

instance (method path : CString) : Decidable (IsStaticRequest method path) :=
  inferInstanceAs (Decidable (_ ∧ _))

/-- A request for no static file is not served as one. -/
theorem tryServeStatic_eq_none {method path : CString} (h : ¬IsStaticRequest method path)
    (assets : WebAssets) (size : ℕ) (s : WebApiState σ) :
    tryServeStatic assets method path size s = none := by
  unfold tryServeStatic
  split
  · rfl
  · rename_i hmethod
    rw [not_not] at hmethod
    have hpath := fun hpath => h ⟨hmethod, hpath⟩
    rw [if_neg fun hroot => hpath (hroot.imp_right .inl), if_neg fun happ => hpath (.inr (.inr (.inl happ))),
      if_neg fun hcss => hpath (.inr (.inr (.inr (.inl hcss)))),
      if_neg fun hapi => hpath (.inr (.inr (.inr (.inr hapi))))]

/-- Writing a response leaves the user data alone. -/
theorem respond_userData (written : Option CString) (s : WebApiState σ) :
    (s.respond written).userData = s.userData := rfl

/-- So does a static file. -/
theorem writeStaticResponse_userData (body : List UInt8) (contentType : CString) (size : ℕ)
    (s : WebApiState σ) : (writeStaticResponse body contentType size s).2.userData = s.userData := by
  unfold writeStaticResponse
  split <;> rfl

/-- A static answer leaves the user data alone. -/
theorem tryServeStatic_userData {assets : WebAssets} {method path : CString} {size : ℕ}
    {s : WebApiState σ} {answer : WebApiRouteResult × WebApiState σ}
    (h : tryServeStatic assets method path size s = some answer) :
    answer.2.userData = s.userData := by
  unfold tryServeStatic at h
  split_ifs at h
  · rw [← Option.some.inj h, writeStaticResponse_userData]
  · rw [← Option.some.inj h, writeStaticResponse_userData]
  · rw [← Option.some.inj h, writeStaticResponse_userData]
  · rw [← Option.some.inj h, respond_userData]

/-- A request that is not static is answered with 401 exactly when its header is rejected. -/
theorem webApiRoute_isUnauthorized (assets : WebAssets) {method path : CString}
    (hstatic : ¬IsStaticRequest method path) (authHeader : Option CString) (request : WebRequestBody)
    {size : ℕ} (hsize : size ≠ 0) (s : WebApiState σ) :
    isUnauthorized (webApiRoute assets ctx (some method) (some path) authHeader request size
        s).1.httpStatus = true ↔
      webAuthValidate authHeader ctx.wifiApiToken ≠ .Ok := by
  unfold webApiRoute
  dsimp only
  rw [if_neg hsize, tryServeStatic_eq_none hstatic assets size s]
  dsimp only
  split
  · rename_i hrejected
    exact iff_of_true rfl hrejected
  · rename_i haccepted
    have hanswer := authorized_routeAuthorized ctx method path request size s
    rw [hanswer.status]
    exact iff_of_false Bool.false_ne_true haccepted

/-- Whatever the request, the user data change through the callbacks. -/
theorem webApiRoute_leads (assets : WebAssets) (method path : Option CString)
    (authHeader : Option CString) (request : WebRequestBody) (size : ℕ) (s : WebApiState σ) :
    CallbacksLead ctx s.userData
      (webApiRoute assets ctx method path authHeader request size s).2.userData := by
  unfold webApiRoute
  split
  · split
    · exact .refl
    · split
      · rename_i answer hstatic
        rw [tryServeStatic_userData hstatic]
      · split
        · exact .refl
        · exact (authorized_routeAuthorized ctx _ _ request size s).userData
  · exact .refl

end Esp32Wiimote.Web
