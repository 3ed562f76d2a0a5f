import Esp32Wiimote.Web.HandlerForm
import Mathlib.Data.Nat.Digits.Defs

/-!
# What a web request can do

A POST handler carries out one command, queues one, is refused by the device or the
queue, or answers without touching either, and its status tells which: it is in the 200s
exactly in the first two cases. Other methods invoke read callbacks only. A request whose
header is rejected invokes nothing, and its answer does not depend on the device.
-/

namespace Esp32Wiimote.Web

open CText

variable {σ : Type}

/-! ## Effects -/

/-- The status is in the 200s. -/
abbrev IsSuccess (status : ℕ) : Prop := 200 ≤ status ∧ status < 300

/-- The commands among the invocations, each with whether it was accepted. -/
def commandsOf (invoked : List WebApiInvocation) : List (WebApiCall × Bool) :=
  invoked.filterMap fun invocation =>
    match invocation with
    | .command call accepted => some (call, accepted)
    | .read _ => none

/-- The answer of the configured queue, if any, about a command. -/
def queuedCommand (s : WebApiState σ) (commandId : UInt32) : Option WebCommandQueueEntry :=
  s.commandQueue.bind fun queue => webCommandQueueGet queue commandId

/-- Exactly one effect: one command was invoked and accepted, or one was added to the queue. -/
def OneEffect (s s' : WebApiState σ) : Prop :=
  (∃ call, commandsOf s'.invoked = commandsOf s.invoked ++ [(call, true)] ∧
      s'.commandQueue = s.commandQueue) ∨
    (commandsOf s'.invoked = commandsOf s.invoked ∧
      ∃ queue path verb, s.commandQueue = some queue ∧
        (webCommandQueueEnqueue queue path verb).1 = some queue.nextId ∧
        s'.commandQueue = some (webCommandQueueEnqueue queue path verb).2)

/-- No command was accepted, and the queue answers as before. -/
def NoAcceptance (s s' : WebApiState σ) : Prop :=
  (∃ added, commandsOf s'.invoked = commandsOf s.invoked ++ added ∧
      ∀ command ∈ added, command.2 = false) ∧
    ∀ commandId, queuedCommand s' commandId = queuedCommand s commandId

/-- No command was invoked, and the queue is the same. -/
def NoEffect (s s' : WebApiState σ) : Prop :=
  commandsOf s'.invoked = commandsOf s.invoked ∧ s'.commandQueue = s.commandQueue

/-- The five outcomes of a POST handler. -/
inductive PostOutcome (s : WebApiState σ) : WebApiRouteResult × WebApiState σ → Prop
  | carriedOut {result s'} (call : WebApiCall)
      (hcommands : commandsOf s'.invoked = commandsOf s.invoked ++ [(call, true)])
      (hqueue : s'.commandQueue = s.commandQueue) (hstatus : IsSuccess result.httpStatus) :
      PostOutcome s (result, s')
  | queued {result s'} (queue : WebCommandQueue) (path verb : CString)
      (hcommands : commandsOf s'.invoked = commandsOf s.invoked)
      (hconfigured : s.commandQueue = some queue)
      (haccepted : (webCommandQueueEnqueue queue path verb).1 = some queue.nextId)
      (hqueue : s'.commandQueue = some (webCommandQueueEnqueue queue path verb).2)
      (hstatus : IsSuccess result.httpStatus) : PostOutcome s (result, s')
  | refused {result s'} (call : WebApiCall)
      (hcommands : commandsOf s'.invoked = commandsOf s.invoked ++ [(call, false)])
      (hqueue : s'.commandQueue = s.commandQueue) (hstatus : ¬IsSuccess result.httpStatus) :
      PostOutcome s (result, s')
  | notQueued {result s'} (queue : WebCommandQueue) (path verb : CString)
      (hcommands : commandsOf s'.invoked = commandsOf s.invoked)
      (hconfigured : s.commandQueue = some queue)
      (hfull : (webCommandQueueEnqueue queue path verb).1 = none)
      (hqueue : s'.commandQueue = some (webCommandQueueEnqueue queue path verb).2)
      (hstatus : ¬IsSuccess result.httpStatus) : PostOutcome s (result, s')
  | answered {result s'} (hnone : NoEffect s s') (hstatus : ¬IsSuccess result.httpStatus) :
      PostOutcome s (result, s')

/-! ## Responses -/

/-- To do nothing has no effect. -/
theorem noEffect_refl (s : WebApiState σ) : NoEffect s s := ⟨rfl, rfl⟩

/-- Two parts without effect have none together. -/
theorem NoEffect.trans {s t u : WebApiState σ} (hst : NoEffect s t) (htu : NoEffect t u) :
    NoEffect s u := ⟨htu.1.trans hst.1, htu.2.trans hst.2⟩

/-- Writing a response has no effect. -/
theorem noEffect_respond (s : WebApiState σ) (written : Option CString) :
    NoEffect s (s.respond written) := ⟨rfl, rfl⟩

/-- The answer for a reason has no effect. -/
theorem noEffect_reasonResponse (size : ℕ) (reason : CommandDispatchReason)
    (message : Option CString) (s : WebApiState σ) :
    NoEffect s (reasonResponse size reason message s).2 := noEffect_respond s _

/-- The status of an answer for a reason is the one of the reason. -/
theorem not_isSuccess_reason {reason : CommandDispatchReason}
    (h : commandDispatchReasonIsSuccess reason = false) :
    ¬IsSuccess (commandDispatchReasonToHttpStatus reason) := by
  rw [IsSuccess, httpStatus_success_iff, h]
  exact Bool.false_ne_true

/-- A reason that is no success is one of the outcomes. -/
theorem postOutcome_reasonResponse (size : ℕ) (reason : CommandDispatchReason)
    (message : Option CString) (s : WebApiState σ)
    (h : commandDispatchReasonIsSuccess reason = false) :
    PostOutcome s (reasonResponse size reason message s) :=
  .answered (noEffect_reasonResponse size reason message s) (not_isSuccess_reason h)

/-- A text that fits is answered with the status asked for, and any other as an internal error. -/
theorem formattedResponse_eq (size status : ℕ) (text : CString) (s : WebApiState σ) :
    formattedResponse size status text s =
      if text.length < size then (makeResult status applicationJson, s.respond (some text))
      else reasonResponse size .InternalError (some (commandDispatchMessageText .ResponseBufferTooSmall))
        (s.respond (some (text.take (size - 1)))) := by
  have hfits : ((text.length : ℤ) < 0 ∨ (size : ℤ) ≤ text.length) ↔ ¬text.length < size := by omega
  simp only [formattedResponse, snprintf, hfits, ite_not]
  split
  next h => rw [List.take_of_length_le (by omega)]
  next => rfl

/-- The answer to an accepted command fits in the smallest response buffer. -/
theorem acceptedResponse_eq (size : ℕ) (commandId : UInt32) (s : WebApiState σ)
    (hsize : 512 ≤ size) :
    ∃ written, acceptedResponse size commandId s =
      (makeResult 202 applicationJson, s.respond (some written)) := by
  have hdigits : (decimal commandId.toNat).length ≤ 10 := by
    unfold decimal
    rw [List.length_map]
    exact (Nat.length_toDigits_le_iff (by decide) (by decide)).mpr
      (commandId.toNat_lt.trans (by decide))
  refine ⟨_, (formattedResponse_eq ..).trans (if_pos ?_)⟩
  simp only [List.length_append]
  have hbefore : (ascii "\x7b\"status\":\"accepted\",\"commandId\":").length ≤ 64 := by decide +kernel
  have hafter : (ascii "\x7d").length ≤ 64 := by decide +kernel
  omega

/-- The answer to a scan fits the buffer. -/
theorem scanCommandResponse_eq (size : ℕ) (command : CString) (scanEnabled : Bool)
    (s : WebApiState σ) (hcommand : command.length ≤ 64) (hsize : 512 ≤ size) :
    ∃ written, scanCommandResponse size command scanEnabled s =
      (makeResult 200 applicationJson, s.respond (some written)) := by
  refine ⟨_, (formattedResponse_eq ..).trans (if_pos ?_)⟩
  simp only [List.length_append]
  have hbefore : (ascii "\x7b\"status\":\"ok\",\"command\":\"").length ≤ 64 := by decide +kernel
  have hmiddle : (ascii "\",\"scanEnabled\":").length ≤ 64 := by decide +kernel
  have hflag : (boolStr scanEnabled).length ≤ 64 := by cases scanEnabled <;> decide +kernel
  have hafter : (ascii "\x7d").length ≤ 64 := by decide +kernel
  omega

/-! ## Callbacks -/

/-- The commands of two lists are those of the first and then of the second. -/
theorem commandsOf_append (first second : List WebApiInvocation) :
    commandsOf (first ++ second) = commandsOf first ++ commandsOf second :=
  List.filterMap_append

/-- Reading the status has no effect. -/
theorem noEffect_readWiimoteStatus (ctx : WebApiContext σ) (s : WebApiState σ) :
    NoEffect s (ctx.readWiimoteStatus s).2 := by
  refine ⟨?_, rfl⟩
  exact (commandsOf_append s.invoked [.read .getWiimoteStatus]).trans (List.append_nil _)

/-- Nor has reading the state of the controller. -/
theorem noEffect_readControllerStatus (ctx : WebApiContext σ) (s : WebApiState σ) :
    NoEffect s (ctx.readControllerStatus s).2 := by
  refine ⟨?_, rfl⟩
  exact (commandsOf_append s.invoked [.read .getControllerStatus]).trans (List.append_nil _)

/-- Nor has reading the configuration. -/
theorem noEffect_readConfig (ctx : WebApiContext σ) (s : WebApiState σ) :
    NoEffect s (ctx.readConfig s).2 := by
  refine ⟨?_, rfl⟩
  exact (commandsOf_append s.invoked [.read .getConfig]).trans (List.append_nil _)

/-- Nor has reading the Wi-Fi state. -/
theorem noEffect_readWifiControlState (ctx : WebApiContext σ) (s : WebApiState σ) :
    NoEffect s (ctx.readWifiControlState s).2 := by
  refine ⟨?_, rfl⟩
  exact (commandsOf_append s.invoked [.read .getWifiControlState]).trans (List.append_nil _)

/-- Asking for a reason has no effect, and the reason is not a success. -/
structure Harmless (rejected : RejectReason σ) : Prop where
  noEffect : ∀ s, NoEffect s (rejected s).2
  notSuccess : ∀ s, commandDispatchReasonIsSuccess (rejected s).1 = false

/-- Asking for a reason to reject is harmless. -/
theorem IsRejectReason.harmless {ctx : WebApiContext σ} {rejected : RejectReason σ}
    (h : IsRejectReason ctx rejected) : Harmless rejected := by
  constructor
  · intro s
    have hwiimote := noEffect_readWiimoteStatus ctx s
    rcases (h.form s).2 with hsame | hsame | hsame | hsame
    · rw [hsame]
      exact noEffect_refl s
    · rw [hsame]
      exact hwiimote
    · rw [hsame]
      exact noEffect_readControllerStatus ctx s
    · rw [hsame]
      exact hwiimote.trans (noEffect_readControllerStatus ctx _)
  · intro s
    have hsuccess : ∀ reason ∈ callReasons, commandDispatchReasonIsSuccess reason = false := by decide
    exact hsuccess _ (h.form s).1

/-- No argument is refused with a success. -/
theorem notSuccess_of_argumentReason : ∀ reason ∈ argumentReasons,
    commandDispatchReasonIsSuccess reason = false := by decide

/-- A callback that may refuse: accepted and answered Ok, or refused and answered with the
reason. -/
theorem postOutcome_callOrReject (ctx : WebApiContext σ) (call : WebApiCall)
    {rejected : RejectReason σ} (hrejected : Harmless rejected) (size : ℕ) (s : WebApiState σ) :
    PostOutcome s (callOrReject ctx call rejected size s) := by
  have hinvoke : commandsOf (ctx.invoke call s).2.invoked =
      commandsOf s.invoked ++ [(call, (ctx.call call s.userData).1)] :=
    commandsOf_append s.invoked _
  unfold callOrReject
  dsimp only
  cases hresult : (ctx.call call s.userData).1 with
  | true =>
    rw [hresult] at hinvoke
    have haccepted : ¬(!(ctx.invoke call s).1) = true := by
      change ¬(!(ctx.call call s.userData).1) = true
      rw [hresult]
      exact Bool.false_ne_true
    rw [if_neg haccepted]
    exact .carriedOut call hinvoke rfl (by decide)
  | false =>
    rw [hresult] at hinvoke
    have hrefused : (!(ctx.invoke call s).1) = true := by
      change (!(ctx.call call s.userData).1) = true
      rw [hresult]
      rfl
    obtain ⟨hcommands, hqueue⟩ := hrejected.noEffect (ctx.invoke call s).2
    rw [if_pos hrefused]
    exact .refused call (hcommands.trans hinvoke) hqueue
      (not_isSuccess_reason (hrejected.notSuccess _))

/-- A callback without a result, followed by an answer with a success status. -/
theorem postOutcome_invokeVoid (ctx : WebApiContext σ) (call : WebApiCall)
    {status : ℕ} {written : Option CString} (s : WebApiState σ) (hstatus : IsSuccess status) :
    PostOutcome s (makeResult status applicationJson, (ctx.invokeVoid call s).respond written) :=
  .carriedOut call (commandsOf_append s.invoked _) rfl hstatus

/-- Without a queue a command is run at once. -/
theorem queueOr_of_none (path verb : CString) (size : ℕ)
    (direct : WebApiState σ → WebApiRouteResult × WebApiState σ) {s : WebApiState σ}
    (hqueue : s.commandQueue = none) : queueOr path verb size direct s = direct s := by
  rw [queueOr, enqueueCommandIfConfigured, hqueue]
  rfl

/-- A command that is queued where a queue is configured. -/
theorem postOutcome_queueOr (path verb : CString) (size : ℕ)
    {direct : WebApiState σ → WebApiRouteResult × WebApiState σ} (s : WebApiState σ)
    (hsize : 512 ≤ size) (hdirect : PostOutcome s (direct s)) :
    PostOutcome s (queueOr path verb size direct s) := by
  unfold queueOr enqueueCommandIfConfigured
  cases hqueue : s.commandQueue with
  | none => exact hdirect
  | some queue =>
    dsimp only
    rcases webCommandQueueEnqueue_cases queue path verb with ⟨haccepted, -⟩ | ⟨hrefused, -⟩
    · rw [haccepted]
      obtain ⟨written, hanswer⟩ := acceptedResponse_eq size queue.nextId
        { s with commandQueue := some (webCommandQueueEnqueue queue path verb).2 } hsize
      dsimp only
      rw [hanswer]
      exact .queued queue path verb rfl hqueue haccepted rfl (by decide)
    · rw [hrefused]
      exact .notQueued queue path verb rfl hqueue hrefused rfl (by decide)

/-! ## Handlers -/

section Handlers

variable (ctx : WebApiContext σ) (cmd : WebParsedCommand) (size : ℕ) (s : WebApiState σ)

/-- A scan is one of the outcomes. -/
theorem postOutcome_scan (command : CString) (enabled : Bool) (hcommand : command.length ≤ 64)
    (hsize : 512 ≤ size) :
    PostOutcome s (scanCommandResponse size command enabled
      (ctx.invokeVoid (.setScanEnabled enabled) s)) := by
  obtain ⟨written, hanswer⟩ := scanCommandResponse_eq size command enabled
    (ctx.invokeVoid (.setScanEnabled enabled) s) hcommand hsize
  rw [hanswer]
  exact postOutcome_invokeVoid ctx _ s (by decide)

variable {ctx s} in
/-- The outcome of a handler, by its form. -/
theorem PostForm.outcome {asked : Option WebApiCall} {queues : Bool}
    {answer : ℕ → WebApiRouteResult × WebApiState σ} (h : PostForm ctx s asked queues answer)
    (hsize : 512 ≤ size) : PostOutcome s (answer size) := by
  induction h with
  | refused hreason message =>
    exact postOutcome_reasonResponse size _ _ s (notSuccess_of_argumentReason _ hreason)
  | called hvoid hrejected => exact postOutcome_callOrReject ctx _ hrejected.harmless size s
  | reconnectPolicy enabled => exact postOutcome_invokeVoid ctx _ s (by decide)
  | @scan command hcommand enabled =>
    have hlength : ∀ command ∈ [ascii "scan_start", ascii "scan_stop"], command.length ≤ 64 := by
      decide +kernel
    exact postOutcome_scan ctx size s command enabled (hlength command hcommand) hsize
  | queued path verb hdirect ih => exact postOutcome_queueOr path verb size s hsize ih

/-- A snapshot has no effect. -/
theorem noEffect_snapshotResponse (serialized : WebSerializeResult × Option CString)
    (failure : CommandDispatchMessageTemplate) :
    NoEffect s (snapshotResponse size serialized failure s).2 := by
  unfold snapshotResponse
  split
  · exact (noEffect_respond s _).trans (noEffect_reasonResponse size _ _ _)
  · exact noEffect_respond s _

/-- The routes of the table: those that are read take no body, and those that take one are
POST routes with one of the five outcomes. -/
theorem route_cases {route : RouteEntry σ} (hroute : route ∈ kRoutes) (hsize : 512 ≤ size) :
    (route.method = ascii "GET" ∧ route.requiresBody = false ∧
        NoEffect s (route.handler ctx cmd size s).2) ∨
      (route.method = ascii "POST" ∧ route.requiresBody = true ∧
        PostOutcome s (route.handler ctx cmd size s)) := by
  rcases route_form ctx hroute with ⟨hget, hbody, hhandler⟩ | ⟨hpost, hbody, hform⟩
  · refine .inl ⟨hget, hbody, ?_⟩
    simp only [List.mem_cons, List.not_mem_nil, or_false] at hhandler
    rcases hhandler with hhandler | hhandler | hhandler
    · rw [hhandler]
      exact (noEffect_readWiimoteStatus ctx s).trans (noEffect_snapshotResponse size _ _ _)
    · rw [hhandler]
      exact (noEffect_readConfig ctx s).trans (noEffect_snapshotResponse size _ _ _)
    · rw [hhandler]
      exact (noEffect_readWifiControlState ctx s).trans (noEffect_snapshotResponse size _ _ _)
  · exact .inr ⟨hpost, hbody, (hform cmd s).outcome size hsize⟩

end Handlers

end Esp32Wiimote.Web
