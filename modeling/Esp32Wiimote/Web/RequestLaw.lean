import Esp32Wiimote.Web.RouteEffect

/-!
# The law of web requests

Whatever the method, the path, the header and the body are: without an accepted header
nothing is invoked and nothing about the device shows in the answer; with one, the status
of a POST tells whether exactly one effect happened or none; and every other method has
no effect. The response buffer is the least one the server may pass, or larger.
-/

namespace Esp32Wiimote.Web

open CText

variable {σ : Type} (assets : WebAssets) (ctx : WebApiContext σ) (method path : CString)
  (authHeader : Option CString) (request : WebRequestBody) (size : ℕ) (s : WebApiState σ)

/-! ## Static requests -/

/-- A static answer is made from the response buffer alone. -/
theorem tryServeStatic_eq :
    tryServeStatic assets method path size s =
      (tryServeStatic assets method path size
        (⟨(), none, [], s.responseBuf⟩ : WebApiState Unit)).map fun answer =>
          (answer.1, { s with responseBuf := answer.2.responseBuf }) := by
  unfold tryServeStatic writeStaticResponse
  generalize (buildOpenApiJson size).1 = description
  split_ifs <;> rfl

/-- Only GET is served a static file. -/
theorem tryServeStatic_of_ne (hmethod : method ≠ ascii "GET") :
    tryServeStatic assets method path size s = none := by
  unfold tryServeStatic
  rw [if_pos hmethod]

/-- A static file has no effect. -/
theorem noEffect_tryServeStatic {answer : WebApiRouteResult × WebApiState σ}
    (h : tryServeStatic assets method path size s = some answer) :
    answer.2.invoked = s.invoked ∧ answer.2.commandQueue = s.commandQueue := by
  rw [tryServeStatic_eq] at h
  obtain ⟨static, -, rfl⟩ := Option.map_eq_some_iff.mp h
  exact ⟨rfl, rfl⟩

/-! ## Authorized requests -/

variable {ctx request size s} in
/-- A body that is accepted is handled. -/
theorem handleWithBody_of_ok {handler : RouteHandler σ}
    (hok : (webRequestParse request.body request.bodyLen .empty).1 = .Ok) :
    handleWithBody ctx handler request size s =
      handler ctx (webRequestParse request.body request.bodyLen .empty).2.1 size s := by
  have hbody : ¬(request.body = none ∨ request.bodyLen = 0) := by
    rintro (hnone | hempty)
    · rw [hnone] at hok
      cases hok
    · rw [hempty] at hok
      cases hbody : request.body with
      | none =>
        rw [hbody] at hok
        cases hok
      | some data =>
        rw [hbody, webRequestParse, if_pos (Or.inl rfl)] at hok
        cases hok
  rw [handleWithBody, if_neg hbody]
  simp only [hok, reduceCtorEq, ne_eq, not_true_eq_false, if_false]

variable {ctx request size s} in
/-- A body that is not accepted is answered as a bad request. -/
theorem handleWithBody_of_not_ok {handler : RouteHandler σ}
    (hrefused : (webRequestParse request.body request.bodyLen .empty).1 ≠ .Ok) :
    (handleWithBody ctx handler request size s).1.httpStatus = 400 := by
  rw [handleWithBody]
  dsimp only
  rw [if_pos hrefused]
  split
  · rfl
  split
  · rfl
  · rfl

/-- A handler behind the parser has one of the outcomes of a POST. -/
theorem handleWithBody_outcome {handler : RouteHandler σ}
    (hhandler : ∀ cmd, PostOutcome s (handler ctx cmd size s)) :
    PostOutcome s (handleWithBody ctx handler request size s) := by
  unfold handleWithBody
  dsimp only
  split
  · exact postOutcome_reasonResponse size _ _ s rfl
  · split
    · exact postOutcome_reasonResponse size _ _ s rfl
    · split
      · exact postOutcome_reasonResponse size _ _ s rfl
      · exact hhandler _

/-- A POST has one of these outcomes. -/
theorem dispatchRoute_post (hsize : 512 ≤ size) :
    PostOutcome s (dispatchRoute ctx (ascii "POST") path request size s) := by
  unfold dispatchRoute
  split
  · rename_i route hfound
    have hroute := List.mem_of_find?_eq_some hfound
    have hmethod : route.method = ascii "POST" := by
      have hmatched := List.find?_some hfound
      rw [Bool.and_eq_true] at hmatched
      exact eq_of_beq hmatched.1
    have hget : ascii "POST" ≠ ascii "GET" := by decide +kernel
    split
    · apply handleWithBody_outcome
      intro cmd
      rcases route_cases ctx cmd size s hroute hsize with ⟨hread, -⟩ | ⟨-, -, houtcome⟩
      · exact absurd (hmethod.symm.trans hread) hget
      · exact houtcome
    · rcases route_cases ctx .empty size s hroute hsize with ⟨hread, -⟩ | ⟨-, -, houtcome⟩
      · exact absurd (hmethod.symm.trans hread) hget
      · exact houtcome
  · exact postOutcome_reasonResponse size _ _ s rfl

/-- Any other method has no effect. -/
theorem dispatchRoute_other (hmethod : method ≠ ascii "POST") (hsize : 512 ≤ size) :
    NoEffect s (dispatchRoute ctx method path request size s).2 := by
  unfold dispatchRoute
  split
  · rename_i route hfound
    have hmatched := List.find?_some hfound
    rw [Bool.and_eq_true] at hmatched
    rcases route_cases ctx .empty size s (List.mem_of_find?_eq_some hfound) hsize with
      ⟨-, hbody, hnone⟩ | ⟨hpost, -⟩
    · rw [hbody]
      exact hnone
    · exact absurd ((eq_of_beq hmatched.1).symm.trans hpost) hmethod
  · exact noEffect_reasonResponse size _ _ s

/-- The status of a queued command has no effect. -/
theorem noEffect_handleGetCommandStatus {answer : WebApiRouteResult × WebApiState σ}
    (h : handleGetCommandStatus path size s = some answer) : NoEffect s answer.2 := by
  rcases handleGetCommandStatus_form path s with hnone | ⟨reason, -, message, hrefused⟩ | ⟨entry, hfound⟩
  · rw [hnone] at h
    cases h
  · rw [hrefused] at h
    cases h
    exact noEffect_reasonResponse size reason message s
  · rw [hfound, formattedResponse_eq] at h
    cases h
    split
    · exact noEffect_respond s _
    · exact (noEffect_respond s _).trans (noEffect_reasonResponse size _ _ _)

/-- An authorized POST has one of the outcomes. -/
theorem routeAuthorized_post (hsize : 512 ≤ size) :
    PostOutcome s (routeAuthorized ctx (ascii "POST") path request size s) := by
  have hget : ¬ascii "POST" = ascii "GET" := by decide +kernel
  unfold routeAuthorized webSocketUpgrade
  rw [if_neg hget]
  dsimp only
  rw [if_neg fun h => hget h.1]
  exact dispatchRoute_post ctx path request size s hsize

/-- Any other authorized request has no effect. -/
theorem routeAuthorized_other (hmethod : method ≠ ascii "POST") (hsize : 512 ≤ size) :
    NoEffect s (routeAuthorized ctx method path request size s).2 := by
  unfold routeAuthorized
  split
  · rename_i answer hstatus
    split at hstatus
    · exact noEffect_handleGetCommandStatus path size s hstatus
    · exact nomatch hstatus
  · split
    · exact noEffect_refl s
    · exact dispatchRoute_other ctx method path request size s hmethod hsize

/-! ## The outcomes of a POST -/

/-- The status of a POST tells whether it had its one effect. -/
theorem PostOutcome.isSuccess_iff {s : WebApiState σ} {answer : WebApiRouteResult × WebApiState σ}
    (h : PostOutcome s answer) : IsSuccess answer.1.httpStatus ↔ OneEffect s answer.2 := by
  -- one accepted command is neither none nor a refused one, and a queue that grew is not
  -- one that refused
  have hlonger : ∀ (commands : List (WebApiCall × Bool)) command, commands ≠ commands ++ [command] := by
    intro commands command heq
    simpa using congrArg List.length heq
  cases h with
  | carriedOut call hcommands hqueue hstatus => exact iff_of_true hstatus (.inl ⟨call, hcommands, hqueue⟩)
  | queued queue path verb hcommands hconfigured haccepted hqueue hstatus =>
    exact iff_of_true hstatus (.inr ⟨hcommands, queue, path, verb, hconfigured, haccepted, hqueue⟩)
  | refused call hcommands hqueue hstatus =>
    apply iff_of_false hstatus
    rintro (⟨call', hcommands', -⟩ | ⟨hcommands', -⟩)
    · rw [hcommands] at hcommands'
      have hsame := List.append_cancel_left hcommands'
      simp at hsame
    · exact hlonger _ _ (hcommands'.symm.trans hcommands)
  | notQueued queue path verb hcommands hconfigured hfull hqueue hstatus =>
    apply iff_of_false hstatus
    rintro (⟨call, hcommands', -⟩ | ⟨-, queue', path', verb', hconfigured', haccepted, hqueue'⟩)
    · exact hlonger _ _ (hcommands.symm.trans hcommands')
    · rw [hconfigured] at hconfigured'
      rw [hqueue] at hqueue'
      cases hconfigured'
      have hsame := congrArg WebCommandQueue.count (Option.some.inj hqueue')
      rcases webCommandQueueEnqueue_cases queue path verb with ⟨haccepted', -⟩ | ⟨-, hcount, -⟩
      · exact absurd (hfull.symm.trans haccepted') (Option.some_ne_none _).symm
      · rcases webCommandQueueEnqueue_cases queue path' verb' with ⟨-, hcount'⟩ | ⟨hfull', -⟩
        · omega
        · exact absurd (hfull'.symm.trans haccepted) (Option.some_ne_none _).symm
  | answered hnone hstatus =>
    apply iff_of_false hstatus
    rintro (⟨call, hcommands, -⟩ | ⟨-, queue, path, verb, hconfigured, haccepted, hqueue⟩)
    · exact hlonger _ _ (hnone.1.symm.trans hcommands)
    · have hsame := hqueue.symm.trans (hnone.2.trans hconfigured)
      rcases webCommandQueueEnqueue_cases queue path verb with ⟨-, hcount⟩ | ⟨hfull, -⟩
      · have hcounts := congrArg WebCommandQueue.count (Option.some.inj hsame)
        omega
      · exact absurd (hfull.symm.trans haccepted) (Option.some_ne_none _).symm

/-- A POST without success had no effect that lasts. -/
theorem PostOutcome.noAcceptance {s : WebApiState σ} {answer : WebApiRouteResult × WebApiState σ}
    (h : PostOutcome s answer) (hfailure : ¬IsSuccess answer.1.httpStatus) :
    NoAcceptance s answer.2 := by
  have hsame : ∀ {t : WebApiState σ}, t.commandQueue = s.commandQueue →
      ∀ commandId, queuedCommand t commandId = queuedCommand s commandId := by
    intro t hqueue commandId
    rw [queuedCommand, queuedCommand, hqueue]
  cases h with
  | carriedOut call hcommands hqueue hstatus => exact absurd hstatus hfailure
  | queued queue path verb hcommands hconfigured haccepted hqueue hstatus =>
    exact absurd hstatus hfailure
  | refused call hcommands hqueue hstatus =>
    refine ⟨⟨_, hcommands, ?_⟩, hsame hqueue⟩
    intro command hcommand
    rw [List.mem_singleton.mp hcommand]
  | notQueued queue path verb hcommands hconfigured hfull hqueue hstatus =>
    refine ⟨⟨[], by rw [hcommands, List.append_nil], nofun⟩, fun commandId => ?_⟩
    rcases webCommandQueueEnqueue_cases queue path verb with ⟨haccepted, -⟩ | ⟨-, -, hget⟩
    · exact absurd (hfull.symm.trans haccepted) (Option.some_ne_none _).symm
    · rw [queuedCommand, queuedCommand, hqueue, hconfigured]
      exact hget commandId
  | answered hnone hstatus =>
    exact ⟨⟨[], by rw [hnone.1, List.append_nil], nofun⟩, hsame hnone.2⟩

/-! ## The law -/

/-- The law of one request, by whether its header is accepted and by its method. -/
structure RequestLaw : Prop where
  rejected : webAuthValidate authHeader ctx.wifiApiToken ≠ .Ok →
    let answer := webApiRoute assets ctx (some method) (some path) authHeader request size s
    answer.2.invoked = s.invoked ∧ answer.2.commandQueue = s.commandQueue ∧
      ∀ {τ : Type} (ctx' : WebApiContext τ) (s' : WebApiState τ),
        ctx'.wifiApiToken = ctx.wifiApiToken → s'.responseBuf = s.responseBuf →
        let answer' := webApiRoute assets ctx' (some method) (some path) authHeader request size s'
        answer'.1 = answer.1 ∧ answer'.2.responseBuf = answer.2.responseBuf
  success_iff : webAuthValidate authHeader ctx.wifiApiToken = .Ok → method = ascii "POST" →
    let answer := webApiRoute assets ctx (some method) (some path) authHeader request size s
    IsSuccess answer.1.httpStatus ↔ OneEffect s answer.2
  failure : webAuthValidate authHeader ctx.wifiApiToken = .Ok → method = ascii "POST" →
    let answer := webApiRoute assets ctx (some method) (some path) authHeader request size s
    ¬IsSuccess answer.1.httpStatus → NoAcceptance s answer.2
  other : method ≠ ascii "POST" →
    NoEffect s (webApiRoute assets ctx (some method) (some path) authHeader request size s).2

/-- A request of a rejected header is answered statically or as unauthorized. -/
theorem webApiRoute_of_rejected (hsize : 0 < size)
    (hauth : webAuthValidate authHeader ctx.wifiApiToken ≠ .Ok) :
    webApiRoute assets ctx (some method) (some path) authHeader request size s =
      (tryServeStatic assets method path size s).getD (reasonResponse size .Unauthorized none s) := by
  unfold webApiRoute
  dsimp only
  rw [if_neg (by omega)]
  cases tryServeStatic assets method path size s with
  | none => exact if_pos hauth
  | some answer => rfl

/-- A request of an accepted header that is not static goes on to the routes. -/
theorem webApiRoute_of_accepted (hsize : 0 < size)
    (hauth : webAuthValidate authHeader ctx.wifiApiToken = .Ok) :
    webApiRoute assets ctx (some method) (some path) authHeader request size s =
      (tryServeStatic assets method path size s).getD
        (routeAuthorized ctx method path request size s) := by
  unfold webApiRoute
  dsimp only
  rw [if_neg (by omega)]
  cases tryServeStatic assets method path size s with
  | none => exact if_neg fun h => h hauth
  | some answer => rfl

/-- A POST that passes the check has one of the outcomes. -/
theorem webApiRoute_post (hsize : 512 ≤ size)
    (hauth : webAuthValidate authHeader ctx.wifiApiToken = .Ok) :
    PostOutcome s
      (webApiRoute assets ctx (some (ascii "POST")) (some path) authHeader request size s) := by
  rw [webApiRoute_of_accepted assets ctx _ path authHeader request size s (by omega) hauth,
    tryServeStatic_of_ne _ _ _ _ _ (by decide +kernel)]
  exact routeAuthorized_post ctx path request size s hsize

/-- Every request to a router with a response buffer of at least 512 bytes obeys the law. -/
theorem requestLaw (hsize : 512 ≤ size) :
    RequestLaw assets ctx method path authHeader request size s := by
  constructor
  case rejected =>
    intro hauth answer
    have hanswer : answer = _ :=
      webApiRoute_of_rejected assets ctx method path authHeader request size s (by omega) hauth
    refine ⟨?_, ?_, ?_⟩
    · rw [hanswer]
      cases hstatic : tryServeStatic assets method path size s with
      | none => rfl
      | some served => exact (noEffect_tryServeStatic assets method path size s hstatic).1
    · rw [hanswer]
      cases hstatic : tryServeStatic assets method path size s with
      | none => rfl
      | some served => exact (noEffect_tryServeStatic assets method path size s hstatic).2
    · intro τ ctx' s' htoken hbuf answer'
      have hanswer' : answer' = _ :=
        webApiRoute_of_rejected assets ctx' method path authHeader request size s' (by omega)
          (by rw [htoken]; exact hauth)
      rw [hanswer, hanswer', tryServeStatic_eq, tryServeStatic_eq assets method path size s, hbuf]
      cases tryServeStatic assets method path size
          (⟨(), none, [], s.responseBuf⟩ : WebApiState Unit) with
      | none =>
        refine ⟨rfl, ?_⟩
        simp only [Option.map_none, Option.getD_none]
        unfold reasonResponse errorResponse WebApiState.respond
        rw [hbuf]
      | some served => exact ⟨rfl, rfl⟩
  case success_iff =>
    rintro hauth rfl
    exact (webApiRoute_post assets ctx path authHeader request size s hsize hauth).isSuccess_iff
  case failure =>
    rintro hauth rfl
    exact (webApiRoute_post assets ctx path authHeader request size s hsize hauth).noAcceptance
  case other =>
    intro hmethod
    by_cases hauth : webAuthValidate authHeader ctx.wifiApiToken = .Ok
    · rw [webApiRoute_of_accepted assets ctx method path authHeader request size s (by omega) hauth]
      cases hstatic : tryServeStatic assets method path size s with
      | none => exact routeAuthorized_other ctx method path request size s hmethod hsize
      | some served =>
        obtain ⟨hinvoked, hqueue⟩ := noEffect_tryServeStatic assets method path size s hstatic
        exact ⟨congrArg commandsOf hinvoked, hqueue⟩
    · rw [webApiRoute_of_rejected assets ctx method path authHeader request size s (by omega) hauth]
      cases hstatic : tryServeStatic assets method path size s with
      | none => exact noEffect_reasonResponse size _ _ s
      | some served =>
        obtain ⟨hinvoked, hqueue⟩ := noEffect_tryServeStatic assets method path size s hstatic
        exact ⟨congrArg commandsOf hinvoked, hqueue⟩

/-- A context whose device is connected and accepts every command. -/
def acceptingContext : WebApiContext Unit where
  wifiApiToken := some (ascii "token")
  getWiimoteStatus s := (⟨true, 50⟩, s)
  getControllerStatus s := (⟨true, true, false, true, 0x80, false, true⟩, s)
  getConfig s := (⟨5, 32, 32, 180000⟩, s)
  getWifiControlState s := (⟨true, true, true, true, true, false, true, true, false, true⟩, s)
  call _ s := (true, s)
  allowWifiApiTokenMutation := false
  hasEventStream := false

/-- A command in the smallest response buffer has its one effect. -/
theorem requestLaw_of_ledCommand :
    OneEffect (⟨(), none, [], []⟩ : WebApiState Unit)
      (webApiRoute ⟨[], [], []⟩ acceptingContext (some (ascii "POST"))
        (some (ascii "/api/wiimote/commands/leds")) (some (ascii "Bearer token"))
        ⟨some (ascii "\x7b\"command\":\"set\",\"mask\":\"3\"\x7d"), 28⟩ 512 ⟨(), none, [], []⟩).2 := by
  apply ((requestLaw ⟨[], [], []⟩ acceptingContext (ascii "POST")
    (ascii "/api/wiimote/commands/leds") (some (ascii "Bearer token"))
    ⟨some (ascii "\x7b\"command\":\"set\",\"mask\":\"3\"\x7d"), 28⟩ 512 ⟨(), none, [], []⟩
    (by decide)).success_iff (by decide +kernel) rfl).mp
  decide +kernel

end Esp32Wiimote.Web
