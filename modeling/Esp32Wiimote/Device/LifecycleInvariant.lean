import Esp32Wiimote.Device.LifecycleEffect

/-!
# Invariants of the Wi-Fi lifecycle
-/

namespace Esp32Wiimote.Device.WifiControl

variable {c : WifiControl}

/-! ## The flags follow the stage -/

/-- What the stage says about the flags of the startup. -/
structure Tracked (c : WifiControl) : Prop where
  server : c.serverStarted = c.httpServer.started
  serving : c.serverStarted = true ↔ 4 ≤ c.wifiInitStage.value
  bindFailed : c.serverBindFailed = true → c.serverStarted = false
  connected : c.wifiNetworkConnected = true ↔ 2 ≤ c.wifiInitStage.value
  connectFailed : c.wifiNetworkConnectFailed = true → c.wifiInitStage.value < 2
  layer : 1 ≤ c.wifiInitStage.value → c.wifiLayerStarted = true
  staticRoutes : 3 ≤ c.wifiInitStage.value → c.staticRoutesRegistered = true
  apiRoutes : 4 ≤ c.wifiInitStage.value → c.apiRoutesRegistered = true
  ready : c.wifiControlReady = true → c.wifiInitStage = .Ready ∧ c.wifiControlInitializing = false

/-- Neither starting, nor ready, nor serving. -/
structure AtRest (c : WifiControl) : Prop where
  initializing : c.wifiControlInitializing = false
  ready : c.wifiControlReady = false
  server : c.serverStarted = false

/-- After a reset nothing is left to track. -/
theorem tracked_carryOut (c : WifiControl) (a : WifiLifecycleAction) : Tracked (c.carryOut a) := by
  unfold carryOut
  rw [resetWifiLifecycleState_eq]
  constructor
  case server => exact c.stoppedServer_started.symm
  all_goals simp [WifiInitStage.value]

/-- The settings of a request leave the flags tracked. -/
theorem Tracked.settings (h : Tracked c) (r : Request) : Tracked (c.settings r) := by
  obtain ⟨_, _, _, _, _, _, _, heq⟩ := c.settings_eq r
  rw [heq]
  exact { h with }

/-- So does the action it asks for. -/
theorem Tracked.act (h : Tracked c) (a : Option WifiLifecycleAction) : Tracked (c.act a) := by
  cases a with
  | none => exact h
  | some a =>
    unfold WifiControl.act
    dsimp only
    split
    · exact { h with }
    · exact tracked_carryOut c a

/-- So does the whole request. -/
theorem Tracked.handle (h : Tracked c) (r : Request) : Tracked (c.handle r) := by
  rw [handle_eq]
  exact (h.settings r).act _

/-- So does the queued action. -/
theorem Tracked.applyQueued (h : Tracked c) : Tracked c.applyQueuedWifiLifecycleAction := by
  rw [applyQueuedWifiLifecycleAction_eq]
  split
  · exact tracked_carryOut _ _
  · exact h

section Startup

variable (input : StartupInput)

/-- At the stage that starts it the server is not started yet, so it starts exactly when it can
begin. -/
theorem startWifiHttpServer_eq (h : Tracked c) (hstage : c.wifiInitStage = .RegisterApiRoutes)
    (serverBegins : Bool) :
    c.startWifiHttpServer serverBegins =
      (serverBegins,
        { c with
          httpServer := { c.httpServer with started := serverBegins }
          serverBindFailed := !serverBegins
          serverStarted := serverBegins }) := by
  have hstopped : c.serverStarted = false := by
    rw [← Bool.not_eq_true, h.serving, hstage]
    decide
  have hserver : c.httpServer.started = false := h.server.symm.trans hstopped
  unfold startWifiHttpServer WifiHttpServer.begin
  rw [hstopped, hserver]
  cases serverBegins <;> rfl

/-- So does the first stage of the startup. -/
theorem Tracked.startWifi (h : Tracked c) (hstage : c.wifiInitStage = .StartWifi)
    (hready : c.wifiControlReady = false) : Tracked (c.startWifi input) := by
  obtain ⟨server, serving, bindFailed, connected, connectFailed, layer, static, api, ready⟩ := h
  unfold WifiControl.startWifi abandon
  split
  · constructor <;> simp_all [WifiInitStage.value]
  · split
    · constructor <;> simp_all [WifiInitStage.value]
    · constructor <;> simp_all [WifiInitStage.value]

/-- So does the stage that waits for the station. -/
theorem Tracked.waitNetworkConnected (h : Tracked c)
    (hstage : c.wifiInitStage = .WaitNetworkConnected) (hready : c.wifiControlReady = false) :
    Tracked (c.waitNetworkConnected input) := by
  unfold WifiControl.waitNetworkConnected abandon
  split
  · exact h
  · obtain ⟨server, serving, bindFailed, connected, connectFailed, layer, static, api, ready⟩ := h
    split
    · constructor <;> simp_all [WifiInitStage.value]
    · split
      · constructor <;> simp_all [WifiInitStage.value]
      · constructor <;> simp_all [WifiInitStage.value]

/-- So does the stage of the static routes. -/
theorem Tracked.registerStaticRoutes (h : Tracked c)
    (hstage : c.wifiInitStage = .RegisterStaticRoutes) (hready : c.wifiControlReady = false) :
    Tracked c.registerStaticRoutes := by
  obtain ⟨server, serving, bindFailed, connected, connectFailed, layer, static, api, ready⟩ := h
  unfold WifiControl.registerStaticRoutes
  constructor <;> simp_all [WifiInitStage.value]

/-- So does the stage of the API routes. -/
theorem Tracked.registerApiRoutes (h : Tracked c) (hstage : c.wifiInitStage = .RegisterApiRoutes)
    (hready : c.wifiControlReady = false) : Tracked (c.registerApiRoutes input) := by
  unfold WifiControl.registerApiRoutes abandon
  rw [startWifiHttpServer_eq h hstage]
  obtain ⟨server, serving, bindFailed, connected, connectFailed, layer, static, api, ready⟩ := h
  dsimp only
  split
  · constructor <;> simp_all [WifiInitStage.value]
  · split
    · constructor <;> simp_all [WifiInitStage.value]
    · constructor <;> simp_all [WifiInitStage.value]

/-- So does the stage of the WebSocket routes. -/
theorem Tracked.registerWebSocketRoutes (h : Tracked c)
    (hstage : c.wifiInitStage = .RegisterWebSocketRoutes) (hready : c.wifiControlReady = false) :
    Tracked c.registerWebSocketRoutes := by
  obtain ⟨server, serving, bindFailed, connected, connectFailed, layer, static, api, ready⟩ := h
  unfold WifiControl.registerWebSocketRoutes
  constructor <;> simp_all [WifiInitStage.value]

/-- So does the last stage. -/
theorem Tracked.becomeReady (h : Tracked c) (hstage : c.wifiInitStage = .Ready) :
    Tracked c.becomeReady :=
  { h with ready := fun _ => ⟨hstage, rfl⟩ }

/-- Every startup step leaves the flags tracked. -/
theorem Tracked.startupStep (h : Tracked c) (hready : c.wifiControlReady = false) :
    Tracked (c.startupStep input) := by
  unfold WifiControl.startupStep
  split
  case h_1 hstage => exact h.startWifi input hstage hready
  case h_2 hstage => exact h.waitNetworkConnected input hstage hready
  case h_3 hstage => exact h.registerStaticRoutes hstage hready
  case h_4 hstage => exact h.registerApiRoutes input hstage hready
  case h_5 hstage => exact h.registerWebSocketRoutes hstage hready
  case h_6 hstage => exact h.becomeReady hstage

/-- A startup step is taken by a control that is on and not ready, and marks it as
initializing. -/
theorem processWifiControl_cases (c : WifiControl) :
    c.processWifiControl input = c ∨
      c.wifiControlEnabled = true ∧ c.wifiControlReady = false ∧
        c.processWifiControl input =
          ({ c with wifiControlInitializing := true } : WifiControl).startupStep input := by
  unfold processWifiControl
  cases hdue : c.startupDue with
  | false => exact .inl rfl
  | true =>
    simp only [startupDue, Bool.and_eq_true, Bool.not_eq_true'] at hdue
    exact .inr ⟨hdue.1.1, hdue.2, rfl⟩

/-- To note that the startup has begun leaves them tracked. -/
theorem Tracked.initializing (h : Tracked c) (hready : c.wifiControlReady = false) :
    Tracked { c with wifiControlInitializing := true } :=
  { h with ready := fun hready' => absurd (hready.symm.trans hready') Bool.false_ne_true }

/-- `processWifiControl` leaves them tracked. -/
theorem Tracked.processWifiControl (h : Tracked c) : Tracked (c.processWifiControl input) := by
  rcases processWifiControl_cases input c with heq | ⟨-, hready, heq⟩
  · rw [heq]
    exact h
  · rw [heq]
    exact (h.initializing hready).startupStep input hready

/-- A startup step that gives up leaves nothing running. -/
theorem startupStep_enabled_or_atRest (h : Tracked c) (hready : c.wifiControlReady = false)
    (henabled : c.wifiControlEnabled = true) :
    (c.startupStep input).wifiControlEnabled = true ∨ AtRest (c.startupStep input) := by
  have hstopped : c.wifiInitStage.value < 4 → c.serverStarted = false := by
    intro hstage
    rw [← Bool.not_eq_true, h.serving]
    omega
  unfold WifiControl.startupStep
  split
  case h_1 hstage =>
    unfold WifiControl.startWifi
    split
    · exact .inr ⟨rfl, hready, hstopped (by rw [hstage]; decide)⟩
    · split <;> exact .inl henabled
  case h_2 hstage =>
    unfold WifiControl.waitNetworkConnected
    split
    · exact .inl henabled
    · split
      · exact .inl henabled
      · split
        · exact .inr ⟨rfl, hready, hstopped (by rw [hstage]; decide)⟩
        · exact .inl henabled
  case h_3 => exact .inl henabled
  case h_4 hstage =>
    unfold WifiControl.registerApiRoutes
    rw [startWifiHttpServer_eq h hstage]
    cases hbegins : input.serverBegins with
    | false => exact .inr ⟨rfl, hready, rfl⟩
    | true =>
      left
      dsimp only
      rw [if_neg (by decide)]
      split <;> exact henabled
  case h_5 => exact .inl henabled
  case h_6 => exact .inl henabled

/-- What a startup leaves alone: the settings, the pending action, the record of the requests,
and what concerns the dispatches. -/
structure StartupFrame (c d : WifiControl) : Prop where
  config : d.config = c.config
  deliveryMode : d.wifiDeliveryMode = c.wifiDeliveryMode
  pendingAction : d.pendingAction = c.pendingAction
  latestRequest : d.latestRequest = c.latestRequest
  dispatchingRequest : d.httpServer.dispatchingRequest = c.httpServer.dispatchingRequest
  endedDuringDispatch : d.httpServer.endedDuringDispatch = c.httpServer.endedDuringDispatch

/-- Starting the server leaves everything outside the startup alone. -/
theorem startWifiHttpServer_frame (c : WifiControl) (serverBegins : Bool) :
    StartupFrame c (c.startWifiHttpServer serverBegins).2 := by
  unfold startWifiHttpServer WifiHttpServer.begin
  split
  · exact ⟨rfl, rfl, rfl, rfl, rfl, rfl⟩
  · cases c.httpServer.started <;> cases serverBegins <;> exact ⟨rfl, rfl, rfl, rfl, rfl, rfl⟩

/-- So does every startup step. -/
theorem startupStep_frame (c : WifiControl) : StartupFrame c (c.startupStep input) := by
  unfold WifiControl.startupStep
  split
  case h_1 =>
    unfold WifiControl.startWifi
    split
    · exact ⟨rfl, rfl, rfl, rfl, rfl, rfl⟩
    · split <;> exact ⟨rfl, rfl, rfl, rfl, rfl, rfl⟩
  case h_2 =>
    unfold WifiControl.waitNetworkConnected
    split
    · exact ⟨rfl, rfl, rfl, rfl, rfl, rfl⟩
    · split
      · exact ⟨rfl, rfl, rfl, rfl, rfl, rfl⟩
      · split <;> exact ⟨rfl, rfl, rfl, rfl, rfl, rfl⟩
  case h_3 => exact ⟨rfl, rfl, rfl, rfl, rfl, rfl⟩
  case h_4 =>
    have hstart := c.startWifiHttpServer_frame input.serverBegins
    unfold WifiControl.registerApiRoutes
    dsimp only
    split
    · exact { hstart with }
    · split <;> exact { hstart with }
  case h_5 => exact ⟨rfl, rfl, rfl, rfl, rfl, rfl⟩
  case h_6 => exact ⟨rfl, rfl, rfl, rfl, rfl, rfl⟩

/-- So does the whole of `processWifiControl`. -/
theorem processWifiControl_frame (c : WifiControl) : StartupFrame c (c.processWifiControl input) := by
  rcases processWifiControl_cases input c with heq | ⟨-, -, heq⟩
  · rw [heq]
    exact ⟨rfl, rfl, rfl, rfl, rfl, rfl⟩
  · rw [heq]
    exact { startupStep_frame input { c with wifiControlInitializing := true } with }

/-- Only a startup that gives up switches the control off. -/
theorem processWifiControl_enabled_or_atRest (h : Tracked c) (henabled : c.wifiControlEnabled = true) :
    (c.processWifiControl input).wifiControlEnabled = true ∨ AtRest (c.processWifiControl input) := by
  rcases processWifiControl_cases input c with heq | ⟨-, hready, heq⟩
  · rw [heq]
    exact .inl henabled
  · rw [heq]
    exact startupStep_enabled_or_atRest input (h.initializing hready) hready henabled

/-- A control that is off takes no startup step. -/
theorem processWifiControl_of_disabled (hdisabled : c.wifiControlEnabled = false) :
    c.processWifiControl input = c := by
  rcases processWifiControl_cases input c with heq | ⟨henabled, -, -⟩
  · exact heq
  · exact absurd (hdisabled.symm.trans henabled) Bool.false_ne_true

end Startup

/-! ## A control that is off does not serve -/

/-- A control that is off with nothing pending has no server running. -/
structure Coherent (c : WifiControl) : Prop extends Tracked c where
  disabled : c.wifiControlEnabled = false → c.pendingAction = none → c.serverStarted = false

/-- An action carried out leaves a coherent control. -/
theorem coherent_carryOut (c : WifiControl) (a : WifiLifecycleAction) : Coherent (c.carryOut a) :=
  { tracked_carryOut c a with disabled := fun _ _ => (c.carryOut_cleared a).2.2.1 }

/-- A request leaves it coherent. -/
theorem Coherent.handle (h : Coherent c) (r : Request) : Coherent (c.handle r) := by
  rw [handle_eq]
  obtain ⟨hserver, hpending, -⟩ := c.settings_frame r
  have htracked := h.toTracked.settings r
  cases haction : c.actionOf r with
  | none =>
    refine { htracked with disabled := fun hdisabled hnone => ?_ }
    have hoff : c.wifiControlEnabled = false :=
      (c.enabled_of_no_action haction).symm.trans hdisabled
    exact hserver.trans (h.disabled hoff (hpending.symm.trans hnone))
  | some a =>
    rcases (c.settings r).act_some a with ⟨-, heq⟩ | ⟨-, heq⟩
    · rw [heq]
      refine { htracked with disabled := fun _ hnone => ?_ }
      exact absurd ((pendingAction_defer _ a).symm.trans hnone) (Option.some_ne_none a)
    · rw [heq]
      exact coherent_carryOut _ a

/-- So does the queued action. -/
theorem Coherent.applyQueued (h : Coherent c) : Coherent c.applyQueuedWifiLifecycleAction := by
  rw [applyQueuedWifiLifecycleAction_eq]
  split
  · exact coherent_carryOut _ _
  · exact h

/-- So does `processWifiControl`. -/
theorem Coherent.processWifiControl (h : Coherent c) (input : StartupInput) :
    Coherent (c.processWifiControl input) := by
  refine { h.toTracked.processWifiControl input with disabled := fun hdisabled hnone => ?_ }
  cases henabled : c.wifiControlEnabled with
  | true =>
    rcases processWifiControl_enabled_or_atRest input h.toTracked henabled with hon | hrest
    · exact absurd (hdisabled.symm.trans hon) Bool.false_ne_true
    · exact hrest.server
  | false =>
    rw [processWifiControl_of_disabled input henabled] at hnone ⊢
    exact h.disabled henabled hnone

/-- So does the request of a serial command. -/
theorem Coherent.handleSerial (h : Coherent c) (serial : Option Request) :
    Coherent (c.handleSerial serial) := by
  cases serial with
  | none => exact h
  | some r => exact h.handle r

/-- Coherence is kept by everything that can happen, in any order. -/
theorem Coherent.step (h : Coherent c) (e : Event) : Coherent (c.step e) := by
  cases e with
  | request r => exact h.handle r
  | task serial input => exact (h.applyQueued.handleSerial serial).processWifiControl input
  | dispatch begins => exact { h with }

/-! ## The latest request -/

/-- The control obeys: switched off with nothing pending it is at rest, and it is off when the
latest request was to disable it. -/
structure Obedient (c : WifiControl) : Prop extends Tracked c where
  atRest : c.wifiControlEnabled = false → c.pendingAction = none → AtRest c
  latest : c.latestRequest = some .disable → c.wifiControlEnabled = false

/-- A pending restart finds the control on. -/
def RestartWanted (c : WifiControl) : Prop :=
  c.wifiLifecycleRestartPending = true → c.wifiControlEnabled = true

/-- An action carried out leaves the control obedient, if a restart finds it on. -/
theorem obedient_carryOut {a : WifiLifecycleAction}
    (hlatest : c.latestRequest = some .disable → c.wifiControlEnabled = false)
    (hrestart : a = .restart → c.wifiControlEnabled = true) : Obedient (c.carryOut a) := by
  obtain ⟨-, -, henabled, -, hrequest, -⟩ := c.carryOut_frame a
  obtain ⟨hinitializing, hready, hserver, -⟩ := c.carryOut_cleared a
  refine { tracked_carryOut c a with atRest := ?_, latest := ?_ }
  · intro hdisabled _
    refine ⟨?_, hready, hserver⟩
    rw [hinitializing]
    refine decide_eq_false fun ha => ?_
    exact Bool.false_ne_true (hdisabled.symm.trans (henabled.trans (hrestart ha)))
  · intro hdisable
    exact henabled.trans (hlatest (hrequest.symm.trans hdisable))

/-- A request leaves it obedient. -/
theorem Obedient.handle (h : Obedient c) (r : Request) : Obedient (c.handle r) := by
  rw [handle_eq]
  obtain ⟨hserver, hpending, -, -, -, hinitializing, hready⟩ := c.settings_frame r
  have htracked := h.toTracked.settings r
  have hlatest := c.disabled_of_latest (r := r) h.latest
  cases haction : c.actionOf r with
  | none =>
    refine { htracked with atRest := fun hdisabled hnone => ?_, latest := hlatest }
    have hoff : c.wifiControlEnabled = false :=
      (c.enabled_of_no_action haction).symm.trans hdisabled
    have hrest := h.atRest hoff (hpending.symm.trans hnone)
    exact ⟨hinitializing.trans hrest.initializing, hready.trans hrest.ready,
      hserver.trans hrest.server⟩
  | some a =>
    rcases (c.settings r).act_some a with ⟨-, heq⟩ | ⟨-, heq⟩
    · rw [heq]
      refine { htracked with atRest := fun _ hnone => ?_, latest := hlatest }
      exact absurd ((pendingAction_defer _ a).symm.trans hnone) (Option.some_ne_none a)
    · rw [heq]
      apply obedient_carryOut hlatest
      rintro rfl
      exact c.enabled_of_restart haction

/-- So does the queued action, if a restart is wanted. -/
theorem Obedient.applyQueued (h : Obedient c) (hwanted : RestartWanted c) :
    Obedient c.applyQueuedWifiLifecycleAction := by
  rw [applyQueuedWifiLifecycleAction_eq]
  split
  · rename_i a hpending
    apply obedient_carryOut (c := c.unqueue) h.latest
    rintro rfl
    apply hwanted
    unfold pendingAction at hpending
    split at hpending
    · assumption
    · split at hpending <;> exact nomatch hpending
  · exact h

/-- So does `processWifiControl`. -/
theorem Obedient.processWifiControl (h : Obedient c) (input : StartupInput) :
    Obedient (c.processWifiControl input) := by
  have hframe := processWifiControl_frame input c
  have htracked := h.toTracked.processWifiControl input
  cases henabled : c.wifiControlEnabled with
  | true =>
    rcases processWifiControl_enabled_or_atRest input h.toTracked henabled with hon | hrest
    · refine { htracked with atRest := fun hdisabled _ => ?_, latest := fun hdisable => ?_ }
      · exact absurd (hdisabled.symm.trans hon) Bool.false_ne_true
      · have hoff := h.latest (hframe.latestRequest.symm.trans hdisable)
        exact absurd (hoff.symm.trans henabled) Bool.false_ne_true
    · refine { htracked with atRest := fun _ _ => hrest, latest := fun hdisable => ?_ }
      have hoff := h.latest (hframe.latestRequest.symm.trans hdisable)
      exact absurd (hoff.symm.trans henabled) Bool.false_ne_true
  | false =>
    rw [processWifiControl_of_disabled input henabled]
    exact h

/-- So does every step whose pending restart finds the control on. -/
theorem Obedient.step (h : Obedient c) (e : Event)
    (hwanted : (∃ serial input, e = .task serial input) → RestartWanted c) : Obedient (c.step e) := by
  cases e with
  | request r => exact h.handle r
  | task serial input =>
    have hstart := h.applyQueued (hwanted ⟨serial, input, rfl⟩)
    cases serial with
    | none => exact hstart.processWifiControl input
    | some r => exact (hstart.handle r).processWifiControl input
  | dispatch begins =>
    exact { h with atRest := fun hdisabled hnone => { h.atRest hdisabled hnone with } }

/-! ## The delivery mode -/

/-- The registered routes agree with the delivery mode, as far as the startup has come. -/
def RoutesMatch (c : WifiControl) : Prop :=
  match c.wifiInitStage with
  | .Ready => c.websocketRoutesRegistered = true ↔ c.wifiDeliveryMode = .RestAndWebSocket
  | .RegisterWebSocketRoutes =>
    c.websocketRoutesRegistered = false ∧ c.wifiDeliveryMode = .RestAndWebSocket
  | _ => c.websocketRoutesRegistered = false

/-- The configured mode is the one in force, and without a pending action the routes match. -/
structure ModeAgreed (c : WifiControl) : Prop extends Coherent c where
  mode : c.config.deliveryMode = c.wifiDeliveryMode
  routes : c.pendingAction = none → RoutesMatch c

/-- The request does not change the mode behind the back of the startup: it enables and disables
in the configured mode, and does not extend the mode once the routes are settled. -/
def KeepsMode (c : WifiControl) : Request → Prop
  | .enable _ deliveryMode => deliveryMode = c.config.deliveryMode
  | .configure config _ _ =>
    ¬(c.config.deliveryMode = .RestOnly ∧ config.deliveryMode = .RestAndWebSocket ∧
      c.wifiInitStage = .Ready ∧ c.pendingAction = none)
  | _ => True

/-- Whether the routes match depends on stage, routes and mode only. -/
theorem RoutesMatch.of_eq {d : WifiControl} (h : RoutesMatch c)
    (hstage : d.wifiInitStage = c.wifiInitStage)
    (hroutes : d.websocketRoutesRegistered = c.websocketRoutesRegistered)
    (hmode : d.wifiDeliveryMode = c.wifiDeliveryMode) : RoutesMatch d := by
  unfold RoutesMatch at h ⊢
  rw [hstage, hroutes, hmode]
  exact h

/-- Before the mode is looked at, the routes that depend on it are not registered. -/
theorem routesMatch_early_iff (hstage : c.wifiInitStage.value < 4) :
    RoutesMatch c ↔ c.websocketRoutesRegistered = false := by
  unfold RoutesMatch
  cases hs : c.wifiInitStage with
  | RegisterWebSocketRoutes =>
    rw [hs] at hstage
    exact absurd hstage (by decide)
  | Ready =>
    rw [hs] at hstage
    exact absurd hstage (by decide)
  | _ => exact Iff.rfl

/-- A request that keeps the mode leaves the configured mode in force. -/
theorem ModeAgreed.settings_mode (h : ModeAgreed c) {r : Request} (hkeeps : KeepsMode c r) :
    (c.settings r).config.deliveryMode = (c.settings r).wifiDeliveryMode := by
  cases r with
  | enable enabled deliveryMode =>
    cases enabled with
    | false => exact hkeeps.symm
    | true =>
      simp only [settings, allowWifi]
      split <;> exact hkeeps.symm
  | restart =>
    simp only [settings]
    split <;> exact h.mode
  | deliveryMode deliveryMode => rfl
  | network network => exact h.mode
  | configure config network networkConfigured => rfl

/-- A request without an action leaves the mode alone, or comes before the mode is looked at. -/
theorem ModeAgreed.settings_early_or_same (h : ModeAgreed c) {r : Request} (hkeeps : KeepsMode c r)
    (haction : c.actionOf r = none) (hnone : c.pendingAction = none) :
    (c.settings r).wifiDeliveryMode = c.wifiDeliveryMode ∨ c.wifiInitStage.value < 4 := by
  cases r with
  | enable enabled deliveryMode =>
    cases enabled with
    | false => cases haction
    | true => exact .inl (Eq.trans hkeeps h.mode)
  | restart =>
    simp only [settings]
    split <;> exact .inl rfl
  | deliveryMode deliveryMode =>
    right
    have hdisabled : c.wifiControlEnabled = false := by
      by_contra henabled
      rw [Bool.not_eq_false] at henabled
      exact Option.some_ne_none _ ((if_pos henabled).symm.trans haction)
    by_contra hstage
    have hserving := h.serving.mpr (Nat.le_of_not_lt hstage)
    exact Bool.false_ne_true ((h.disabled hdisabled hnone).symm.trans hserving)
  | network network => exact .inl rfl
  | configure config network networkConfigured =>
    by_cases hconfig : config.deliveryMode = .RestAndWebSocket
    · cases hmode : c.config.deliveryMode with
      | RestAndWebSocket =>
        left
        exact (if_pos hconfig).trans (hmode.symm.trans h.mode)
      | RestOnly =>
        right
        by_contra hstage
        have hroutes := h.routes hnone
        have hlive : c.wifiDeliveryMode = .RestOnly := h.mode.symm.trans hmode
        unfold RoutesMatch at hroutes
        cases hs : c.wifiInitStage with
        | Ready => exact hkeeps ⟨hmode, hconfig, hs, hnone⟩
        | RegisterWebSocketRoutes =>
          rw [hs, hlive] at hroutes
          cases hroutes.2
        | _ =>
          rw [hs] at hstage
          exact hstage (by decide)
    · left
      exact (if_neg hconfig).trans h.mode

/-- An action carried out makes the routes match again. -/
theorem modeAgreed_carryOut (hmode : c.config.deliveryMode = c.wifiDeliveryMode)
    (a : WifiLifecycleAction) : ModeAgreed (c.carryOut a) := by
  obtain ⟨hconfig, hlive, -⟩ := c.carryOut_frame a
  obtain ⟨-, -, -, hstage, hroutes⟩ := c.carryOut_cleared a
  refine { coherent_carryOut c a with mode := ?_, routes := fun _ => ?_ }
  · rw [hconfig, hlive]
    exact hmode
  · rw [routesMatch_early_iff (by rw [hstage]; decide)]
    exact hroutes

/-- A request that keeps the mode leaves it agreed. -/
theorem ModeAgreed.handle (h : ModeAgreed c) {r : Request} (hkeeps : KeepsMode c r) :
    ModeAgreed (c.handle r) := by
  have hcoherent := h.toCoherent.handle r
  rw [handle_eq] at hcoherent ⊢
  obtain ⟨-, hpending, -, hstage, hroutes, -⟩ := c.settings_frame r
  have hmode := h.settings_mode hkeeps
  cases haction : c.actionOf r with
  | none =>
    rw [haction] at hcoherent
    refine { hcoherent with mode := hmode, routes := fun hnone => ?_ }
    have hnone' := hpending.symm.trans hnone
    rcases h.settings_early_or_same hkeeps haction hnone' with hsame | hearly
    · exact (h.routes hnone').of_eq hstage hroutes hsame
    · have hmatch := (routesMatch_early_iff hearly).mp (h.routes hnone')
      have hearly' : (c.settings r).wifiInitStage.value < 4 := hstage.symm ▸ hearly
      exact (routesMatch_early_iff hearly').mpr (hroutes.trans hmatch)
  | some a =>
    rw [haction] at hcoherent
    rcases (c.settings r).act_some a with ⟨-, heq⟩ | ⟨-, heq⟩
    · rw [heq] at hcoherent ⊢
      refine { hcoherent with mode := hmode, routes := fun hnone => ?_ }
      exact absurd ((pendingAction_defer _ a).symm.trans hnone) (Option.some_ne_none a)
    · rw [heq]
      exact modeAgreed_carryOut hmode a

/-- So does the queued action. -/
theorem ModeAgreed.applyQueued (h : ModeAgreed c) : ModeAgreed c.applyQueuedWifiLifecycleAction := by
  rw [applyQueuedWifiLifecycleAction_eq]
  split
  · exact modeAgreed_carryOut (c := c.unqueue) h.mode _
  · exact h

/-- A startup step registers the routes of the mode in force. -/
theorem RoutesMatch.startupStep (h : RoutesMatch c) (htracked : Tracked c) (input : StartupInput) :
    RoutesMatch (c.startupStep input) := by
  unfold WifiControl.startupStep
  split
  case h_1 hstage =>
    have hroutes := (routesMatch_early_iff (by rw [hstage]; decide)).mp h
    unfold WifiControl.startWifi abandon
    split
    · exact h.of_eq rfl rfl rfl
    · split <;> exact hroutes
  case h_2 hstage =>
    have hroutes := (routesMatch_early_iff (by rw [hstage]; decide)).mp h
    unfold WifiControl.waitNetworkConnected abandon
    split
    · exact h
    · split
      · exact hroutes
      · split
        · exact h.of_eq rfl rfl rfl
        · exact h
  case h_3 hstage =>
    have hroutes := (routesMatch_early_iff (by rw [hstage]; decide)).mp h
    exact hroutes
  case h_4 hstage =>
    have hroutes := (routesMatch_early_iff (by rw [hstage]; decide)).mp h
    unfold WifiControl.registerApiRoutes abandon
    rw [startWifiHttpServer_eq htracked hstage]
    dsimp only
    split
    · exact h.of_eq rfl rfl rfl
    · split
      · rename_i hmode
        exact ⟨hroutes, hmode⟩
      · rename_i hmode
        exact iff_of_false (by rw [hroutes]; exact Bool.false_ne_true) hmode
  case h_5 hstage =>
    unfold RoutesMatch at h
    rw [hstage] at h
    exact iff_of_true rfl h.2
  case h_6 => exact h.of_eq rfl rfl rfl

/-- So does `processWifiControl`. -/
theorem ModeAgreed.processWifiControl (h : ModeAgreed c) (input : StartupInput) :
    ModeAgreed (c.processWifiControl input) := by
  have hframe := processWifiControl_frame input c
  refine { h.toCoherent.processWifiControl input with mode := ?_, routes := fun hnone => ?_ }
  · rw [hframe.config, hframe.deliveryMode]
    exact h.mode
  · have hroutes := h.routes (hframe.pendingAction.symm.trans hnone)
    rcases processWifiControl_cases input c with heq | ⟨-, hready, heq⟩
    · rw [heq]
      exact hroutes
    · rw [heq]
      have hmatch : RoutesMatch { c with wifiControlInitializing := true } :=
        hroutes.of_eq rfl rfl rfl
      exact hmatch.startupStep (h.toTracked.initializing hready) input

/-- A serial command keeps the mode, for it enables and disables in the configured one. -/
theorem SerialRequest.keepsMode {r : Request} (h : SerialRequest c r) : KeepsMode c r := by
  cases h with
  | control enabled => exact rfl
  | deliveryMode deliveryMode => trivial
  | network network => trivial
  | restart => trivial

/-- The condition on an event: a request keeps the mode, and a serial command makes only the
requests it can make. -/
def Event.KeepsMode (c : WifiControl) : Event → Prop
  | .request r => WifiControl.KeepsMode c r
  | .task (some r) _ => SerialRequest c.applyQueuedWifiLifecycleAction r
  | _ => True

/-- So does every step that keeps the mode. -/
theorem ModeAgreed.step (h : ModeAgreed c) {e : Event} (hkeeps : e.KeepsMode c) :
    ModeAgreed (c.step e) := by
  cases e with
  | request r => exact h.handle hkeeps
  | task serial input =>
    cases serial with
    | none => exact h.applyQueued.processWifiControl input
    | some r => exact (h.applyQueued.handle (SerialRequest.keepsMode hkeeps)).processWifiControl input
  | dispatch begins =>
    exact { h with routes := fun hnone => (h.routes hnone).of_eq rfl rfl rfl }

end Esp32Wiimote.Device.WifiControl
