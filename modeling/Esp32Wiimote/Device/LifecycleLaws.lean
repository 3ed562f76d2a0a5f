import Esp32Wiimote.Device.DeferredAction
import Esp32Wiimote.Device.HttpHandler
import Esp32Wiimote.Device.Refinement
import Esp32Wiimote.Library.LatestSetting

/-!
# Laws of the Wi-Fi lifecycle

What holds of the lifecycle of a device in every state it can reach, whatever the order of
the public calls, the tasks, the dispatches and the answers of the platform is.
-/

namespace Esp32Wiimote.Device

open CText LatestSetting StateProgram TransitionRun Web WifiControl

/-- The lifecycle of a device after a run from its construction. -/
abbrev wifiAfter (config : ESP32WiimoteConfig) (events : List Esp32Event) : WifiControl :=
  (runFrom Esp32World.step (.construct config) events).wifi

/-! ## Coherence of the flags -/

/-- What the flags of the lifecycle say about each other. -/
structure LifecycleLaw (c : WifiControl) : Prop where
  ready : c.wifiControlReady = true →
    c.wifiLayerStarted = true ∧ c.wifiNetworkConnected = true ∧ c.staticRoutesRegistered = true ∧
      c.apiRoutesRegistered = true ∧ c.serverStarted = true ∧ c.wifiControlInitializing = false ∧
      c.wifiInitStage = .Ready
  server : c.serverStarted = true ↔ c.httpServer.started = true
  bind : ¬(c.serverStarted = true ∧ c.serverBindFailed = true)
  network : ¬(c.wifiNetworkConnected = true ∧ c.wifiNetworkConnectFailed = true)
  disabled : c.wifiControlEnabled = false → ¬c.Pending → c.httpServer.started = false

/-- A coherent control meets the law of the lifecycle. -/
theorem WifiControl.Coherent.law {c : WifiControl} (h : Coherent c) : LifecycleLaw c where
  ready := by
    intro hready
    obtain ⟨hstage, hinitializing⟩ := h.ready hready
    have hvalue : c.wifiInitStage.value = 5 := congrArg WifiInitStage.value hstage
    refine ⟨h.layer ?_, h.connected.mpr ?_, h.staticRoutes ?_, h.apiRoutes ?_, h.serving.mpr ?_,
      hinitializing, hstage⟩ <;> omega
  server := by rw [h.server]
  bind := by
    rintro ⟨hstarted, hfailed⟩
    exact Bool.false_ne_true ((h.bindFailed hfailed).symm.trans hstarted)
  network := by
    rintro ⟨hconnected, hfailed⟩
    have hlate := h.connected.mp hconnected
    have hearly := h.connectFailed hfailed
    omega
  disabled := by
    intro hdisabled hnone
    rw [← h.server]
    exact h.disabled hdisabled (c.pendingAction_eq_none_iff.mpr hnone)

/-- The flags are tracked at first. -/
theorem tracked_initial (config : ESP32WiimoteWifiConfig) :
    Tracked ({ config } : WifiControl) := by
  constructor <;> simp [WifiInitStage.value]

/-- A device just constructed has a coherent control. -/
theorem coherent_construct (config : ESP32WiimoteConfig) :
    Coherent (Esp32World.construct config).wifi := by
  obtain ⟨r, heq, -⟩ := construct_wifi config
  rw [heq]
  exact Coherent.handle { tracked_initial config.wifi with disabled := fun _ _ => rfl } r

/-- The flags are coherent in every state that can be reached. -/
theorem lifecycleLaw (config : ESP32WiimoteConfig) (events : List Esp32Event) :
    LifecycleLaw (wifiAfter config events) := by
  apply Coherent.law
  have hrun : EveryStep (fun _ _ => True) Esp32World.step (.construct config) events :=
    (everyStep_iff _ events).mpr fun _ _ _ _ => trivial
  exact wifi_invariant (fun _ _ l h _ _ => h.step l) (coherent_construct config) hrun

/-! ## HTTP requests -/

/-- What the requests to the lifecycle keep, handling an HTTP request keeps. -/
theorem handleWifiHttpRequest_invariant {I : WifiControl → Prop}
    (hrequest : ∀ c r, I c → I (c.handle r)) (assets : WebAssets) (request : WifiHttpRequest)
    (responseBufSize : ℕ) (response : WifiHttpResponse) {s : WebApiState Esp32World}
    (hs : I s.userData.wifi) :
    I (handleWifiHttpRequest assets request responseBufSize response s).2.userData.wifi := by
  obtain ⟨calls, heq⟩ := handleWifiHttpRequest_calls assets request responseBufSize response s
  rw [heq]
  refine invariant_of_step (I := fun w : Esp32World => I w.wifi) (fun w c hw => ?_) hs calls
  rw [c.run_wifi]
  cases c.wifiRequest w.platform.copyOrder w.device with
  | none => exact hw
  | some r => exact hrequest w.wifi r hw

/-- Handling a request keeps the flags coherent. -/
theorem handleWifiHttpRequest_coherent (assets : WebAssets) (request : WifiHttpRequest)
    (responseBufSize : ℕ) (response : WifiHttpResponse) {s : WebApiState Esp32World}
    (hs : Coherent s.userData.wifi) :
    Coherent (handleWifiHttpRequest assets request responseBufSize response s).2.userData.wifi :=
  handleWifiHttpRequest_invariant (fun _ r h => h.handle r) assets request responseBufSize response hs

/-- Handling a request does not end the server that dispatches it. -/
theorem handleWifiHttpRequest_notEnded (assets : WebAssets) (request : WifiHttpRequest)
    (responseBufSize : ℕ) (response : WifiHttpResponse) {s : WebApiState Esp32World}
    (hs : s.userData.wifi.httpServer.endedDuringDispatch = false) :
    (handleWifiHttpRequest assets request responseBufSize response
      s).2.userData.wifi.httpServer.endedDuringDispatch = false := by
  apply handleWifiHttpRequest_invariant (I := fun c => c.httpServer.endedDuringDispatch = false)
    ?_ assets request responseBufSize response hs
  intro c r hc
  rw [handle_endedDuringDispatch]
  exact hc

/-! ## Deferral during a dispatch -/

/-- Tasks run outside the dispatches. -/
def TaskOutsideDispatch (w : Esp32World) (e : Esp32Event) : Prop :=
  e.action.isTask = true → w.wifi.httpServer.dispatchingRequest = false

instance (w : Esp32World) (e : Esp32Event) : Decidable (TaskOutsideDispatch w e) :=
  inferInstanceAs (Decidable (_ → _))

/-- The action a call asks for during a dispatch. -/
def deferredAction (w : Esp32World) (e : Esp32Event) : Option WifiLifecycleAction :=
  match e.action with
  | .call c =>
    if w.wifi.httpServer.dispatchingRequest then
      (c.wifiRequest e.platform.copyOrder w.device).bind w.wifi.actionOf
    else none
  | _ => none

/-- The server is not ended during a dispatch, and the next task carries out what was asked for
last in the dispatches since the task before it. -/
structure DispatchLaw (config : ESP32WiimoteConfig) (events : List Esp32Event) : Prop where
  notEnded : (wifiAfter config events).httpServer.endedDuringDispatch = false
  carriedOut : ∀ before since task after a, events = before ++ since ++ task :: after →
    task.action.isTask = true → (∀ e ∈ since, e.action.isTask = false) →
    LatestSets Esp32World.step deferredAction (runFrom Esp32World.step (.construct config) before)
      since a →
    CarriedOut a (wifiAfter config (before ++ since ++ [task]))

/-- Between tasks the pending action is the one deferred last. -/
theorem step_pendingAction (w : Esp32World) (e : Esp32Event) (htask : e.action.isTask = false) :
    (w.step e).wifi.pendingAction = (deferredAction w e).or w.wifi.pendingAction := by
  obtain ⟨action, platform⟩ := e
  cases action with
  | call c =>
    have hrun := c.run_wifi (w.enter platform)
    change (w.step ⟨.call c, platform⟩).wifi =
      w.wifi.handleSerial (c.wifiRequest platform.copyOrder w.device) at hrun
    rw [hrun]
    change _ = (if w.wifi.httpServer.dispatchingRequest = true then
      (c.wifiRequest platform.copyOrder w.device).bind w.wifi.actionOf else none).or
        w.wifi.pendingAction
    cases c.wifiRequest platform.copyOrder w.device with
    | none => split <;> rfl
    | some r =>
      refine (handle_pendingAction w.wifi r).trans ?_
      split <;> rfl
  | task => exact nomatch htask
  | dispatch begins => rfl
  | _ =>
    rcases step_wifi w ⟨_, platform⟩ with ⟨hsame, -⟩ | ⟨l, hperforms, -⟩
    · rw [hsame]
      rfl
    · exact nomatch hperforms

/-- The record of the deferred actions shows the pending one, up to the next task. -/
theorem runFrom_record_pendingAction (w : Esp32World) (since : List Esp32Event)
    (hsince : ∀ e ∈ since, e.action.isTask = false) :
    (runFrom (recordStep Esp32World.step deferredAction) (w, w.wifi.pendingAction) since).2 =
      (runFrom Esp32World.step w since).wifi.pendingAction := by
  induction since generalizing w with
  | nil => rfl
  | cons e rest ih =>
    have hrest := ih (w.step e) fun e' he' => hsince e' (List.mem_cons_of_mem e he')
    rw [step_pendingAction w e (hsince e List.mem_cons_self)] at hrest
    exact hrest

/-- Between two tasks the pending action is the one deferred last. -/
theorem pendingAction_of_latest {w : Esp32World} {since : List Esp32Event} {a : WifiLifecycleAction}
    (hsince : ∀ e ∈ since, e.action.isTask = false)
    (hlatest : LatestSets Esp32World.step deferredAction w since a) :
    (runFrom Esp32World.step w since).wifi.pendingAction = some a := by
  rw [← runFrom_record_pendingAction w since hsince]
  exact (recorded_iff (w, w.wifi.pendingAction) since a).mpr (.inl hlatest)

/-- A task outside a dispatch carries out the pending action. -/
theorem carriedOut_step {w : Esp32World} {e : Esp32Event} {a : WifiLifecycleAction}
    (htask : e.action.isTask = true) (hallowed : TaskOutsideDispatch w e)
    (hpending : w.wifi.pendingAction = some a) : CarriedOut a (w.step e).wifi := by
  rcases step_wifi w e with ⟨-, hnot⟩ | ⟨l, hperforms, heq⟩
  · exact absurd (htask.symm.trans hnot) Bool.noConfusion
  · rw [heq]
    obtain ⟨action, platform⟩ := e
    cases hperforms with
    | call h => exact nomatch htask
    | task serial input h => exact carriedOut_task hpending (hallowed htask) serial input
    | dispatch begins => exact nomatch htask

/-- Every run whose tasks come outside the dispatches meets the law of the dispatches. -/
theorem dispatchLaw (config : ESP32WiimoteConfig) (events : List Esp32Event)
    (hrun : EveryStep TaskOutsideDispatch Esp32World.step (.construct config) events) :
    DispatchLaw config events := by
  constructor
  case notEnded =>
    apply wifi_invariant (I := fun c => c.httpServer.endedDuringDispatch = false) ?_ ?_ hrun
    · intro w e l hnot hallowed hperforms
      rw [step_endedDuringDispatch w.wifi l]
      · exact hnot
      · rintro ⟨serial, input, rfl⟩
        exact hallowed hperforms.isTask
    · obtain ⟨r, heq, -⟩ := construct_wifi config
      rw [heq]
      exact handle_endedDuringDispatch _ r
  case carriedOut =>
    rintro before since task after a rfl htask hsince hlatest
    have hallowed := (everyStep_iff _ _).mp hrun (before ++ since) task after rfl
    have hpending := pendingAction_of_latest hsince hlatest
    rw [runFrom, ← List.foldl_append] at hpending
    unfold wifiAfter runFrom
    rw [List.foldl_append]
    exact carriedOut_step htask hallowed hpending

/-! ### A run -/

/-- A configuration with Wi-Fi and network texts. -/
def networkConfig : ESP32WiimoteConfig :=
  { wifi := { enabled := true, network := ⟨.external (ascii "net"), .external (ascii "pass")⟩ } }

/-- Enable the control, and run the startup up to its end. -/
def startup : List Esp32Event :=
  ⟨.call (.enableWifiControl true .RestOnly), {}⟩ :: List.replicate 5 ⟨.task, {}⟩

/-- A handler restarts the control. -/
def restartInDispatch : List Esp32Event :=
  [⟨.dispatch true, {}⟩, ⟨.call .restartWifiControl, {}⟩, ⟨.dispatch false, {}⟩]

/-- The restart asked for in the dispatch is carried out by the task behind it. -/
theorem carriedOut_restartInDispatch :
    CarriedOut .restart (wifiAfter networkConfig (startup ++ restartInDispatch ++ [⟨.task, {}⟩])) := by
  have hlaw := dispatchLaw networkConfig (startup ++ restartInDispatch ++ [⟨.task, {}⟩])
    (by decide +kernel)
  apply hlaw.carriedOut startup restartInDispatch ⟨.task, {}⟩ [] .restart rfl rfl (by decide)
  exact ⟨[⟨.dispatch true, {}⟩], ⟨.call .restartWifiControl, {}⟩, [⟨.dispatch false, {}⟩], rfl,
    by decide +kernel, by decide +kernel⟩

/-! ## The latest request wins -/

/-- No dispatch is in progress and no action is pending. -/
def Settled (c : WifiControl) : Prop := c.httpServer.dispatchingRequest = false ∧ ¬c.Pending

instance (c : WifiControl) : Decidable (Settled c) := inferInstanceAs (Decidable (_ ∧ _))

/-- The lifecycle reflects the latest request. -/
structure LatestWins (c : WifiControl) : Prop where
  disabled : c.latestRequest = some .disable →
    c.wifiControlEnabled = false ∧ c.wifiControlInitializing = false ∧
      c.wifiControlReady = false ∧ c.httpServer.started = false
  initializing : c.wifiControlInitializing = true → c.wifiControlEnabled = true

/-- No task finds a restart pending while the control is off. -/
def NoStaleRestart (w : Esp32World) (e : Esp32Event) : Prop :=
  e.action.isTask = true →
    ¬(w.wifi.wifiLifecycleRestartPending = true ∧ w.wifi.wifiControlEnabled = false)

instance (w : Esp32World) (e : Esp32Event) : Decidable (NoStaleRestart w e) :=
  inferInstanceAs (Decidable (_ → _))

/-- In an obedient control that is settled the latest request wins. -/
theorem WifiControl.Obedient.wins {c : WifiControl} (h : Obedient c) (hsettled : Settled c) :
    LatestWins c := by
  have hnone := c.pendingAction_eq_none_iff.mpr hsettled.2
  constructor
  case disabled =>
    intro hlatest
    have hdisabled := h.latest hlatest
    have hrest := h.atRest hdisabled hnone
    exact ⟨hdisabled, hrest.initializing, hrest.ready, h.server.symm.trans hrest.server⟩
  case initializing =>
    intro hinitializing
    by_contra henabled
    rw [Bool.not_eq_true] at henabled
    have hrest := h.atRest henabled hnone
    exact Bool.false_ne_true (hrest.initializing.symm.trans hinitializing)

/-- A device just constructed has an obedient control. -/
theorem obedient_construct (config : ESP32WiimoteConfig) :
    Obedient (Esp32World.construct config).wifi := by
  obtain ⟨r, heq, -⟩ := construct_wifi config
  rw [heq]
  apply Obedient.handle
  exact { tracked_initial config.wifi with atRest := fun _ _ => ⟨rfl, rfl, rfl⟩, latest := nofun }

/-- Without a stale restart, the latest request is reflected in every settled state that is
reached, and so after every task that ends in one. -/
theorem latestWins (config : ESP32WiimoteConfig) (events : List Esp32Event)
    (hrun : EveryStep NoStaleRestart Esp32World.step (.construct config) events)
    (hsettled : Settled (wifiAfter config events)) : LatestWins (wifiAfter config events) := by
  refine Obedient.wins ?_ hsettled
  refine wifi_invariant (fun w e l h hallowed hperforms => ?_) (obedient_construct config) hrun
  apply h.step l
  rintro ⟨serial, input, rfl⟩ hpending
  by_contra henabled
  rw [Bool.not_eq_true] at henabled
  exact hallowed hperforms.isTask ⟨hpending, henabled⟩

/-- The latest request wins after the control was disabled. -/
theorem latestWins_after_disable :
    LatestWins (wifiAfter networkConfig
      (startup ++ [⟨.call (.enableWifiControl false .RestOnly), {}⟩, ⟨.task, {}⟩])) :=
  latestWins _ _ (by decide +kernel) (by decide +kernel)

/-- A restart deferred in a dispatch outlives a disable after it: the task starts to initialize
a control that is off. -/
theorem not_latestWins_after_stale_restart :
    Settled (wifiAfter networkConfig (startup ++ restartInDispatch ++
        [⟨.call (.enableWifiControl false .RestOnly), {}⟩, ⟨.task, {}⟩])) ∧
      ¬LatestWins (wifiAfter networkConfig (startup ++ restartInDispatch ++
        [⟨.call (.enableWifiControl false .RestOnly), {}⟩, ⟨.task, {}⟩])) := by
  refine ⟨by decide +kernel, fun h => ?_⟩
  have henabled := h.initializing (by decide +kernel)
  exact absurd henabled (by decide +kernel)

/-! ## The delivery mode agrees -/

/-- The configured mode is the one in force, and a ready control has the routes of the mode. -/
structure DeliveryModeAgrees (w : Esp32World) : Prop where
  mode : w.device.getConfig.wifi.deliveryMode = w.wifi.wifiDeliveryMode
  routes : w.wifi.wifiControlReady = true →
    (w.wifi.websocketRoutesRegistered = true ↔ w.wifi.wifiDeliveryMode = .RestAndWebSocket)

/-- The call enables or disables in the configured mode, and does not extend the configured mode
once the startup has settled the routes. -/
def KeepsDeliveryMode (w : Esp32World) (e : Esp32Event) : Prop :=
  match e.action with
  | .call (.enableWifiControl _ deliveryMode) =>
    deliveryMode = w.device.getConfig.wifi.deliveryMode
  | .call (.configure config) =>
    ¬(w.device.getConfig.wifi.deliveryMode = .RestOnly ∧
      config.wifi.deliveryMode = .RestAndWebSocket ∧ w.wifi.wifiInitStage = .Ready ∧
      ¬w.wifi.Pending)
  | _ => True

instance (w : Esp32World) (e : Esp32Event) : Decidable (KeepsDeliveryMode w e) := by
  unfold KeepsDeliveryMode
  split <;> infer_instance

/-- A device just constructed has its mode agreed. -/
theorem modeAgreed_construct (config : ESP32WiimoteConfig) :
    ModeAgreed (Esp32World.construct config).wifi := by
  obtain ⟨r, heq, network, configured, rfl⟩ := construct_wifi config
  have hcoherent := coherent_construct config
  rw [heq, handle_eq] at hcoherent ⊢
  cases haction : ({ config := config.wifi } : WifiControl).actionOf
      (.configure config.wifi network configured) with
  | none =>
    rw [haction] at hcoherent
    exact { hcoherent with mode := rfl, routes := fun _ => rfl }
  | some a => exact modeAgreed_carryOut rfl a

/-- The condition on a call is the one on the request it makes. -/
theorem keepsMode_of_call {w : Esp32World} {c : PublicCall} {platform : Platform} {r : Request}
    (hkeeps : KeepsDeliveryMode w ⟨.call c, platform⟩)
    (hrequest : c.wifiRequest platform.copyOrder w.device = some r) : KeepsMode w.wifi r := by
  cases c with
  | configure config =>
    cases hrequest
    rintro ⟨hmode, hextends, hstage, hnone⟩
    exact hkeeps ⟨hmode, hextends, hstage, (pendingAction_eq_none_iff _).mp hnone⟩
  | enableWifiControl enabled deliveryMode =>
    cases hrequest
    exact hkeeps
  | updateWifiNetworkCredentials ssid password =>
    simp only [PublicCall.wifiRequest] at hrequest
    split at hrequest
    · cases hrequest
      trivial
    · cases hrequest
  | restartWifiControl =>
    cases hrequest
    trivial
  | setWifiDeliveryMode deliveryMode =>
    cases hrequest
    trivial
  | _ => cases hrequest

/-- Where every call keeps the mode, it agrees in every state that is reached without a pending
action. -/
theorem deliveryModeAgrees (config : ESP32WiimoteConfig) (events : List Esp32Event)
    (hrun : EveryStep KeepsDeliveryMode Esp32World.step (.construct config) events)
    (hnone : ¬(wifiAfter config events).Pending) :
    DeliveryModeAgrees (runFrom Esp32World.step (.construct config) events) := by
  have hagreed : ModeAgreed (wifiAfter config events) := by
    refine wifi_invariant (fun w e l h hallowed hperforms => h.step ?_)
      (modeAgreed_construct config) hrun
    obtain ⟨action, platform⟩ := e
    cases hperforms with
    | call hrequest => exact keepsMode_of_call hallowed hrequest
    | task serial input h =>
      cases serial with
      | none => trivial
      | some r => exact h r rfl
    | dispatch begins => trivial
  refine ⟨hagreed.mode, fun hready => ?_⟩
  have hroutes := hagreed.routes ((pendingAction_eq_none_iff _).mpr hnone)
  unfold RoutesMatch at hroutes
  rw [(hagreed.ready hready).1] at hroutes
  exact hroutes

/-- The mode is extended while the startup registers the static routes. -/
theorem deliveryModeAgrees_of_configure :
    DeliveryModeAgrees (runFrom Esp32World.step (.construct networkConfig)
      (startup.take 4 ++ ⟨.call (.configure { wifi := { deliveryMode := .RestAndWebSocket } }), {}⟩ ::
        List.replicate 3 ⟨.task, {}⟩)) :=
  deliveryModeAgrees _ _ (by decide +kernel) (by decide +kernel)

/-- Enabling the control in another mode does not configure the mode. -/
theorem not_deliveryModeAgrees_after_enable :
    ¬(wifiAfter networkConfig [⟨.call (.enableWifiControl true .RestAndWebSocket), {}⟩]).Pending ∧
      ¬DeliveryModeAgrees (runFrom Esp32World.step (.construct networkConfig)
        [⟨.call (.enableWifiControl true .RestAndWebSocket), {}⟩]) := by
  refine ⟨by decide +kernel, fun h => ?_⟩
  have hmode := h.mode
  exact absurd hmode (by decide +kernel)

end Esp32Wiimote.Device
