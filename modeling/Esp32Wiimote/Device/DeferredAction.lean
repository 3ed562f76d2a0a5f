import Esp32Wiimote.Device.LifecycleInvariant

/-!
# Deferred lifecycle actions

During a dispatch a request leaves its action for the next task, and outside one it leaves
the pending action alone. The next task carries the pending action out: it stops the
server, and a restart begins anew. The server is ended by a request or a task outside a
dispatch only.
-/

namespace Esp32Wiimote.Device.WifiControl

variable {c : WifiControl}

/-! ## Requests and the pending action -/

/-- No request ends the server during a dispatch. -/
theorem handle_endedDuringDispatch (c : WifiControl) (r : Request) :
    (c.handle r).httpServer.endedDuringDispatch = c.httpServer.endedDuringDispatch := by
  obtain ⟨-, -, hserver, -⟩ := c.settings_frame r
  rw [handle_eq, ← hserver]
  cases c.actionOf r with
  | none => rfl
  | some a =>
    rcases (c.settings r).act_some a with ⟨-, heq⟩ | ⟨hdispatching, heq⟩
    · rw [heq]
      rfl
    · rw [heq, ((c.settings r).carryOut_frame a).2.2.2.2.2]
      exact stoppedServer_endedDuringDispatch _ hdispatching

/-- During a dispatch the action of a request replaces the pending one. -/
theorem handle_pendingAction (c : WifiControl) (r : Request) :
    (c.handle r).pendingAction =
      if c.httpServer.dispatchingRequest then (c.actionOf r).or c.pendingAction
      else c.pendingAction := by
  obtain ⟨-, hpending, hserver, -⟩ := c.settings_frame r
  rw [handle_eq, ← hserver, ← hpending]
  cases c.actionOf r with
  | none => split <;> rfl
  | some a =>
    rcases (c.settings r).act_some a with ⟨hdispatching, heq⟩ | ⟨hdispatching, heq⟩
    · rw [heq, pendingAction_defer, if_pos hdispatching]
      rfl
    · rw [heq, ((c.settings r).carryOut_frame a).2.2.2.1, hdispatching]
      rfl

/-! ## Carrying out -/

/-- The lifecycle after a task that carried out an action: nothing is pending, the server is
stopped, and a startup is at its beginning. Switched on it starts after a restart, and switched
off it does not start after a stop. -/
structure CarriedOut (a : WifiLifecycleAction) (c : WifiControl) : Prop where
  pendingAction : c.pendingAction = none
  server : c.httpServer.started = false
  ready : c.wifiControlReady = false
  stage : c.wifiInitStage.value ≤ 2
  restart : a = .restart → c.wifiControlEnabled = true → c.wifiControlInitializing = true
  stop : a = .stop → c.wifiControlEnabled = false → c.wifiControlInitializing = false

/-- The lifecycle between carrying out an action and the startup step of the same task. -/
structure Beginning (a : WifiLifecycleAction) (c : WifiControl) : Prop where
  dispatchingRequest : c.httpServer.dispatchingRequest = false
  pendingAction : c.pendingAction = none
  server : c.httpServer.started = false
  ready : c.wifiControlReady = false
  stage : c.wifiInitStage = .StartWifi
  restart : a = .restart → c.wifiControlEnabled = true → c.wifiControlInitializing = true
  stop : a = .stop → c.wifiControlEnabled = false → c.wifiControlInitializing = false

/-- The startup has not come far. -/
theorem Beginning.stage_le {a : WifiLifecycleAction} (h : Beginning a c) :
    c.wifiInitStage.value ≤ 2 := by
  rw [h.stage]
  decide

/-- Carrying out an action begins the lifecycle again. -/
theorem beginning_carryOut {a b : WifiLifecycleAction} (hpending : c.pendingAction = none)
    (hdispatching : c.httpServer.dispatchingRequest = false)
    (hrestart : a = .restart → b = .stop → c.wifiControlEnabled = false)
    (hstop : a = .stop → b = .restart → c.wifiControlEnabled = true) : Beginning a (c.carryOut b) := by
  obtain ⟨-, -, henabled, hsame, -, hserver⟩ := c.carryOut_frame b
  obtain ⟨hinitializing, hready, -, hstage, -⟩ := c.carryOut_cleared b
  constructor
  case pendingAction => exact hsame.trans hpending
  case server => rw [hserver, stoppedServer_started]
  case ready => exact hready
  case stage => exact hstage
  case restart =>
    intro ha hon
    rw [hinitializing]
    refine decide_eq_true ?_
    cases b with
    | restart => rfl
    | stop => exact absurd ((hrestart ha rfl).symm.trans (henabled.symm.trans hon)) Bool.false_ne_true
  case stop =>
    intro ha hoff
    rw [hinitializing]
    refine decide_eq_false ?_
    rintro rfl
    exact Bool.false_ne_true (hoff.symm.trans (henabled.trans (hstop ha rfl)))
  case dispatchingRequest => rw [hserver, stoppedServer_dispatchingRequest]; exact hdispatching

/-- So does applying the queued one. -/
theorem beginning_applyQueued {a : WifiLifecycleAction} (hpending : c.pendingAction = some a)
    (hdispatching : c.httpServer.dispatchingRequest = false) :
    Beginning a c.applyQueuedWifiLifecycleAction := by
  rw [applyQueuedWifiLifecycleAction_eq, hpending]
  apply beginning_carryOut
  · rfl
  · exact hdispatching
  · rintro rfl h
    exact nomatch h
  · rintro rfl h
    exact nomatch h

/-- A request leaves it at its beginning. -/
theorem Beginning.handle {a : WifiLifecycleAction} (h : Beginning a c) (r : Request) :
    Beginning a (c.handle r) := by
  obtain ⟨-, hpending, hserver, hstage, -, hinitializing, hready⟩ := c.settings_frame r
  rw [handle_eq]
  cases haction : c.actionOf r with
  | none =>
    have henabled := c.enabled_of_no_action haction
    constructor
    case pendingAction => exact hpending.trans h.pendingAction
    case server => exact (congrArg WifiHttpServer.started hserver).trans h.server
    case ready => exact hready.trans h.ready
    case stage => exact hstage.trans h.stage
    case restart => exact fun ha hon => hinitializing.trans (h.restart ha (henabled.symm.trans hon))
    case stop => exact fun ha hoff => hinitializing.trans (h.stop ha (henabled.symm.trans hoff))
    case dispatchingRequest =>
      exact (congrArg WifiHttpServer.dispatchingRequest hserver).trans h.dispatchingRequest
  | some b =>
    have hdispatching : (c.settings r).httpServer.dispatchingRequest = false :=
      (congrArg WifiHttpServer.dispatchingRequest hserver).trans h.dispatchingRequest
    rcases (c.settings r).act_some b with ⟨hdispatch, -⟩ | ⟨-, heq⟩
    · exact absurd (hdispatching.symm.trans hdispatch) Bool.false_ne_true
    · rw [heq]
      apply beginning_carryOut (hpending.trans h.pendingAction) hdispatching
      · rintro - rfl
        exact c.disabled_of_stop haction
      · rintro - rfl
        exact c.enabled_of_restart haction

/-- The first startup step does not start the server. -/
theorem Beginning.processWifiControl {a : WifiLifecycleAction} (h : Beginning a c)
    (input : StartupInput) : CarriedOut a (c.processWifiControl input) := by
  rcases processWifiControl_cases input c with heq | ⟨henabled, -, heq⟩
  · rw [heq]
    exact { h with stage := h.stage_le }
  · rw [heq]
    unfold startupStep
    rw [h.stage]
    dsimp only
    unfold startWifi
    split
    · have hstart : WifiInitStage.StartWifi.value ≤ 2 := by decide
      exact ⟨h.pendingAction, h.server, h.ready, hstart, fun _ => Bool.noConfusion, fun _ _ => rfl⟩
    · have hwait : WifiInitStage.WaitNetworkConnected.value ≤ 2 := by decide
      have hstatic : WifiInitStage.RegisterStaticRoutes.value ≤ 2 := by decide
      have hon : ¬c.wifiControlEnabled = false := by
        rw [henabled]
        exact Bool.noConfusion
      split
      · exact ⟨h.pendingAction, h.server, h.ready, hwait, fun _ _ => rfl, fun _ hoff => absurd hoff hon⟩
      · exact ⟨h.pendingAction, h.server, h.ready, hstatic, fun _ _ => rfl, fun _ hoff => absurd hoff hon⟩

/-- A task outside a dispatch carries out the pending action. -/
theorem carriedOut_task {a : WifiLifecycleAction} (hpending : c.pendingAction = some a)
    (hdispatching : c.httpServer.dispatchingRequest = false) (serial : Option Request)
    (input : StartupInput) : CarriedOut a (c.step (.task serial input)) := by
  have hstart := beginning_applyQueued hpending hdispatching
  cases serial with
  | none => exact hstart.processWifiControl input
  | some r => exact (hstart.handle r).processWifiControl input

/-! ## Ending the server -/

/-- Unless a task runs during a dispatch, nothing ends the server during one. -/
theorem step_endedDuringDispatch (c : WifiControl) (e : Event)
    (htask : (∃ serial input, e = .task serial input) → c.httpServer.dispatchingRequest = false) :
    (c.step e).httpServer.endedDuringDispatch = c.httpServer.endedDuringDispatch := by
  cases e with
  | request r => exact handle_endedDuringDispatch c r
  | task serial input =>
    have hdispatching := htask ⟨serial, input, rfl⟩
    have hstart : c.applyQueuedWifiLifecycleAction.httpServer.endedDuringDispatch =
        c.httpServer.endedDuringDispatch := by
      rw [applyQueuedWifiLifecycleAction_eq]
      split
      · rw [(c.unqueue.carryOut_frame _).2.2.2.2.2]
        exact stoppedServer_endedDuringDispatch _ hdispatching
      · rfl
    have hserial : (c.applyQueuedWifiLifecycleAction.handleSerial serial).httpServer.endedDuringDispatch =
        c.httpServer.endedDuringDispatch := by
      cases serial with
      | none => exact hstart
      | some r => exact (handle_endedDuringDispatch _ r).trans hstart
    exact (processWifiControl_frame input _).endedDuringDispatch.trans hserial
  | dispatch begins => rfl

end Esp32Wiimote.Device.WifiControl
