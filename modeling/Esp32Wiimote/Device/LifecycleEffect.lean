import Esp32Wiimote.Device.WifiLifecycle

/-!
# What a lifecycle request can do

A request is an update of the settings, followed by an action where it asks for one. The
action is carried out at once, or kept as the pending one during a dispatch. Carrying it
out stops the server and clears everything a startup sets. The lifecycle is the transition
system of the requests, the tasks and the bounds of the dispatches.
-/

namespace Esp32Wiimote.Device

/-- What a request can make the lifecycle do. -/
inductive WifiLifecycleAction
  | stop
  | restart
  deriving DecidableEq, Repr

namespace WifiControl

/-! ## Actions -/

section Actions

variable (c : WifiControl)

/-- Keep the action for the next task. -/
def defer (a : WifiLifecycleAction) : WifiControl :=
  { c with wifiLifecycleStopPending := a = .stop, wifiLifecycleRestartPending := a = .restart }

/-- Stop everything, and let a restart begin again. -/
def carryOut (a : WifiLifecycleAction) : WifiControl :=
  { c.resetWifiLifecycleState with wifiControlInitializing := a = .restart }

/-- The action that waits for the next task. -/
def pendingAction : Option WifiLifecycleAction :=
  if c.wifiLifecycleRestartPending then some .restart
  else if c.wifiLifecycleStopPending then some .stop
  else none

/-- The pending action is taken off. -/
def unqueue : WifiControl :=
  { c with wifiLifecycleStopPending := false, wifiLifecycleRestartPending := false }

/-- The server a reset leaves. -/
def stoppedServer : WifiHttpServer :=
  if c.httpServer.started then c.httpServer.stop else c.httpServer

/-- A reset keeps the settings, the pending action and the record, and clears the rest. -/
theorem resetWifiLifecycleState_eq :
    c.resetWifiLifecycleState =
      { config := c.config
        networkCredentials := c.networkCredentials
        wifiEnabled := c.wifiEnabled
        wifiControlEnabled := c.wifiControlEnabled
        wifiNetworkCredentialsConfigured := c.wifiNetworkCredentialsConfigured
        wifiDeliveryMode := c.wifiDeliveryMode
        wifiLifecycleStopPending := c.wifiLifecycleStopPending
        wifiLifecycleRestartPending := c.wifiLifecycleRestartPending
        httpServer := c.stoppedServer
        latestRequest := c.latestRequest } := by
  unfold resetWifiLifecycleState stopWifiHttpServer stoppedServer
  cases hstarted : c.httpServer.started with
  | true => rfl
  | false => rfl

/-- A stopped server does not run. -/
@[simp] theorem stoppedServer_started : c.stoppedServer.started = false := by
  unfold stoppedServer
  cases hstarted : c.httpServer.started with
  | true => rfl
  | false => exact hstarted

/-- Stopping does not end a dispatch. -/
@[simp] theorem stoppedServer_dispatchingRequest :
    c.stoppedServer.dispatchingRequest = c.httpServer.dispatchingRequest := by
  unfold stoppedServer
  split <;> rfl

/-- Outside a dispatch the server is not ended during one. -/
theorem stoppedServer_endedDuringDispatch (h : c.httpServer.dispatchingRequest = false) :
    c.stoppedServer.endedDuringDispatch = c.httpServer.endedDuringDispatch := by
  unfold stoppedServer
  split
  · change (c.httpServer.endedDuringDispatch || c.httpServer.dispatchingRequest) = _
    rw [h, Bool.or_false]
  · rfl

/-- Carrying out an action keeps the settings, the pending action and the record. -/
theorem carryOut_frame (a : WifiLifecycleAction) :
    (c.carryOut a).config = c.config ∧
      (c.carryOut a).wifiDeliveryMode = c.wifiDeliveryMode ∧
      (c.carryOut a).wifiControlEnabled = c.wifiControlEnabled ∧
      (c.carryOut a).pendingAction = c.pendingAction ∧
      (c.carryOut a).latestRequest = c.latestRequest ∧
      (c.carryOut a).httpServer = c.stoppedServer := by
  unfold carryOut
  rw [resetWifiLifecycleState_eq]
  exact ⟨rfl, rfl, rfl, rfl, rfl, rfl⟩

/-- Carrying out an action leaves nothing running, though a restart is initializing. -/
theorem carryOut_cleared (a : WifiLifecycleAction) :
    (c.carryOut a).wifiControlInitializing = decide (a = .restart) ∧
      (c.carryOut a).wifiControlReady = false ∧
      (c.carryOut a).serverStarted = false ∧
      (c.carryOut a).wifiInitStage = .StartWifi ∧
      (c.carryOut a).websocketRoutesRegistered = false := by
  unfold carryOut
  rw [resetWifiLifecycleState_eq]
  exact ⟨rfl, rfl, rfl, rfl, rfl⟩

/-- There is no pending action exactly when neither flag is set. -/
theorem pendingAction_eq_none_iff : c.pendingAction = none ↔ ¬c.Pending := by
  unfold pendingAction Pending
  cases c.wifiLifecycleRestartPending <;> cases c.wifiLifecycleStopPending <;> simp

/-- A deferred action is the pending one. -/
@[simp] theorem pendingAction_defer (a : WifiLifecycleAction) :
    (c.defer a).pendingAction = some a := by
  cases a <;> rfl

/-- The two actions are a stop and a restart. -/
theorem runWifiLifecycleAction_eq (restart : Bool) :
    c.runWifiLifecycleAction restart = c.carryOut (if restart then .restart else .stop) := by
  unfold runWifiLifecycleAction carryOut
  cases restart with
  | true => rfl
  | false => rfl

/-- An action is deferred during a dispatch and carried out at once otherwise. -/
theorem queueWifiLifecycleAction_eq (restart : Bool) :
    c.queueWifiLifecycleAction restart =
      if c.httpServer.dispatchingRequest then c.defer (if restart then .restart else .stop)
      else c.carryOut (if restart then .restart else .stop) := by
  unfold queueWifiLifecycleAction
  rw [runWifiLifecycleAction_eq]
  cases restart <;> rfl

/-- A task starts by carrying out the pending action. -/
theorem applyQueuedWifiLifecycleAction_eq :
    c.applyQueuedWifiLifecycleAction =
      match c.pendingAction with
      | some a => c.unqueue.carryOut a
      | none => c := by
  unfold applyQueuedWifiLifecycleAction pendingAction
  rw [runWifiLifecycleAction_eq]
  cases hrestart : c.wifiLifecycleRestartPending with
  | true =>
    simp only [Bool.not_true, Bool.and_false, Bool.false_eq_true, if_false, if_true]
    rfl
  | false =>
    cases hstop : c.wifiLifecycleStopPending with
    | true =>
      simp only [Bool.not_true, Bool.false_and, Bool.false_eq_true, if_false, if_true]
      rfl
    | false =>
      simp only [Bool.not_false, Bool.and_self, Bool.false_eq_true, if_false, if_true]

end Actions

/-! ## Requests -/

section Requests

variable (c : WifiControl)

/-- The settings after a request. -/
def settings : Request → WifiControl
  | .enable false deliveryMode =>
    { c with wifiDeliveryMode := deliveryMode, wifiControlEnabled := false,
             latestRequest := some .disable }
  | .enable true deliveryMode =>
    { c.allowWifi with wifiDeliveryMode := deliveryMode, wifiControlEnabled := true,
                       latestRequest := some .enable }
  | .restart => if c.canRestart then { c with latestRequest := some .restart } else c
  | .deliveryMode deliveryMode =>
    { c with config := { c.config with deliveryMode }, wifiDeliveryMode := deliveryMode }
  | .network network =>
    { c with config := { c.config with network }, networkCredentials := network,
             wifiNetworkCredentialsConfigured := true }
  | .configure config network networkConfigured =>
    let merged := c.mergedConfig config network
    { c with
      config := merged
      wifiEnabled := merged.enabled
      wifiControlEnabled := merged.enabled && c.wifiControlEnabled
      networkCredentials := merged.network
      wifiDeliveryMode := merged.deliveryMode
      wifiNetworkCredentialsConfigured := networkConfigured
      latestRequest := if merged.enabled then c.latestRequest else some .disable }

/-- The action a request asks for. -/
def actionOf : Request → Option WifiLifecycleAction
  | .enable false _ => some .stop
  | .enable true deliveryMode => if c.runsIn deliveryMode then none else some .restart
  | .restart => if c.canRestart then some .restart else none
  | .deliveryMode _ => if c.wifiControlEnabled then some .restart else none
  | .network _ => if c.wifiControlEnabled then some .restart else none
  | .configure config network _ =>
    if (c.mergedConfig config network).enabled then none else some .stop

/-- Take an action, if there is one. -/
def act : Option WifiLifecycleAction → WifiControl
  | none => c
  | some a => if c.httpServer.dispatchingRequest then c.defer a else c.carryOut a

/-- A restart is asked for where the control is on. -/
theorem restartIfEnabled_eq :
    c.restartIfEnabled = c.act (if c.wifiControlEnabled then some .restart else none) := by
  unfold restartIfEnabled
  rw [queueWifiLifecycleAction_eq]
  split <;> rfl

/-- To switch on what is on changes nothing. -/
theorem enabled_eta {c : WifiControl} (h : c.wifiControlEnabled = true) :
    { c with wifiControlEnabled := true } = c := by
  obtain ⟨⟩ := c
  cases h
  rfl

/-- Enabling a control that runs in the mode changes nothing but what is recorded. -/
theorem enable_of_runsIn {deliveryMode : WifiDeliveryMode} (h : c.runsIn deliveryMode = true) :
    c.enableWifiControl true deliveryMode = c.settings (.enable true deliveryMode) := by
  have henabled : c.allowWifi.wifiControlEnabled = true := by
    simp only [runsIn, Bool.and_eq_true] at h
    unfold allowWifi
    split <;> exact h.1.1
  unfold enableWifiControl
  rw [if_neg (by decide), if_pos h]
  exact (enabled_eta (c := { c.allowWifi with
    wifiDeliveryMode := deliveryMode, latestRequest := some .enable }) henabled).symm

/-- Every request updates the settings and takes the action it asks for. -/
theorem handle_eq (r : Request) : c.handle r = (c.settings r).act (c.actionOf r) := by
  cases r with
  | enable enabled deliveryMode =>
    cases enabled with
    | false => exact queueWifiLifecycleAction_eq _ false
    | true =>
      change c.enableWifiControl true deliveryMode = _
      cases hruns : c.runsIn deliveryMode with
      | true =>
        have haction : c.actionOf (.enable true deliveryMode) = none := if_pos hruns
        rw [haction, enable_of_runsIn c hruns]
        rfl
      | false =>
        have haction : c.actionOf (.enable true deliveryMode) = some .restart :=
          if_neg (by rw [hruns]; exact Bool.false_ne_true)
        rw [haction]
        unfold enableWifiControl
        rw [hruns, queueWifiLifecycleAction_eq]
        rfl
  | restart =>
    change c.restartWifiControl = _
    unfold restartWifiControl settings actionOf
    rw [queueWifiLifecycleAction_eq]
    cases hcan : c.canRestart with
    | true => rfl
    | false => rfl
  | deliveryMode deliveryMode => exact restartIfEnabled_eq _
  | network network => exact restartIfEnabled_eq _
  | configure config network networkConfigured =>
    change c.applyWifiConfig config network networkConfigured = _
    unfold applyWifiConfig settings actionOf
    cases hmerged : (c.mergedConfig config network).enabled with
    | true => simp only [hmerged, Bool.not_true, Bool.false_eq_true, if_false, if_true, Bool.true_and, act]
    | false =>
      simp only [hmerged, Bool.not_false, Bool.false_eq_true, if_false, if_true,
        Bool.false_and, act, enableWifiControl, queueWifiLifecycleAction_eq]

/-- The fields a request may set by itself. -/
theorem settings_eq (r : Request) :
    ∃ config networkCredentials wifiEnabled wifiControlEnabled configured deliveryMode request,
      c.settings r =
        { c with
          config := config
          networkCredentials := networkCredentials
          wifiEnabled := wifiEnabled
          wifiControlEnabled := wifiControlEnabled
          wifiNetworkCredentialsConfigured := configured
          wifiDeliveryMode := deliveryMode
          latestRequest := request } := by
  cases r with
  | enable enabled deliveryMode =>
    cases enabled with
    | false => exact ⟨_, _, _, _, _, _, _, rfl⟩
    | true =>
      simp only [settings, allowWifi]
      split <;> exact ⟨_, _, _, _, _, _, _, rfl⟩
  | restart =>
    simp only [settings]
    split <;> exact ⟨_, _, _, _, _, _, _, rfl⟩
  | deliveryMode deliveryMode => exact ⟨_, _, _, _, _, _, _, rfl⟩
  | network network => exact ⟨_, _, _, _, _, _, _, rfl⟩
  | configure config network networkConfigured => exact ⟨_, _, _, _, _, _, _, rfl⟩

/-- The settings do not touch what the startup and the actions work on. -/
theorem settings_frame (r : Request) :
    (c.settings r).serverStarted = c.serverStarted ∧
      (c.settings r).pendingAction = c.pendingAction ∧
      (c.settings r).httpServer = c.httpServer ∧
      (c.settings r).wifiInitStage = c.wifiInitStage ∧
      (c.settings r).websocketRoutesRegistered = c.websocketRoutesRegistered ∧
      (c.settings r).wifiControlInitializing = c.wifiControlInitializing ∧
      (c.settings r).wifiControlReady = c.wifiControlReady := by
  obtain ⟨_, _, _, _, _, _, _, heq⟩ := c.settings_eq r
  rw [heq]
  exact ⟨rfl, rfl, rfl, rfl, rfl, rfl, rfl⟩

/-- An action is deferred during a dispatch and carried out otherwise. -/
theorem act_some (a : WifiLifecycleAction) :
    c.httpServer.dispatchingRequest = true ∧ c.act (some a) = c.defer a ∨
      c.httpServer.dispatchingRequest = false ∧ c.act (some a) = c.carryOut a := by
  cases hdispatching : c.httpServer.dispatchingRequest with
  | true => exact .inl ⟨rfl, if_pos hdispatching⟩
  | false => exact .inr ⟨rfl, if_neg (by rw [hdispatching]; exact Bool.false_ne_true)⟩

/-- A request without an action leaves the control on or off. -/
theorem enabled_of_no_action {r : Request} (h : c.actionOf r = none) :
    (c.settings r).wifiControlEnabled = c.wifiControlEnabled := by
  cases r with
  | enable enabled deliveryMode =>
    cases enabled with
    | false => exact nomatch h
    | true =>
      have hruns : c.runsIn deliveryMode = true := by
        by_contra hruns
        exact Option.some_ne_none _ ((if_neg hruns).symm.trans h)
      simp only [runsIn, Bool.and_eq_true] at hruns
      exact hruns.1.1.symm
  | restart =>
    simp only [settings]
    split <;> rfl
  | deliveryMode deliveryMode => rfl
  | network network => rfl
  | configure config network networkConfigured =>
    have hmerged : (c.mergedConfig config network).enabled = true := by
      by_contra hmerged
      exact Option.some_ne_none _ ((if_neg hmerged).symm.trans h)
    simp only [settings, hmerged, Bool.true_and]

/-- A stop is asked for where the control is off. -/
theorem disabled_of_stop {r : Request} (h : c.actionOf r = some .stop) :
    (c.settings r).wifiControlEnabled = false := by
  cases r with
  | enable enabled deliveryMode =>
    cases enabled with
    | false => rfl
    | true =>
      simp only [actionOf] at h
      split at h <;> exact nomatch h
  | configure config network networkConfigured =>
    have hmerged : (c.mergedConfig config network).enabled = false := by
      by_contra hmerged
      rw [Bool.not_eq_false] at hmerged
      exact Option.some_ne_none _ (h.symm.trans (if_pos hmerged))
    simp only [settings, hmerged, Bool.false_and]
  | _ =>
    simp only [actionOf] at h
    split at h <;> exact nomatch h

/-- A restart is asked for where the control is on. -/
theorem enabled_of_restart {r : Request} (h : c.actionOf r = some .restart) :
    (c.settings r).wifiControlEnabled = true := by
  cases r with
  | enable enabled deliveryMode =>
    cases enabled with
    | false => exact nomatch h
    | true => rfl
  | restart =>
    have hcan : c.canRestart = true := by
      by_contra hcan
      exact Option.some_ne_none _ (h.symm.trans (if_neg hcan))
    simp only [settings, hcan, if_true]
    simp only [canRestart, Bool.and_eq_true] at hcan
    exact hcan.2
  | deliveryMode deliveryMode =>
    by_contra henabled
    exact Option.some_ne_none _ (h.symm.trans (if_neg henabled))
  | network network =>
    by_contra henabled
    exact Option.some_ne_none _ (h.symm.trans (if_neg henabled))
  | configure config network networkConfigured =>
    simp only [actionOf] at h
    split at h <;> exact nomatch h

/-- What was asked for last was a request to disable only where the control is off. -/
theorem disabled_of_latest {r : Request}
    (hc : c.latestRequest = some .disable → c.wifiControlEnabled = false)
    (h : (c.settings r).latestRequest = some .disable) :
    (c.settings r).wifiControlEnabled = false := by
  cases r with
  | enable enabled deliveryMode =>
    cases enabled with
    | false => rfl
    | true => exact nomatch h
  | restart =>
    simp only [settings] at h ⊢
    cases hcan : c.canRestart with
    | false =>
      rw [hcan] at h
      exact hc h
    | true =>
      rw [hcan] at h
      exact nomatch h
  | deliveryMode deliveryMode => exact hc h
  | network network => exact hc h
  | configure config network networkConfigured =>
    simp only [settings] at h ⊢
    cases hmerged : (c.mergedConfig config network).enabled with
    | false => rfl
    | true =>
      rw [hmerged] at h
      exact hc h

end Requests

/-! ## The lifecycle as a transition system -/

/-- What can happen to the lifecycle: a request, a task, in which a serial command may make a
request, and the beginning or the end of a dispatch. -/
inductive Event
  | request (r : Request)
  | task (serial : Option Request) (input : StartupInput)
  | dispatch (begins : Bool)

/-- The request of a serial command, if there is one. -/
def handleSerial (c : WifiControl) (serial : Option Request) : WifiControl :=
  match serial with
  | some r => c.handle r
  | none => c

/-- One step of the Wi-Fi control on its own. -/
def step (c : WifiControl) : Event → WifiControl
  | .request r => c.handle r
  | .task serial input =>
    (c.applyQueuedWifiLifecycleAction.handleSerial serial).processWifiControl input
  | .dispatch begins => c.setDispatching begins

/-- The requests a serial command can make; it enables and disables in the configured mode. -/
inductive SerialRequest (c : WifiControl) : Request → Prop
  | control (enabled : Bool) : SerialRequest c (.enable enabled c.config.deliveryMode)
  | deliveryMode (deliveryMode : WifiDeliveryMode) : SerialRequest c (.deliveryMode deliveryMode)
  | network (network : WiimoteNetworkCredentials) : SerialRequest c (.network network)
  | restart : SerialRequest c .restart

end WifiControl

end Esp32Wiimote.Device
