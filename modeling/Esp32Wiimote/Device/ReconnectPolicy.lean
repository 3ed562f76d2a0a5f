import Esp32Wiimote.Bluetooth.ReconnectPolicy
import Esp32Wiimote.Device.Refinement

/-!
# The two copies of the reconnect policy

The Bluetooth layer applies one copy of the policy, and the settings snapshot records
another. Two calls write them. `init` sets the first to its default and the second to the
stored value; `setAutoReconnectEnabled` always sets the second, and the first only once the
controller is initialised. Every other step leaves both alone.
-/

namespace Esp32Wiimote.Device

open Bluetooth CText Serial StateProgram TransitionRun

/-- The policy that is applied and the policy that is recorded. -/
structure Policies where
  applied : Bool
  recorded : Bool
  deriving DecidableEq

/-- The policy as the Bluetooth layer applies it, and as the snapshot records it. -/
def Esp32World.policies (w : Esp32World) : Policies where
  applied := w.hciEventContext.autoReconnectEnabled
  recorded := w.device.runtimeConfigSnapshot.autoReconnectEnabled

/-- The policy of the Bluetooth layer is the recorded one. -/
def PolicyAgrees (w : Esp32World) : Prop := w.policies.applied = w.policies.recorded

instance : DecidablePred PolicyAgrees := fun _ => inferInstanceAs (Decidable (_ = _))

/-! ## Programs that leave both alone -/

/-- The program does not touch either copy. -/
abbrev SamePolicies {α : Type} (x : Esp32M α) : Prop := Within (Same Esp32World.policies) x

/-- A program of the Bluetooth layer that keeps its policy touches neither copy. -/
theorem samePolicies_liftTw {α : Type} {x : TwM α} (h : KeepsPolicy x) :
    SamePolicies (liftTw x) := by
  refine ⟨fun w => ?_⟩
  have hpolicy := h.rel w.tw
  exact congrArg (Policies.mk · w.policies.recorded) hpolicy

/-- A call of the Bluetooth layer with a result. -/
theorem samePolicies_liftTw_call {x : TwM Bool} (c : TwCall) (hx : discard x = c.run)
    (h : c.setsPolicy = false) : SamePolicies (liftTw x) := by
  have hrun := TwCall.keepsPolicy_run h
  rw [← hx] at hrun
  exact samePolicies_liftTw ⟨hrun.rel⟩

/-- Nor does an assignment to the device that keeps the snapshot. -/
theorem samePolicies_modifyDevice {f : ESP32Wiimote → ESP32Wiimote}
    (hf : ∀ d, (f d).runtimeConfigSnapshot = d.runtimeConfigSnapshot) :
    SamePolicies (modifyDevice f) := by
  refine ⟨fun w => ?_⟩
  have hsnapshot := congrArg RuntimeConfigSnapshot.autoReconnectEnabled (hf w.device)
  exact congrArg (Policies.mk w.policies.applied) hsnapshot

/-- Nor does a call of the device that keeps it. -/
theorem samePolicies_callDevice {f : ESP32Wiimote → Bool × ESP32Wiimote}
    (hf : ∀ d, (f d).2.runtimeConfigSnapshot = d.runtimeConfigSnapshot) :
    SamePolicies (callDevice f) := by
  refine ⟨fun w => ?_⟩
  have hsnapshot := congrArg RuntimeConfigSnapshot.autoReconnectEnabled (hf w.device)
  exact congrArg (Policies.mk w.policies.applied) hsnapshot

/-- Nor does saving the settings. -/
theorem samePolicies_persist : SamePolicies persistRuntimeConfigSnapshot := by
  apply Within.modify
  intro w
  split
  · rfl
  · split <;> rfl

/-- Nor does an update of the other settings. -/
theorem samePolicies_updateSnapshot {f : RuntimeConfigSnapshot → RuntimeConfigSnapshot}
    (hf : ∀ s, (f s).autoReconnectEnabled = s.autoReconnectEnabled) :
    SamePolicies (updateSnapshot f) := by
  refine Within.bind ⟨fun w => ?_⟩ fun _ => samePolicies_persist
  exact congrArg (Policies.mk w.policies.applied) (hf w.device.runtimeConfigSnapshot)

/-- Nor does recording an accepted setting other than the policy. -/
theorem samePolicies_recordAccepted (accepted : Bool)
    {f : RuntimeConfigSnapshot → RuntimeConfigSnapshot}
    (hf : ∀ s, (f s).autoReconnectEnabled = s.autoReconnectEnabled) :
    SamePolicies (recordAccepted accepted f) := by
  apply Within.ite
  · intro _
    exact Within.bind (samePolicies_updateSnapshot hf) fun _ => Within.pure _
  · intro _
    exact Within.pure _

/-- Nor does setting the LEDs. -/
theorem samePolicies_setLeds (ledMask : UInt8) : SamePolicies (setLeds ledMask) := by
  apply Within.bind (samePolicies_liftTw_call (.setLeds ledMask) rfl rfl)
  intro accepted
  exact samePolicies_recordAccepted accepted fun _ => rfl

/-- Nor does setting the reporting mode. -/
theorem samePolicies_setReportingMode (mode : UInt8) (continuous : Bool) :
    SamePolicies (setReportingMode mode continuous) := by
  apply Within.bind (samePolicies_liftTw_call (.setReportingMode mode continuous) rfl rfl)
  intro accepted
  exact samePolicies_recordAccepted accepted fun _ => rfl

/-! ## Configuring -/

/-- Applying a configuration keeps the snapshot. -/
theorem applyRuntimeConfig_snapshot (order : CopyOrder) (config : ESP32WiimoteConfig)
    (d : ESP32Wiimote) :
    (d.applyRuntimeConfig order config).runtimeConfigSnapshot = d.runtimeConfigSnapshot := by
  have hauth : (d.applyAuthConfig config.auth).runtimeConfigSnapshot = d.runtimeConfigSnapshot := by
    unfold ESP32Wiimote.applyAuthConfig
    dsimp only
    split_ifs <;> rfl
  exact hauth

/-- So does a new network. -/
theorem updateWifiNetworkCredentials_snapshot (order : CopyOrder) (ssid password : CharPtr)
    (d : ESP32Wiimote) :
    (d.updateWifiNetworkCredentials order ssid password).2.runtimeConfigSnapshot =
      d.runtimeConfigSnapshot := by
  unfold ESP32Wiimote.updateWifiNetworkCredentials
  split <;> rfl

/-- A new network touches neither copy. -/
theorem samePolicies_updateWifiNetworkCredentials (ssid password : CharPtr) :
    SamePolicies (updateWifiNetworkCredentials ssid password) :=
  Within.get_bind fun w =>
    samePolicies_callDevice (updateWifiNetworkCredentials_snapshot w.platform.copyOrder ssid password)

/-- A new token keeps the snapshot. -/
theorem updateWifiApiToken_snapshot (token : CharPtr) (d : ESP32Wiimote) :
    (d.updateWifiApiToken token).2.runtimeConfigSnapshot = d.runtimeConfigSnapshot := by
  unfold ESP32Wiimote.updateWifiApiToken
  split <;> rfl

/-- So does switching serial control. -/
theorem enableSerialControl_snapshot (enabled : Bool) (d : ESP32Wiimote) :
    (d.enableSerialControl enabled).runtimeConfigSnapshot = d.runtimeConfigSnapshot := by
  unfold ESP32Wiimote.enableSerialControl
  split <;> rfl

/-! ## The two calls that write -/

/-- Setting the policy always records it, and applies it once the controller is initialised. -/
theorem policies_setAutoReconnectEnabled (enabled : Bool) (w : Esp32World) :
    (exec (setAutoReconnectEnabled enabled) w).2.policies =
      ⟨if w.hciEventContext.deviceInited then enabled else w.policies.applied, enabled⟩ := by
  unfold setAutoReconnectEnabled updateSnapshot
  rw [exec_then, exec_then, samePolicies_persist.rel]
  exact congrArg (Policies.mk · enabled) (policy_tinyWiimoteSetAutoReconnectEnabled enabled w.tw)

/-- The policy in the snapshot after the store was read. -/
def Platform.loadedPolicy (platform : Platform) (recorded : Bool) : Bool :=
  if platform.storeReady then (platform.stored.map (·.autoReconnectEnabled)).getD recorded
  else recorded

/-- The policy `init` leaves in the snapshot; without its queues it does not get to the store. -/
def Platform.restoredPolicy (platform : Platform) (recorded : Bool) : Bool :=
  if platform.txQueueCreated && platform.rxQueueCreated && platform.vhciRegistered then
    platform.loadedPolicy recorded
  else recorded

/-- Initialising the Bluetooth layer applies the default policy, and its controller is not
initialised yet. -/
structure FreshlyInitialised (w t : Esp32World) : Prop where
  policies : t.policies = ⟨true, w.policies.recorded⟩
  deviceInited : t.hciEventContext.deviceInited = false
  platform : t.platform = w.platform

/-- A controller that starts is freshly initialised, whether or not the queues come up. -/
theorem freshlyInitialised_bluetoothControllerInit {w : Esp32World}
    (h : w.platform.btStarts = true) :
    FreshlyInitialised w (exec bluetoothControllerInit w).2 ∧
      (exec bluetoothControllerInit w).1 =
        (w.platform.txQueueCreated && w.platform.rxQueueCreated && w.platform.vhciRegistered) := by
  obtain ⟨device, tw, btInitialized, rxQueue, serialIn, serialOut, platform⟩ := w
  obtain ⟨esp32, copyOrder, millis, btStarts, btStarted, txQueueCreated, rxQueueCreated, vhciRegistered,
    storeReady, stored, storeSaves, stationConnected, serverBegins⟩ := platform
  obtain rfl : btStarts = true := h
  cases txQueueCreated with
  | false => exact ⟨⟨rfl, rfl, rfl⟩, rfl⟩
  | true =>
    cases rxQueueCreated with
    | false => exact ⟨⟨rfl, rfl, rfl⟩, rfl⟩
    | true => cases vhciRegistered <;> exact ⟨⟨rfl, rfl, rfl⟩, rfl⟩

/-- The stored policy reaches the snapshot, but not a controller that is not initialised. -/
theorem policies_restoreRuntimeConfig {w : Esp32World}
    (h : w.hciEventContext.deviceInited = false) :
    (exec restoreRuntimeConfig w).2.policies =
      ⟨w.policies.applied, w.platform.loadedPolicy w.policies.recorded⟩ := by
  unfold restoreRuntimeConfig Platform.loadedPolicy
  rw [exec_get_bind, exec_then, exec_then, exec_ite]
  cases w.platform.storeReady with
  | false => rfl
  | true =>
    cases w.platform.stored with
    | none => rfl
    | some persisted =>
      let ttlSet := (exec (tinyWiimoteSetFastReconnectTtlMs persisted.fastReconnectTtlMs) w.tw).2
      have hrejected : (exec (tinyWiimoteSetAutoReconnectEnabled persisted.autoReconnectEnabled)
          ttlSet).2.policy = w.policies.applied :=
        policy_of_not_deviceInited _ (w := ttlSet) h
      exact congrArg (Policies.mk · persisted.autoReconnectEnabled) hrejected

/-- The line about the token touches neither copy. -/
theorem samePolicies_announceTokenFallback : SamePolicies announceTokenFallback :=
  Within.get_bind fun _ => Within.ite _ (fun _ => ⟨fun _ => rfl⟩) fun _ => Within.pure _

/-- A controller that does not start leaves everything as it was. -/
theorem exec_init_of_not_btStarts {w : Esp32World} (h : w.platform.btStarts = false) :
    (exec init w).2 = w := by
  unfold init bluetoothControllerInit
  rw [exec_bind, exec_get_bind, h, Bool.not_false, if_pos rfl]
  rfl

/-- `init()` applies the default policy, and records the restored one. -/
theorem policies_init {w : Esp32World} (h : w.platform.btStarts = true) :
    (exec init w).2.policies = ⟨true, w.platform.restoredPolicy w.policies.recorded⟩ := by
  obtain ⟨hfresh, hstarted⟩ := freshlyInitialised_bluetoothControllerInit h
  unfold init Platform.restoredPolicy
  rw [exec_bind, hstarted]
  generalize (exec bluetoothControllerInit w).2 = t at hfresh ⊢
  cases w.platform.txQueueCreated && w.platform.rxQueueCreated && w.platform.vhciRegistered with
  | false => exact hfresh.policies
  | true =>
    have hkept : SamePolicies (do
        announceTokenFallback
        return true : Esp32M Bool) :=
      Within.bind samePolicies_announceTokenFallback fun _ => Within.pure _
    let ttlSet := (exec (liftTw (tinyWiimoteSetFastReconnectTtlMs t.device.fastReconnectTtlMs)) t).2
    have hrestored := policies_restoreRuntimeConfig (w := ttlSet) hfresh.deviceInited
    have hpolicies : ttlSet.policies = ⟨true, w.policies.recorded⟩ := hfresh.policies
    have hplatform : ttlSet.platform = w.platform := hfresh.platform
    rw [hpolicies, hplatform] at hrestored
    exact (hkept.rel _).trans hrestored

/-! ## Public calls -/

/-- Only two of the public calls write the policy. -/
def PublicCall.writesPolicy : PublicCall → Bool
  | .init | .setAutoReconnectEnabled _ => true
  | _ => false

/-- A call that does not write the policy touches neither copy. -/
theorem PublicCall.samePolicies_run {c : PublicCall} (h : c.writesPolicy = false) :
    SamePolicies c.run := by
  cases c with
  | init => exact Bool.noConfusion h
  | setAutoReconnectEnabled enabled => exact Bool.noConfusion h
  | configure config =>
    exact Within.get_bind fun w => samePolicies_modifyDevice (applyRuntimeConfig_snapshot _ config)
  | enableWifiControl enabled deliveryMode => exact samePolicies_modifyDevice fun _ => rfl
  | updateWifiNetworkCredentials ssid password =>
    exact (samePolicies_updateWifiNetworkCredentials ssid password).discard
  | restartWifiControl => exact (samePolicies_callDevice fun _ => rfl).discard
  | updateWifiApiToken token =>
    exact (samePolicies_callDevice (updateWifiApiToken_snapshot token)).discard
  | setWifiDeliveryMode deliveryMode => exact (samePolicies_callDevice fun _ => rfl).discard
  | available =>
    have hread : KeepsPolicy tinyWiimoteRead := ⟨fun _ => rfl⟩
    apply Within.get_bind
    intro w
    exact Within.ite _ (fun _ => Within.pure _) fun _ => (samePolicies_liftTw hread).discard
  | requestBatteryUpdate =>
    exact samePolicies_liftTw (TwCall.keepsPolicy_run (c := .requestBatteryUpdate) rfl)
  | setLeds ledMask => exact (samePolicies_setLeds ledMask).discard
  | setReportingMode mode continuous => exact (samePolicies_setReportingMode mode continuous).discard
  | setAccelerometerEnabled enabled => exact ⟨fun _ => rfl⟩
  | requestStatus => exact (samePolicies_liftTw_call .requestStatus rfl rfl).discard
  | writeMemory addressSpace offset data len =>
    exact (samePolicies_liftTw_call (.writeMemory addressSpace offset data len) rfl rfl).discard
  | readMemory addressSpace offset size =>
    exact (samePolicies_liftTw_call (.readMemory addressSpace offset size) rfl rfl).discard
  | setScanEnabled enabled =>
    exact samePolicies_liftTw (TwCall.keepsPolicy_run (c := .setScanEnabled enabled) rfl)
  | startDiscovery => exact (samePolicies_liftTw_call .startDiscovery rfl rfl).discard
  | stopDiscovery => exact (samePolicies_liftTw_call .stopDiscovery rfl rfl).discard
  | disconnectActiveController reason =>
    exact (samePolicies_liftTw_call (.disconnect reason) rfl rfl).discard
  | clearReconnectCache =>
    exact samePolicies_liftTw (TwCall.keepsPolicy_run (c := .clearReconnectCache) rfl)
  | enableSerialControl enabled =>
    exact samePolicies_modifyDevice (enableSerialControl_snapshot enabled)
  | setLogLevel level => exact ⟨fun _ => rfl⟩
  | addFilter filter =>
    exact Within.ite _ (fun _ => samePolicies_liftTw ⟨fun _ => rfl⟩) fun _ => Within.pure _

/-! ## Serial commands -/

/-- Only one of the calls a serial command can make writes the policy. -/
theorem samePolicies_serialTargetCall {call : SerialTargetCall}
    (h : ∀ enabled, call ≠ .setAutoReconnectEnabled enabled) :
    SamePolicies (serialTargetCall call) := by
  cases call with
  | setAutoReconnectEnabled enabled => exact absurd rfl (h enabled)
  | setLeds ledMask => exact samePolicies_setLeds ledMask
  | setReportingMode mode continuous => exact samePolicies_setReportingMode mode continuous
  | setAccelerometerEnabled enabled => exact ⟨fun _ => rfl⟩
  | requestStatus => exact samePolicies_liftTw_call .requestStatus rfl rfl
  | setScanEnabled enabled =>
    have hcall := samePolicies_liftTw (TwCall.keepsPolicy_run (c := .setScanEnabled enabled) rfl)
    exact Within.bind hcall fun _ => Within.pure _
  | startDiscovery => exact samePolicies_liftTw_call .startDiscovery rfl rfl
  | stopDiscovery => exact samePolicies_liftTw_call .stopDiscovery rfl rfl
  | disconnectActiveController reason =>
    exact samePolicies_liftTw_call (.disconnect reason) rfl rfl
  | clearReconnectCache =>
    have hcall := samePolicies_liftTw (TwCall.keepsPolicy_run (c := .clearReconnectCache) rfl)
    exact Within.bind hcall fun _ => Within.pure _
  | setWifiControlEnabled enabled => exact ⟨fun _ => rfl⟩
  | setWifiDeliveryMode mode =>
    exact Within.ite _ (fun _ => Within.pure _) fun _ => samePolicies_callDevice fun _ => rfl
  | setWifiNetworkCredentials ssid password =>
    exact samePolicies_updateWifiNetworkCredentials _ _
  | restartWifiControl => exact samePolicies_callDevice fun _ => rfl
  | setWifiApiToken token => exact samePolicies_callDevice (updateWifiApiToken_snapshot _)

/-- Reading a line touches neither copy. -/
theorem SerialOnly.policies {w t : Esp32World} (h : SerialOnly w t) : t.policies = w.policies := by
  unfold Esp32World.policies Esp32World.hciEventContext
  rw [h.tw, h.snapshot]

/-- Serial control makes no call that writes the policy, or one. -/
theorem processSerialControl_policies (w : Esp32World) :
    ((∀ enabled, .setAutoReconnectEnabled enabled ∉ (exec processSerialControl w).1) ∧
        (exec processSerialControl w).2.policies = w.policies) ∨
      ∃ enabled, (exec processSerialControl w).1 = [.setAutoReconnectEnabled enabled] ∧
        (exec processSerialControl w).2.policies =
          ⟨if w.hciEventContext.deviceInited then enabled else w.policies.applied, enabled⟩ := by
  have houtcome := processSerialControl_outcome w
  generalize exec processSerialControl w = outcome at houtcome ⊢
  cases houtcome with
  | quiet h => exact .inl ⟨fun _ => List.not_mem_nil, h.policies⟩
  | @called t u call h h' =>
    by_cases hcall : ∃ enabled, call = .setAutoReconnectEnabled enabled
    · obtain ⟨enabled, rfl⟩ := hcall
      have hset : (exec (serialTargetCall (.setAutoReconnectEnabled enabled)) t).2.policies = _ :=
        policies_setAutoReconnectEnabled enabled t
      rw [h.policies, Esp32World.hciEventContext, h.tw] at hset
      exact .inr ⟨enabled, rfl, h'.policies.trans hset⟩
    · have hother : ∀ enabled, call ≠ .setAutoReconnectEnabled enabled := fun enabled heq =>
        hcall ⟨enabled, heq⟩
      have hsame := (samePolicies_serialTargetCall hother).rel t
      refine .inl ⟨fun enabled hmem => ?_, (h'.policies.trans hsame).trans h.policies⟩
      exact hother enabled (List.mem_singleton.mp hmem).symm

/-! ## Steps -/

/-- Setting the policy reaches the Bluetooth layer, or changes nothing there. -/
def Esp32World.TakesPolicy (w : Esp32World) (enabled : Bool) : Prop :=
  w.hciEventContext.deviceInited = true ∨ enabled = w.policies.applied

instance (w : Esp32World) (enabled : Bool) : Decidable (w.TakesPolicy enabled) :=
  inferInstanceAs (Decidable (_ ∨ _))

/-- The policy is in force after setting it exactly when the step takes it. -/
theorem takesPolicy_iff (w : Esp32World) (enabled : Bool) :
    (if w.hciEventContext.deviceInited then enabled else w.policies.applied) = enabled ↔
      w.TakesPolicy enabled := by
  unfold Esp32World.TakesPolicy
  cases w.hciEventContext.deviceInited with
  | true => exact iff_of_true rfl (.inl rfl)
  | false =>
    rw [if_neg Bool.false_ne_true]
    exact ⟨fun h => .inr h.symm, fun h => h.elim Bool.noConfusion Eq.symm⟩

/-- The step writes the same policy to both copies, or none. -/
def WritesBoth (w : Esp32World) (e : Esp32Event) : Prop :=
  match e.action with
  | .call .init =>
    if e.platform.btStarts then e.platform.restoredPolicy w.policies.recorded = true
    else PolicyAgrees w
  | .call (.setAutoReconnectEnabled enabled) => w.TakesPolicy enabled
  | .task =>
    let w := w.enter e.platform
    ∀ enabled, .setAutoReconnectEnabled enabled ∈ w.serialCalls → w.beforeSerial.TakesPolicy enabled
  | _ => True

instance (w : Esp32World) (e : Esp32Event) : Decidable (WritesBoth w e) := by
  obtain ⟨action, platform⟩ := e
  cases action with
  | call c =>
    cases c with
    | init =>
      exact inferInstanceAs (Decidable (if platform.btStarts then
        platform.restoredPolicy w.policies.recorded = true else PolicyAgrees w))
    | setAutoReconnectEnabled enabled => exact inferInstanceAs (Decidable (w.TakesPolicy enabled))
    | _ => exact .isTrue trivial
  | task => exact inferInstanceAs (Decidable (∀ enabled, _ ∈ _ → _))
  | _ => exact .isTrue trivial

/-- Handling the received packets touches neither copy. -/
theorem samePolicies_processRxQueue : SamePolicies processRxQueue := by
  apply Within.get_bind
  intro w
  split
  · refine Within.bind ⟨fun _ => rfl⟩ fun _ => ?_
    exact samePolicies_liftTw (keepsPolicy_handleHciData _ _)
  · exact Within.pure _

/-- So it is with what a task does before serial control. -/
theorem policies_beforeSerial (w : Esp32World) : w.beforeSerial.policies = w.policies :=
  samePolicies_processRxQueue.rel _

/-- A task keeps the copies in agreement exactly when the serial command it answers does. -/
theorem policyAgrees_task_iff {w : Esp32World} (hagrees : PolicyAgrees w) :
    PolicyAgrees (exec task w).2 ↔
      ∀ enabled, .setAutoReconnectEnabled enabled ∈ w.serialCalls →
        w.beforeSerial.TakesPolicy enabled := by
  have htask : (exec task w).2.policies = w.afterSerial.policies := by
    rw [exec_task]
    rfl
  unfold PolicyAgrees Esp32World.serialCalls
  rw [htask]
  cases hstarted : w.isStarted with
  | false =>
    rw [w.afterSerial_of_not_started hstarted]
    exact iff_of_true hagrees fun enabled hmem => absurd hmem List.not_mem_nil
  | true =>
    rw [w.afterSerial_of_started hstarted, if_pos rfl]
    rcases processSerialControl_policies w.beforeSerial with ⟨hnone, hsame⟩ | ⟨enabled, hcalls, hset⟩
    · rw [hsame, policies_beforeSerial]
      exact iff_of_true hagrees fun enabled hmem => absurd hmem (hnone enabled)
    · rw [hset, hcalls, takesPolicy_iff]
      constructor
      · intro htakes enabled' hmem
        cases List.mem_singleton.mp hmem
        exact htakes
      · intro htakes
        exact htakes enabled (List.mem_singleton.mpr rfl)

/-- A call of `init` puts the copies in agreement exactly when the policy in the snapshot is the
default of the Bluetooth layer; this needs no agreement before. -/
theorem policyAgrees_init_iff (w : Esp32World) (platform : Platform) :
    PolicyAgrees (w.step ⟨.call .init, platform⟩) ↔ WritesBoth w ⟨.call .init, platform⟩ := by
  change PolicyAgrees (exec init (w.enter platform)).2 ↔
    if platform.btStarts then platform.restoredPolicy w.policies.recorded = true
    else PolicyAgrees w
  cases hstarts : platform.btStarts with
  | false =>
    rw [exec_init_of_not_btStarts hstarts, if_neg Bool.false_ne_true]
    rfl
  | true =>
    unfold PolicyAgrees
    rw [policies_init hstarts, if_pos rfl]
    exact eq_comm

/-- A step keeps the copies in agreement exactly when it writes the same policy to both. -/
theorem policyAgrees_step_iff (w : Esp32World) (e : Esp32Event) (hagrees : PolicyAgrees w) :
    PolicyAgrees (w.step e) ↔ WritesBoth w e := by
  obtain ⟨action, platform⟩ := e
  have hkept {x : Esp32M Unit} (h : SamePolicies x) :
      PolicyAgrees (exec x (w.enter platform)).2 := by
    unfold PolicyAgrees
    rw [h.rel]
    exact hagrees
  cases action with
  | call c =>
    cases hwrites : c.writesPolicy with
    | false =>
      have hagrees' : PolicyAgrees (w.step ⟨.call c, platform⟩) :=
        hkept (PublicCall.samePolicies_run hwrites)
      refine iff_of_true hagrees' ?_
      cases c with
      | init => exact Bool.noConfusion hwrites
      | setAutoReconnectEnabled enabled => exact Bool.noConfusion hwrites
      | _ => trivial
    | true =>
      cases c with
      | init => exact policyAgrees_init_iff w platform
      | setAutoReconnectEnabled enabled =>
        have hset := policies_setAutoReconnectEnabled enabled (w.enter platform)
        change PolicyAgrees (exec (setAutoReconnectEnabled enabled) (w.enter platform)).2 ↔ _
        unfold PolicyAgrees
        rw [hset]
        exact takesPolicy_iff w enabled
      | _ => exact Bool.noConfusion hwrites
  | task => exact policyAgrees_task_iff (w := w.enter platform) hagrees
  | dispatch begins => exact iff_of_true (hkept (x := modify _) ⟨fun _ => rfl⟩) trivial
  | hciReceived packet =>
    have hreceive : SamePolicies (notifyHostRecv packet) := by
      apply Within.modify
      intro w
      split <;> rfl
    exact iff_of_true (hkept hreceive) trivial
  | sendAvailable =>
    have hreset : SamePolicies notifyHostSendAvailable := Within.get_bind fun _ =>
      Within.ite _ (fun _ => Within.pure _) fun _ =>
        samePolicies_liftTw (TwCall.keepsPolicy_run (c := .resetDevice) rfl)
    exact iff_of_true (hkept hreset) trivial
  | serialReceived bytes => exact iff_of_true (hkept (x := modify _) ⟨fun _ => rfl⟩) trivial

/-! ## Runs -/

/-- Whatever happened before it, from a call of `init` on the copies agree in every state that is
reached exactly when every step writes the same policy to both. -/
theorem policyAgrees_iff (config : ESP32WiimoteConfig) (before : List Esp32Event)
    (platform : Platform) (after : List Esp32Event) :
    EveryStep (fun w e => PolicyAgrees (w.step e)) Esp32World.step
        (runFrom Esp32World.step (.construct config) before) (⟨.call .init, platform⟩ :: after) ↔
      EveryStep WritesBoth Esp32World.step
        (runFrom Esp32World.step (.construct config) before) (⟨.call .init, platform⟩ :: after) := by
  generalize runFrom Esp32World.step (.construct config) before = w
  unfold EveryStep
  rw [policyAgrees_init_iff]
  refine and_congr_right fun hwrites => ?_
  have hagrees := (policyAgrees_init_iff w platform).mpr hwrites
  exact everyStep_invariant_iff (J := fun _ => True) (fun _ _ _ _ => trivial)
    (fun s e _ _ => policyAgrees_step_iff s e) trivial hagrees

/-- A stored policy other than the default is loaded, but not applied. -/
theorem not_policyAgrees_after_restore :
    ¬PolicyAgrees (runFrom Esp32World.step (.construct {})
      [⟨.call .init, { stored := some ⟨false, 3 * 60 * 1000, 0, 0x30, false⟩ }⟩]) := by
  decide +kernel

end Esp32Wiimote.Device
