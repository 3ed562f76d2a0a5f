import Esp32Wiimote.Device.LifecycleInvariant
import Esp32Wiimote.Library.PolledClock

/-!
# The progress of a startup

What one startup step can do, stage by stage, and by when the whole startup has come to its end.
Each task moves a startup on by a stage, except while the station is waited for; and that ends
with the timeout.
-/

namespace Esp32Wiimote.Device.WifiControl

open PolledClock WrappingClock

variable {c d : WifiControl} {input : StartupInput}

/-! ## One step -/

/-- The startup was given up, and what it failed at is recorded. -/
structure GivenUp (c : WifiControl) : Prop where
  off : c.wifiControlEnabled = false
  failed : c.wifiNetworkConnectFailed = true ∨ c.serverBindFailed = true

/-- The control stays on, and is not ready yet. -/
structure Starting (c : WifiControl) : Prop where
  enabled : c.wifiControlEnabled = true
  ready : c.wifiControlReady = false

/-- What a startup step does: it gives up, begins to wait or goes on waiting for the station, moves
on to a later stage, or is done. -/
inductive Advance (input : StartupInput) (c d : WifiControl) : Prop
  | givenUp (h : GivenUp d)
  | joining (hstage : c.wifiInitStage = .StartWifi) (hesp32 : input.esp32 = true)
      (hwaits : d.wifiInitStage = .WaitNetworkConnected)
      (hstart : d.wifiNetworkConnectStartMs = input.nowMs) (h : Starting d)
  | waiting (hstage : c.wifiInitStage = .WaitNetworkConnected)
      (htime : input.esp32 = true → input.nowMs - c.wifiNetworkConnectStartMs < kWifiConnectTimeoutMs)
      (heq : d = c) (h : Starting d)
  | moved (hlater : c.wifiInitStage.value < d.wifiInitStage.value) (hjoined : 2 ≤ d.wifiInitStage.value)
      (h : Starting d)
  | done (henabled : d.wifiControlEnabled = true) (h : d.wifiControlReady = true)

/-- The step leads to a later stage, behind the one that waits. -/
theorem Advance.moved_to {source : WifiInitStage} (target : WifiInitStage) (hstage : c.wifiInitStage = source)
    (hd : d.wifiInitStage = target) (hlater : source.value < target.value) (hjoined : 2 ≤ target.value)
    (h : Starting d) : Advance input c d :=
  .moved (by rw [hstage, hd]; exact hlater) (by rw [hd]; exact hjoined) h

/-- The first stage advances the startup. -/
theorem advance_startWifi (h : Starting c) (hstage : c.wifiInitStage = .StartWifi) :
    Advance input c (c.startWifi input) := by
  unfold startWifi
  split
  · exact .givenUp ⟨rfl, .inl rfl⟩
  · split
    case isTrue hesp32 => exact .joining hstage hesp32 rfl rfl ⟨h.enabled, h.ready⟩
    case isFalse => exact .moved_to .RegisterStaticRoutes hstage rfl (by decide) (by decide) ⟨h.enabled, h.ready⟩

/-- So does the stage that waits for the station. -/
theorem advance_waitNetworkConnected (h : Starting c)
    (hstage : c.wifiInitStage = .WaitNetworkConnected) :
    Advance input c (c.waitNetworkConnected input) := by
  unfold waitNetworkConnected
  split
  case isTrue hother =>
    refine .waiting hstage (fun hesp32 => ?_) rfl h
    rw [hesp32] at hother
    cases hother
  case isFalse =>
    split
    · exact .moved_to .RegisterStaticRoutes hstage rfl (by decide) (by decide) ⟨h.enabled, h.ready⟩
    · split
      · exact .givenUp ⟨rfl, .inl rfl⟩
      case isFalse htime => exact .waiting hstage (fun _ => UInt32.not_le.mp htime) rfl h

/-- So does the stage of the API routes. -/
theorem advance_registerApiRoutes (h : Starting c) (hstage : c.wifiInitStage = .RegisterApiRoutes)
    (htracked : Tracked c) : Advance input c (c.registerApiRoutes input) := by
  unfold registerApiRoutes
  rw [startWifiHttpServer_eq htracked hstage]
  cases hbegins : input.serverBegins with
  | false => exact .givenUp ⟨rfl, .inr rfl⟩
  | true =>
    dsimp only
    rw [if_neg (by decide)]
    split
    · exact .moved_to .RegisterWebSocketRoutes hstage rfl (by decide) (by decide) ⟨h.enabled, h.ready⟩
    · exact .moved_to .Ready hstage rfl (by decide) (by decide) ⟨h.enabled, h.ready⟩

/-- Every startup step advances the startup. -/
theorem advance_startupStep (input : StartupInput) (h : Starting c) (htracked : Tracked c) :
    Advance input c (c.startupStep input) := by
  unfold startupStep
  split
  case h_1 hstage => exact advance_startWifi h hstage
  case h_2 hstage => exact advance_waitNetworkConnected h hstage
  case h_3 hstage => exact .moved_to .RegisterApiRoutes hstage rfl (by decide) (by decide) ⟨h.enabled, h.ready⟩
  case h_4 hstage => exact advance_registerApiRoutes h hstage htracked
  case h_5 hstage => exact .moved_to .Ready hstage rfl (by decide) (by decide) ⟨h.enabled, h.ready⟩
  case h_6 => exact .done h.enabled rfl

/-! ## The end of the startup -/

/-- With the latest task at `t` and tasks at most the gap apart, what is left of the startup is over
by the deadline. -/
inductive EndsBy (gap deadline t : ℕ) (c : WifiControl) : Prop
  | finished (h : ¬Starting c)
  | begins (hstage : c.wifiInitStage = .StartWifi)
      (h : t + kWifiConnectTimeoutMs.toNat + 6 * gap ≤ deadline)
  | waits (start : ℕ) (hstage : c.wifiInitStage = .WaitNetworkConnected)
      (hreading : c.wifiNetworkConnectStartMs = reading start) (hstart : start ≤ t)
      (hrecent : t < start + kWifiConnectTimeoutMs.toNat)
      (h : start + kWifiConnectTimeoutMs.toNat + 5 * gap ≤ deadline)
  | joined (hstage : 2 ≤ c.wifiInitStage.value)
      (h : t + (6 - c.wifiInitStage.value) * gap ≤ deadline)

/-- The same, where an action may be pending that begins the startup again. -/
inductive Expected (gap deadline t : ℕ) (c : WifiControl) : Prop
  | queued (hpending : c.pendingAction ≠ none)
      (h : t + kWifiConnectTimeoutMs.toNat + 7 * gap ≤ deadline)
  | running (hpending : c.pendingAction = none) (h : EndsBy gap deadline t c)

section Deadline

variable {gap deadline t t' : ℕ}

/-- A stage further on takes a task less. -/
theorem tasks_left {v w : ℕ} (hlater : v < w) (hlast : w ≤ 5) (gap : ℕ) :
    (6 - w) * gap + gap ≤ (6 - v) * gap := by
  rw [← Nat.succ_mul]
  exact Nat.mul_le_mul_right gap (by omega)

/-- The stages are numbered up to five. -/
theorem stageValue_le (stage : WifiInitStage) : stage.value ≤ 5 := by
  cases stage <;> decide

/-- A startup step in time keeps to the deadline: each stage takes a task, and the station is waited
for until the timeout, which the clock shows in time. -/
theorem EndsBy.advance (h : EndsBy gap deadline t c) (hc : Starting c) (hstep : Advance input c d)
    (hlater : t ≤ t') (hpunctual : t' ≤ t + gap) (hnow : input.nowMs = reading t')
    (hturn : gap + kWifiConnectTimeoutMs.toNat ≤ 2 ^ 32)
    (hesp32 : c.wifiInitStage = .WaitNetworkConnected → input.esp32 = true) :
    EndsBy gap deadline t' d := by
  cases hstep with
  | givenUp hd => exact .finished fun hd' => Bool.false_ne_true (hd.off.symm.trans hd'.enabled)
  | joining hstage _ hwaits hstart _ =>
    cases h with
    | finished h => exact absurd hc h
    | begins _ h =>
      exact .waits t' hwaits (hstart.trans hnow) le_rfl (Nat.lt_add_of_pos_right (by decide)) (by omega)
    | waits _ hstage' => exact absurd (hstage.symm.trans hstage') (by decide)
    | joined hstage' => exact absurd hstage' (by rw [hstage]; decide)
  | waiting hstage htime heq _ =>
    cases h with
    | finished h => exact absurd hc h
    | begins hstage' => exact absurd (hstage.symm.trans hstage') (by decide)
    | waits start _ hreading hstart hrecent h =>
      have helapsed := htime (hesp32 hstage)
      rw [hnow, hreading, ← UInt32.ofNat_toNat (x := kWifiConnectTimeoutMs),
        elapsed_lt_iff_of_polled hstart hrecent hlater hpunctual (by decide) hturn] at helapsed
      exact heq ▸ .waits start hstage hreading (hstart.trans hlater) helapsed h
    | joined hstage' => exact absurd hstage' (by rw [hstage]; decide)
  | moved hlater' hjoined _ =>
    have hlast := stageValue_le d.wifiInitStage
    have hleft : (6 - d.wifiInitStage.value) * gap ≤ 4 * gap := Nat.mul_le_mul_right gap (by omega)
    refine .joined hjoined ?_
    cases h with
    | finished h => exact absurd hc h
    | begins _ h => omega
    | waits start _ _ _ hrecent h => omega
    | joined _ h =>
      have hfewer := tasks_left hlater' hlast gap
      omega
  | done _ hready => exact .finished fun hd => Bool.false_ne_true (hd.ready.symm.trans hready)

/-- The whole startup fits, whatever it is at. -/
theorem Expected.whole (h : Expected gap deadline t c) :
    Expected gap (t + kWifiConnectTimeoutMs.toNat + 7 * gap) t c := by
  cases h with
  | queued hpending => exact .queued hpending le_rfl
  | running hpending h =>
    refine .running hpending ?_
    cases h with
    | finished h => exact .finished h
    | begins hstage => exact .begins hstage (by omega)
    | waits start hstage hreading hstart hrecent => exact .waits start hstage hreading hstart hrecent (by omega)
    | joined hstage =>
      have hleft : (6 - c.wifiInitStage.value) * gap ≤ 4 * gap := Nat.mul_le_mul_right gap (by omega)
      exact .joined hstage (by omega)

/-- A task first begins again what was put off. -/
theorem Expected.applyQueued (h : Expected gap deadline t c) :
    c.applyQueuedWifiLifecycleAction.pendingAction = none ∧
      EndsBy gap deadline t c.applyQueuedWifiLifecycleAction := by
  rw [applyQueuedWifiLifecycleAction_eq]
  cases h with
  | queued hpending h =>
    obtain ⟨a, ha⟩ := Option.ne_none_iff_exists'.mp hpending
    rw [ha]
    refine ⟨(c.unqueue.carryOut_frame a).2.2.2.1, .begins (c.unqueue.carryOut_cleared a).2.2.2.1 ?_⟩
    omega
  | running hpending h =>
    rw [hpending]
    exact ⟨hpending, h⟩

/-- What is expected rests on the stage, the flags that go with it, and the pending action. -/
theorem Expected.of_eq (h : Expected gap deadline t c) (hstage : d.wifiInitStage = c.wifiInitStage)
    (hstart : d.wifiNetworkConnectStartMs = c.wifiNetworkConnectStartMs)
    (henabled : d.wifiControlEnabled = c.wifiControlEnabled)
    (hready : d.wifiControlReady = c.wifiControlReady) (hpending : d.pendingAction = c.pendingAction) :
    Expected gap deadline t d := by
  cases h with
  | queued hc h => exact .queued (hpending ▸ hc) h
  | running hc h =>
    refine .running (hpending.trans hc) ?_
    cases h with
    | finished h => exact .finished fun hd => h ⟨henabled.symm.trans hd.enabled, hready.symm.trans hd.ready⟩
    | begins hc h => exact .begins (hstage.trans hc) h
    | waits start hc hreading hpast hrecent h =>
      exact .waits start (hstage.trans hc) (hstart.trans hreading) hpast hrecent h
    | joined hc h => exact .joined (hstage ▸ hc) (hstage ▸ h)

/-- A request that asks for no action does not delay the startup. -/
theorem Expected.handle_quiet (h : Expected gap deadline t c) {r : Request}
    (hquiet : c.actionOf r = none) : Expected gap deadline t (c.handle r) := by
  rw [handle_eq, hquiet]
  obtain ⟨-, hpending, -, hstage, -, -, hready⟩ := c.settings_frame r
  have hstart : (c.settings r).wifiNetworkConnectStartMs = c.wifiNetworkConnectStartMs := by
    obtain ⟨_, _, _, _, _, _, _, heq⟩ := c.settings_eq r
    rw [heq]
  exact h.of_eq hstage hstart (c.enabled_of_no_action hquiet) hready hpending

/-- Any other request begins the startup again, now or with the next task. -/
theorem Expected.handle (h : Expected gap deadline t c) (r : Request) :
    Expected gap (t + kWifiConnectTimeoutMs.toNat + 7 * gap) t (c.handle r) := by
  cases haction : c.actionOf r with
  | none => exact (h.handle_quiet haction).whole
  | some a =>
    rw [handle_eq, haction]
    rcases (c.settings r).act_some a with ⟨-, heq⟩ | ⟨-, heq⟩
    · rw [heq]
      exact .queued (by rw [pendingAction_defer]; exact Option.some_ne_none a) le_rfl
    · rw [heq]
      have hbegins := ((c.settings r).carryOut_cleared a).2.2.2.1
      cases hpending : ((c.settings r).carryOut a).pendingAction with
      | none => exact .running hpending (.begins hbegins (by omega))
      | some b => exact .queued (by rw [hpending]; exact Option.some_ne_none b) le_rfl

/-- Behind the deadline nothing of the startup is left. -/
theorem Expected.finished (h : Expected gap deadline t c)
    (hlate : deadline < t + gap) : c.pendingAction = none ∧ ¬Starting c := by
  cases h with
  | queued _ h => omega
  | running hpending h =>
    refine ⟨hpending, ?_⟩
    cases h with
    | finished h => exact h
    | begins _ h => omega
    | waits start _ _ _ _ h => omega
    | joined _ h =>
      have hlast := stageValue_le c.wifiInitStage
      have hleft : 1 * gap ≤ (6 - c.wifiInitStage.value) * gap := Nat.mul_le_mul_right gap (by omega)
      omega

end Deadline

/-! ## What a startup rests on -/

/-- A control that is on has Wi-Fi allowed, in the configuration too. -/
structure Permitted (c : WifiControl) : Prop where
  config : c.wifiEnabled = c.config.enabled
  enabled : c.wifiControlEnabled = true → c.wifiEnabled = true

/-- The station is waited for on the ESP32 only. -/
def JoinsOn (esp32 : Bool) (c : WifiControl) : Prop :=
  c.wifiInitStage = .WaitNetworkConnected → esp32 = true

/-- The settings of a request keep Wi-Fi permitted. -/
theorem Permitted.settings (h : Permitted c) (r : Request) : Permitted (c.settings r) := by
  obtain ⟨hconfig, henabled⟩ := h
  cases r with
  | enable enabled deliveryMode =>
    cases enabled with
    | false => exact ⟨hconfig, fun hd => by cases hd⟩
    | true =>
      simp only [WifiControl.settings, allowWifi]
      split
      case isTrue hallowed => exact ⟨hconfig, fun _ => hallowed⟩
      case isFalse => exact ⟨rfl, fun _ => rfl⟩
  | restart =>
    simp only [WifiControl.settings]
    split <;> exact ⟨hconfig, henabled⟩
  | deliveryMode deliveryMode => exact ⟨hconfig, henabled⟩
  | network network => exact ⟨hconfig, henabled⟩
  | configure config network networkConfigured =>
    exact ⟨rfl, fun hd => (Bool.and_eq_true_iff.mp hd).1⟩

/-- So does carrying out an action. -/
theorem Permitted.carryOut (h : Permitted c) (a : WifiLifecycleAction) : Permitted (c.carryOut a) := by
  unfold WifiControl.carryOut
  rw [resetWifiLifecycleState_eq]
  exact ⟨h.config, h.enabled⟩

/-- So does acting on a request. -/
theorem Permitted.act (h : Permitted c) (a : Option WifiLifecycleAction) : Permitted (c.act a) := by
  cases a with
  | none => exact h
  | some a =>
    unfold WifiControl.act
    dsimp only
    split
    · exact ⟨h.config, h.enabled⟩
    · exact h.carryOut a

/-- So does the whole request. -/
theorem Permitted.handle (h : Permitted c) (r : Request) : Permitted (c.handle r) := by
  rw [handle_eq]
  exact (h.settings r).act _

/-- So does the queued action. -/
theorem Permitted.applyQueued (h : Permitted c) : Permitted c.applyQueuedWifiLifecycleAction := by
  rw [applyQueuedWifiLifecycleAction_eq]
  split
  · exact Permitted.carryOut (c := c.unqueue) ⟨h.config, h.enabled⟩ _
  · exact h

/-- A startup step does not switch anything on. -/
structure Restrains (c d : WifiControl) : Prop where
  config : d.config = c.config
  allowed : d.wifiEnabled = c.wifiEnabled
  enabled : d.wifiControlEnabled = true → c.wifiControlEnabled = true

/-- Starting the server switches nothing on. -/
theorem startWifiHttpServer_restrains (c : WifiControl) (serverBegins : Bool) :
    Restrains c (c.startWifiHttpServer serverBegins).2 := by
  unfold startWifiHttpServer
  dsimp only
  split
  · exact ⟨rfl, rfl, id⟩
  · split <;> exact ⟨rfl, rfl, id⟩

/-- Nor does any startup step. -/
theorem startupStep_restrains (c : WifiControl) (input : StartupInput) :
    Restrains c (c.startupStep input) := by
  unfold WifiControl.startupStep
  split
  case h_1 =>
    unfold WifiControl.startWifi
    split
    · exact ⟨rfl, rfl, fun hd => by cases hd⟩
    · split <;> exact ⟨rfl, rfl, id⟩
  case h_2 =>
    unfold WifiControl.waitNetworkConnected
    split
    · exact ⟨rfl, rfl, id⟩
    · split
      · exact ⟨rfl, rfl, id⟩
      · split
        · exact ⟨rfl, rfl, fun hd => by cases hd⟩
        · exact ⟨rfl, rfl, id⟩
  case h_4 =>
    obtain ⟨hconfig, hallowed, henabled⟩ := c.startWifiHttpServer_restrains input.serverBegins
    unfold WifiControl.registerApiRoutes
    dsimp only
    split
    · exact ⟨hconfig, hallowed, fun hd => by cases hd⟩
    · split <;> exact ⟨hconfig, hallowed, henabled⟩
  case h_3 => exact ⟨rfl, rfl, id⟩
  case h_5 => exact ⟨rfl, rfl, id⟩
  case h_6 => exact ⟨rfl, rfl, id⟩

/-- `processWifiControl` keeps Wi-Fi permitted. -/
theorem Permitted.processWifiControl (h : Permitted c) (input : StartupInput) :
    Permitted (c.processWifiControl input) := by
  rcases processWifiControl_cases input c with heq | ⟨-, -, heq⟩
  · rw [heq]
    exact h
  · obtain ⟨hconfig, hallowed, henabled⟩ :=
      startupStep_restrains { c with wifiControlInitializing := true } input
    rw [heq]
    exact ⟨hallowed.trans (h.config.trans (congrArg _ hconfig.symm)),
      fun hd => hallowed.trans (h.enabled (henabled hd))⟩

/-- The wait is begun on the ESP32 only. -/
theorem startupStep_joins (c : WifiControl) (input : StartupInput)
    (hd : (c.startupStep input).wifiInitStage = .WaitNetworkConnected) :
    c.wifiInitStage = .WaitNetworkConnected ∨ input.esp32 = true := by
  unfold WifiControl.startupStep at hd
  split at hd
  case h_1 hstage =>
    unfold WifiControl.startWifi at hd
    split at hd
    · exact .inl hd
    · split at hd
      case isTrue hesp32 => exact .inr hesp32
      case isFalse => cases hd
  case h_2 hstage => exact .inl hstage
  case h_3 => cases hd
  case h_4 hstage =>
    unfold WifiControl.registerApiRoutes at hd
    dsimp only at hd
    have hkept : (c.startWifiHttpServer input.serverBegins).2.wifiInitStage = c.wifiInitStage := by
      unfold startWifiHttpServer
      dsimp only
      split
      · rfl
      · split <;> rfl
    split at hd
    · exact .inl (hkept.symm.trans hd)
    · split at hd <;> cases hd
  case h_5 => cases hd
  case h_6 hstage => exact .inl hd

/-- The station is waited for on the same platform. -/
theorem JoinsOn.processWifiControl (h : JoinsOn input.esp32 c) :
    JoinsOn input.esp32 (c.processWifiControl input) := by
  rcases processWifiControl_cases input c with heq | ⟨-, -, heq⟩
  · rw [heq]
    exact h
  · rw [heq]
    intro hd
    rcases startupStep_joins { c with wifiControlInitializing := true } input hd with hstage | hesp32
    · exact h hstage
    · exact hesp32

/-- An action carried out does not wait for the station. -/
theorem joinsOn_carryOut (esp32 : Bool) (c : WifiControl) (a : WifiLifecycleAction) :
    JoinsOn esp32 (c.carryOut a) := by
  intro hstage
  rw [(c.carryOut_cleared a).2.2.2.1] at hstage
  cases hstage

/-- A request does not begin to wait for it. -/
theorem JoinsOn.handle {esp32 : Bool} (h : JoinsOn esp32 c) (r : Request) : JoinsOn esp32 (c.handle r) := by
  rw [handle_eq]
  have hsettings : JoinsOn esp32 (c.settings r) := fun hstage => h ((c.settings_frame r).2.2.2.1 ▸ hstage)
  cases c.actionOf r with
  | none => exact hsettings
  | some a =>
    rcases (c.settings r).act_some a with ⟨-, heq⟩ | ⟨-, heq⟩
    · rw [heq]
      exact hsettings
    · rw [heq]
      exact joinsOn_carryOut esp32 _ a

/-- Nor does the queued action. -/
theorem JoinsOn.applyQueued {esp32 : Bool} (h : JoinsOn esp32 c) :
    JoinsOn esp32 c.applyQueuedWifiLifecycleAction := by
  rw [applyQueuedWifiLifecycleAction_eq]
  split
  · exact joinsOn_carryOut esp32 _ _
  · exact h

/-- What holds in every state of a program that is built for one platform. -/
structure Supported (esp32 : Bool) (c : WifiControl) : Prop extends Coherent c where
  permitted : Permitted c
  joins : JoinsOn esp32 c

section Supported

variable {esp32 : Bool}

/-- A request leaves the control supported. -/
theorem Supported.handle (h : Supported esp32 c) (r : Request) : Supported esp32 (c.handle r) :=
  { h.toCoherent.handle r with permitted := h.permitted.handle r, joins := h.joins.handle r }

/-- So does the queued action. -/
theorem Supported.applyQueued (h : Supported esp32 c) :
    Supported esp32 c.applyQueuedWifiLifecycleAction :=
  { h.toCoherent.applyQueued with permitted := h.permitted.applyQueued, joins := h.joins.applyQueued }

/-- So does the request of a serial command. -/
theorem Supported.handleSerial (h : Supported esp32 c) (serial : Option Request) :
    Supported esp32 (c.handleSerial serial) := by
  cases serial with
  | none => exact h
  | some r => exact h.handle r

/-- So does `processWifiControl` on its platform. -/
theorem Supported.processWifiControl (h : Supported input.esp32 c) :
    Supported input.esp32 (c.processWifiControl input) :=
  { h.toCoherent.processWifiControl input with
    permitted := h.permitted.processWifiControl input, joins := h.joins.processWifiControl }

/-- So does the begin or the end of a dispatch. -/
theorem Supported.setDispatching (h : Supported esp32 c) (dispatching : Bool) :
    Supported esp32 (c.setDispatching dispatching) :=
  { h.toCoherent.step (.dispatch dispatching) with
    permitted := ⟨h.permitted.config, h.permitted.enabled⟩, joins := h.joins }

/-- After any task of a program built for the platform. -/
theorem Supported.task (h : Supported esp32 c) (serial : Option Request)
    (hesp32 : input.esp32 = esp32) : Supported esp32 (c.step (.task serial input)) := by
  subst hesp32
  exact (h.applyQueued.handleSerial serial).processWifiControl

end Supported

/-! ## Tasks -/

section Tasks

variable {gap deadline t t' : ℕ}

/-- A startup is due exactly while the control is on and not ready. -/
theorem Permitted.startupDue_iff (h : Permitted c) : c.startupDue = true ↔ Starting c := by
  simp only [startupDue, Bool.and_eq_true, Bool.not_eq_true']
  exact ⟨fun hdue => ⟨hdue.1.1, hdue.2⟩, fun hc => ⟨⟨hc.enabled, h.enabled hc.enabled⟩, hc.ready⟩⟩

/-- To note that the startup has begun leaves the deadline. -/
theorem EndsBy.initializing (h : EndsBy gap deadline t c) :
    EndsBy gap deadline t { c with wifiControlInitializing := true } := by
  cases h with
  | finished h => exact .finished fun hd => h ⟨hd.enabled, hd.ready⟩
  | begins hstage h => exact .begins hstage h
  | waits start hstage hreading hstart hrecent h => exact .waits start hstage hreading hstart hrecent h
  | joined hstage h => exact .joined hstage h

/-- The startup step of a task: one is taken where the control is starting, and keeps to the
deadline. -/
theorem EndsBy.processWifiControl (h : EndsBy gap deadline t c) (hc : Supported input.esp32 c)
    (hlater : t ≤ t') (hpunctual : t' ≤ t + gap) (hnow : input.nowMs = reading t')
    (hturn : gap + kWifiConnectTimeoutMs.toNat ≤ 2 ^ 32) :
    EndsBy gap deadline t' (c.processWifiControl input) := by
  by_cases hstarting : Starting c
  · have hstep := advance_startupStep input (c := { c with wifiControlInitializing := true })
      ⟨hstarting.enabled, hstarting.ready⟩ (hc.toTracked.initializing hstarting.ready)
    unfold WifiControl.processWifiControl
    rw [hc.permitted.startupDue_iff.mpr hstarting]
    exact h.initializing.advance ⟨hstarting.enabled, hstarting.ready⟩ hstep hlater hpunctual hnow hturn
      hc.joins
  · have hdue : c.startupDue = false := by
      rw [← Bool.not_eq_true, hc.permitted.startupDue_iff]
      exact hstarting
    unfold WifiControl.processWifiControl
    rw [hdue]
    exact .finished hstarting

/-- A punctual task leaves the startup expected, possibly by a new deadline. -/
theorem Expected.processWifiControl (h : Expected gap deadline t c) (hc : Supported input.esp32 c)
    (hlater : t ≤ t') (hpunctual : t' ≤ t + gap) (hnow : input.nowMs = reading t')
    (hturn : gap + kWifiConnectTimeoutMs.toNat ≤ 2 ^ 32) :
    ∃ deadline', Expected gap deadline' t' (c.processWifiControl input) := by
  have hframe := (processWifiControl_frame input c).pendingAction
  cases h with
  | queued hpending => exact ⟨_, .queued (hframe ▸ hpending) le_rfl⟩
  | running hpending h =>
    exact ⟨_, .running (hframe.trans hpending) (h.processWifiControl hc hlater hpunctual hnow hturn)⟩

/-- A task without a request keeps to the deadline. -/
theorem Expected.task_quiet (h : Expected gap deadline t c) (hc : Supported input.esp32 c)
    (hlater : t ≤ t') (hpunctual : t' ≤ t + gap) (hnow : input.nowMs = reading t')
    (hturn : gap + kWifiConnectTimeoutMs.toNat ≤ 2 ^ 32) :
    Expected gap deadline t' (c.step (.task none input)) := by
  obtain ⟨hpending, hends⟩ := h.applyQueued
  refine .running ((processWifiControl_frame input _).pendingAction.trans hpending) ?_
  exact hends.processWifiControl hc.applyQueued hlater hpunctual hnow hturn

/-- After any task the startup ends by some deadline. -/
theorem Expected.task (h : Expected gap deadline t c) (hc : Supported input.esp32 c)
    (serial : Option Request) (hlater : t ≤ t') (hpunctual : t' ≤ t + gap)
    (hnow : input.nowMs = reading t') (hturn : gap + kWifiConnectTimeoutMs.toNat ≤ 2 ^ 32) :
    ∃ deadline', Expected gap deadline' t' (c.step (.task serial input)) := by
  obtain ⟨hpending, hends⟩ := h.applyQueued
  cases serial with
  | none => exact ⟨_, h.task_quiet hc hlater hpunctual hnow hturn⟩
  | some r =>
    have hhandled := (Expected.running hpending hends).handle r
    exact hhandled.processWifiControl (hc.applyQueued.handle r) hlater hpunctual hnow hturn

/-! ## Giving up -/

/-- The control is on, or was given up. -/
def OnOrGivenUp (c : WifiControl) : Prop :=
  c.wifiControlEnabled = true ∨ GivenUp c ∧ c.pendingAction = none

/-- A request that asks for no action leaves a control on or given up. -/
theorem OnOrGivenUp.handle_quiet (h : OnOrGivenUp c) {r : Request} (hquiet : c.actionOf r = none) :
    OnOrGivenUp (c.handle r) := by
  have henabled := c.enabled_of_no_action hquiet
  rw [handle_eq, hquiet]
  rcases h with h | ⟨⟨hoff, hfailed⟩, hpending⟩
  · exact .inl (henabled.trans h)
  · refine .inr ⟨⟨henabled.trans hoff, ?_⟩, (c.settings_frame r).2.1.trans hpending⟩
    obtain ⟨_, _, _, _, _, _, _, heq⟩ := c.settings_eq r
    change (c.settings r).wifiNetworkConnectFailed = true ∨ (c.settings r).serverBindFailed = true
    rw [heq]
    exact hfailed

/-- So does the queued action. -/
theorem OnOrGivenUp.applyQueued (h : OnOrGivenUp c) : OnOrGivenUp c.applyQueuedWifiLifecycleAction := by
  rw [applyQueuedWifiLifecycleAction_eq]
  rcases h with h | ⟨hgiven, hpending⟩
  · split
    · exact .inl ((carryOut_frame _ _).2.2.1.trans h)
    · exact .inl h
  · rw [hpending]
    exact .inr ⟨hgiven, hpending⟩

/-- A step that advances ends in one that is on or given up. -/
theorem Advance.onOrGivenUp (hstep : Advance input c d) (hpending : d.pendingAction = none) :
    OnOrGivenUp d := by
  cases hstep with
  | givenUp h => exact .inr ⟨h, hpending⟩
  | joining _ _ _ _ h => exact .inl h.enabled
  | waiting _ _ _ h => exact .inl h.enabled
  | moved _ _ h => exact .inl h.enabled
  | done henabled => exact .inl henabled

/-- So does a task without a request. -/
theorem OnOrGivenUp.task_quiet (h : OnOrGivenUp c) (hc : Tracked c)
    (hpending : c.applyQueuedWifiLifecycleAction.pendingAction = none) :
    OnOrGivenUp (c.step (.task none input)) := by
  have hkept := (processWifiControl_frame input c.applyQueuedWifiLifecycleAction).pendingAction
  change OnOrGivenUp (c.applyQueuedWifiLifecycleAction.processWifiControl input)
  rcases processWifiControl_cases input c.applyQueuedWifiLifecycleAction with heq | ⟨henabled, hready, heq⟩
  · rw [heq]
    exact h.applyQueued
  · rw [heq] at hkept ⊢
    have hstep := advance_startupStep input
      (c := { c.applyQueuedWifiLifecycleAction with wifiControlInitializing := true })
      ⟨henabled, hready⟩ (hc.applyQueued.initializing hready)
    exact hstep.onOrGivenUp (hkept.trans hpending)

end Tasks

end Esp32Wiimote.Device.WifiControl
