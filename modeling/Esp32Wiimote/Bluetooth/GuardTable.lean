import Esp32Wiimote.Bluetooth.Discovery

/-!
# The controller command state machine

The documented table says for each state of the controller which runtime calls are allowed.
The guards of the calls look at three flags, none of which shows that a connection is being
set up. The table is kept exactly when no scan or discovery call that changes the scanning
flag comes in that state.
-/

namespace Esp32Wiimote.Bluetooth

open StateProgram TransitionRun

/-! ## The table -/

/-- The states the guard table is about. -/
inductive ControllerState where
  | notStarted
  | idle
  | scanning
  | connecting
  | connected
  deriving DecidableEq, Repr

/-- The state the table asks for. -/
def controllerState (ledger : CommandLedger) (h : Host) : ControllerState :=
  if !h.context.deviceInited then .notStarted
  else if h.connected then .connected
  else if ledger.Connecting then .connecting
  else if h.context.scanningEnabled then .scanning
  else .idle

/-- The other calls are made at the start, before the controller runs. -/
def TwCall.isRuntimeCall : TwCall → Bool
  | .init _ | .resetDevice | .setFastReconnectTtlMs _ => false
  | _ => true

/-- The table. The operations on the reconnect policy and cache send no command; once the
controller is started they are restricted in no state. -/
def ControllerState.allows : ControllerState → TwCall → Bool
  | .notStarted, _ => false
  | .idle, .setScanEnabled enabled => enabled
  | .idle, .startDiscovery => true
  | .scanning, .setScanEnabled enabled => !enabled
  | .scanning, .stopDiscovery => true
  | .connected, .startDiscovery | .connected, .stopDiscovery => false
  | .connected, _ => true
  | _, .setAutoReconnectEnabled _ | _, .clearReconnectCache => true
  | _, _ => false

/-- The scanning flag after the call, as the call asks for it. -/
def TwCall.scanGoal : TwCall → Option Bool
  | .setScanEnabled enabled => some enabled
  | .startDiscovery => some true
  | .stopDiscovery => some false
  | _ => none

/-- A scan or discovery call comes while a connection is being set up, and would change the
scanning flag. -/
def ScansWhileConnecting (ledger : CommandLedger) (h : Host) (c : TwCall) : Prop :=
  controllerState ledger h = .connecting ∧ ∃ goal ∈ c.scanGoal, goal ≠ h.context.scanningEnabled

instance (ledger : CommandLedger) (h : Host) (c : TwCall) :
    Decidable (ScansWhileConnecting ledger h c) :=
  inferInstanceAs (Decidable (_ = _ ∧ ∃ goal ∈ c.scanGoal, _))

/-- A call from `h` to `h'` that the table does not allow hands over no command and changes
nothing in the event context. -/
def KeepsTable (ledger : CommandLedger) (c : TwCall) (h h' : Host) : Prop :=
  (controllerState ledger h).allows c = false → h'.commands = [] ∧ h'.context = h.context

/-! ## Calls -/

section Calls

variable {ledger : CommandLedger} {h : Host}

/-- A call that hands out nothing and leaves the context as it was keeps to the table. -/
theorem keepsTable_of_same {c : TwCall} {h' : Host} (hcommands : h'.commands = [])
    (hcontext : h'.context = h.context) : KeepsTable ledger c h h' := fun _ => ⟨hcommands, hcontext⟩

/-- A call that hands out a command where the table has none does not keep to the table. -/
theorem not_keepsTable {c : TwCall} {h' : Host} (hc : (controllerState ledger h).allows c = false)
    (hcommands : h'.commands ≠ []) : ¬KeepsTable ledger c h h' := fun hkeeps =>
  hcommands (hkeeps hc).1

/-- Only scan and discovery calls can break the table. -/
theorem keepsTable_call (hcommands : h.commands = []) {c : TwCall} (hc : c.isRuntimeCall = true)
    (hgoal : c.scanGoal = none) (handle : Option UInt16) :
    KeepsTable ledger c h (h.call c handle) := by
  cases c with
  | init hciInterface => cases hc
  | resetDevice => cases hc
  | setFastReconnectTtlMs ttlMs => cases hc
  | setScanEnabled enabled => cases hgoal
  | startDiscovery => cases hgoal
  | stopDiscovery => cases hgoal
  | disconnect reason =>
    -- the table allows it in the state in which the guards do
    intro hno
    simp only [Host.call]
    split
    · exact ⟨hcommands, rfl⟩
    next hinited =>
    split
    · exact ⟨hcommands, rfl⟩
    next hconn =>
    have hstate : controllerState ledger h = .connected := by
      simp only [controllerState, hinited, Bool.false_eq_true, if_false]
      exact if_pos (by simpa using hconn)
    rw [hstate] at hno
    cases hno
  | setAutoReconnectEnabled enabled =>
    intro hno
    simp only [Host.call]
    split
    · exact ⟨hcommands, rfl⟩
    next hinited =>
    simp only [controllerState, hinited, Bool.false_eq_true, if_false] at hno
    split_ifs at hno <;> cases hno
  | clearReconnectCache =>
    intro hno
    simp only [Host.call]
    split
    · exact ⟨hcommands, rfl⟩
    next hinited =>
    simp only [controllerState, hinited, Bool.false_eq_true, if_false] at hno
    split_ifs at hno <;> cases hno
  | _ => exact keepsTable_of_same hcommands rfl

/-- A scan or discovery call that changes nothing is rejected while no controller is connected. -/
theorem call_scan_of_same (hconn : h.connected = false) {c : TwCall} {goal : Bool}
    (hgoal : c.scanGoal = some goal) (hsame : goal = h.context.scanningEnabled)
    (handle : Option UInt16) : h.call c handle = h := by
  subst hsame
  cases c with
  | setScanEnabled enabled =>
    have henabled : enabled = h.context.scanningEnabled := Option.some.inj hgoal
    simp [Host.call, hconn, henabled]
  | startDiscovery =>
    have hscanning : true = h.context.scanningEnabled := Option.some.inj hgoal
    simp [Host.call, hconn, ← hscanning]
  | stopDiscovery =>
    have hscanning : false = h.context.scanningEnabled := Option.some.inj hgoal
    simp [Host.call, hconn, ← hscanning]
  | _ => cases hgoal

/-- Any other one hands over its command, once the controller is initialised. -/
theorem commands_call_scan (hw : h.Wired) (hinited : h.context.deviceInited = true)
    (hconn : h.connected = false) {c : TwCall} {goal : Bool} (hgoal : c.scanGoal = some goal)
    (hchange : goal ≠ h.context.scanningEnabled) (handle : Option UInt16) :
    (h.call c handle).commands ≠ [] := by
  cases c with
  | setScanEnabled enabled =>
    have henabled : enabled = goal := Option.some.inj hgoal
    simp [Host.call, hinited, hconn, henabled, hchange, hw.hand, Host.record]
  | startDiscovery =>
    have hscanning : h.context.scanningEnabled = false := by
      have htrue : true = goal := Option.some.inj hgoal
      simpa [← htrue] using hchange.symm
    simp [Host.call, hinited, hconn, hscanning, hw.hand, Host.record]
  | stopDiscovery =>
    have hscanning : h.context.scanningEnabled = true := by
      have hfalse : false = goal := Option.some.inj hgoal
      simpa [← hfalse] using hchange.symm
    simp [Host.call, hinited, hconn, hscanning, hw.hand, Host.record]
  | _ => cases hgoal

/-- With no connection being set up, the table allows what changes the scanning flag. -/
theorem allows_scan (hinited : h.context.deviceInited = true) (hconn : h.connected = false)
    (hledger : ¬ledger.Connecting) {c : TwCall} {goal : Bool} (hgoal : c.scanGoal = some goal)
    (hchange : goal ≠ h.context.scanningEnabled) :
    (controllerState ledger h).allows c = true := by
  have hstate : controllerState ledger h =
      if h.context.scanningEnabled then .scanning else .idle := by
    simp [controllerState, hinited, hconn, hledger]
  rw [hstate]
  cases c with
  | setScanEnabled enabled =>
    obtain rfl : enabled = goal := Option.some.inj hgoal
    cases hscanning : h.context.scanningEnabled <;>
      simpa [hscanning, ControllerState.allows] using hchange
  | startDiscovery =>
    obtain rfl : true = goal := Option.some.inj hgoal
    rw [show h.context.scanningEnabled = false by simpa using hchange.symm]
    rfl
  | stopDiscovery =>
    obtain rfl : false = goal := Option.some.inj hgoal
    rw [show h.context.scanningEnabled = true by simpa using hchange.symm]
    rfl
  | _ => cases hgoal

/-- A scan or discovery call keeps the table unless it comes while a connection is being set
up and is not rejected. -/
theorem keepsTable_scan_iff (hw : h.Wired) (hcommands : h.commands = []) {c : TwCall} {goal : Bool}
    (hgoal : c.scanGoal = some goal) (handle : Option UInt16) :
    KeepsTable ledger c h (h.call c handle) ↔ ¬ScansWhileConnecting ledger h c := by
  have hscans : ScansWhileConnecting ledger h c ↔
      controllerState ledger h = .connecting ∧ goal ≠ h.context.scanningEnabled := by
    simp [ScansWhileConnecting, hgoal]
  rw [hscans]
  by_cases hinited : h.context.deviceInited = true
  swap
  · have hstate : controllerState ledger h = .notStarted := by simp [controllerState, hinited]
    refine iff_of_true (fun _ => ?_) (by simp [hstate])
    cases c with
    | setScanEnabled enabled => simp [Host.call, hinited, hcommands]
    | startDiscovery => simp [Host.call, hinited, hcommands]
    | stopDiscovery => simp [Host.call, hinited, hcommands]
    | _ => cases hgoal
  by_cases hconn : h.connected = true
  · -- the table allows setScanEnabled on a link, and the guards reject the other two
    have hstate : controllerState ledger h = .connected := by
      simp [controllerState, hinited, hconn]
    refine iff_of_true (fun hno => ?_) (by simp [hstate])
    rw [hstate] at hno
    cases c with
    | setScanEnabled enabled => cases hno
    | startDiscovery => simp [Host.call, hconn, hcommands]
    | stopDiscovery => simp [Host.call, hconn, hcommands]
    | _ => cases hgoal
  have halone : h.connected = false := Bool.eq_false_iff.mpr hconn
  by_cases hsame : goal = h.context.scanningEnabled
  · rw [call_scan_of_same halone hgoal hsame]
    exact iff_of_true (keepsTable_of_same hcommands rfl) fun hboth => hboth.2 hsame
  by_cases hledger : ledger.Connecting
  · have hstate : controllerState ledger h = .connecting := by
      simp [controllerState, hinited, halone, hledger]
    refine iff_of_false (not_keepsTable ?_ ?_) fun hno => hno ⟨hstate, hsame⟩
    · rw [hstate]
      cases c with
      | setScanEnabled enabled => rfl
      | startDiscovery => rfl
      | stopDiscovery => rfl
      | _ => cases hgoal
    · exact commands_call_scan hw hinited halone hgoal hsame handle
  · have hallowed := allows_scan hinited halone hledger hgoal hsame
    refine iff_of_true (fun hno => ?_) fun hboth => ?_
    · exact absurd (hallowed.symm.trans hno) Bool.true_eq_false.mp
    · rw [hboth.1] at hallowed
      cases c with
      | setScanEnabled enabled => cases hallowed
      | startDiscovery => cases hallowed
      | stopDiscovery => cases hallowed
      | _ => cases hgoal

end Calls

/-! ## Runs -/

/-- The step is no runtime call, or one that keeps the table: it hands over a command only if
the table allows it, and otherwise leaves the event context as it is. -/
def FollowsGuardTable (s : Ledgered) (e : TwEvent) : Prop :=
  ∀ c, e.action = .call c → c.isRuntimeCall = true →
    (controllerState s.ledger s.world.host).allows c = false →
      (∀ packet ∈ (s.step e).world.sent, commandOpcode packet = none) ∧
        (s.step e).world.gRuntime.hciEventContext = s.world.gRuntime.hciEventContext

/-- The step is no scan or discovery call that changes the scanning flag while a connection is
being set up. -/
def NoScanWhileConnecting (s : Ledgered) (e : TwEvent) : Prop :=
  match e.action with
  | .call c => ¬ScansWhileConnecting s.ledger s.world.host c
  | .hci .. => True

instance (s : Ledgered) (e : TwEvent) : Decidable (NoScanWhileConnecting s e) :=
  match e with
  | ⟨.call c, _, _⟩ => inferInstanceAs (Decidable ¬ScansWhileConnecting s.ledger s.world.host c)
  | ⟨.hci .., _, _⟩ => .isTrue trivial

/-- One step follows the table exactly when it does not scan while connecting. -/
theorem followsGuardTable_iff {s : Ledgered} (hw : s.world.host.Wired) (e : TwEvent) :
    FollowsGuardTable s e ↔ NoScanWhileConnecting s e := by
  obtain ⟨action, millis, logLevel⟩ := e
  cases action with
  | hci data len => exact iff_of_true (fun c hcall => by cases hcall) trivial
  | call c =>
    let h := s.world.host.enter millis
    let handle := s.world.gRuntime.l2capConnections.getFirstConnectionHandle
    have hhost : (s.step ⟨.call c, millis, logLevel⟩).world.host = h.call c handle :=
      host_step s.world ⟨.call c, millis, logLevel⟩
    have hsent : (∀ packet ∈ (s.step ⟨.call c, millis, logLevel⟩).world.sent,
        commandOpcode packet = none) ↔ (h.call c handle).commands = [] := by
      rw [← hhost, TwWorld.host, List.filter_eq_nil_iff]
      simp [IsCommand]
    have hcontext : (s.step ⟨.call c, millis, logLevel⟩).world.gRuntime.hciEventContext =
        (h.call c handle).context := congrArg Host.context hhost
    by_cases hc : c.isRuntimeCall = true
    · have hkeeps : FollowsGuardTable s ⟨.call c, millis, logLevel⟩ ↔
          KeepsTable s.ledger c h (h.call c handle) := by
        simp only [FollowsGuardTable, TwAction.call.injEq, forall_eq', hc, forall_const, hsent,
          hcontext]
        rfl
      rw [hkeeps]
      cases hgoal : c.scanGoal with
      | none =>
        refine iff_of_true (keepsTable_call rfl hc hgoal handle) fun hscans => ?_
        simp [ScansWhileConnecting, hgoal] at hscans
      | some goal => exact keepsTable_scan_iff (hw.enter millis) rfl hgoal handle
    · refine iff_of_true (fun c' hcall hc' => ?_) fun hscans => ?_
      · cases hcall
        exact absurd hc' hc
      · cases c with
        | init hciInterface => simp [ScansWhileConnecting, TwCall.scanGoal] at hscans
        | resetDevice => simp [ScansWhileConnecting, TwCall.scanGoal] at hscans
        | setFastReconnectTtlMs ttlMs => simp [ScansWhileConnecting, TwCall.scanGoal] at hscans
        | _ => exact hc rfl

/-- A run follows the guard table exactly when none of its steps scans while a connection is
being set up. -/
theorem guard_table_followed_iff (w : TwWorld) (events : List TwEvent)
    (hstart : ∀ e ∈ events, e.KeepsWiring) :
    EveryStep FollowsGuardTable Ledgered.step (w.started ⟨true⟩) events ↔
      EveryStep NoScanWhileConnecting Ledgered.step (w.started ⟨true⟩) events :=
  everyStep_congr (I := fun s => s.world.host.Wired)
    (fun _ e he hw => wired_step (w := _) (hstart e he) hw)
    (fun _ e _ hw => followsGuardTable_iff hw e) (wired_afterInit w)

/-- The controller is started and pages a Wiimote; then discovery is stopped. -/
def stopWhileConnecting : List TwEvent :=
  TwAction.allAt 0 (TwAction.connectingTo ⟨1, 2, 3, 4, 5, 6⟩ ++ [.call .stopDiscovery])

/-- The stop hands an Inquiry Cancel to the send callback while the page goes on. -/
theorem guard_table_not_always_followed :
    ¬∀ (w : TwWorld) (events : List TwEvent), (∀ e ∈ events, e.KeepsWiring) →
      EveryStep FollowsGuardTable Ledgered.step (w.started ⟨true⟩) events := by
  intro h
  have hlast := (everyStep_iff _ _).mp (h {} stopWhileConnecting (by decide)) (stopWhileConnecting.take 8)
    ⟨.call .stopDiscovery, 0, 2⟩ [] rfl
  have hquiet := (hlast .stopDiscovery rfl rfl (by decide +kernel)).1 makeCmdInquiryCancel
  exact absurd (hquiet (by decide +kernel)) (by decide)

/-- Up to the stop the table is followed. -/
theorem guard_table_followed_until_stop :
    EveryStep FollowsGuardTable Ledgered.step (({} : TwWorld).started ⟨true⟩)
      (stopWhileConnecting.take 8) :=
  (guard_table_followed_iff {} (stopWhileConnecting.take 8) (by decide)).mpr (by decide +kernel)

end Esp32Wiimote.Bluetooth
