import Esp32Wiimote.Library.LatestSetting
import Esp32Wiimote.Library.WrappingClock
import Esp32Wiimote.Serial.DispatchEffect

/-!
# The unlock window

A history of serial lines, locks and token changes determines the current grant: the
time and the length of the last successful unlock, unless a lock ended it. The session
follows the grant on the device clock, so it is open while the elapsed time modulo
`2 ^ 32` is inside the length of the grant. A privileged command is therefore dispatched
inside its window, and also after the window once the clock has come round again.
-/

namespace Esp32Wiimote.Serial

open CText LatestSetting TransitionRun WrappingClock

variable {σ : Type}

/-! ## Histories -/

/-- What reaches the serial side: a line at a real time in milliseconds, a lock (serial
control being switched off), and a change of the configured token. -/
inductive SerialEvent
  | line (t : ℕ) (text : CString)
  | lock
  | setToken (token : Option CString)

/-- The real time of a line. -/
def SerialEvent.time : SerialEvent → Option ℕ
  | .line t _ => some t
  | _ => none

/-- The lines come at non-decreasing times. -/
abbrev Chronological (events : List SerialEvent) : Prop :=
  (events.filterMap SerialEvent.time).Pairwise (· ≤ ·)

/-- The serial side handles an event; it sees the time of a line on the 32-bit clock. -/
def SerialControl.step (device : SerialDevice σ) (control : SerialControl σ) :
    SerialEvent → SerialControl σ
  | .line t text => processSerialCommandLine device text (reading t) control
  | .lock => { control with session := control.session.lock }
  | .setToken token => { control with session := control.session.setToken token }

/-- The configured token after an event. -/
def configured (token : Option CString) : SerialEvent → Option CString
  | .setToken token' => token'
  | _ => token

/-- What an event makes of the current grant: a successful unlock starts one, a lock ends it,
and nothing else touches it. -/
def grant (token : Option CString) : SerialEvent → Option (Option (ℕ × ℕ))
  | .line t text => (unlockSeconds token text).map fun seconds => some (t, seconds)
  | .lock => some none
  | .setToken _ => none

/-- A successful unlock at the time and of the length is in the history, and no later unlock
or lock superseded it. -/
abbrev CurrentGrant (history : List SerialEvent) (start seconds : ℕ) : Prop :=
  LatestSets configured grant none history (some (start, seconds))

/-- The time is inside the window of the current grant. -/
def Authorised (history : List SerialEvent) (t : ℕ) : Prop :=
  ∃ start seconds, CurrentGrant history start seconds ∧ start ≤ t ∧ t < start + 1000 * seconds

/-- The window of the current grant is over, but the clock has come round to a reading inside
it. -/
def Revived (history : List SerialEvent) (t : ℕ) : Prop :=
  ∃ start seconds, CurrentGrant history start seconds ∧ start + 1000 * seconds ≤ t ∧
    (t - start) % 2 ^ 32 < 1000 * seconds

/-- The command of the line is not held back as locked. -/
abbrev Dispatched (device : SerialDevice σ) (control : SerialControl σ) (t : ℕ) (text : CString) :
    Prop :=
  (processSerialCommandLine device text (reading t) control).printed ≠
    control.printed ++ [lockedResponse]

/-- The unlock law: privileged commands are dispatched inside the window of an unlock only, and
only privileged commands call a state-changing method other than the status request. -/
structure UnlockLaw (device : SerialDevice σ) (init : σ) (events : List SerialEvent) : Prop where
  authorised : ∀ before t text after, events = before ++ .line t text :: after →
    PrivilegedLine text →
    Dispatched device (runFrom (SerialControl.step device) (.initial init) before) t text →
    Authorised before t
  classified : ∀ cmd options s,
    let after := (serialCommandDispatch cmd device.toSerialCommandTarget options s).2
    after.target.calls = s.target.calls ∨ after.target.calls = s.target.calls ++ [.requestStatus] ∨
      serialCommandIsPrivileged (cmd.token 1) = true

/-- No privileged command comes when an expired unlock shows as current again. -/
def NoRevivedUnlock (events : List SerialEvent) : Prop :=
  ∀ before t text after, events = before ++ .line t text :: after → PrivilegedLine text →
    ¬Revived before t

/-! ## The session follows the grant -/

/-- Whether a session with the grant is open at a reading of the clock. -/
def openAt (current : Option (Option (ℕ × ℕ))) (nowMs : UInt32) : Bool :=
  match current with
  | some (some (start, seconds)) => nowMs - reading start < UInt32.ofNat (1000 * seconds)
  | _ => false

/-- The session has the configured token and is open as the grant says. -/
structure FollowsGrant (control : SerialControl σ)
    (record : Option CString × Option (Option (ℕ × ℕ))) : Prop where
  token : control.session.token = record.1
  requirement : control.privilegedCommandsRequireUnlock = true
  unlocked : ∀ nowMs, control.session.isUnlocked nowMs = openAt record.2 nowMs

/-- A line keeps session and record in step. -/
theorem FollowsGrant.line {device : SerialDevice σ} {control : SerialControl σ}
    {record : Option CString × Option (Option (ℕ × ℕ))} (h : FollowsGrant control record) (t : ℕ)
    (text : CString) :
    FollowsGrant (control.step device (.line t text))
      (recordStep configured grant record (.line t text)) := by
  have hsession := processSerialCommandLine_session device text (reading t) control
  have hrequirement : (control.step device (.line t text)).privilegedCommandsRequireUnlock = true :=
    (processSerialCommandLine_requirement ..).trans h.requirement
  rw [h.token] at hsession
  change (control.step device (.line t text)).session = _ at hsession
  cases hgranted : unlockSeconds record.1 text with
  | none =>
    -- no unlock: neither the session nor the record changes
    rw [hgranted] at hsession
    refine ⟨by rw [hsession]; exact h.token, hrequirement, fun nowMs => ?_⟩
    have hrecord : (recordStep configured grant record (.line t text)).2 = record.2 := by
      simp [recordStep, grant, hgranted]
    rw [hsession, hrecord]
    exact h.unlocked nowMs
  | some seconds =>
    rw [hgranted] at hsession
    change (control.step device (.line t text)).session = control.session.unlock _ _ at hsession
    refine ⟨?_, hrequirement, fun nowMs => ?_⟩
    · rw [hsession, SerialCommandSession.unlock_token]
      exact h.token
    · have hrecord : (recordStep configured grant record (.line t text)).2 =
          some (some (t, seconds)) := by
        simp [recordStep, grant, hgranted]
      rw [hsession, SerialCommandSession.unlock_isUnlocked, hrecord]
      rfl

/-- So does every event. -/
theorem FollowsGrant.step {device : SerialDevice σ} {control : SerialControl σ}
    {record : Option CString × Option (Option (ℕ × ℕ))} (h : FollowsGrant control record)
    (event : SerialEvent) :
    FollowsGrant (control.step device event) (recordStep configured grant record event) := by
  cases event with
  | line t text => exact h.line t text
  | lock => exact ⟨h.token, h.requirement, fun nowMs => rfl⟩
  | setToken token => exact ⟨rfl, h.requirement, h.unlocked⟩

/-- Along every history, the session follows the grant. -/
theorem followsGrant_run (device : SerialDevice σ) (init : σ) (events : List SerialEvent) :
    FollowsGrant (runFrom (SerialControl.step device) (.initial init) events)
      (runFrom (recordStep configured grant) (none, none) events) := by
  have hinitial : FollowsGrant (SerialControl.initial init) (none, none) :=
    ⟨rfl, rfl, fun nowMs => rfl⟩
  generalize SerialControl.initial init = control at hinitial ⊢
  generalize ((none, none) : Option CString × Option (Option (ℕ × ℕ))) = record at hinitial ⊢
  induction events generalizing control record with
  | nil => exact hinitial
  | cons event rest ih => exact ih _ _ (hinitial.step event)

/-- The current grant was made by a line of the history. -/
theorem CurrentGrant.made {history : List SerialEvent} {start seconds : ℕ}
    (h : CurrentGrant history start seconds) :
    start ∈ history.filterMap SerialEvent.time ∧ seconds ≤ 65535 := by
  obtain ⟨before, event, after, rfl, hset, -⟩ := h
  cases event with
  | line t text =>
    obtain ⟨granted, hgranted, heq⟩ := Option.map_eq_some_iff.mp hset
    cases heq
    exact ⟨List.mem_filterMap.mpr ⟨.line start text, by simp, rfl⟩, unlockSeconds_le hgranted⟩
  | lock => exact nomatch hset
  | setToken token => exact nomatch hset

/-- The grant shown by the record is the current one. -/
theorem CurrentGrant.eq_of_recorded {history : List SerialEvent} {start seconds : ℕ}
    (h : CurrentGrant history start seconds) (start' seconds' : ℕ)
    (hrecord : (runFrom (recordStep configured grant) (none, none) history).2 =
      some (some (start', seconds'))) : start = start' ∧ seconds = seconds' := by
  have hcurrent := ((recorded_iff_latestSets none history _).mpr h).symm.trans hrecord
  cases hcurrent
  exact ⟨rfl, rfl⟩

/-- A session is open exactly when the elapsed time of the current grant, on the clock, is
inside its length. -/
theorem isUnlocked_iff (device : SerialDevice σ) (init : σ) (history : List SerialEvent) (t : ℕ)
    (htime : ∀ start ∈ history.filterMap SerialEvent.time, start ≤ t) :
    (runFrom (SerialControl.step device) (.initial init) history).session.isUnlocked (reading t)
        = true ↔
      ∃ start seconds, CurrentGrant history start seconds ∧ (t - start) % 2 ^ 32 < 1000 * seconds := by
  have hrecord : ∀ current, (runFrom (recordStep configured grant) (none, none) history).2 =
      some current ↔ LatestSets configured grant none history current :=
    fun current => recorded_iff_latestSets none history current
  rw [(followsGrant_run device init history).unlocked]
  generalize (runFrom (recordStep configured grant) (none, none) history).2 = current at hrecord
  constructor
  · intro hopen
    match current with
    | some (some (start, seconds)) =>
      have hcurrent : CurrentGrant history start seconds := (hrecord _).mp rfl
      obtain ⟨hmem, hle⟩ := hcurrent.made
      have hlt := of_decide_eq_true hopen
      exact ⟨start, seconds, hcurrent, (elapsed_lt_iff (htime start hmem) (by omega)).mp hlt⟩
    | some none => exact absurd hopen Bool.false_ne_true
    | none => exact absurd hopen Bool.false_ne_true
  · rintro ⟨start, seconds, hcurrent, hlt⟩
    obtain ⟨hmem, hle⟩ := hcurrent.made
    rw [(hrecord _).mpr hcurrent]
    exact decide_eq_true ((elapsed_lt_iff (htime start hmem) (by omega)).mpr hlt)

/-! ## The law -/

/-- A privileged command is dispatched exactly when the session is open. -/
theorem dispatched_iff (device : SerialDevice σ) (init : σ) (history : List SerialEvent) (t : ℕ)
    (text : CString) (hline : PrivilegedLine text) :
    Dispatched device (runFrom (SerialControl.step device) (.initial init) history) t text ↔
      (runFrom (SerialControl.step device) (.initial init) history).session.isUnlocked (reading t)
        = true := by
  have hrequirement := (followsGrant_run device init history).requirement
  rw [Dispatched, Ne, processSerialCommandLine_locked_iff device text _ _ hline hrequirement,
    Bool.not_eq_false]

/-- The lines of a chronological history come before a later line. -/
theorem Chronological.le {before after : List SerialEvent} {t : ℕ} {text : CString}
    (h : Chronological (before ++ .line t text :: after)) :
    ∀ start ∈ before.filterMap SerialEvent.time, start ≤ t := by
  intro start hstart
  have hpairs := h
  unfold Chronological at hpairs
  rw [List.filterMap_append] at hpairs
  exact (List.pairwise_append.mp hpairs).2.2 start hstart t List.mem_cons_self

/-- The unlock law holds of a history exactly when no privileged command comes at a time at
which an expired unlock shows as current again. -/
theorem unlockLaw_iff (device : SerialDevice σ) (init : σ) (events : List SerialEvent)
    (h : Chronological events) : UnlockLaw device init events ↔ NoRevivedUnlock events := by
  constructor
  · rintro hlaw before t text after rfl hline ⟨start, seconds, hcurrent, hover, hwrapped⟩
    have hdispatched := (dispatched_iff device init before t text hline).mpr
      ((isUnlocked_iff device init before t h.le).mpr ⟨start, seconds, hcurrent, hwrapped⟩)
    obtain ⟨start', seconds', hcurrent', -, hinside⟩ :=
      hlaw.authorised before t text after rfl hline hdispatched
    -- the current grant is unique, so the window cannot be over and open
    obtain ⟨rfl, rfl⟩ := hcurrent.eq_of_recorded start' seconds'
      ((recorded_iff_latestSets none before _).mpr hcurrent')
    omega
  · intro hcondition
    refine ⟨?_, fun cmd options s => serialCommandDispatch_calls cmd _ options s⟩
    rintro before t text after rfl hline hdispatched
    obtain ⟨start, seconds, hcurrent, hwrapped⟩ :=
      (isUnlocked_iff device init before t h.le).mp
        ((dispatched_iff device init before t text hline).mp hdispatched)
    have hle : start ≤ t := h.le start hcurrent.made.1
    refine ⟨start, seconds, hcurrent, hle, ?_⟩
    by_contra hover
    exact hcondition before t text after rfl hline ⟨start, seconds, hcurrent, by omega, hwrapped⟩

/-- A connected device that accepts every call. -/
def acceptingDevice : SerialDevice Unit where
  call _ device := (true, device)
  isWifiApiTokenMutationAllowed _ := false
  isConnected _ := true
  isControllerInitialized _ := true
  isDiscoveryActive _ := false
  getActiveConnectionHandle _ := 0x80
  getWifiControlState _ := ⟨false, false, false, false, false⟩

/-- A run with an unlock for five seconds and a command in the last of their milliseconds. -/
theorem unlockLaw_of_prompt_command :
    UnlockLaw acceptingDevice ()
      [.setToken (some (ascii "secret")), .line 1000 (ascii "wm unlock secret 5"),
        .line 5999 (ascii "wm led 1")] := by
  apply (unlockLaw_iff acceptingDevice () _ (by decide)).mpr
  rintro before t text after heq hline ⟨start, seconds, hcurrent, hover, -⟩
  rcases before with _ | ⟨first, _ | ⟨second, rest⟩⟩
  · cases heq
  · cases heq
    exact absurd hline (by decide +kernel)
  · cases rest with
    | nil =>
      cases heq
      obtain ⟨rfl, rfl⟩ := hcurrent.eq_of_recorded 1000 5 (by decide +kernel)
      omega
    | cons third rest => simp at heq

/-- One turn of the clock after an unlock, a privileged command is dispatched again. -/
theorem not_unlockLaw_of_clock_turn :
    ¬UnlockLaw acceptingDevice ()
      [.setToken (some (ascii "secret")), .line 0 (ascii "wm unlock secret"),
        .line (2 ^ 32) (ascii "wm led 1")] := by
  intro hlaw
  obtain ⟨start, seconds, hcurrent, -, hinside⟩ :=
    hlaw.authorised [.setToken (some (ascii "secret")), .line 0 (ascii "wm unlock secret")] (2 ^ 32)
      (ascii "wm led 1") [] rfl (by decide +kernel) (by decide +kernel)
  obtain ⟨rfl, rfl⟩ := hcurrent.eq_of_recorded 0 60 (by decide +kernel)
  omega

end Esp32Wiimote.Serial
