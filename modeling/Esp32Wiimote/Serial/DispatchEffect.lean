import Esp32Wiimote.Serial.CommandLine
import Esp32Wiimote.Serial.CommandMeaning

/-!
# What a serial command can do

A handler answers without touching the target, or makes one call and answers by what it
returned; none answers that the session is locked. The table holds the privileged verbs
and two others, which at most ask for a status report. From this follow the two things a
dispatch decides by the session, and the one command that changes the session.
-/

namespace Esp32Wiimote.Serial

open CText

variable {σ : Type}

/-! ## Handlers -/

/-- The result is a reason to refuse, and not that the session is locked. -/
def IsRefusal (reason : SerialDispatchResult) : Prop := reason ≠ .Ok ∧ reason ≠ .Locked

instance (reason : SerialDispatchResult) : Decidable (IsRefusal reason) := inferInstanceAs (Decidable (_ ∧ _))

section Refusals

variable (target : SerialCommandTarget σ) (device : σ)

/-- The reasons to reject a Wiimote command are refusals. -/
theorem isRefusal_wiimoteCommandRejectReason : IsRefusal (wiimoteCommandRejectReason target device) := by
  unfold wiimoteCommandRejectReason
  split_ifs <;> decide

/-- So are those for the start of a discovery. -/
theorem isRefusal_discoveryStartRejectReason : IsRefusal (discoveryStartRejectReason target device) := by
  unfold discoveryStartRejectReason
  split_ifs <;> decide

/-- So are those for its stop. -/
theorem isRefusal_discoveryStopRejectReason : IsRefusal (discoveryStopRejectReason target device) := by
  unfold discoveryStopRejectReason
  split_ifs <;> decide

/-- So are those for a disconnect. -/
theorem isRefusal_disconnectRejectReason : IsRefusal (disconnectRejectReason target device) := by
  unfold disconnectRejectReason
  split_ifs <;> decide

end Refusals

/-- What a handler can do: answer without touching the target, or make one call and answer by
what it returned. In no case does it answer that the session is locked. -/
inductive HandlerOutcome (target : SerialCommandTarget σ) (s : TargetState σ) :
    SerialDispatchResult × TargetState σ → Prop
  | answered (reason : SerialDispatchResult) (hreason : reason ≠ .Locked) :
      HandlerOutcome target s (reason, s)
  | called (call : SerialTargetCall) (refused : σ → SerialDispatchResult)
      (hrefused : ∀ device, refused device ≠ .Locked) :
      HandlerOutcome target s (callOr target call refused s)
  | calledVoid (call : SerialTargetCall) : HandlerOutcome target s (callVoid target call s)

/-- No handler answers that the session is locked. -/
theorem HandlerOutcome.ne_locked {target : SerialCommandTarget σ} {s : TargetState σ}
    {outcome : SerialDispatchResult × TargetState σ} (h : HandlerOutcome target s outcome) :
    outcome.1 ≠ .Locked := by
  cases h with
  | answered reason hreason => exact hreason
  | called call refused hrefused =>
    unfold callOr
    dsimp only
    split
    · decide
    · exact hrefused _
  | calledVoid call =>
    exact CommandDispatchReason.noConfusion

/-- What a handler does with a command: it refuses it or reports the status without touching the target,
or makes the one call that the tokens denote and answers by what it returned. -/
inductive Performed (cmd : SerialParsedCommand) (target : SerialCommandTarget σ) (s : TargetState σ) :
    SerialDispatchResult × TargetState σ → Prop
  | refused (reason : SerialDispatchResult) (hreason : IsRefusal reason) : Performed cmd target s (reason, s)
  | status (hverb : cmd.token 1 = ascii "status") : Performed cmd target s (.Ok, s)
  | called (call : SerialTargetCall) (refused : σ → SerialDispatchResult)
      (hrefused : ∀ device, IsRefusal (refused device)) (hcall : cmd.Denotes call)
      (hresult : call.isVoid = false) : Performed cmd target s (callOr target call refused s)
  | calledVoid (call : SerialTargetCall) (hcall : cmd.Denotes call) (hvoid : call.isVoid = true) :
      Performed cmd target s (callVoid target call s)

section Handlers

variable {cmd : SerialParsedCommand} (target : SerialCommandTarget σ) (s : TargetState σ)

/-- A command that was performed is one of the outcomes of a handler. -/
theorem Performed.outcome {target : SerialCommandTarget σ} {s : TargetState σ}
    {outcome : SerialDispatchResult × TargetState σ} (h : Performed cmd target s outcome) :
    HandlerOutcome target s outcome := by
  cases h with
  | refused reason hreason => exact .answered reason hreason.2
  | status hverb => exact .answered .Ok (by decide)
  | called call refused hrefused hcall hresult => exact .called call refused fun device => (hrefused device).2
  | calledVoid call hcall hvoid => exact .calledVoid call

/-- A handler that needs more tokens refuses a command with fewer. -/
theorem performed_of_count {count : ℕ} {answer : SerialDispatchResult × TargetState σ}
    (h : count ≤ cmd.tokenCount → Performed cmd target s answer) :
    Performed cmd target s (if cmd.tokenCount < count then (.MissingArgument, s) else answer) := by
  split
  · exact .refused _ (by decide)
  next hcount => exact h (Nat.not_lt.mp hcount)

/-- A handler that needs a connection refuses without one. -/
theorem performed_of_connected {answer : SerialDispatchResult × TargetState σ}
    (h : Performed cmd target s answer) :
    Performed cmd target s (if !target.isConnected s.device then (.NotConnected, s) else answer) := by
  split
  · exact .refused _ (by decide)
  · exact h

/-- `led` is performed. -/
theorem performed_handleLed (hverb : cmd.token 1 = ascii "led") :
    Performed cmd target s (handleLed cmd target s) := by
  refine performed_of_count target s fun hcount => ?_
  cases hmask : serialParseUint8 (cmd.token 2) with
  | none => exact .refused _ (by decide)
  | some mask =>
    exact performed_of_connected target s (.called _ _ (isRefusal_wiimoteCommandRejectReason target)
      (.led ⟨hverb, hcount⟩ (denotesByte_of_read hmask)) rfl)

/-- `mode` is performed. -/
theorem performed_handleMode (hverb : cmd.token 1 = ascii "mode") :
    Performed cmd target s (handleMode cmd target s) := by
  refine performed_of_count target s fun hcount => ?_
  cases hmode : serialParseUint8 (cmd.token 2) with
  | none => exact .refused _ (by decide)
  | some mode =>
    dsimp only
    cases hcontinuous : if 4 ≤ cmd.tokenCount then serialParseBool (cmd.token 3) else some false with
    | none => exact .refused _ (by decide)
    | some continuous =>
      refine performed_of_connected target s (.called _ _ (isRefusal_wiimoteCommandRejectReason target) ?_ rfl)
      split at hcontinuous
      next hlong =>
        exact .modeContinuous ⟨hverb, hlong⟩ (denotesByte_of_read hmode) (denotesBool_of_read hcontinuous)
      next hshort =>
        cases hcontinuous
        exact .mode ⟨hverb, hcount⟩ (Nat.not_le.mp hshort) (denotesByte_of_read hmode)

/-- `accel` is performed. -/
theorem performed_handleAccel (hverb : cmd.token 1 = ascii "accel") :
    Performed cmd target s (handleAccel cmd target s) := by
  refine performed_of_count target s fun hcount => ?_
  cases henabled : serialParseBool (cmd.token 2) with
  | none => exact .refused _ (by decide)
  | some enabled =>
    exact .called _ _ (isRefusal_wiimoteCommandRejectReason target)
      (.accel ⟨hverb, hcount⟩ (denotesBool_of_read henabled)) rfl

/-- `request-status` is performed. -/
theorem performed_handleRequestStatus (hverb : cmd.token 1 = ascii "request-status")
    (hcount : 2 ≤ cmd.tokenCount) : Performed cmd target s (handleRequestStatus cmd target s) :=
  performed_of_connected target s
    (.called _ _ (isRefusal_wiimoteCommandRejectReason target) (.requestStatus ⟨hverb, hcount⟩) rfl)

/-- `scan` is performed. -/
theorem performed_handleScan (hverb : cmd.token 1 = ascii "scan") :
    Performed cmd target s (handleScan cmd target s) := by
  refine performed_of_count target s fun hcount => ?_
  cases henabled : serialParseBool (cmd.token 2) with
  | none => exact .refused _ (by decide)
  | some enabled =>
    exact .calledVoid _ (.scan ⟨hverb, hcount⟩ (denotesBool_of_read henabled)) rfl

/-- `discover` is performed. -/
theorem performed_handleDiscover (hverb : cmd.token 1 = ascii "discover") :
    Performed cmd target s (handleDiscover cmd target s) := by
  refine performed_of_count target s fun hcount => ?_
  split
  next hstart =>
    exact .called _ _ (isRefusal_discoveryStartRejectReason target) (.discoverStart ⟨hverb, hcount⟩ hstart) rfl
  next =>
    split
    next hstop =>
      exact .called _ _ (isRefusal_discoveryStopRejectReason target) (.discoverStop ⟨hverb, hcount⟩ hstop) rfl
    next => exact .refused _ (by decide)

/-- `disconnect` is performed. -/
theorem performed_handleDisconnect (hverb : cmd.token 1 = ascii "disconnect") (hcount : 2 ≤ cmd.tokenCount) :
    Performed cmd target s (handleDisconnect cmd target s) := by
  unfold handleDisconnect
  cases hreason : if 3 ≤ cmd.tokenCount then serialParseUint8 (cmd.token 2) else some 0x16 with
  | none => exact .refused _ (by decide)
  | some reason =>
    refine performed_of_connected target s (.called _ _ (isRefusal_disconnectRejectReason target) ?_ rfl)
    split at hreason
    next hlong => exact .disconnectReason ⟨hverb, hlong⟩ (denotesByte_of_read hreason)
    next hshort =>
      cases hreason
      exact .disconnect ⟨hverb, hcount⟩ (Nat.not_le.mp hshort)

/-- `reconnect` is performed. -/
theorem performed_handleReconnect (hverb : cmd.token 1 = ascii "reconnect") :
    Performed cmd target s (handleReconnect cmd target s) := by
  refine performed_of_count target s fun hcount => ?_
  split
  next hclear => exact .calledVoid _ (.reconnectClear ⟨hverb, hcount⟩ hclear) rfl
  next =>
    cases henabled : serialParseBool (cmd.token 2) with
    | none => exact .refused _ (by decide)
    | some enabled => exact .calledVoid _ (.reconnect ⟨hverb, hcount⟩ (denotesBool_of_read henabled)) rfl

/-- `wifi-control` is performed. -/
theorem performed_handleWifiControl (hverb : cmd.token 1 = ascii "wifi-control") :
    Performed cmd target s (handleWifiControl cmd target s) := by
  refine performed_of_count target s fun hcount => ?_
  cases henabled : serialParseBool (cmd.token 2) with
  | none => exact .refused _ (by decide)
  | some enabled =>
    exact .called _ _ (fun _ => by decide) (.wifiControl ⟨hverb, hcount⟩ (denotesBool_of_read henabled)) rfl

/-- `wifi-mode` is performed. -/
theorem performed_handleWifiMode (hverb : cmd.token 1 = ascii "wifi-mode") :
    Performed cmd target s (handleWifiMode cmd target s) := by
  refine performed_of_count target s fun hcount => ?_
  cases hmode : serialParseWifiDeliveryMode (cmd.token 2) with
  | none => exact .refused _ (by decide)
  | some mode =>
    exact .called _ _ (fun _ => by decide) (.wifiMode ⟨hverb, hcount⟩ (denotesMode_of_read hmode)) rfl

/-- `wifi-set-network` is performed. -/
theorem performed_handleWifiSetNetwork (hverb : cmd.token 1 = ascii "wifi-set-network") :
    Performed cmd target s (handleWifiSetNetwork cmd target s) :=
  performed_of_count target s fun hcount =>
    .called _ _ (fun _ => by decide) (.wifiSetNetwork ⟨hverb, hcount⟩) rfl

/-- `wifi-restart` is performed. -/
theorem performed_handleWifiRestart (hverb : cmd.token 1 = ascii "wifi-restart") (hcount : 2 ≤ cmd.tokenCount) :
    Performed cmd target s (handleWifiRestart cmd target s) :=
  .called _ _ (fun _ => by decide) (.wifiRestart ⟨hverb, hcount⟩) rfl

/-- `wifi-set-token` is performed. -/
theorem performed_handleWifiSetToken (hverb : cmd.token 1 = ascii "wifi-set-token") :
    Performed cmd target s (handleWifiSetToken cmd target s) := by
  refine performed_of_count target s fun hcount => ?_
  split
  · exact .refused _ (by decide)
  · exact .called _ _ (fun _ => by decide) (.wifiSetToken ⟨hverb, hcount⟩) rfl

/-- Every entry of the table performs the commands with its verb. -/
theorem performed_entry {entry : DispatchEntry σ} (hentry : entry ∈ kDispatchTable)
    (hverb : cmd.token 1 = entry.verb) (hcount : 2 ≤ cmd.tokenCount) :
    Performed cmd target s (entry.handler cmd target s) := by
  simp only [kDispatchTable, List.mem_cons, List.not_mem_nil, or_false] at hentry
  rcases hentry with rfl | rfl | rfl | rfl | rfl | rfl | rfl | rfl | rfl | rfl | rfl | rfl | rfl | rfl
  · exact .status hverb
  · exact performed_handleLed target s hverb
  · exact performed_handleMode target s hverb
  · exact performed_handleAccel target s hverb
  · exact performed_handleRequestStatus target s hverb hcount
  · exact performed_handleScan target s hverb
  · exact performed_handleDiscover target s hverb
  · exact performed_handleDisconnect target s hverb hcount
  · exact performed_handleReconnect target s hverb
  · exact performed_handleWifiControl target s hverb
  · exact performed_handleWifiMode target s hverb
  · exact performed_handleWifiSetNetwork target s hverb
  · exact performed_handleWifiRestart target s hverb hcount
  · exact performed_handleWifiSetToken target s hverb

/-- Every command of the table is performed. -/
theorem performed_dispatchToTable (hcount : 2 ≤ cmd.tokenCount) :
    Performed cmd target s (dispatchToTable cmd target s) := by
  unfold dispatchToTable
  split
  next entry hfound =>
    have hverb := List.find?_some hfound
    exact performed_entry target s (List.mem_of_find?_eq_some hfound) (eq_of_beq hverb).symm hcount
  next => exact .refused _ (by decide)

end Handlers

/-- The table consists of the two verbs that are not privileged, and the privileged ones. -/
theorem tableEntry_cases {entry : DispatchEntry σ} (hentry : entry ∈ kDispatchTable) :
    entry.verb ∈ privilegedVerbs ∨ entry.handler = handleStatus ∨
      entry.handler = handleRequestStatus := by
  simp only [kDispatchTable, List.mem_cons, List.not_mem_nil, or_false] at hentry
  rcases hentry with rfl | rfl | rfl | rfl | rfl | rfl | rfl | rfl | rfl | rfl | rfl | rfl | rfl | rfl
  case inl => exact .inr (.inl rfl)
  case inr.inr.inr.inr.inl => exact .inr (.inr rfl)
  all_goals exact .inl (by simp [privilegedVerbs])

/-- A command that is not privileged makes no call, or only asks for a status report. -/
theorem dispatchToTable_calls (cmd : SerialParsedCommand) (target : SerialCommandTarget σ)
    (s : TargetState σ) (hverb : serialCommandIsPrivileged (cmd.token 1) = false) :
    (dispatchToTable cmd target s).2.calls = s.calls ∨
      (dispatchToTable cmd target s).2.calls = s.calls ++ [.requestStatus] := by
  unfold dispatchToTable
  split
  · rename_i entry hfound
    have hname : entry.verb = cmd.token 1 := by simpa using List.find?_some hfound
    rcases tableEntry_cases (List.mem_of_find?_eq_some hfound) with hpriv | hstatus | hrequest
    · rw [hname, ← List.contains_iff_mem] at hpriv
      exact absurd (hverb.symm.trans hpriv) Bool.false_ne_true
    · rw [hstatus]
      exact .inl rfl
    · rw [hrequest]
      unfold handleRequestStatus
      split
      · exact .inl rfl
      · exact .inr rfl
  · exact .inl rfl

/-! ## Dispatch -/

/-- `unlock` is not privileged. -/
theorem privileged_ne_unlock {verb : CString} (h : serialCommandIsPrivileged verb = true) :
    verb ≠ ascii "unlock" := by
  rintro rfl
  exact absurd h (by decide +kernel)

/-- Where unlocking is required, a privileged command is answered with Locked exactly when
the session is not unlocked. -/
theorem serialCommandDispatch_locked_iff (cmd : SerialParsedCommand)
    (target : SerialCommandTarget σ) (nowMs : UInt32) (session : SerialCommandSession)
    (s : TargetState σ) (hcount : 2 ≤ cmd.tokenCount)
    (hverb : serialCommandIsPrivileged (cmd.token 1) = true) :
    (serialCommandDispatch cmd target ⟨true, nowMs⟩ ⟨some session, s⟩).1 = .Locked ↔
      session.isUnlocked nowMs = false := by
  unfold serialCommandDispatch
  rw [if_neg (by omega), if_neg (privileged_ne_unlock hverb)]
  by_cases hlocked : session.isUnlocked nowMs = false
  · rw [if_pos ⟨rfl, hverb, hlocked⟩]
    exact iff_of_true rfl hlocked
  · rw [if_neg fun h => hlocked h.2.2]
    exact iff_of_false (performed_dispatchToTable target s hcount).outcome.ne_locked hlocked

/-- A dispatch leaves the calls alone, or asks for a status report, or the command is
privileged. -/
theorem serialCommandDispatch_calls (cmd : SerialParsedCommand) (target : SerialCommandTarget σ)
    (options : SerialDispatchOptions) (s : SerialDispatchState σ) :
    (serialCommandDispatch cmd target options s).2.target.calls = s.target.calls ∨
      (serialCommandDispatch cmd target options s).2.target.calls =
        s.target.calls ++ [.requestStatus] ∨
      serialCommandIsPrivileged (cmd.token 1) = true := by
  unfold serialCommandDispatch
  split
  · exact .inl rfl
  split
  · exact .inl rfl
  split
  · exact .inl rfl
  · cases hverb : serialCommandIsPrivileged (cmd.token 1) with
    | true => exact .inr (.inr rfl)
    | false => exact (dispatchToTable_calls cmd target s.target hverb).imp id .inl

/-- Only `unlock` changes the session. -/
theorem serialCommandDispatch_session (cmd : SerialParsedCommand) (target : SerialCommandTarget σ)
    (options : SerialDispatchOptions) (s : SerialDispatchState σ) :
    (serialCommandDispatch cmd target options s).2.session =
      if 2 ≤ cmd.tokenCount ∧ cmd.token 1 = ascii "unlock" then
        (handleUnlock cmd s.session options.nowMs).2
      else s.session := by
  unfold serialCommandDispatch
  by_cases hcount : cmd.tokenCount < 2
  · rw [if_pos hcount, if_neg (by omega)]
  · rw [if_neg hcount]
    by_cases hverb : cmd.token 1 = ascii "unlock"
    · rw [if_pos hverb, if_pos ⟨by omega, hverb⟩]
    · have hother : ¬(2 ≤ cmd.tokenCount ∧ cmd.token 1 = ascii "unlock") := fun h => hverb h.2
      rw [if_neg hverb, if_neg hother]
      split <;> rfl

/-- The answer to a command that is held back. -/
def lockedResponse : CString := (serialFormatDispatchResult kSerialResponseBufSize .Locked).2

/-- No other result is answered like Locked. -/
theorem response_eq_locked_iff (result : SerialDispatchResult) :
    (serialFormatDispatchResult kSerialResponseBufSize result).2 = lockedResponse ↔
      result = .Locked := by
  cases result <;> decide +kernel

/-- The line is a command with a privileged verb. -/
abbrev PrivilegedLine (line : CString) : Prop :=
  (serialCommandParse line .zeroed).1 = .Ok ∧
    2 ≤ (serialCommandParse line .zeroed).2.tokenCount ∧
    serialCommandIsPrivileged ((serialCommandParse line .zeroed).2.token 1) = true

/-- A privileged line is dispatched, and the answer to it is printed. -/
theorem processSerialCommandLine_privileged (device : SerialDevice σ) (line : CString)
    (nowMs : UInt32) (control : SerialControl σ) (hline : PrivilegedLine line) :
    processSerialCommandLine device line nowMs control =
      (control.dispatch device (serialCommandParse line .zeroed).2 nowMs).2.println
        (serialFormatDispatchResult kSerialResponseBufSize
          (control.dispatch device (serialCommandParse line .zeroed).2 nowMs).1) := by
  obtain ⟨hok, -, hverb⟩ := hline
  unfold processSerialCommandLine
  generalize serialCommandParse line .zeroed = parsed at hok hverb
  have hwifi : ¬(2 ≤ parsed.2.tokenCount ∧ parsed.2.token 1 = ascii "wifi-status") := by
    rintro ⟨-, hname⟩
    rw [hname] at hverb
    exact absurd hverb (by decide +kernel)
  dsimp only
  rw [hok, if_neg (by decide), if_neg (fun h => h rfl), if_neg hwifi]

/-- Where unlocking is required, a privileged line is answered as locked exactly when the
session is not unlocked. -/
theorem processSerialCommandLine_locked_iff (device : SerialDevice σ) (line : CString)
    (nowMs : UInt32) (control : SerialControl σ) (hline : PrivilegedLine line)
    (hrequirement : control.privilegedCommandsRequireUnlock = true) :
    (processSerialCommandLine device line nowMs control).printed =
        control.printed ++ [lockedResponse] ↔ control.session.isUnlocked nowMs = false := by
  rw [processSerialCommandLine_privileged device line nowMs control hline]
  unfold SerialControl.dispatch SerialControl.println
  dsimp only
  rw [List.append_cancel_left_eq, List.cons.injEq, and_iff_left rfl, response_eq_locked_iff,
    hrequirement, serialCommandDispatch_locked_iff _ _ _ _ _ hline.2.1 hline.2.2]

/-! ## Unlocking -/

/-- The number of seconds that a command grants, if it is a successful unlock with the
configured token. -/
def grantedSeconds (token : Option CString) (cmd : SerialParsedCommand) : Option ℕ :=
  if 3 ≤ cmd.tokenCount ∧ cmd.token 1 = ascii "unlock" ∧ token = some (cmd.token 2) then
    if 4 ≤ cmd.tokenCount then (serialParseUint16 (cmd.token 3)).map UInt16.toNat else some 60
  else none

/-- The duration in milliseconds does not overflow. -/
theorem milliseconds_eq (seconds : UInt16) :
    seconds.toUInt32 * 1000 = UInt32.ofNat (1000 * seconds.toNat) := by
  apply UInt32.toNat_inj.mp
  rw [UInt32.toNat_mul, UInt32.toNat_ofNat', UInt16.toNat_toUInt32, Nat.mul_comm]
  rfl

/-- `unlock` starts an unlock of the granted length, or leaves the session alone. -/
theorem handleUnlock_session (cmd : SerialParsedCommand) (session : SerialCommandSession)
    (nowMs : UInt32) (hverb : cmd.token 1 = ascii "unlock") :
    (handleUnlock cmd (some session) nowMs).2 =
      some ((grantedSeconds session.token cmd).elim session fun seconds =>
        session.unlock (UInt32.ofNat (1000 * seconds)) nowMs) := by
  unfold handleUnlock grantedSeconds
  by_cases hcount : cmd.tokenCount < 3
  · rw [if_pos hcount, if_neg (by omega)]
    rfl
  · rw [if_neg hcount]
    dsimp only
    cases hvalid : session.validateToken (some (cmd.token 2)) with
    | false =>
      have hrefused : ¬(3 ≤ cmd.tokenCount ∧ cmd.token 1 = ascii "unlock" ∧
          session.token = some (cmd.token 2)) := by
        rintro ⟨-, -, htoken⟩
        have haccepted := (session.validateToken_iff (some (cmd.token 2))).mpr ⟨_, htoken, rfl⟩
        rw [hvalid] at haccepted
        exact Bool.false_ne_true haccepted
      rw [if_neg hrefused]
      rfl
    | true =>
      obtain ⟨t, htoken, hgiven⟩ := (session.validateToken_iff _).mp hvalid
      have haccepted : 3 ≤ cmd.tokenCount ∧ cmd.token 1 = ascii "unlock" ∧
          session.token = some (cmd.token 2) := ⟨by omega, hverb, htoken.trans hgiven.symm⟩
      have hpassed : ¬(!true) = true := Bool.false_ne_true
      rw [if_pos haccepted, if_neg hpassed]
      by_cases hseconds : 4 ≤ cmd.tokenCount
      · rw [if_pos hseconds, if_pos hseconds]
        cases serialParseUint16 (cmd.token 3) with
        | none => rfl
        | some seconds =>
          change some (session.unlock (seconds.toUInt32 * 1000) nowMs) = _
          rw [milliseconds_eq]
          rfl
      · rw [if_neg hseconds, if_neg hseconds]
        rfl

/-- The number of seconds that a line grants, if it is a successful unlock. -/
def unlockSeconds (token : Option CString) (line : CString) : Option ℕ :=
  if (serialCommandParse line .zeroed).1 = .Ok then
    grantedSeconds token (serialCommandParse line .zeroed).2
  else none

/-- A line changes the session exactly as its grant says. -/
theorem processSerialCommandLine_session (device : SerialDevice σ) (line : CString)
    (nowMs : UInt32) (control : SerialControl σ) :
    (processSerialCommandLine device line nowMs control).session =
      (unlockSeconds control.session.token line).elim control.session fun seconds =>
        control.session.unlock (UInt32.ofNat (1000 * seconds)) nowMs := by
  unfold processSerialCommandLine unlockSeconds
  generalize serialCommandParse line .zeroed = parsed
  obtain ⟨result, cmd⟩ := parsed
  dsimp only
  by_cases hok : result = .Ok
  · subst hok
    rw [if_neg (by decide), if_neg (fun h => h rfl), if_pos rfl]
    by_cases hwifi : 2 ≤ cmd.tokenCount ∧ cmd.token 1 = ascii "wifi-status"
    · have hnone : grantedSeconds control.session.token cmd = none := by
        unfold grantedSeconds
        rw [if_neg]
        rintro ⟨-, hunlock, -⟩
        exact absurd (hwifi.2.symm.trans hunlock) (by decide +kernel)
      rw [if_pos hwifi, hnone]
      rfl
    · rw [if_neg hwifi]
      change (serialCommandDispatch cmd _ _ _).2.session.getD control.session = _
      rw [serialCommandDispatch_session]
      by_cases hunlock : 2 ≤ cmd.tokenCount ∧ cmd.token 1 = ascii "unlock"
      · rw [if_pos hunlock, handleUnlock_session cmd control.session nowMs hunlock.2]
        rfl
      · have hnone : grantedSeconds control.session.token cmd = none := by
          unfold grantedSeconds
          rw [if_neg]
          rintro ⟨hcount, hverb, -⟩
          exact hunlock ⟨by omega, hverb⟩
        rw [if_neg hunlock, hnone]
        rfl
  · rw [if_neg hok, if_pos hok]
    split <;> rfl

/-- A grant lasts less than one turn of the clock. -/
theorem unlockSeconds_le {token : Option CString} {line : CString} {seconds : ℕ}
    (h : unlockSeconds token line = some seconds) : seconds ≤ 65535 := by
  unfold unlockSeconds grantedSeconds at h
  split at h
  · split at h
    · split at h
      · obtain ⟨parsed, -, rfl⟩ := Option.map_eq_some_iff.mp h
        exact Nat.le_of_lt_succ parsed.toNat_lt
      · cases h
        decide
    · exact nomatch h
  · exact nomatch h

/-- What a line does to the device behind the target: nothing, or one recorded call. -/
inductive LineOutcome (device : SerialDevice σ) (control after : SerialControl σ) : Prop
  | quiet (hdevice : after.target = control.target)
  | called (call : SerialTargetCall)
      (hdevice : after.target = (device.invoke call control.target).2)

/-- A handler leaves the target alone, or makes one call. -/
theorem HandlerOutcome.target {target : SerialCommandTarget σ} {s : TargetState σ}
    {outcome : SerialDispatchResult × TargetState σ} (h : HandlerOutcome target s outcome) :
    outcome.2 = s ∨ ∃ call, outcome.2 = (target.invoke call s).2 := by
  cases h with
  | answered reason hreason => exact .inl rfl
  | called call refused hrefused => exact .inr ⟨call, rfl⟩
  | calledVoid call => exact .inr ⟨call, rfl⟩

/-- A line leaves the device alone, or makes one call. -/
theorem processSerialCommandLine_outcome (device : SerialDevice σ) (line : CString)
    (nowMs : UInt32) (control : SerialControl σ) :
    LineOutcome device control (processSerialCommandLine device line nowMs control) := by
  unfold processSerialCommandLine
  dsimp only
  split
  · exact .quiet rfl
  · split
    · exact .quiet rfl
    · split
      · exact .quiet rfl
      · unfold SerialControl.dispatch serialCommandDispatch
        split
        · exact .quiet rfl
        next hcount =>
          split
          · exact .quiet rfl
          · split
            · exact .quiet rfl
            · rcases (performed_dispatchToTable device.toSerialCommandTarget control.target
                (Nat.not_lt.mp hcount)).outcome.target with htarget | ⟨call, htarget⟩
              · exact .quiet htarget
              · exact .called call htarget

/-- A line leaves the unlock requirement alone. -/
@[simp] theorem processSerialCommandLine_requirement (device : SerialDevice σ) (line : CString)
    (nowMs : UInt32) (control : SerialControl σ) :
    (processSerialCommandLine device line nowMs control).privilegedCommandsRequireUnlock =
      control.privilegedCommandsRequireUnlock := by
  unfold processSerialCommandLine
  dsimp only
  split_ifs <;> rfl

end Esp32Wiimote.Serial
