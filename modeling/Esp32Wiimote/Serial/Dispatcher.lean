import Esp32Wiimote.DispatchReason
import Esp32Wiimote.Serial.Parser
import Esp32Wiimote.Serial.Session

/-!
# The serial command dispatcher

The dispatcher works on an abstract target with state-changing methods, which may
refuse, and queries. A call of a state-changing method is recorded, so that what a
command did can be told from the calls alone. The session is a pointer and may be
missing; only `unlock` changes it.
-/

namespace Esp32Wiimote.Serial

open CText

/-- The results are the shared reasons. -/
abbrev SerialDispatchResult := CommandDispatchReason

/-- The calls of the state-changing methods of a target. -/
inductive SerialTargetCall
  | setLeds (ledMask : UInt8)
  | setReportingMode (mode : UInt8) (continuous : Bool)
  | setAccelerometerEnabled (enabled : Bool)
  | requestStatus
  | setScanEnabled (enabled : Bool)
  | startDiscovery
  | stopDiscovery
  | disconnectActiveController (reason : UInt8)
  | setAutoReconnectEnabled (enabled : Bool)
  | clearReconnectCache
  | setWifiControlEnabled (enabled : Bool)
  | setWifiDeliveryMode (mode : UInt8)
  | setWifiNetworkCredentials (ssid password : CString)
  | restartWifiControl
  | setWifiApiToken (token : CString)
  deriving DecidableEq, Repr

/-- A target over a device state: what a state-changing method returns and leaves behind
(a method without a result returns true), and its queries. -/
structure SerialCommandTarget (σ : Type) where
  call : SerialTargetCall → σ → Bool × σ
  isWifiApiTokenMutationAllowed : σ → Bool
  isConnected : σ → Bool
  isControllerInitialized : σ → Bool
  isDiscoveryActive : σ → Bool
  getActiveConnectionHandle : σ → UInt16

/-- The device behind the target, and the state-changing calls made so far. -/
structure TargetState (σ : Type) where
  device : σ
  calls : List SerialTargetCall

/-- The unlock requirement and the clock; the session is passed beside them. -/
structure SerialDispatchOptions where
  privilegedCommandsRequireUnlock : Bool
  nowMs : UInt32

variable {σ : Type}

/-- Call a state-changing method. -/
def SerialCommandTarget.invoke (target : SerialCommandTarget σ) (call : SerialTargetCall)
    (s : TargetState σ) : Bool × TargetState σ :=
  ((target.call call s.device).1, ⟨(target.call call s.device).2, s.calls ++ [call]⟩)

/-! ## Argument parsing helpers -/

/-- The words for on and off. -/
def serialParseBool (token : CString) : Option Bool :=
  if token = ascii "on" ∨ token = ascii "true" ∨ token = ascii "1" then some true
  else if token = ascii "off" ∨ token = ascii "false" ∨ token = ascii "0" then some false
  else none

/-- Hexadecimal behind `0x`, else decimal. -/
def numberBase : CString → ℕ
  | 0x30 :: x :: _ => if x = 0x78 ∨ x = 0x58 then 16 else 10
  | _ => 10

/-- A whole token read as a number from zero to a bound. -/
def serialParseUpTo (bound : ℕ) (token : CString) : Option ℕ :=
  if token = [] then none
  else
    let read := strtol token (numberBase token)
    if read.2 = token ∨ read.2 ≠ [] then none
    else if read.1 < 0 ∨ (bound : ℤ) < read.1 then none
    else some read.1.toNat

/-- A number up to 255. -/
def serialParseUint8 (token : CString) : Option UInt8 :=
  (serialParseUpTo 255 token).map UInt8.ofNat

/-- A number up to 65535. -/
def serialParseUint16 (token : CString) : Option UInt16 :=
  (serialParseUpTo 65535 token).map UInt16.ofNat

/-- The words for the delivery modes. -/
def serialParseWifiDeliveryMode (token : CString) : Option UInt8 :=
  if token = ascii "rest" then some 0
  else if token = ascii "rest-ws" ∨ token = ascii "rest-websocket" then some 1
  else none

/-! ## State-aware rejection helpers -/

/-- Why the controller did not take a command. -/
def wiimoteCommandRejectReason (target : SerialCommandTarget σ) (device : σ) :
    SerialDispatchResult :=
  if !target.isConnected device then .NotConnected
  else if target.getActiveConnectionHandle device = 0 then .NoActiveConnection
  else .Rejected

/-- Why a discovery was not started. -/
def discoveryStartRejectReason (target : SerialCommandTarget σ) (device : σ) :
    SerialDispatchResult :=
  if !target.isControllerInitialized device then .ControllerNotInitialized
  else if target.isConnected device then .Rejected
  else if target.isDiscoveryActive device then .DiscoveryAlreadyActive
  else .Rejected

/-- Why a discovery was not stopped. -/
def discoveryStopRejectReason (target : SerialCommandTarget σ) (device : σ) :
    SerialDispatchResult :=
  if !target.isControllerInitialized device then .ControllerNotInitialized
  else if !target.isDiscoveryActive device then .DiscoveryNotActive
  else .Rejected

/-- Why a disconnect was refused. -/
def disconnectRejectReason (target : SerialCommandTarget σ) (device : σ) : SerialDispatchResult :=
  if !target.isControllerInitialized device then .ControllerNotInitialized
  else if !target.isConnected device then .NotConnected
  else if target.getActiveConnectionHandle device = 0 then .NoActiveConnection
  else .Rejected

/-! ## Command handlers -/

/-- A handler: the command, the target and its state, to the result and the state after. -/
abbrev SerialHandler (σ : Type) : Type :=
  SerialParsedCommand → SerialCommandTarget σ → TargetState σ →
    SerialDispatchResult × TargetState σ

/-- Call a method and answer Ok, or the reason for which it refused. -/
def callOr (target : SerialCommandTarget σ) (call : SerialTargetCall)
    (refused : σ → SerialDispatchResult) (s : TargetState σ) :
    SerialDispatchResult × TargetState σ :=
  let result := target.invoke call s
  (if result.1 then .Ok else refused result.2.device, result.2)

/-- Call a method without a result and answer Ok. -/
def callVoid (target : SerialCommandTarget σ) (call : SerialTargetCall) (s : TargetState σ) :
    SerialDispatchResult × TargetState σ :=
  (.Ok, (target.invoke call s).2)

/-- `wm status` -/
def handleStatus : SerialHandler σ := fun _ _ s => (.Ok, s)

/-- `wm led <mask>` -/
def handleLed : SerialHandler σ := fun cmd target s =>
  if cmd.tokenCount < 3 then (.MissingArgument, s)
  else
    match serialParseUint8 (cmd.token 2) with
    | none => (.BadArgument, s)
    | some mask =>
      if !target.isConnected s.device then (.NotConnected, s)
      else callOr target (.setLeds mask) (wiimoteCommandRejectReason target) s

/-- `wm mode <value> [continuous]` -/
def handleMode : SerialHandler σ := fun cmd target s =>
  if cmd.tokenCount < 3 then (.MissingArgument, s)
  else
    match serialParseUint8 (cmd.token 2) with
    | none => (.BadArgument, s)
    | some mode =>
      match if 4 ≤ cmd.tokenCount then serialParseBool (cmd.token 3) else some false with
      | none => (.BadArgument, s)
      | some continuous =>
        if !target.isConnected s.device then (.NotConnected, s)
        else callOr target (.setReportingMode mode continuous) (wiimoteCommandRejectReason target) s

/-- `wm accel <on|off>` -/
def handleAccel : SerialHandler σ := fun cmd target s =>
  if cmd.tokenCount < 3 then (.MissingArgument, s)
  else
    match serialParseBool (cmd.token 2) with
    | none => (.BadArgument, s)
    | some enabled =>
      callOr target (.setAccelerometerEnabled enabled) (wiimoteCommandRejectReason target) s

/-- `wm request-status` -/
def handleRequestStatus : SerialHandler σ := fun _ target s =>
  if !target.isConnected s.device then (.NotConnected, s)
  else callOr target .requestStatus (wiimoteCommandRejectReason target) s

/-- `wm scan <on|off>` -/
def handleScan : SerialHandler σ := fun cmd target s =>
  if cmd.tokenCount < 3 then (.MissingArgument, s)
  else
    match serialParseBool (cmd.token 2) with
    | none => (.BadArgument, s)
    | some enabled => callVoid target (.setScanEnabled enabled) s

/-- `wm discover <start|stop>` -/
def handleDiscover : SerialHandler σ := fun cmd target s =>
  if cmd.tokenCount < 3 then (.MissingArgument, s)
  else if cmd.token 2 = ascii "start" then
    callOr target .startDiscovery (discoveryStartRejectReason target) s
  else if cmd.token 2 = ascii "stop" then
    callOr target .stopDiscovery (discoveryStopRejectReason target) s
  else (.InvalidVerb, s)

/-- `wm disconnect [reason]`; the default is LocalHostTerminated. -/
def handleDisconnect : SerialHandler σ := fun cmd target s =>
  match if 3 ≤ cmd.tokenCount then serialParseUint8 (cmd.token 2) else some 0x16 with
  | none => (.BadArgument, s)
  | some reason =>
    if !target.isConnected s.device then (.NotConnected, s)
    else callOr target (.disconnectActiveController reason) (disconnectRejectReason target) s

/-- `wm reconnect <on|off|clear>` -/
def handleReconnect : SerialHandler σ := fun cmd target s =>
  if cmd.tokenCount < 3 then (.MissingArgument, s)
  else if cmd.token 2 = ascii "clear" then callVoid target .clearReconnectCache s
  else
    match serialParseBool (cmd.token 2) with
    | none => (.BadArgument, s)
    | some enabled => callVoid target (.setAutoReconnectEnabled enabled) s

/-- `wm wifi-control <on|off>` -/
def handleWifiControl : SerialHandler σ := fun cmd target s =>
  if cmd.tokenCount < 3 then (.MissingArgument, s)
  else
    match serialParseBool (cmd.token 2) with
    | none => (.BadArgument, s)
    | some enabled => callOr target (.setWifiControlEnabled enabled) (fun _ => .Rejected) s

/-- `wm wifi-mode <rest|rest-ws>` -/
def handleWifiMode : SerialHandler σ := fun cmd target s =>
  if cmd.tokenCount < 3 then (.MissingArgument, s)
  else
    match serialParseWifiDeliveryMode (cmd.token 2) with
    | none => (.BadArgument, s)
    | some mode => callOr target (.setWifiDeliveryMode mode) (fun _ => .Rejected) s

/-- `wm wifi-set-network <ssid> <password>` -/
def handleWifiSetNetwork : SerialHandler σ := fun cmd target s =>
  if cmd.tokenCount < 4 then (.MissingArgument, s)
  else
    callOr target (.setWifiNetworkCredentials (cmd.token 2) (cmd.token 3)) (fun _ => .Rejected) s

/-- `wm wifi-restart` -/
def handleWifiRestart : SerialHandler σ := fun _ target s =>
  callOr target .restartWifiControl (fun _ => .WifiControlDisabled) s

/-- `wm wifi-set-token <token>` -/
def handleWifiSetToken : SerialHandler σ := fun cmd target s =>
  if cmd.tokenCount < 3 then (.MissingArgument, s)
  else if !target.isWifiApiTokenMutationAllowed s.device then (.PolicyBlocked, s)
  else callOr target (.setWifiApiToken (cmd.token 2)) (fun _ => .Rejected) s

/-- `wm unlock <token> [seconds]`; an unlock lasts 60 seconds by default. -/
def handleUnlock (cmd : SerialParsedCommand) (session : Option SerialCommandSession)
    (nowMs : UInt32) : SerialDispatchResult × Option SerialCommandSession :=
  if cmd.tokenCount < 3 then (.MissingArgument, session)
  else
    match session with
    | none => (.Rejected, none)
    | some current =>
      if !current.validateToken (some (cmd.token 2)) then (.BadCredentials, some current)
      else
        match if 4 ≤ cmd.tokenCount then serialParseUint16 (cmd.token 3) else some 60 with
        | none => (.BadArgument, some current)
        | some seconds => (.Ok, some (current.unlock (seconds.toUInt32 * 1000) nowMs))

/-! ## Dispatch -/

/-- The verbs that need an unlocked session. -/
def privilegedVerbs : List CString :=
  [ascii "led", ascii "mode", ascii "accel", ascii "scan", ascii "discover", ascii "disconnect",
    ascii "reconnect", ascii "wifi-control", ascii "wifi-mode", ascii "wifi-set-network",
    ascii "wifi-restart", ascii "wifi-set-token"]

/-- The verb is one of the privileged ones. -/
def serialCommandIsPrivileged (verb : CString) : Bool := privilegedVerbs.contains verb

/-- A verb and its handler. -/
structure DispatchEntry (σ : Type) where
  verb : CString
  handler : SerialHandler σ

/-- The verbs in the order of the source. -/
def kDispatchTable : List (DispatchEntry σ) :=
  [⟨ascii "status", handleStatus⟩, ⟨ascii "led", handleLed⟩, ⟨ascii "mode", handleMode⟩,
    ⟨ascii "accel", handleAccel⟩, ⟨ascii "request-status", handleRequestStatus⟩,
    ⟨ascii "scan", handleScan⟩, ⟨ascii "discover", handleDiscover⟩,
    ⟨ascii "disconnect", handleDisconnect⟩, ⟨ascii "reconnect", handleReconnect⟩,
    ⟨ascii "wifi-control", handleWifiControl⟩, ⟨ascii "wifi-mode", handleWifiMode⟩,
    ⟨ascii "wifi-set-network", handleWifiSetNetwork⟩, ⟨ascii "wifi-restart", handleWifiRestart⟩,
    ⟨ascii "wifi-set-token", handleWifiSetToken⟩]

/-- Run the handler of the first table entry with the verb of the command. -/
def dispatchToTable (cmd : SerialParsedCommand) (target : SerialCommandTarget σ)
    (s : TargetState σ) : SerialDispatchResult × TargetState σ :=
  match kDispatchTable.find? fun entry => entry.verb == cmd.token 1 with
  | some entry => entry.handler cmd target s
  | none => (.UnknownCommand, s)

/-- What a dispatch may change: the session and the device behind the target. -/
structure SerialDispatchState (σ : Type) where
  session : Option SerialCommandSession
  target : TargetState σ

/-- `unlock` comes first, then the check of the session, then the table. -/
def serialCommandDispatch (cmd : SerialParsedCommand) (target : SerialCommandTarget σ)
    (options : SerialDispatchOptions) (s : SerialDispatchState σ) :
    SerialDispatchResult × SerialDispatchState σ :=
  if cmd.tokenCount < 2 then (.UnknownCommand, s)
  else if cmd.token 1 = ascii "unlock" then
    let unlocked := handleUnlock cmd s.session options.nowMs
    (unlocked.1, { s with session := unlocked.2 })
  else if options.privilegedCommandsRequireUnlock ∧ serialCommandIsPrivileged (cmd.token 1) ∧
      (s.session.elim false fun session => session.isUnlocked options.nowMs) = false then
    (.Locked, s)
  else
    let handled := dispatchToTable cmd target s.target
    (handled.1, { s with target := handled.2 })

end Esp32Wiimote.Serial
