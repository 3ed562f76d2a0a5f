import Esp32Wiimote.Device.SurfaceParity
import Esp32Wiimote.Library.TransitionRun

/-!
# The answers to scan requests

A request to scan is answered with success on both surfaces without a look at the device, for the call
behind it has no result. Below, the runtime refuses the change while the controller is not
initialized: such an answer tells of a scan that is not there.
-/

namespace Esp32Wiimote.Device

open Bluetooth CText Serial StateProgram TransitionRun Web

/-! ## Scan requests -/

/-- A request to scan: a POST on the route, or a command of the serial line. -/
inductive ScanRequest where
  | web (assets : WebAssets) (authHeader : Option CString) (body : WebRequestBody) (size : ℕ)
      (responseBuf : CString)
  | serial (cmd : SerialParsedCommand) (nowMs : UInt32)

/-- The answer of the router to a POST on the route of the scan. -/
def Esp32World.postScan (w : Esp32World) (assets : WebAssets) (authHeader : Option CString)
    (body : WebRequestBody) (size : ℕ) (responseBuf : CString) : WebApiRouteResult × WebApiState Esp32World :=
  webApiRoute assets (makeWebApiContext w.device) (some (ascii "POST"))
    (some (ascii "/api/wiimote/commands/scan")) authHeader body size (w.webApiState responseBuf)

/-- The text ends with this `scanEnabled`. -/
def tellsScanEnabled (text : CString) (enabled : Bool) : Bool :=
  (ascii "\"scanEnabled\":" ++ boolStr enabled ++ ascii "\x7d").isSuffixOf text

namespace ScanRequest

/-- The request is answered with success, and that it is done so. -/
def Tells (request : ScanRequest) (w : Esp32World) (enabled : Bool) : Prop :=
  match request with
  | web assets authHeader body size responseBuf =>
    let answer := w.postScan assets authHeader body size responseBuf
    answer.1.httpStatus = 200 ∧ tellsScanEnabled answer.2.responseBuf enabled = true
  | serial cmd nowMs =>
    cmd.token 1 = ascii "scan" ∧ serialParseBool (cmd.token 2) = some enabled ∧
      (w.serialControl.dispatch esp32SerialDevice cmd nowMs).1 = .Ok

instance (request : ScanRequest) (w : Esp32World) (enabled : Bool) : Decidable (request.Tells w enabled) :=
  match request with
  | web .. => inferInstanceAs (Decidable (_ ∧ _))
  | serial .. => inferInstanceAs (Decidable (_ ∧ _))

/-- The world right after the request. -/
def after (request : ScanRequest) (w : Esp32World) : Esp32World :=
  match request with
  | web assets authHeader body size responseBuf =>
    (w.postScan assets authHeader body size responseBuf).2.userData
  | serial cmd nowMs => (w.serialControl.dispatch esp32SerialDevice cmd nowMs).2.target.device

end ScanRequest

/-! ## The call behind a request -/

/-- The controller scans as asked once it is initialized, and else as before. -/
theorem scanningEnabled_tinyWiimoteSetScanEnabled (enabled : Bool) (w : TwWorld) :
    (exec (tinyWiimoteSetScanEnabled enabled) w).2.gRuntime.hciEventContext.scanningEnabled =
      if w.gRuntime.hciEventContext.deviceInited then enabled
      else w.gRuntime.hciEventContext.scanningEnabled := by
  simp only [tinyWiimoteSetScanEnabled, exec_getRuntime_bind, exec_ite, exec_pure, exec_then,
    exec_modifyContext]
  cases hinited : w.gRuntime.hciEventContext.deviceInited with
  | false => rfl
  | true =>
    by_cases hsame : (!w.gRuntime.wiimoteState.wiimoteConnected &&
        enabled == w.gRuntime.hciEventContext.scanningEnabled) = true
    · simp only [hsame, Bool.not_true, Bool.false_eq_true, if_false, if_true]
      exact (beq_iff_eq.mp (Bool.and_eq_true _ _ ▸ hsame).2).symm
    · simp only [hsame, Bool.not_true, Bool.false_eq_true, if_false]
      rfl

/-- After the call the scan is as asked exactly when the controller is initialised or it was so
before. -/
theorem scanning_setScanEnabled_iff (enabled : Bool) (w : Esp32World) :
    (exec (webCall (.setScanEnabled enabled)) w).2.webGetControllerStatus.scanning = enabled ↔
      w.webGetControllerStatus.initialized = true ∨ w.webGetControllerStatus.scanning = enabled := by
  have hscanning := scanningEnabled_tinyWiimoteSetScanEnabled enabled w.tw
  change (exec (tinyWiimoteSetScanEnabled enabled) w.tw).2.gRuntime.hciEventContext.scanningEnabled = enabled ↔
    w.tw.gRuntime.hciEventContext.deviceInited = true ∨
      w.tw.gRuntime.hciEventContext.scanningEnabled = enabled
  rw [hscanning]
  cases w.tw.gRuntime.hciEventContext.deviceInited <;> simp

/-! ## The web API -/

section Web

variable {τ : Type} {assets : WebAssets} {ctx : WebApiContext τ} {authHeader : Option CString}
  {body : WebRequestBody} {size : ℕ} {t : WebApiState τ}

/-- A POST that is answered with success is answered by the handler of its path. -/
theorem webApiRoute_of_success {path : CString} {handler : RouteHandler τ}
    (hentry : routeHandler τ path = some (handler, true))
    (hsuccess : (webApiRoute assets ctx (some (ascii "POST")) (some path) authHeader body size
      t).1.httpStatus = 200) :
    ∃ cmd, webApiRoute assets ctx (some (ascii "POST")) (some path) authHeader body size t =
      handler ctx cmd size t := by
  have hstatic := tryServeStatic_of_ne assets (ascii "POST") path size t (by decide +kernel)
  by_cases hsize : size = 0
  · rw [webApiRoute, if_pos hsize] at hsuccess
    cases hsuccess
  by_cases hauth : webAuthValidate authHeader ctx.wifiApiToken = .Ok
  · rw [webApiRoute_of_path (Nat.pos_of_ne_zero hsize) hauth hentry] at hsuccess ⊢
    by_cases hok : (webRequestParse body.body body.bodyLen .empty).1 = .Ok
    · exact ⟨_, handleWithBody_of_ok hok⟩
    · rw [handleWithBody_of_not_ok hok] at hsuccess
      cases hsuccess
  · rw [webApiRoute, if_neg hsize, hstatic] at hsuccess
    dsimp only at hsuccess
    rw [if_pos hauth] at hsuccess
    cases hsuccess

/-- The answer that fits tells the command it is about. -/
theorem scanCommandResponse_of_success {command : CString} {enabled : Bool}
    (hsuccess : (scanCommandResponse size command enabled t).1.httpStatus = 200) :
    (scanCommandResponse size command enabled t).2 = t.respond (some
      (ascii "\x7b\"status\":\"ok\",\"command\":\"" ++ command ++ ascii "\",\"scanEnabled\":" ++
        boolStr enabled ++ ascii "\x7d")) := by
  rw [scanCommandResponse, formattedResponse_eq] at hsuccess ⊢
  split at hsuccess
  next hfits => rw [if_pos hfits]
  next => cases hsuccess

/-- Without a queue a scan that is answered with success was passed on, and the answer tells which. -/
theorem handlePostScan_of_success {cmd : WebParsedCommand} (hqueue : t.commandQueue = none)
    (hsuccess : (handlePostScan ctx cmd size t).1.httpStatus = 200) :
    ∃ enabled, (handlePostScan ctx cmd size t).2.userData = (ctx.call (.setScanEnabled enabled) t.userData).2 ∧
      ∀ enabled', tellsScanEnabled (handlePostScan ctx cmd size t).2.responseBuf enabled' = true →
        enabled' = enabled := by
  unfold handlePostScan at hsuccess ⊢
  split at hsuccess
  · rw [if_pos ‹_›]
    rw [queueOr_of_none _ _ _ _ hqueue] at hsuccess ⊢
    rw [scanCommandResponse_of_success hsuccess]
    have htells : ∀ enabled', tellsScanEnabled (ascii "\x7b\"status\":\"ok\",\"command\":\"" ++
        ascii "scan_start" ++ ascii "\",\"scanEnabled\":" ++ boolStr true ++ ascii "\x7d") enabled' = true →
        enabled' = true := by decide +kernel
    exact ⟨true, rfl, htells⟩
  · rw [if_neg ‹_›]
    split at hsuccess
    · rw [if_pos ‹_›]
      rw [queueOr_of_none _ _ _ _ hqueue] at hsuccess ⊢
      rw [scanCommandResponse_of_success hsuccess]
      have htells : ∀ enabled', tellsScanEnabled (ascii "\x7b\"status\":\"ok\",\"command\":\"" ++
          ascii "scan_stop" ++ ascii "\",\"scanEnabled\":" ++ boolStr false ++ ascii "\x7d") enabled' = true →
          enabled' = false := by decide +kernel
      exact ⟨false, rfl, htells⟩
    · cases hsuccess

end Web

/-! ## The serial line -/

/-- A command to scan that is answered with Ok was passed on. -/
theorem dispatch_scan {cmd : SerialParsedCommand} {control : SerialControl Esp32World} {nowMs : UInt32}
    {enabled : Bool} (hverb : cmd.token 1 = ascii "scan") (htoken : serialParseBool (cmd.token 2) = some enabled)
    (hok : (control.dispatch esp32SerialDevice cmd nowMs).1 = .Ok) :
    (control.dispatch esp32SerialDevice cmd nowMs).2.target.device =
      (exec (webCall (.setScanEnabled enabled)) control.target.device).2 := by
  have hunlock : cmd.token 1 ≠ ascii "unlock" := by
    rw [hverb]
    decide +kernel
  have hentry : entryHandler Esp32World (cmd.token 1) = some handleScan := by
    rw [hverb]
    rfl
  simp only [SerialControl.dispatch, serialCommandDispatch, if_neg hunlock] at hok ⊢
  split at hok
  · cases hok
  split at hok
  · cases hok
  next hcount hlocked =>
    rw [if_neg hcount, if_neg hlocked]
    rw [dispatchToTable_of_entry _ _ hentry, handleScan, htoken] at hok ⊢
    split at hok
    · cases hok
    next htokens =>
      rw [if_neg htokens]
      exact congrArg Prod.snd (exec_serialTargetCall_deviceCall (.setScanEnabled enabled) control.target.device)

/-- An answer that tells of the scan follows the call. -/
theorem ScanRequest.after_of_tells {request : ScanRequest} {w : Esp32World} {enabled : Bool}
    (h : request.Tells w enabled) : request.after w = (exec (webCall (.setScanEnabled enabled)) w).2 := by
  cases request with
  | web assets authHeader body size responseBuf =>
    obtain ⟨hsuccess, htells⟩ := h
    have hentry : routeHandler Esp32World (ascii "/api/wiimote/commands/scan") = some (handlePostScan, true) := rfl
    obtain ⟨cmd, hhandled⟩ := webApiRoute_of_success hentry hsuccess
    rw [Esp32World.postScan, hhandled] at hsuccess htells
    obtain ⟨enabled', hcalled, htold⟩ := handlePostScan_of_success rfl hsuccess
    rw [htold enabled htells, ScanRequest.after, Esp32World.postScan, hhandled]
    exact hcalled
  | serial cmd nowMs => exact dispatch_scan h.1 h.2.1 h.2.2

/-! ## The answers -/

/-- A request that is answered with success leaves the controller scanning as it was told exactly when the
controller is initialized, or was scanning so already. -/
theorem scan_answer_truthful_iff (request : ScanRequest) (w : Esp32World) (enabled : Bool)
    (h : request.Tells w enabled) :
    (request.after w).webGetControllerStatus.scanning = enabled ↔
      w.webGetControllerStatus.initialized = true ∨ w.webGetControllerStatus.scanning = enabled := by
  rw [ScanRequest.after_of_tells h]
  exact scanning_setScanEnabled_iff enabled w

/-- A device with a token, and a request to start a scan that brings it. -/
def scanningConfig : ESP32WiimoteConfig := { auth := { wifiApiToken := .external (ascii "token") } }

/-- A request to start the scan. -/
def scanStart : ScanRequest :=
  .web ⟨[], [], []⟩ (some (ascii "Bearer token")) ⟨some (ascii "\x7b\"command\":\"scan_start\"\x7d"), 24⟩ 512 []

/-- Once the controller is initialised the answer is true. -/
theorem scan_answer_truthful_initialized :
    let w : Esp32World := { device := .construct scanningConfig
                            tw := { gRuntime := { hciEventContext := { deviceInited := true } } } }
    scanStart.Tells w true ∧ ((scanStart.after w).webGetControllerStatus.scanning = true ↔
      w.webGetControllerStatus.initialized = true ∨ w.webGetControllerStatus.scanning = true) :=
  ⟨by decide +kernel, scan_answer_truthful_iff scanStart _ true (by decide +kernel)⟩

/-- Right after the initialisation the controller has not answered yet: the scan is told and not there. -/
theorem scan_answers_not_always_truthful :
    ¬∀ (config : ESP32WiimoteConfig) (events : List Esp32Event) (request : ScanRequest) (enabled : Bool),
      request.Tells (runFrom Esp32World.step (.construct config) events) enabled →
        (request.after (runFrom Esp32World.step (.construct config) events)).webGetControllerStatus.scanning =
          enabled := by
  intro h
  have htold := h scanningConfig [⟨.call .init, {}⟩] scanStart true (by decide +kernel)
  exact absurd htold (by decide +kernel)

end Esp32Wiimote.Device
