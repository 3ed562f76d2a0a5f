import Esp32Wiimote.Serial.Dispatcher

/-!
# A serial command line

A complete line is parsed, `wifi-status` is answered at once, and every other command
goes to the dispatcher. The answers are formatted into a fixed buffer and printed.
-/

namespace Esp32Wiimote.Serial

open CText

/-! ## Responses -/

/-- The size of the response buffer. -/
def kSerialResponseBufSize : ℕ := 192

/-- The length and the text, or the empty text where `snprintf` failed. -/
def serialNormalizeWrite (outSize : ℕ) (written : ℤ × CString) : ℕ × CString :=
  if written.1 < 0 then (0, if 0 < outSize then [] else written.2)
  else (written.1.toNat, written.2)

/-- A literal text with its arguments filled in. -/
def serialFormat (outSize : ℕ) (text : CString) : ℕ × CString :=
  serialNormalizeWrite outSize (snprintf outSize text)

/-- The answer of a command that was carried out. -/
def serialFormatOk (outSize : ℕ) : ℕ × CString := serialFormat outSize (ascii "@wm: ok")

/-- The answer of a command that was queued. -/
def serialFormatOkQueued (outSize : ℕ) : ℕ × CString :=
  serialFormat outSize (ascii "@wm: ok queued")

/-- The answer of a command that was refused, with its code. -/
def serialFormatError (outSize : ℕ) (code : CString) : ℕ × CString :=
  serialFormat outSize (ascii "@wm: error " ++ code)

/-- The answer to a result of the dispatcher. -/
def serialFormatDispatchResult (outSize : ℕ) (result : SerialDispatchResult) : ℕ × CString :=
  if result = .Ok then serialFormatOk outSize
  else if result = .Queued then serialFormatOkQueued outSize
  else serialFormatError outSize (commandDispatchReasonToSerialCode result)

/-- The answer to a result of the parser. -/
def serialFormatParseResult (outSize : ℕ) : SerialParseResult → ℕ × CString
  | .Ok => serialFormatOk outSize
  | .EmptyLine => serialFormatError outSize (ascii "empty_line")
  | .NotACommand => serialFormatError outSize (ascii "not_a_command")
  | .LineTooLong => serialFormatError outSize (ascii "line_too_long")
  | .TooManyTokens => serialFormatError outSize (ascii "too_many_tokens")

/-- `%u` of a flag. -/
def flagDigit (flag : Bool) : CString := if flag then ascii "1" else ascii "0"

/-- The line of the Wi-Fi state. -/
def serialFormatWifiStatus (outSize : ℕ) (enabled ready connected failed restAndWebSocket : Bool) :
    ℕ × CString :=
  serialFormat outSize
    (ascii "@wm: wifi enabled=" ++ flagDigit enabled ++ ascii " ready=" ++ flagDigit ready
      ++ ascii " connected=" ++ flagDigit connected ++ ascii " failed=" ++ flagDigit failed
      ++ ascii " mode=" ++ if restAndWebSocket then ascii "rest-ws" else ascii "rest")

/-! ## Processing a line -/

/-- The part of the Wi-Fi control state that `wifi-status` prints. -/
structure SerialWifiState where
  enabled : Bool
  ready : Bool
  networkConnected : Bool
  networkConnectFailed : Bool
  restAndWebSocket : Bool

/-- A device with serial control: the command target and the Wi-Fi control state. -/
structure SerialDevice (σ : Type) extends SerialCommandTarget σ where
  getWifiControlState : σ → SerialWifiState

/-- The serial side of the device: its session, the unlock requirement, the device behind the
target, and the lines printed. -/
structure SerialControl (σ : Type) where
  session : SerialCommandSession
  privilegedCommandsRequireUnlock : Bool
  target : TargetState σ
  printed : List CString

variable {σ : Type}

namespace SerialControl

/-- The serial side of a device just constructed. -/
def initial (device : σ) : SerialControl σ := ⟨.initial, true, ⟨device, []⟩, []⟩

/-- Print an answer. -/
def println (control : SerialControl σ) (response : ℕ × CString) : SerialControl σ :=
  { control with printed := control.printed ++ [response.2] }

/-- Run the dispatcher on the session and the target. -/
def dispatch (control : SerialControl σ) (device : SerialDevice σ) (cmd : SerialParsedCommand)
    (nowMs : UInt32) : SerialDispatchResult × SerialControl σ :=
  let run := serialCommandDispatch cmd device.toSerialCommandTarget
    ⟨control.privilegedCommandsRequireUnlock, nowMs⟩ ⟨some control.session, control.target⟩
  (run.1, { control with session := run.2.session.getD control.session, target := run.2.target })

end SerialControl

/-- A line that is no command is not answered. -/
def processSerialCommandLine (device : SerialDevice σ) (line : CString) (nowMs : UInt32)
    (control : SerialControl σ) : SerialControl σ :=
  let parsed := serialCommandParse line .zeroed
  if parsed.1 = .NotACommand ∨ parsed.1 = .EmptyLine then control
  else if parsed.1 ≠ .Ok then
    control.println (serialFormatParseResult kSerialResponseBufSize parsed.1)
  else if 2 ≤ parsed.2.tokenCount ∧ parsed.2.token 1 = ascii "wifi-status" then
    let state := device.getWifiControlState control.target.device
    control.println (serialFormatWifiStatus kSerialResponseBufSize state.enabled state.ready
      state.networkConnected state.networkConnectFailed state.restAndWebSocket)
  else
    let dispatched := control.dispatch device parsed.2 nowMs
    dispatched.2.println (serialFormatDispatchResult kSerialResponseBufSize dispatched.1)

end Esp32Wiimote.Serial
