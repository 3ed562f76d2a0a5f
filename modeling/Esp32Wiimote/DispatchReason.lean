import Esp32Wiimote.Library.CText

/-!
# Command outcomes

The outcomes that the serial and the HTTP surface share, with the code that the
serial surface prints for each of them and the message and the status that the HTTP
surface answers with.
-/

namespace Esp32Wiimote

open CText

/-- Why a command was accepted or refused. -/
inductive CommandDispatchReason
  | Ok
  | Queued
  | NotConnected
  | Locked
  | UnknownCommand
  | BadArgument
  | BadCredentials
  | MissingArgument
  | Rejected
  | PolicyBlocked
  | ControllerNotInitialized
  | DiscoveryNotActive
  | DiscoveryAlreadyActive
  | NoActiveConnection
  | InvalidVerb
  | WifiControlDisabled
  | Unauthorized
  | NotFound
  | QueueFull
  | InternalError
  deriving DecidableEq, Repr

/-- The code of a reason in a serial answer. -/
def commandDispatchReasonToSerialCode : CommandDispatchReason → CString
  | .NotConnected => ascii "not_connected"
  | .Locked => ascii "locked"
  | .UnknownCommand => ascii "unknown_command"
  | .BadArgument => ascii "bad_argument"
  | .BadCredentials => ascii "bad_credentials"
  | .MissingArgument => ascii "missing_argument"
  | .Rejected => ascii "rejected"
  | .PolicyBlocked => ascii "policy_blocked"
  | .ControllerNotInitialized => ascii "controller_not_initialized"
  | .DiscoveryNotActive => ascii "discovery_not_active"
  | .DiscoveryAlreadyActive => ascii "discovery_already_active"
  | .NoActiveConnection => ascii "no_active_connection"
  | .InvalidVerb => ascii "invalid_verb"
  | .WifiControlDisabled => ascii "wifi_control_disabled"
  | .Unauthorized => ascii "unauthorized"
  | .NotFound => ascii "not_found"
  | .QueueFull => ascii "queue_full"
  | .Ok | .Queued | .InternalError => ascii "internal"

/-- The message of a reason in an HTTP answer. -/
def commandDispatchReasonToWebMessage : CommandDispatchReason → CString
  | .Ok => ascii "ok"
  | .Queued => ascii "accepted"
  | .NotConnected => ascii "wiimote not connected"
  | .Locked => ascii "locked"
  | .UnknownCommand => ascii "unknown command"
  | .BadArgument => ascii "invalid argument"
  | .BadCredentials => ascii "bad credentials"
  | .MissingArgument => ascii "missing argument"
  | .Rejected => ascii "command rejected"
  | .PolicyBlocked => ascii "policy blocked"
  | .ControllerNotInitialized => ascii "bluetooth controller not started"
  | .DiscoveryNotActive => ascii "discovery not active"
  | .DiscoveryAlreadyActive => ascii "discovery already active"
  | .NoActiveConnection => ascii "missing active connection handle"
  | .InvalidVerb => ascii "invalid command verb"
  | .WifiControlDisabled => ascii "wifi control is disabled"
  | .Unauthorized => ascii "unauthorized"
  | .NotFound => ascii "not found"
  | .QueueFull => ascii "command queue full"
  | .InternalError => ascii "internal error"

/-- The description of a reason in the API description. -/
def commandDispatchReasonToOpenApiDescription : CommandDispatchReason → CString
  | .Ok => ascii "OK"
  | .Queued => ascii "Accepted"
  | .NotConnected => ascii "Wiimote not connected"
  | .Locked => ascii "Forbidden"
  | .UnknownCommand | .InvalidVerb | .BadArgument | .MissingArgument => ascii "Bad request"
  | .BadCredentials | .Unauthorized => ascii "Unauthorized"
  | .Rejected => ascii "Command rejected"
  | .PolicyBlocked => ascii "Policy blocked"
  | .ControllerNotInitialized => ascii "Bluetooth controller not started"
  | .DiscoveryNotActive => ascii "Discovery not active"
  | .DiscoveryAlreadyActive => ascii "Discovery already active"
  | .NoActiveConnection => ascii "Missing active connection handle"
  | .WifiControlDisabled => ascii "Wi-Fi control is disabled"
  | .NotFound => ascii "Not found"
  | .QueueFull => ascii "Command queue full"
  | .InternalError => ascii "Internal error"

/-- The status of a reason. -/
def commandDispatchReasonToHttpStatus : CommandDispatchReason → ℕ
  | .Ok => 200
  | .Queued => 202
  | .Unauthorized | .BadCredentials => 401
  | .PolicyBlocked | .Locked => 403
  | .BadArgument | .MissingArgument | .InvalidVerb | .UnknownCommand => 400
  | .NotFound => 404
  | .QueueFull => 503
  | .InternalError => 500
  | .NotConnected | .Rejected | .ControllerNotInitialized | .DiscoveryNotActive
  | .DiscoveryAlreadyActive | .NoActiveConnection | .WifiControlDisabled => 409

/-- The two reasons that are a success. -/
def commandDispatchReasonIsSuccess (reason : CommandDispatchReason) : Bool :=
  reason == .Ok || reason == .Queued

/-! ## Messages -/

/-- The messages with a field name in them. -/
inductive CommandDispatchFieldMessage
  | MissingField
  | InvalidField
  | EmptyField
  deriving DecidableEq, Repr

/-- The text of a message about a field, and whether it fits in the buffer. -/
def commandDispatchFormatMessage (template : CommandDispatchFieldMessage) (field : CString)
    (outSize : ℕ) : Bool × CString :=
  let text := match template with
    | .MissingField => ascii "missing field: " ++ field
    | .InvalidField => ascii "invalid field: " ++ field
    | .EmptyField => field ++ ascii " must not be empty"
  let written := snprintf outSize text
  (decide (0 ≤ written.1 ∧ written.1 < outSize), written.2)

/-- The messages with a fixed text. -/
inductive CommandDispatchMessageTemplate
  | MissingRequiredField
  | InvalidRequestField
  | FieldMustNotBeEmpty
  | ResponseBufferTooSmall
  | InvalidCommandId
  | CommandNotFound
  | FailedSerializeWiimoteStatus
  | FailedSerializeRuntimeConfig
  | FailedSerializeWifiControlState
  | MissingRequestBody
  | RequestBodyTooLarge
  | MalformedRequestBody
  | UnknownScanVerb
  | UnknownDiscoveryVerb
  | InvalidWifiMode
  | WifiApiTokenMutationDisabledByPolicy
  deriving DecidableEq, Repr

/-- The text of a message. -/
def commandDispatchMessageText : CommandDispatchMessageTemplate → CString
  | .MissingRequiredField => ascii "missing required field"
  | .InvalidRequestField => ascii "invalid request field"
  | .FieldMustNotBeEmpty => ascii "field must not be empty"
  | .ResponseBufferTooSmall => ascii "response buffer too small"
  | .InvalidCommandId => ascii "invalid command id"
  | .CommandNotFound => ascii "command not found"
  | .FailedSerializeWiimoteStatus => ascii "failed to serialize wiimote status"
  | .FailedSerializeRuntimeConfig => ascii "failed to serialize runtime config"
  | .FailedSerializeWifiControlState => ascii "failed to serialize wifi control state"
  | .MissingRequestBody => ascii "missing request body"
  | .RequestBodyTooLarge => ascii "request body too large"
  | .MalformedRequestBody => ascii "malformed request body"
  | .UnknownScanVerb => ascii "unknown command verb: expected scan_start or scan_stop"
  | .UnknownDiscoveryVerb =>
    ascii "unknown command verb: expected discovery_start or discovery_stop"
  | .InvalidWifiMode => ascii "invalid field: mode (expected rest or rest-ws)"
  | .WifiApiTokenMutationDisabledByPolicy => ascii "wifi API token mutation is disabled by policy"

/-- The outcomes that count as success are those answered with a status in the 200s. -/
theorem httpStatus_success_iff (reason : CommandDispatchReason) :
    (200 ≤ commandDispatchReasonToHttpStatus reason ∧
      commandDispatchReasonToHttpStatus reason < 300) ↔
      commandDispatchReasonIsSuccess reason = true := by
  cases reason <;> decide

end Esp32Wiimote
