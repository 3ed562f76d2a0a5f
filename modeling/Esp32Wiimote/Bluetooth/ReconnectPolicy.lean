import Esp32Wiimote.Bluetooth.HciEffect

/-!
# Who sets the reconnect policy

`autoReconnectEnabled` is set when the event context is initialised, and by the call meant
for it once the controller is initialised. No received packet changes it, and no other call
does.
-/

namespace Esp32Wiimote.Bluetooth

open StateProgram

/-- The reconnect policy the event handlers apply. -/
abbrev TwWorld.policy (w : TwWorld) : Bool := w.gRuntime.hciEventContext.autoReconnectEnabled

/-- The program does not set the reconnect policy. -/
abbrev KeepsPolicy {α : Type} (x : TwM α) : Prop := Within (Same TwWorld.policy) x

/-- Sending keeps the policy. -/
theorem keepsPolicy_sendHciPacketRaw (packet : List UInt8) :
    KeepsPolicy (sendHciPacketRaw packet) := by
  refine ⟨fun w => ?_⟩
  rw [exec_sendHciPacketRaw]
  rfl

instance : AclRelation (Same TwWorld.policy) where
  noteReads _ _ := rfl
  noteSent _ _ _ := rfl
  mapRuntime _ _ hupper :=
    congrArg HciEventContext.autoReconnectEnabled (congrArg UpperRuntime.hciEventContext hupper)
  detected _ _ := rfl

instance : ResetRelation (Same TwWorld.policy) where
  sendRaw packet _ := keepsPolicy_sendHciPacketRaw packet
  setContext _ _ hf := hf
  setLinkLayer _ _ hctx _ := congrArg HciEventContext.autoReconnectEnabled hctx

instance : EventRelation (Same TwWorld.policy) where
  noteReads _ _ := rfl

/-- So does every packet received. -/
theorem keepsPolicy_handleHciData (data : Option (Nat → UInt8)) (len : Nat) :
    KeepsPolicy (handleHciData data len) := eventEffect_handleHciData data len

/-! ## Calls -/

/-- The call can set the reconnect policy. -/
def TwCall.setsPolicy : TwCall → Bool
  | .init _ | .setAutoReconnectEnabled _ => true
  | _ => false

/-- Only two of the calls can set the policy. -/
theorem TwCall.keepsPolicy_run {c : TwCall} (h : c.setsPolicy = false) : KeepsPolicy c.run := by
  by_cases hplain : c.IsPlain
  · exact callEffect_run hplain fun packet _ => keepsPolicy_sendHciPacketRaw packet
  · cases c with
    | init hciInterface => exact Bool.noConfusion h
    | setAutoReconnectEnabled enabled => exact Bool.noConfusion h
    | resetDevice =>
      exact Within.bind actionEffect_resetDeviceInternal fun _ =>
        actionEffect_modifyContext fun _ => rfl
    | read => exact ⟨fun _ => rfl⟩
    | _ => exact absurd trivial hplain

/-- The policy is set once the controller is initialised, and the call is rejected before. -/
theorem policy_tinyWiimoteSetAutoReconnectEnabled (enabled : Bool) (w : TwWorld) :
    (exec (tinyWiimoteSetAutoReconnectEnabled enabled) w).2.policy =
      if w.gRuntime.hciEventContext.deviceInited then enabled else w.policy := by
  unfold tinyWiimoteSetAutoReconnectEnabled
  rw [exec_getRuntime_bind, exec_ite]
  cases w.gRuntime.hciEventContext.deviceInited <;> rfl

/-- Before the device is initialised the policy is not set. -/
theorem policy_of_not_deviceInited (enabled : Bool) {w : TwWorld}
    (h : w.gRuntime.hciEventContext.deviceInited = false) :
    (exec (tinyWiimoteSetAutoReconnectEnabled enabled) w).2.policy = w.policy := by
  rw [policy_tinyWiimoteSetAutoReconnectEnabled, h, if_neg Bool.false_ne_true]

end Esp32Wiimote.Bluetooth
