import Esp32Wiimote.Bluetooth.HciEffect
import Esp32Wiimote.Bluetooth.OutputReport
import Esp32Wiimote.Bluetooth.Session

/-!
# What the public commands return

A public command looks at the connection and at the table and then returns true; the protocol layer
below it drops a memory command whose size it does not accept, without a word to its caller. Once a
send callback is set the protocol objects are wired, whatever was received and called.
-/

namespace Esp32Wiimote.Bluetooth

open StateProgram TransitionRun

/-! ## Wiring -/

/-- A send callback is never set without the objects in front of it. -/
def TwWorld.CommandsWired (w : TwWorld) : Prop :=
  w.gRuntime.hciInterface.hciSendPacket = true →
    w.gRuntime.packetSender = true ∧ w.gRuntime.wiimoteProtocol.Wired

/-- Sending keeps the commands wired. -/
theorem keepsWired_sendHciPacketRaw (packet : List UInt8) :
    Within (Kept TwWorld.CommandsWired) (sendHciPacketRaw packet) := by
  refine ⟨fun w hw => ?_⟩
  rw [exec_sendHciPacketRaw]
  exact hw

instance : AclRelation (Kept TwWorld.CommandsWired) where
  noteReads _ _ := id
  noteSent _ _ _ := id
  mapRuntime w r hupper hw hcallback := by
    have hinterface : r.hciInterface = w.gRuntime.hciInterface :=
      congrArg UpperRuntime.hciInterface hupper
    have hsender : r.packetSender = w.gRuntime.packetSender := congrArg UpperRuntime.packetSender hupper
    have hprotocol : r.wiimoteProtocol = w.gRuntime.wiimoteProtocol :=
      congrArg UpperRuntime.wiimoteProtocol hupper
    rw [TwWorld.gRuntime_mapRuntime] at hcallback ⊢
    rw [hsender, hprotocol]
    exact hw (hinterface ▸ hcallback)
  detected _ _ := id

instance : EventRelation (Kept TwWorld.CommandsWired) where
  sendRaw packet _ := keepsWired_sendHciPacketRaw packet
  setContext _ _ _ := id
  noteReads _ _ := id

/-- A reset wires the protocol object anew. -/
theorem keepsWired_resetDeviceInternal : Within (Kept TwWorld.CommandsWired) resetDeviceInternal := by
  refine Within.bind (Within.modify fun _ => id) fun _ => ?_
  refine Within.bind actionEffect_hciEventsResetDevice fun _ => Within.modify fun w hw hcallback => ?_
  exact ⟨(hw hcallback).1, rfl⟩

/-- So does the end of a link, which wires nothing anew. -/
theorem keepsWired_handleDisconnectionComplete (data : BytePtr) :
    Within (Kept TwWorld.CommandsWired) (handleDisconnectionComplete callbacks data) := by
  refine Within.bind (aclEffect_readUInt16Le _) fun connectionHandle => ?_
  refine Within.bind (aclEffect_readByte ..) fun reason => actionEffect_getContext_bind fun ctx => ?_
  refine Within.ite _ (fun _ => ?_) fun _ => Within.pure _
  exact Within.bind (Within.modify fun _ => id) fun _ => keepsWired_resetDeviceInternal

/-- So does every received packet. -/
theorem keepsWired_handleHciData (data : Option (Nat → UInt8)) (len : Nat) :
    Within (Kept TwWorld.CommandsWired) (handleHciData data len) := by
  cases h : eventPacket data len with
  | none => exact aclEffect_handleHciData h
  | some packet =>
    refine ⟨fun w => ?_⟩
    rw [exec_handleHciData_of_eventPacket h]
    exact (eventEffect_hciEventsHandleEvent fun _ =>
      keepsWired_handleDisconnectionComplete packet.data).rel (w.noteReads [0, 2, 1])

/-- So does every call. -/
theorem TwCall.keepsWired_run (c : TwCall) : Within (Kept TwWorld.CommandsWired) c.run := by
  by_cases hplain : c.IsPlain
  · exact callEffect_run hplain fun packet _ => keepsWired_sendHciPacketRaw packet
  · cases c with
    | init hciInterface => exact ⟨fun _ _ _ => ⟨rfl, rfl⟩⟩
    | resetDevice => exact Within.bind keepsWired_resetDeviceInternal fun _ => Within.modify fun _ => id
    | read => exact ⟨fun _ => id⟩
    | setAutoReconnectEnabled enabled =>
      exact aclEffect_getRuntime_bind fun r =>
        Within.ite _ (fun _ => Within.pure _) fun _ => ⟨fun _ => id⟩
    | _ => exact absurd trivial hplain

/-- From power on the commands are wired wherever there is a callback to send with. -/
theorem commandsWired_runFrom (events : List TwEvent) :
    (runFrom TwWorld.step {} events).CommandsWired := by
  refine invariant_of_step (I := TwWorld.CommandsWired) (fun w e hw => ?_) ?_ events
  · have henter : (w.enter e).CommandsWired := hw
    cases haction : e.action with
    | hci data len =>
      rw [TwWorld.step, haction]
      exact (keepsWired_handleHciData data len).rel _ henter
    | call c =>
      rw [TwWorld.step, haction]
      exact c.keepsWired_run.rel _ henter
  · exact fun hcallback => absurd hcallback Bool.false_ne_true

/-! ## Results -/

/-- A controller is connected, and its channel is in the table. -/
def TwWorld.HasLink (w : TwWorld) : Prop :=
  w.isConnected = true ∧ w.gRuntime.l2capConnections.list ≠ []

namespace OutputCommand

/-- The public call that makes the command. -/
def request : OutputCommand → TwM Bool
  | setLeds command => tinyWiimoteSetLeds command.leds
  | setReportingMode command => tinyWiimoteSetReportingMode command.mode command.continuous
  | requestStatus => tinyWiimoteRequestStatus
  | writeMemory addressSpace offset data length =>
    tinyWiimoteWriteMemory addressSpace offset data length
  | readMemory addressSpace offset size => tinyWiimoteReadMemory addressSpace offset size

/-- Each of the five calls sends its command on the first connection. -/
theorem request_eq (command : OutputCommand) :
    command.request = sendOnFirstConnection fun protocol ch => command.run protocol ch := by
  cases command <;> rfl

/-- Exactly one packet was handed to the send callback, and it carries the command. -/
def HandedOver (command : OutputCommand) (before after : TwWorld) : Prop :=
  ∃ packet ch remoteCID, after.sent = before.sent ++ [packet] ∧
    before.gRuntime.l2capConnections.getRemoteCid ch = some remoteCID ∧
      command.CarriedBy ch remoteCID packet

/-- The result of the call says whether the command was handed over. -/
def Truthful (command : OutputCommand) (w : TwWorld) : Prop :=
  (exec command.request w).1 = true ↔ command.HandedOver w (exec command.request w).2

variable {w : TwWorld} {command : OutputCommand}

/-- Nothing is handed over where nothing happens. -/
theorem not_handedOver_self : ¬command.HandedOver w w := by
  rintro ⟨packet, -, -, hsent, -⟩
  simp at hsent

/-- Without a link the call is refused. -/
theorem exec_request_of_not_hasLink (h : ¬w.HasLink) :
    exec command.request w = (false, w) := by
  rw [request_eq, sendOnFirstConnection, exec_getRuntime_bind, exec_ite]
  by_cases hconnected : w.gRuntime.wiimoteState.wiimoteConnected = true
  · have hempty : w.gRuntime.l2capConnections.list = [] :=
      Decidable.not_not.mp fun hlist => h ⟨hconnected, hlist⟩
    rw [hconnected, if_neg (by decide), L2capConnectionTable.getFirstConnectionHandle, hempty]
    rfl
  · rw [Bool.not_eq_true] at hconnected
    rw [hconnected]
    rfl

/-- With one it is accepted, whatever becomes of the command. -/
theorem exec_request_of_hasLink (command : OutputCommand) (h : w.HasLink) :
    ∃ ch remoteCID, w.gRuntime.l2capConnections.getRemoteCid ch = some remoteCID ∧
      exec command.request w = (true, (exec (command.run w.gRuntime.wiimoteProtocol ch) w).2) := by
  obtain ⟨hconnected, hlist⟩ := h
  obtain ⟨connection, rest, heq⟩ := List.exists_cons_of_ne_nil hlist
  have hmem : connection.ch ∈ w.gRuntime.l2capConnections.list.map (·.ch) := by
    rw [heq]
    exact List.mem_cons_self
  obtain ⟨remoteCID, hcid⟩ := exists_remoteCid hmem
  refine ⟨connection.ch, remoteCID, hcid, ?_⟩
  have hconnected' : w.gRuntime.wiimoteState.wiimoteConnected = true := hconnected
  rw [request_eq, sendOnFirstConnection, exec_getRuntime_bind, exec_ite, hconnected',
    if_neg (by decide), L2capConnectionTable.getFirstConnectionHandle, heq]
  rfl

/-- In a wired world the result is true exactly where a link does not meet an invalid size. -/
theorem truthful_iff_of_wired (hwired : w.CommandsWired)
    (hcallback : w.gRuntime.hciInterface.hciSendPacket = true) :
    command.Truthful w ↔ (w.HasLink → command.isValid = true) := by
  by_cases hlink : w.HasLink
  · obtain ⟨ch, remoteCID, hcid, hexec⟩ := exec_request_of_hasLink command hlink
    rw [Truthful, hexec]
    simp only [true_iff, hlink, forall_const]
    cases hvalid : command.isValid with
    | true =>
      have hgoes := hwired hcallback
      rw [sent_run command hvalid hcid, if_pos ⟨hgoes.2, hgoes.1, hcallback⟩]
      exact iff_of_true ⟨_, ch, remoteCID, rfl, hcid, command.carriedBy_reportPacket ch remoteCID⟩ rfl
    | false =>
      -- the protocol layer drops the command
      have hdropped : (exec (command.run w.gRuntime.wiimoteProtocol ch) w).2 = w := by
        rw [run_eq, hvalid]
        rfl
      rw [hdropped]
      exact iff_of_false not_handedOver_self Bool.false_ne_true
  · rw [Truthful, exec_request_of_not_hasLink hlink]
    exact iff_of_true (iff_of_false Bool.false_ne_true not_handedOver_self) fun h => absurd h hlink

end OutputCommand

/-- In every state a run reaches, the result of a command is truthful exactly when its size is
accepted or there is no link to send it on. -/
theorem command_results_truthful_iff (events : List TwEvent)
    (hcallback : (runFrom TwWorld.step {} events).gRuntime.hciInterface.hciSendPacket = true)
    (command : OutputCommand) :
    command.Truthful (runFrom TwWorld.step {} events) ↔
      ((runFrom TwWorld.step {} events).HasLink → command.isValid = true) :=
  OutputCommand.truthful_iff_of_wired (commandsWired_runFrom events) hcallback

/-- A controller that reports its buttons. -/
def reportingController : List TwEvent :=
  TwAction.allAt 0 (.call (.init ⟨true⟩) :: TwAction.reportingOn 0x0040 ⟨1, 2, 3, 4, 5, 6⟩)

/-- The controller of `reportingController` is connected on a link. -/
theorem reportingController_hasLink :
    (runFrom TwWorld.step {} reportingController).gRuntime.hciInterface.hciSendPacket = true ∧
      (runFrom TwWorld.step {} reportingController).isConnected = true ∧
        (runFrom TwWorld.step {} reportingController).gRuntime.l2capConnections.list ≠ [] := by
  decide +kernel

/-- Seventeen bytes cannot be read at once, and the call says that they will be. -/
theorem command_results_not_always_truthful :
    ¬∀ (events : List TwEvent) (command : OutputCommand),
      (runFrom TwWorld.step {} events).gRuntime.hciInterface.hciSendPacket = true →
        command.Truthful (runFrom TwWorld.step {} events) := by
  intro h
  have htruthful := h reportingController (.readMemory 0x00 0x00000000 17) reportingController_hasLink.1
  rw [OutputCommand.truthful_iff_of_wired (commandsWired_runFrom _) reportingController_hasLink.1]
    at htruthful
  exact absurd (htruthful reportingController_hasLink.2) (by decide)

/-- A read of sixteen bytes is valid. -/
theorem command_results_truthful_sixteen :
    (OutputCommand.readMemory 0x00 0x00000000 16).Truthful
      (runFrom TwWorld.step {} reportingController) :=
  (command_results_truthful_iff reportingController reportingController_hasLink.1 _).mpr fun _ => rfl

end Esp32Wiimote.Bluetooth
