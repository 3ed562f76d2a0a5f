import Esp32Wiimote.Bluetooth.ControllerHistory

/-!
# To whom the host speaks

Over a whole run every packet that is handed over is a message of the host's language, and is meant
for whoever caused it: a packet that is received is answered on its own link, and what a public call
makes the host say are the arguments of the call.
-/

namespace Esp32Wiimote.Bluetooth

open StateProgram TransitionRun

/-! ## What a call says -/

/-- The output report a call asks for. -/
def TwCall.outputCommand : TwCall → Option OutputCommand
  | .requestBatteryUpdate => some .requestStatus
  | .setLeds ledMask => some (.setLeds ⟨ledMask⟩)
  | .setReportingMode mode continuous => some (.setReportingMode ⟨mode, continuous⟩)
  | .requestStatus => some .requestStatus
  | .writeMemory addressSpace offset data len => some (.writeMemory addressSpace offset data len)
  | .readMemory addressSpace offset size => some (.readMemory addressSpace offset size)
  | _ => none

/-- The commands a call gives; a disconnect is for the first link of the table. -/
inductive TwCall.Commands (links : L2capConnectionTable) : TwCall → HciCommand → Prop
  | resetDevice : Commands links .resetDevice .reset
  | setScanEnabled (enabled : Bool) :
    Commands links (.setScanEnabled enabled) (.writeScanEnable (if enabled then 0x02 else 0x00))
  | startDiscovery : Commands links .startDiscovery (.inquiry 0x9E8B33 0x08 0xFF)
  | stopDiscovery : Commands links .stopDiscovery .inquiryCancel
  | disconnect (reason : UInt8) {connectionHandle : UInt16}
    (hfirst : links.getFirstConnectionHandle = some connectionHandle) :
    Commands links (.disconnect reason) (.disconnect connectionHandle reason)

/-- The host says this in the step: an answer to what is received, or what a call asks for. An output
report goes to the first link of the table, on its channel. -/
inductive TwWorld.Says (w : TwWorld) (e : TwEvent) : HostCall → Prop
  | answer {call : HostCall} (hanswer : w.Answer e call) : Says w e call
  | asked {c : TwCall} (hcall : e.action = .call c) {command : OutputCommand}
    (hcommand : c.outputCommand = some command) {ch remoteCID : UInt16}
    (hfirst : w.gRuntime.l2capConnections.getFirstConnectionHandle = some ch)
    (hchannel : w.gRuntime.l2capConnections.getRemoteCid ch = some remoteCID) :
    Says w e (.report ch remoteCID command)
  | commanded {c : TwCall} (hcall : e.action = .call c) {command : HciCommand}
    (hcommand : c.Commands w.gRuntime.l2capConnections command) : Says w e (.hci command)

/-- The packet is said in the step, and is understood. -/
def TwWorld.Spoken (w : TwWorld) (e : TwEvent) (packet : List UInt8) : Prop :=
  ∃ call, w.Says e call ∧ call.Valid ∧ packet = call.packet ∧
    decodeHostPacket packet = some call.message

section Calls

variable {e : TwEvent} {w : TwWorld}

/-- A valid message that a step says is spoken. -/
theorem spoken_of_valid (call : HostCall) (hcall : w.Says e call) (hvalid : call.Valid) :
    w.Spoken e call.packet := ⟨call, hcall, hvalid, rfl, call.decode_packet hvalid⟩

/-- What is sent from here on is said in the step. -/
abbrev SpeaksFrom (w : TwWorld) (e : TwEvent) (x : TwM Unit) : Prop :=
  Grown TwWorld.sent (w.Spoken e) (w.enter e) (exec x (w.enter e)).2

/-- The report of a call is spoken on the first link of the table. -/
theorem spoken_outputCommand {c : TwCall} (hcall : e.action = .call c) {command : OutputCommand}
    (hcommand : c.outputCommand = some command) (protocol : WiimoteProtocol) {ch : UInt16}
    (hfirst : w.gRuntime.l2capConnections.getFirstConnectionHandle = some ch) :
    SpeaksFrom w e (command.run protocol ch) := by
  rw [SpeaksFrom, OutputCommand.run_eq, exec_ite]
  split
  next hvalid =>
    obtain ⟨packets, hexec, honly⟩ := exec_sendReport_packets protocol ch command.payload (w.enter e)
    rw [hexec]
    refine ⟨packets, rfl, fun packet hmem => ?_⟩
    obtain ⟨remoteCID, hchannel, rfl⟩ := exists_reportPacket (honly packet hmem)
    exact spoken_of_valid (.report ch remoteCID command) (.asked hcall hcommand hfirst hchannel) hvalid
  next => exact Grown.of_eq rfl

/-- A call that asks for an output report says nothing else. -/
theorem spoken_sendOnFirstConnection {c : TwCall} (hcall : e.action = .call c)
    (command : OutputCommand) (hcommand : c.outputCommand = some command) :
    SpeaksFrom w e (discard (sendOnFirstConnection fun protocol ch => command.run protocol ch)) := by
  rw [SpeaksFrom, exec_discard, sendOnFirstConnection, exec_getRuntime_bind, exec_ite]
  split
  · exact Grown.of_eq rfl
  · cases hfirst : (w.enter e).gRuntime.l2capConnections.getFirstConnectionHandle with
    | none => exact Grown.of_eq rfl
    | some ch => exact spoken_outputCommand hcall hcommand _ hfirst

/-- An assignment to the context sends nothing. -/
theorem spoken_modifyContext (f : HciEventContext → HciEventContext) :
    Within (Grown TwWorld.sent (w.Spoken e)) (modifyContext f) := ⟨fun _ => Grown.of_eq rfl⟩

/-- The command of a call is spoken. -/
theorem spoken_command {c : TwCall} (hcall : e.action = .call c) {command : HciCommand}
    (hcommand : c.Commands w.gRuntime.l2capConnections command) (hvalid : command.Valid) :
    Within (Grown TwWorld.sent (w.Spoken e)) (sendHciPacketRaw command.encode) :=
  grown_sendHciPacketRaw (spoken_of_valid (.hci command) (.commanded hcall hcommand) hvalid)

/-- A command is sent and noted in the event context. -/
theorem spoken_commanded {c : TwCall} (hcall : e.action = .call c) {command : HciCommand}
    (hcommand : c.Commands w.gRuntime.l2capConnections command) (hvalid : command.Valid)
    (f : HciEventContext → HciEventContext) :
    Within (Grown TwWorld.sent (w.Spoken e)) (do
      sendHciPacketRaw command.encode
      modifyContext f
      return true : TwM Bool) :=
  Within.bind (spoken_command hcall hcommand hvalid) fun _ =>
    Within.bind (spoken_modifyContext f) fun _ => Within.pure _

/-- What a call says is what it names. -/
theorem spoken_call {c : TwCall} (hcall : e.action = .call c) : SpeaksFrom w e c.run := by
  cases c with
  | init hciInterface => exact Grown.of_eq rfl
  | resetDevice =>
    refine Within.rel ?_ (w.enter e)
    refine Within.bind (Within.bind ⟨fun _ => Grown.of_eq rfl⟩ fun _ => ?_) fun _ =>
      spoken_modifyContext _
    refine Within.bind ?_ fun _ => ⟨fun _ => Grown.of_eq rfl⟩
    refine Within.bind (spoken_modifyContext _) fun _ => Within.bind (spoken_modifyContext _) fun _ => ?_
    exact actionEffect_getContext_bind fun _ => Within.ite _
      (fun _ => spoken_command hcall .resetDevice trivial) fun _ => Within.pure _
  | requestBatteryUpdate => exact spoken_sendOnFirstConnection hcall .requestStatus rfl
  | setLeds ledMask => exact spoken_sendOnFirstConnection hcall (.setLeds ⟨ledMask⟩) rfl
  | setReportingMode mode continuous =>
    exact spoken_sendOnFirstConnection hcall (.setReportingMode ⟨mode, continuous⟩) rfl
  | requestStatus => exact spoken_sendOnFirstConnection hcall .requestStatus rfl
  | writeMemory addressSpace offset data len =>
    exact spoken_sendOnFirstConnection hcall (.writeMemory addressSpace offset data len) rfl
  | readMemory addressSpace offset size =>
    exact spoken_sendOnFirstConnection hcall (.readMemory addressSpace offset size) rfl
  | read => exact Grown.of_eq rfl
  | reqAccelerometer use => exact Grown.of_eq rfl
  | setFastReconnectTtlMs ttlMs => exact Grown.of_eq rfl
  | setScanEnabled enabled =>
    refine Within.rel ?_ (w.enter e)
    refine aclEffect_getRuntime_bind fun r => Within.ite _ (fun _ => Within.pure _) fun _ => ?_
    refine Within.ite _ (fun _ => Within.pure _) fun _ => ?_
    exact Within.bind (spoken_command hcall (.setScanEnabled enabled) trivial) fun _ =>
      spoken_modifyContext _
  | startDiscovery =>
    refine Within.rel ?_ (w.enter e)
    refine Within.discard (aclEffect_getRuntime_bind fun r => ?_)
    refine Within.ite _ (fun _ => Within.pure _) fun _ => Within.ite _ (fun _ => Within.pure _) fun _ => ?_
    refine Within.ite _ (fun _ => Within.pure _) fun _ => ?_
    exact spoken_commanded hcall .startDiscovery (show 0x9E8B33 < 2 ^ 24 by decide) _
  | stopDiscovery =>
    refine Within.rel ?_ (w.enter e)
    refine Within.discard (aclEffect_getRuntime_bind fun r => ?_)
    refine Within.ite _ (fun _ => Within.pure _) fun _ => Within.ite _ (fun _ => Within.pure _) fun _ => ?_
    refine Within.ite _ (fun _ => Within.pure _) fun _ => ?_
    exact spoken_commanded hcall .stopDiscovery trivial _
  | disconnect reason =>
    rw [SpeaksFrom, TwCall.run, exec_discard, tinyWiimoteDisconnect, exec_getRuntime_bind]
    refine Within.rel ?_ (w.enter e)
    refine Within.ite _ (fun _ => Within.pure _) fun _ => Within.ite _ (fun _ => Within.pure _) fun _ => ?_
    cases hfirst : (w.enter e).gRuntime.l2capConnections.getFirstConnectionHandle with
    | none => exact Within.pure _
    | some connectionHandle =>
      have hlinked : TwCall.Commands w.gRuntime.l2capConnections (.disconnect reason)
          (.disconnect connectionHandle reason) := .disconnect reason hfirst
      exact Within.bind (spoken_command hcall hlinked trivial) fun _ => Within.pure _
  | setAutoReconnectEnabled enabled =>
    refine Within.rel ?_ (w.enter e)
    refine aclEffect_getRuntime_bind fun r => Within.ite _ (fun _ => Within.pure _) fun _ => ?_
    exact spoken_modifyContext _
  | clearReconnectCache =>
    refine Within.rel ?_ (w.enter e)
    refine aclEffect_getRuntime_bind fun r => Within.ite _ (fun _ => Within.pure _) fun _ => ?_
    exact spoken_modifyContext _

end Calls

/-! ## Runs -/

section Runs

variable {w : TwWorld} {e : TwEvent}

/-- A received packet is answered, if at all, on its own link. -/
theorem spoken_received (hw : w.hearsDisconnects) (hc : w.controller.Coherent)
    {data : Option (Nat → UInt8)} {len : Nat} (he : e.action = .hci data len) :
    ∀ packet ∈ (w.step e).sent, w.Spoken e packet := by
  intro packet hmem
  by_cases hreport : ∃ frame ∈ e.frame, frame.IsReport
  · obtain ⟨frame, hframe, hreport⟩ := hreport
    obtain ⟨remoteCID, command, hchannel, hanswer, rfl, -⟩ :=
      exists_call_of_asks (asks_of_frame hc hframe hreport packet hmem)
    exact spoken_of_valid (.report frame.connectionHandle remoteCID command)
      (.answer (.report hframe hreport hchannel hanswer)) hanswer.valid
  by_cases hended : e.IsDisconnectionComplete
  · obtain ⟨event, hevent, -⟩ := id hended
    rw [(controller_of_disconnection hended hw).2 packet hmem]
    exact spoken_of_valid (.hci .reset) (.answer (.command .reset hevent)) trivial
  · have hunnoticed := unnoticed_step (w := w) he (fun event hevent hcode => hended ⟨event, hevent, hcode⟩)
      fun _ frame hframe hreported => hreport ⟨frame, hframe, hreported⟩
    obtain ⟨call, hanswer, hvalid, rfl, -⟩ :=
      hunnoticed.sent.forall_mem (fun _ h => absurd h List.not_mem_nil) packet hmem
    exact spoken_of_valid _ (.answer hanswer) hvalid

/-- Every packet of a step is spoken. -/
theorem spoken_step (hw : w.hearsDisconnects) (hc : w.controller.Coherent) (e : TwEvent) :
    ∀ packet ∈ (w.step e).sent, w.Spoken e packet := by
  cases haction : e.action with
  | hci data len => exact spoken_received hw hc haction
  | call c =>
    intro packet hmem
    rw [TwWorld.step, haction] at hmem
    exact (spoken_call haction).forall_mem (fun _ h => absurd h List.not_mem_nil) packet hmem

end Runs

/-- In every run each packet that is handed over is a valid message that decodes to what was meant. A
received event is answered by commands, or by opening the channel of a new link; a received frame on
its own link, by what its kind asks for and, for an input report, by what the handshake calls for; and
a call is followed by what it names, on the first link of the table. -/
theorem packets_are_spoken (w : TwWorld) (hciInterface : TwHciInterface) (events : List TwEvent)
    (e : TwEvent) (packet : List UInt8)
    (hmem : packet ∈ ((runFrom TwWorld.step (w.afterInit hciInterface) events).step e).sent) :
    (runFrom TwWorld.step (w.afterInit hciInterface) events).Spoken e packet := by
  obtain ⟨hhears, hcoherent⟩ := hears_coherent_runFrom w hciInterface events
  exact spoken_step hhears hcoherent e packet hmem

/-- The first report of a controller is answered with its player light. -/
theorem player_light_is_spoken :
    (runFrom TwWorld.step (({} : TwWorld).afterInit ⟨true⟩)
      (TwAction.allAt 0 [.channelOpened 0x000B 0x0041])).Spoken ⟨.buttons 0x000B, 0, 2⟩
        (reportPacket 0x000B 0x0041 [0xA2, 0x11, 0x10]) :=
  packets_are_spoken {} ⟨true⟩ (TwAction.allAt 0 [.channelOpened 0x000B 0x0041]) ⟨.buttons 0x000B, 0, 2⟩
    _ (by decide +kernel)

end Esp32Wiimote.Bluetooth
