import Esp32Wiimote.Bluetooth.AttemptState
import Esp32Wiimote.Bluetooth.CommandLedger
import Esp32Wiimote.Library.FirstSeen

/-!
# Whether an inquiry starts afresh

A device is asked for its name when it is noted, so an inquiry that starts with an empty list asks each
Wiimote it finds once. Two of the places that start an inquiry clear the list. A discovery the user
starts does not: what was listed before it is not asked again.
-/

namespace Esp32Wiimote.Bluetooth

open StateProgram TransitionRun

/-! ## What an inquiry reports -/

/-- The responses an Inquiry Result announces. -/
def HciEventPacket.responses (packet : HciEventPacket) : List BytePtr :=
  (List.range (packet.data.at 0).toNat).map (inquiryResponse packet.data)

/-- An Inquiry Result that declares all of its responses. -/
def HciEventPacket.CompleteResult (packet : HciEventPacket) : Prop :=
  packet.eventCode = kHciInquiryResultEvt ∧
    1 + inquiryResponseSize * (packet.data.at 0).toNat ≤ packet.len.toNat

instance (packet : HciEventPacket) : Decidable packet.CompleteResult := inferInstanceAs (Decidable (_ ∧ _))

/-- The responses of a complete Inquiry Result. -/
def TwEvent.responses (e : TwEvent) : List BytePtr :=
  match e.dispatched with
  | some packet => if packet.CompleteResult then packet.responses else []
  | none => []

/-- The event is no Inquiry Result that is cut short. -/
def TwEvent.ReportsWhole (e : TwEvent) : Prop :=
  ∀ packet ∈ e.dispatched, packet.eventCode = kHciInquiryResultEvt → packet.CompleteResult

instance (e : TwEvent) : Decidable e.ReportsWhole := inferInstanceAs (Decidable (∀ packet ∈ _, _ → _))

/-- The class of device in a response is that of a Wiimote. -/
def BytePtr.describesWiimote (response : BytePtr) : Bool := (response + 9).startsWith wiimoteClassOfDevice

/-! ## What a run hands over -/

/-- The packets a run hands to the callbacks. -/
def TwWorld.handedOver (w : TwWorld) : List TwEvent → List (List UInt8)
  | [] => []
  | e :: rest => (w.step e).sent ++ (w.step e).handedOver rest

/-- The addresses the Remote Name Requests among the packets are for. -/
def namesRequested (packets : List (List UInt8)) : List BdAddrT :=
  packets.filterMap fun packet =>
    if commandOpcode packet = some kHciOpcodeRemoteNameRequest then some (commandBdAddr packet) else none

namespace TwWorld

/-- The step hands an Inquiry to the send callback. -/
def StartsInquiry (w : TwWorld) (e : TwEvent) : Prop :=
  ∃ packet ∈ (w.step e).sent, commandOpcode packet = some kHciOpcodeInquiry

/-- The results of an inquiry end with the next Inquiry or Reset. A new start is the end of them too. -/
def EndsResults (w : TwWorld) (e : TwEvent) : Prop :=
  match e.action with
  | .call (.init _) => True
  | _ => ∃ packet ∈ (w.step e).sent, commandOpcode packet = some kHciOpcodeInquiry ∨
      commandOpcode packet = some kHciOpcodeReset

/-- Of the first 16 devices that are reported, every Wiimote is asked for its name exactly once. -/
def AsksNames (w : TwWorld) (results : List TwEvent) : Prop :=
  let responses := results.flatMap TwEvent.responses
  ∀ bdAddr ∈ FirstSeen.firstKeys 16 BytePtr.bdAddrAt responses,
    FirstSeen.firstWanted BytePtr.bdAddrAt BytePtr.describesWiimote responses bdAddr = true →
      (namesRequested (w.handedOver results)).count bdAddr = 1

/-- If the step starts an inquiry, nothing is listed after it, and the Wiimotes among what the inquiry
reports are asked for their names. -/
def InquiryFresh (w : TwWorld) (e : TwEvent) (after : List TwEvent) : Prop :=
  w.StartsInquiry e → (w.step e).gRuntime.hciEventContext.scannedDevices = .empty ∧
    ∀ results, results <+: after → EveryStep (fun w e => ¬w.EndsResults e) step (w.step e) results →
      (w.step e).AsksNames results

/-- Every inquiry that a run starts is fresh. -/
def InquiriesFresh (w : TwWorld) (events : List TwEvent) : Prop :=
  ∀ before e after, events = before ++ e :: after → (runFrom step w before).InquiryFresh e after

/-- A discovery that is accepted. -/
def acceptsDiscovery (w : TwWorld) : Bool :=
  w.gRuntime.hciEventContext.deviceInited && !w.isConnected && !w.gRuntime.hciEventContext.scanningEnabled

/-- An accepted `tinyWiimoteStartDiscovery` with a send callback finds no device listed. -/
def DiscoversAfresh (w : TwWorld) (e : TwEvent) : Prop :=
  match e.action with
  | .call .startDiscovery => w.acceptsDiscovery = true → w.gRuntime.hciInterface.hciSendPacket = true →
      w.gRuntime.hciEventContext.scannedDevices = .empty
  | _ => True

instance (w : TwWorld) (e : TwEvent) : Decidable (w.StartsInquiry e) :=
  inferInstanceAs (Decidable (∃ packet ∈ _, _))

instance (w : TwWorld) (e : TwEvent) : Decidable (w.DiscoversAfresh e) :=
  match e with
  | ⟨.hci .., _, _⟩ => .isTrue trivial
  | ⟨.call c, _, _⟩ => by
    cases c with
    | startDiscovery => exact inferInstanceAs (Decidable (_ → _ → _))
    | _ => exact .isTrue trivial

end TwWorld

/-! ## Reactions -/

/-- The responses a step handles. -/
def AttemptInput.responses : AttemptInput → List BytePtr
  | .reported data => (List.range (data.at 0).toNat).map (inquiryResponse data)
  | _ => []

/-- The names asked for by two lists of packets are those of the first and then of the second. -/
theorem namesRequested_append (first second : List (List UInt8)) :
    namesRequested (first ++ second) = namesRequested first ++ namesRequested second := List.filterMap_append

/-- No packet asks for no name. -/
@[simp] theorem namesRequested_nil : namesRequested [] = [] := rfl

/-- Packets without a Remote Name Request ask for no name. -/
theorem namesRequested_of_other {packets : List (List UInt8)}
    (hother : ∀ packet ∈ packets, commandOpcode packet ≠ some kHciOpcodeRemoteNameRequest) :
    namesRequested packets = [] := by
  refine List.filterMap_eq_nil_iff.mpr fun packet hmem => ?_
  exact if_neg (hother packet hmem)

/-- A Remote Name Request asks for the name of its own address. -/
theorem namesRequested_makeCmdRemoteNameRequest (params : HciRemoteNameRequestParams) :
    namesRequested [makeCmdRemoteNameRequest params] = [params.bdAddr] := by
  simp only [namesRequested, List.filterMap_cons, commandOpcode_makeCmdRemoteNameRequest, if_true,
    List.filterMap_nil]
  rfl

/-- Only the commands among the packets matter. -/
theorem namesRequested_filter (packets : List (List UInt8)) :
    namesRequested (packets.filter IsCommand) = namesRequested packets := by
  rw [namesRequested, List.filterMap_filter]
  congr
  funext packet
  cases hop : commandOpcode packet <;> simp [IsCommand, hop]

namespace ScannedDevices

variable (devices : ScannedDevices)

/-- The addresses of the listed devices. -/
def bdAddrs : List BdAddrT := devices.entries.map (·.bdAddr)

/-- A device is found in the list exactly when its address is there. -/
theorem isSome_findScannedDevice (bdAddr : BdAddrT) :
    (devices.findScannedDevice bdAddr).isSome ↔ bdAddr ∈ devices.bdAddrs := by
  simp [findScannedDevice, bdAddrs]

/-- The list has room for 16 devices. -/
theorem addScannedDevice_cases (scanned : HciScannedDevice) :
    devices.addScannedDevice scanned = none ∧ 16 ≤ devices.bdAddrs.length ∨
      ∃ devices', devices.addScannedDevice scanned = some devices' ∧ ¬16 ≤ devices.bdAddrs.length ∧
        devices'.bdAddrs = devices.bdAddrs ++ [scanned.bdAddr] := by
  simp only [addScannedDevice, bdAddrs, List.length_map]
  split
  next hroom => exact .inr ⟨_, rfl, Nat.not_le.mpr hroom, List.map_append⟩
  next hfull => exact .inl ⟨rfl, Nat.not_lt.mp hfull⟩

end ScannedDevices

namespace Host

/-- The devices that are listed, and the names requested in this step. -/
def notes (h : Host) : FirstSeen.Notes BdAddrT :=
  ⟨h.context.scannedDevices.bdAddrs, namesRequested h.commands⟩

section Notes

variable {h : Host}

/-- One response is noted as the first-seen list notes it. -/
theorem notes_inquiryResponse (hw : h.Wired) (response : BytePtr) : (h.inquiryResponse response).notes =
    FirstSeen.note 16 BytePtr.bdAddrAt BytePtr.describesWiimote h.notes response := by
  have hlisted := h.context.scannedDevices.isSome_findScannedDevice response.bdAddrAt
  rw [inquiryResponse, FirstSeen.note]
  by_cases hseen : response.bdAddrAt ∈ h.context.scannedDevices.bdAddrs
  · rw [if_pos (hlisted.mpr hseen), if_pos (.inl hseen)]
  rw [if_neg (mt hlisted.mp hseen)]
  obtain ⟨hadd, hfull⟩ | ⟨devices, hadd, hroom, hbdAddrs⟩ :=
    h.context.scannedDevices.addScannedDevice_cases response.scannedAt
  · rw [hadd, if_pos (.inr hfull)]
  -- the device is listed, and asked for its name if it is a Wiimote
  have hnew : ¬(response.bdAddrAt ∈ h.notes.noted ∨ 16 ≤ h.notes.noted.length) :=
    not_or.mpr ⟨hseen, hroom⟩
  rw [hadd, if_neg hnew]
  have hclass : (response + 9).startsWith wiimoteClassOfDevice = response.describesWiimote := rfl
  simp only [hclass]
  by_cases hwiimote : response.describesWiimote = true
  · have hnoted : (h.update fun ctx => { ctx with scannedDevices := devices }).Wired :=
      hw.moves (.single (.scanned h devices) : Moves true _ _)
    rw [if_pos hwiimote, if_pos hwiimote, hnoted.send]
    simp [notes, record, hbdAddrs, namesRequested_append, namesRequested_makeCmdRemoteNameRequest,
      BytePtr.scannedAt]
  · rw [if_neg hwiimote, if_neg hwiimote]
    simp [notes, hbdAddrs, BytePtr.scannedAt]

/-- So are the responses of a whole result, one after the other. -/
theorem notes_inquiryResponses (hw : h.Wired) (data : BytePtr) (num : Nat) :
    (h.inquiryResponses data num).notes = FirstSeen.noteAll 16 BytePtr.bdAddrAt BytePtr.describesWiimote h.notes
      ((List.range num).map (Bluetooth.inquiryResponse data)) := by
  induction num with
  | zero => rfl
  | succ num ih =>
    have hw' : (h.inquiryResponses data num).Wired :=
      hw.moves (moves_inquiryResponses h data num : Moves true _ _)
    rw [inquiryResponses, notes_inquiryResponse hw', ih, List.range_succ, List.map_append,
      FirstSeen.noteAll_append, List.map_singleton, FirstSeen.noteAll_singleton]

end Notes

end Host

section Steps

variable {h : Host} {w : TwWorld} {e : TwEvent}

/-- Only a reported result has responses. -/
theorem responses_eq_nil {input : AttemptInput} (hreported : ∀ data, input ≠ .reported data) :
    input.responses = [] := by
  cases input with
  | reported data => exact absurd rfl (hreported data)
  | _ => rfl

/-- The responses of an event are those of an Inquiry Result, and none otherwise. -/
theorem responses_attemptEvent (h : Host) (packet : HciEventPacket) : (h.attemptEvent packet).responses =
    if packet.eventCode = kHciInquiryResultEvt then packet.responses else [] := by
  by_cases hresult : packet.eventCode = kHciInquiryResultEvt
  · have hreported : h.attemptEvent packet = .reported packet.data := by
      rw [Host.attemptEvent, hresult]
      rfl
    rw [if_pos hresult, hreported]
    rfl
  · rw [if_neg hresult]
    refine responses_eq_nil fun data hreported => hresult ?_
    have hevent := h.eventInput_attemptEvent packet
    rw [hreported] at hevent
    exact hevent

/-- Where Inquiry Results are complete, a step handles the responses of its event. -/
theorem responses_attemptInput (hwhole : e.ReportsWhole) (h : Host) (w : TwWorld) :
    (h.attemptInput (w.hostInput e)).responses = e.responses := by
  obtain ⟨action, millis, logLevel⟩ := e
  cases action with
  | call c =>
    refine responses_eq_nil fun data hreported => ?_
    have hcall := h.callInput_attemptInput c w.gRuntime.l2capConnections.getFirstConnectionHandle
    rw [show h.attemptInput (.call c _) = .reported data from hreported] at hcall
    exact hcall
  | hci data len =>
    simp only [TwEvent.responses]
    cases hdispatched : TwEvent.dispatched ⟨.hci data len, millis, logLevel⟩ with
    | some packet =>
      rw [hostInput_of_dispatched hdispatched, Host.attemptInput, responses_attemptEvent]
      by_cases hresult : packet.eventCode = kHciInquiryResultEvt
      · simp only [hresult, if_true, hwhole packet hdispatched hresult]
      · have hnot : ¬packet.CompleteResult := fun hcomplete => hresult hcomplete.1
        simp only [hresult, hnot, if_false]
    | none =>
      have hnone : eventPacket data len = none := hdispatched
      simp only [TwWorld.hostInput, hnone]
      split <;> rfl

/-- The list is initialised by `TinyWiimoteInit` and by nothing else. -/
theorem initialised_iff (h : Host) (input : HostInput) : h.attemptInput input = .initialised ↔
    ∃ i handle, input = .call (.init i) handle := by
  constructor
  · intro hinput
    cases input with
    | event packet =>
      have hevent := h.eventInput_attemptEvent packet
      rw [show h.attemptEvent packet = .initialised from hinput] at hevent
      exact hevent.elim
    | call c handle =>
      have hcall := h.callInput_attemptInput c handle
      rw [hinput] at hcall
      obtain ⟨i, rfl⟩ := hcall
      exact ⟨i, handle, rfl⟩
    | _ => cases hinput
  · rintro ⟨i, handle, rfl⟩
    rfl

/-- A step that neither searches nor resets lists the devices it is told of, and asks the Wiimotes among
them for their names. -/
theorem notes_react (hw : h.Wired) (hcommands : h.commands = []) {input : HostInput}
    (hin : ∀ i handle, input ≠ .call (.init i) handle)
    (hends : ∀ packet ∈ (h.react input).commands, commandOpcode packet ≠ some kHciOpcodeInquiry ∧
      commandOpcode packet ≠ some kHciOpcodeReset) :
    (h.react input).notes = FirstSeen.noteAll 16 BytePtr.bdAddrAt BytePtr.describesWiimote h.notes
      (h.attemptInput input).responses := by
  have hreacts := reacts_react h hw.listens input
  by_cases hreported : ∃ data, h.attemptInput input = .reported data
  · obtain ⟨data, hinput⟩ := hreported
    obtain ⟨-, hdevices, hhanded⟩ := hreacts
    rw [hinput] at hdevices hhanded
    rw [hinput, AttemptInput.responses, ← Host.notes_inquiryResponses hw, Host.notes, Host.notes,
      show (h.react input).context.scannedDevices = _ from hdevices,
      show (h.react input).commands = _ from hhanded]
    rfl
  · have hother : ∀ data, h.attemptInput input ≠ .reported data := fun data hinput => hreported ⟨data, hinput⟩
    have hdevices : (h.react input).context.scannedDevices = h.context.scannedDevices := by
      refine hreacts.devices.trans (devicesAfter_of_quiet (fun packet hmem => ?_) (fun hinput => ?_) hother)
      · exact hends packet (hreacts.mem_of_searchCommands (by rwa [hw.given]))
      · obtain ⟨i, handle, hinit⟩ := (initialised_iff h input).mp hinput
        exact hin i handle hinit
    have hnames : namesRequested (h.react input).commands = [] := by
      refine namesRequested_of_other fun packet hmem hop => ?_
      obtain hsearch | hunrelated | ⟨-, hdata⟩ := hreacts.mem_commands hcommands hmem
      · exact not_name_of_mem_searchCommands (Host.mem_given hsearch).2 hop
      · exact hunrelated.2 hop
      · exact hreported hdata
    rw [responses_eq_nil hother, FirstSeen.noteAll_nil, Host.notes, Host.notes, hdevices, hnames, hcommands,
      namesRequested_nil]

/-- Where an Inquiry is handed over the list is empty, unless the user starts a discovery. -/
theorem react_of_inquiry (hl : h.Listens) (hcommands : h.commands = []) {input : HostInput}
    {packet : List UInt8} (hmem : packet ∈ (h.react input).commands)
    (hop : commandOpcode packet = some kHciOpcodeInquiry) :
    h.callback = true ∧ h.attemptInput input ≠ .initialised ∧
      (h.attemptInput input = .superseded .discovery ∨ (h.react input).context.scannedDevices = .empty) := by
  have hreacts := reacts_react h hl input
  obtain hsearch | hunrelated | ⟨hname, -⟩ := hreacts.mem_commands hcommands hmem
  · obtain ⟨hcallback, hcommand⟩ := Host.mem_given hsearch
    refine ⟨hcallback, fun hinput => ?_, ?_⟩
    · rw [hinput] at hcommand
      cases hcommand
    · exact (devicesAfter_of_inquiry hcommand hop).imp_right hreacts.devices.trans
  · exact absurd (.inl hop) hunrelated.1
  · exact absurd (hop.symm.trans hname) (by decide)

/-! ## Steps of the runtime -/

namespace TwWorld

/-- A step that is no `TinyWiimoteInit` is none for the host either. -/
theorem hostInput_ne_init (hnew : ∀ i, e.action ≠ .call (.init i)) (i : TwHciInterface)
    (handle : Option UInt16) : w.hostInput e ≠ .call (.init i) handle := fun hinput => hnew i (hostInput_call hinput)

/-- A step that does not end the results is no `TinyWiimoteInit` and sends neither Inquiry nor
Reset. -/
theorem not_endsResults (h : ¬w.EndsResults e) : (∀ i, e.action ≠ .call (.init i)) ∧
    ∀ packet ∈ (w.step e).sent, commandOpcode packet ≠ some kHciOpcodeInquiry ∧
      commandOpcode packet ≠ some kHciOpcodeReset := by
  have hnew : ∀ i, e.action ≠ .call (.init i) := by
    intro i hinit
    rw [EndsResults, hinit] at h
    exact h trivial
  refine ⟨hnew, fun packet hmem => not_or.mp fun hop => h ?_⟩
  rw [EndsResults]
  split
  · trivial
  · exact ⟨packet, hmem, hop⟩

/-- A step that does not end the results notes the responses it hears and nothing else. -/
theorem notes_host_step (hw : w.host.Wired) (hwhole : e.ReportsWhole) (hends : ¬w.EndsResults e) :
    (w.step e).host.notes = FirstSeen.noteAll 16 BytePtr.bdAddrAt BytePtr.describesWiimote
      ⟨w.gRuntime.hciEventContext.scannedDevices.bdAddrs, []⟩ e.responses := by
  obtain ⟨hnew, hquiet⟩ := not_endsResults hends
  have hhost := host_step w e
  rw [hhost, ← responses_attemptInput hwhole (w.host.enter e.millis) w]
  refine notes_react (hw.enter e.millis) rfl (hostInput_ne_init hnew) fun packet hmem => ?_
  have hsent : packet ∈ (w.step e).host.commands := by
    rw [hhost]
    exact hmem
  exact hquiet packet (List.mem_of_mem_filter hsent)

/-- The host stays wired through every step that is no `TinyWiimoteInit`. -/
theorem wired_step_of_not_init (hw : w.host.Wired) (hnew : ∀ i, e.action ≠ .call (.init i)) :
    (w.step e).host.Wired := by
  rw [host_step]
  refine hw.step e.millis fun hunwires => ?_
  cases hinput : w.hostInput e with
  | call c handle =>
    rw [hinput] at hunwires
    cases c with
    | init i => exact hostInput_ne_init hnew i handle hinput
    | _ => exact hunwires
  | _ =>
    rw [hinput] at hunwires
    exact hunwires

/-- While the results of an inquiry come in, the names requested are those of the notes. -/
theorem namesRequested_handedOver {results : List TwEvent} (hw : w.host.Wired)
    (hwhole : ∀ e ∈ results, e.ReportsWhole)
    (hrun : EveryStep (fun w e => ¬w.EndsResults e) step w results) :
    namesRequested (w.handedOver results) = (FirstSeen.noteAll 16 BytePtr.bdAddrAt BytePtr.describesWiimote
      ⟨w.gRuntime.hciEventContext.scannedDevices.bdAddrs, []⟩
      (results.flatMap TwEvent.responses)).requested := by
  induction results generalizing w with
  | nil => rfl
  | cons e rest ih =>
    have hnotes := notes_host_step hw (hwhole e List.mem_cons_self) hrun.1
    have hrest := ih (wired_step_of_not_init hw (not_endsResults hrun.1).1)
      (fun e' he => hwhole e' (List.mem_cons_of_mem e he)) hrun.2
    have hsent : (w.step e).host.notes =
        ⟨(w.step e).gRuntime.hciEventContext.scannedDevices.bdAddrs, namesRequested (w.step e).sent⟩ :=
      congrArg (FirstSeen.Notes.mk _) (namesRequested_filter _)
    rw [handedOver, namesRequested_append, hrest, List.flatMap_cons, FirstSeen.noteAll_append, ← hnotes,
      hsent, FirstSeen.noteAll_requested _ (namesRequested (w.step e).sent)]

/-- From an empty list on, every Wiimote is asked for its name once. -/
theorem asksNames {results : List TwEvent} (hw : w.host.Wired)
    (hempty : w.gRuntime.hciEventContext.scannedDevices = .empty) (hwhole : ∀ e ∈ results, e.ReportsWhole)
    (hrun : EveryStep (fun w e => ¬w.EndsResults e) step w results) : w.AsksNames results := by
  intro bdAddr hfirst hwiimote
  rw [namesRequested_handedOver hw hwhole hrun, hempty]
  exact FirstSeen.count_requested hfirst hwiimote

/-! ## Inquiries -/

/-- A step starts an inquiry exactly when the host hands one out. -/
theorem exists_inquiry_iff : w.StartsInquiry e ↔
    ∃ packet ∈ ((w.host.enter e.millis).react (w.hostInput e)).commands,
      commandOpcode packet = some kHciOpcodeInquiry := by
  have hcommands : ((w.host.enter e.millis).react (w.hostInput e)).commands = (w.step e).host.commands :=
    (congrArg Host.commands (host_step w e)).symm
  rw [hcommands]
  constructor
  · intro ⟨packet, hmem, hop⟩
    exact ⟨packet, (mem_host_commands hop).mpr hmem, hop⟩
  · intro ⟨packet, hmem, hop⟩
    exact ⟨packet, (mem_host_commands hop).mp hmem, hop⟩

/-- An attempt is superseded by a discovery exactly when `startDiscovery` is called and accepted. -/
theorem attemptInput_discovery_iff :
    (w.host.enter e.millis).attemptInput (w.hostInput e) = .superseded .discovery ↔
      e.action = .call .startDiscovery ∧ w.acceptsDiscovery = true := by
  constructor
  · intro hinput
    cases hcase : w.hostInput e with
    | event packet =>
      have hevent := (w.host.enter e.millis).eventInput_attemptEvent packet
      rw [hcase] at hinput
      rw [show (w.host.enter e.millis).attemptEvent packet = .superseded .discovery from hinput] at hevent
      exact absurd rfl hevent
    | call c handle =>
      have hcall := (w.host.enter e.millis).callInput_attemptInput c handle
      rw [hcase] at hinput
      rw [hinput] at hcall
      obtain ⟨rfl, haccepted⟩ := hcall
      exact ⟨hostInput_call hcase, haccepted⟩
    | _ =>
      rw [hcase] at hinput
      cases hinput
  · intro ⟨haction, haccepts⟩
    simp only [hostInput, haction, Host.attemptInput]
    exact if_pos haccepts

/-- The list after a step is the one the host has after its reaction. -/
theorem scannedDevices_step (w : TwWorld) (e : TwEvent) : (w.step e).gRuntime.hciEventContext.scannedDevices =
    ((w.host.enter e.millis).react (w.hostInput e)).context.scannedDevices :=
  congrArg (·.context.scannedDevices) (host_step w e)

/-- A discovery that is accepted keeps the list, and starts an inquiry if there is a send callback. -/
theorem step_of_discovery (hl : w.host.Listens)
    (haccepted : e.action = .call .startDiscovery ∧ w.acceptsDiscovery = true) :
    (w.step e).gRuntime.hciEventContext.scannedDevices = w.gRuntime.hciEventContext.scannedDevices ∧
      (w.gRuntime.hciInterface.hciSendPacket = true → w.StartsInquiry e) := by
  have hreacts := reacts_react _ (hl.enter e.millis) (w.hostInput e)
  rw [attemptInput_discovery_iff.mpr haccepted] at hreacts
  refine ⟨(scannedDevices_step w e).trans hreacts.devices, fun hcallback => exists_inquiry_iff.mpr ?_⟩
  refine ⟨Supersession.discovery.command, hreacts.mem_of_searchCommands ?_, rfl⟩
  have hsends : ((w.host.enter e.millis).context.sendPacket && (w.host.enter e.millis).callback) = true :=
    Bool.and_eq_true_iff.mpr ⟨hl.sendPacket, hcallback⟩
  rw [Host.given, if_pos hsends]
  exact List.mem_singleton_self _

/-- After a step that starts an inquiry the list is empty exactly when a discovery finds it so. -/
theorem empty_of_startsInquiry_iff (hl : w.host.Listens) :
    (w.StartsInquiry e → (w.step e).gRuntime.hciEventContext.scannedDevices = .empty) ↔
      w.DiscoversAfresh e := by
  constructor
  · intro hfresh
    rw [DiscoversAfresh]
    split
    next haction =>
      intro haccepts hcallback
      obtain ⟨hsame, hstarts⟩ := step_of_discovery hl ⟨haction, haccepts⟩
      exact hsame.symm.trans (hfresh (hstarts hcallback))
    next => trivial
  · intro hafresh hstarts
    obtain ⟨packet, hmem, hop⟩ := exists_inquiry_iff.mp hstarts
    obtain ⟨hcallback, -, hdiscovers | hempty⟩ := react_of_inquiry (hl.enter e.millis) rfl hmem hop
    · obtain ⟨haction, haccepts⟩ := attemptInput_discovery_iff.mp hdiscovers
      rw [DiscoversAfresh, haction] at hafresh
      exact (step_of_discovery hl ⟨haction, haccepts⟩).1.trans (hafresh haccepts hcallback)
    · exact (scannedDevices_step w e).trans hempty

/-- A step that starts an inquiry leaves the host wired. -/
theorem wired_of_startsInquiry (hl : w.host.Listens) (hstarts : w.StartsInquiry e) : (w.step e).host.Wired := by
  obtain ⟨packet, hmem, hop⟩ := exists_inquiry_iff.mp hstarts
  obtain ⟨hcallback, hnew, -⟩ := react_of_inquiry (hl.enter e.millis) rfl hmem hop
  have hw : w.host.Wired := ⟨hcallback, hl.sendPacket, hl.onAclConnected, hl.onDisconnected⟩
  refine wired_step_of_not_init hw fun i haction => ?_
  refine hnew ((initialised_iff _ _).mpr ⟨i, w.gRuntime.l2capConnections.getFirstConnectionHandle, ?_⟩)
  rw [hostInput, haction]

/-- An inquiry is fresh exactly when the step that starts it discovers afresh. -/
theorem inquiryFresh_iff {after : List TwEvent} (hl : w.host.Listens)
    (hwhole : ∀ e ∈ after, e.ReportsWhole) : w.InquiryFresh e after ↔ w.DiscoversAfresh e := by
  rw [← empty_of_startsInquiry_iff hl]
  constructor
  · exact fun hfresh hstarts => (hfresh hstarts).1
  · intro hempty hstarts
    refine ⟨hempty hstarts, fun results hpart hrun => ?_⟩
    exact asksNames (wired_of_startsInquiry hl hstarts) (hempty hstarts)
      (fun e' he => hwhole e' (hpart.subset he)) hrun

end TwWorld

end Steps

/-- In a run whose Inquiry Results are complete every inquiry starts afresh, exactly when every
discovery that is accepted finds no device listed. -/
theorem inquiries_fresh_iff (w : TwWorld) (hciInterface : TwHciInterface) (events : List TwEvent)
    (hwhole : ∀ e ∈ events, e.ReportsWhole) : (w.afterInit hciInterface).InquiriesFresh events ↔
      EveryStep TwWorld.DiscoversAfresh TwWorld.step (w.afterInit hciInterface) events := by
  have hlistens (before : List TwEvent) :
      (runFrom TwWorld.step (w.afterInit hciInterface) before).host.Listens :=
    invariant_of_step (I := fun w : TwWorld => w.host.Listens) (fun _ e hl => listens_step hl e)
      (listens_afterInit w hciInterface) before
  rw [everyStep_iff]
  refine forall_congr' fun before => forall_congr' fun e => forall_congr' fun after => ?_
  refine forall_congr' fun heq => ?_
  refine TwWorld.inquiryFresh_iff (hlistens before) fun e' he => hwhole e' ?_
  rw [heq]
  exact List.mem_append_right before (List.mem_cons_of_mem e he)

/-- The start sequence, and two Wiimotes the inquiry after it finds. -/
def discoveredOnce : List TwEvent :=
  TwAction.allAt 0 (.call .resetDevice :: TwAction.setupReplies ++
    [.inquiryResult ⟨1, 2, 3, 4, 5, 6⟩, .inquiryResult ⟨1, 2, 3, 4, 5, 7⟩])

/-- The inquiry of a run that discovers once is fresh. -/
theorem inquiries_fresh_discoveredOnce : (({} : TwWorld).afterInit ⟨true⟩).InquiriesFresh discoveredOnce :=
  (inquiries_fresh_iff {} ⟨true⟩ discoveredOnce (by decide +kernel)).mpr (by decide +kernel)

/-- A Wiimote is listed, the discovery is stopped and another one started. -/
def discoveredTwice : List TwEvent :=
  TwAction.allAt 0 (.call .resetDevice :: TwAction.setupReplies ++
    [.inquiryResult ⟨1, 2, 3, 4, 5, 6⟩, .call .stopDiscovery, .call .startDiscovery])

/-- The second inquiry starts with the list of the first. -/
theorem inquiries_not_always_fresh :
    ¬∀ (w : TwWorld) (hciInterface : TwHciInterface) (events : List TwEvent),
      (∀ e ∈ events, e.ReportsWhole) → (w.afterInit hciInterface).InquiriesFresh events := by
  intro h
  have hfresh := h {} ⟨true⟩ discoveredTwice (by decide +kernel)
  have hlast := hfresh (discoveredTwice.take 8) ⟨.call .startDiscovery, 0, 2⟩ [] rfl
  have hempty := (hlast (by decide +kernel)).1
  revert hempty
  decide +kernel

end Esp32Wiimote.Bluetooth
