import Esp32Wiimote.Bluetooth.Host

/-!
# What a step does to the search

The flag of the fast reconnect, the cached controller, the connect target and the scanned devices, as
a machine of their own: a step of the host side has one input for it, which says how these fields
change and which commands are handed over.
-/

namespace Esp32Wiimote.Bluetooth

open StateProgram

/-! ## Inputs -/

/-- The fields of the event context a fast reconnect is about. -/
structure AttemptPart where
  pendingFastReconnect : Bool
  hasLastWiimote : Bool
  lastWiimote : HciScannedDevice
  hasCurrentConnectTarget : Bool
  currentConnectTarget : HciScannedDevice

/-- What the event context holds of the attempt to connect. -/
def HciEventContext.attemptPart (ctx : HciEventContext) : AttemptPart :=
  ⟨ctx.pendingFastReconnect, ctx.hasLastWiimote, ctx.lastWiimote, ctx.hasCurrentConnectTarget,
    ctx.currentConnectTarget⟩

/-- What is sent for another reason while an attempt may be under way. -/
inductive Supersession where
  | reset
  /-- An inquiry that is no fallback. -/
  | inquiry
  | discovery

/-- The command behind the cause. -/
def Supersession.command : Supersession → List UInt8
  | .reset => makeCmdReset
  | .inquiry => makeCmdInquiry ⟨0x9E8B33, 0x05, 0x00⟩
  | .discovery => makeCmdInquiry ⟨0x9E8B33, 0x08, 0xFF⟩

/-- Such a command ends the attempt. -/
theorem Supersession.isDisruptive_command (cause : Supersession) : IsDisruptive cause.command := by
  cases cause <;> decide

/-- It is not one that starts an attempt. -/
theorem Supersession.not_createConnection_command (cause : Supersession) :
    commandOpcode cause.command ≠ some kHciOpcodeCreateConnection := by
  cases cause <;> decide

/-- What happens to the attempt in a step. -/
inductive AttemptInput where
  | superseded (cause : Supersession)
  | failed
  | connected (bdAddr : BdAddrT)
  /-- The fast path. -/
  | tried
  | targeted (target : HciScannedDevice)
  /-- An Inquiry Result. -/
  | reported (data : BytePtr)
  | cleared
  | initialised
  | nothing

/-- The attempt after such an input. -/
def AttemptPart.react (part : AttemptPart) : AttemptInput → AttemptPart
  | .superseded _ => part
  | .failed => { part with pendingFastReconnect := false }
  | .connected _ =>
    if part.hasCurrentConnectTarget then
      { part with
        pendingFastReconnect := false
        hasLastWiimote := true
        lastWiimote := part.currentConnectTarget }
    else { part with pendingFastReconnect := false }
  | .tried =>
    { part with
      pendingFastReconnect := true
      hasCurrentConnectTarget := true
      currentConnectTarget := part.lastWiimote }
  | .targeted target =>
    { part with
      pendingFastReconnect := false
      hasCurrentConnectTarget := true
      currentConnectTarget := target }
  | .reported _ => part
  | .cleared => { part with pendingFastReconnect := false, hasLastWiimote := false, lastWiimote := {} }
  | .initialised => ⟨false, false, {}, false, {}⟩
  | .nothing => part

namespace Host

variable (h : Host)

/-- The search that follows a Write Scan Enable takes the fast path. -/
def triesFast : Bool := h.context.autoReconnectEnabled && h.context.isFastReconnectCacheValid h.now

/-- What an event means for the attempt. -/
def attemptEvent (packet : HciEventPacket) : AttemptInput :=
  let data := packet.data
  if packet.eventCode = kHciInquiryCompEvt then .superseded .reset
  else if packet.eventCode = kHciInquiryResultEvt then .reported data
  else if packet.eventCode = kHciConnectionCompEvt then
    if data.at 0 = 0x00 then .connected (data + 3).bdAddrAt else .failed
  else if packet.eventCode = kHciDisconnectionCompEvt then .superseded .reset
  else if packet.eventCode = kHciRmtNameRequestCompEvt then
    match h.context.scannedDevices.findScannedDevice (data + 1).bdAddrAt with
    | some scanned => if (data + 7).startsWith wiimoteName then .targeted scanned else .nothing
    | none => .nothing
  else if packet.eventCode = kHciCommandCompleteEvt then
    if uint16OfLe (data.at 1) (data.at 2) = kHciOpcodeWriteScanEnable ∧ data.at 3 = 0x00 ∧
        h.context.connectsOnScanEnable then
      if h.triesFast then .tried else .superseded .inquiry
    else .nothing
  else if packet.eventCode = kHciCommandStatusEvt then
    if data.at 0 ≠ 0x00 ∧ uint16OfLe (data.at 2) (data.at 3) = kHciOpcodeCreateConnection then .failed
    else .nothing
  else .nothing

/-- What any input of the host means for it. -/
def attemptInput : HostInput → AttemptInput
  | .event packet => h.attemptEvent packet
  | .call (.init _) _ => .initialised
  | .call .resetDevice _ => .superseded .reset
  | .call .startDiscovery _ =>
    if h.context.deviceInited && !h.connected && !h.context.scanningEnabled then .superseded .discovery
    else .nothing
  | .call .clearReconnectCache _ => if h.context.deviceInited then .cleared else .nothing
  | _ => .nothing

/-- What can be the input of an event: the fast path only where it is open, and no public call. -/
def EventInput (h : Host) (packet : HciEventPacket) : AttemptInput → Prop
  | .superseded cause => cause ≠ .discovery
  | .tried => h.triesFast = true
  | .reported _ => packet.eventCode = kHciInquiryResultEvt
  | .cleared | .initialised => False
  | _ => True

/-- The event has a meaning of the kind that its code allows. -/
theorem eventInput_attemptEvent (packet : HciEventPacket) : h.EventInput packet (h.attemptEvent packet) := by
  simp only [attemptEvent]
  split
  · exact nofun
  split
  next hresult => exact hresult
  split
  · split <;> trivial
  split
  · exact nofun
  split
  · cases h.context.scannedDevices.findScannedDevice (packet.data + 1).bdAddrAt with
    | none => trivial
    | some scanned =>
      dsimp only
      split <;> trivial
  split
  · split
    · split
      next hfast => exact hfast
      next => exact nofun
    · trivial
  split
  · split <;> trivial
  · trivial

/-- What can be the input of a public call. -/
def CallInput (h : Host) (c : TwCall) : AttemptInput → Prop
  | .initialised => ∃ i, c = .init i
  | .superseded .reset => c = .resetDevice
  | .superseded .discovery => c = .startDiscovery ∧
      (h.context.deviceInited && !h.connected && !h.context.scanningEnabled) = true
  | .cleared => c = .clearReconnectCache
  | .nothing => True
  | _ => False

/-- So has a call. -/
theorem callInput_attemptInput (c : TwCall) (handle : Option UInt16) :
    h.CallInput c (h.attemptInput (.call c handle)) := by
  cases c with
  | init hciInterface => exact ⟨hciInterface, rfl⟩
  | resetDevice => rfl
  | startDiscovery =>
    simp only [attemptInput]
    split
    next haccepted => exact ⟨rfl, haccepted⟩
    next => trivial
  | clearReconnectCache =>
    simp only [attemptInput]
    split
    · rfl
    · trivial
  | _ => trivial

end Host

/-! ## What a reaction does -/

/-- A command without a part in the search. -/
def IsUnrelated (packet : List UInt8) : Prop :=
  ¬IsDisruptive packet ∧ commandOpcode packet ≠ some kHciOpcodeRemoteNameRequest

instance : DecidablePred IsUnrelated := fun _ => inferInstanceAs (Decidable (_ ∧ _))

namespace Host

/-- The commands that search for a controller, or put an end to the search. -/
def searchCommands (h : Host) : AttemptInput → List (List UInt8)
  | .superseded cause => [cause.command]
  | .failed => if h.context.pendingFastReconnect then [Supersession.inquiry.command] else []
  | .tried =>
    let target := h.context.lastWiimote
    [makeCmdCreateConnection ⟨target.bdAddr, 0x0008, target.psrm, target.clkofs, 0x00⟩]
  | .targeted target =>
    [makeCmdInquiryCancel, makeCmdCreateConnection ⟨target.bdAddr, 0x0008, target.psrm, target.clkofs, 0x00⟩]
  | _ => []

/-- The commands a reaction hands over. -/
def HandsOver (h h' : Host) : AttemptInput → Prop
  | .reported data => h'.commands = (h.inquiryResponses data (data.at 0).toNat).commands
  | .connected _ | .cleared | .initialised | .nothing => Grown Host.commands IsUnrelated h h'
  | input => h'.commands = h.commands ++ h.given (h.searchCommands input)

/-- The scanned devices after a reaction. -/
def devicesAfter (h : Host) : AttemptInput → ScannedDevices
  | .superseded .discovery => h.context.scannedDevices
  | .superseded _ | .initialised => .empty
  | .failed => if h.context.pendingFastReconnect then .empty else h.context.scannedDevices
  | .reported data => (h.inquiryResponses data (data.at 0).toNat).context.scannedDevices
  | _ => h.context.scannedDevices

/-- The host reacts to the input, and hands over only the packets that go with it. -/
structure Reacts (h : Host) (input : AttemptInput) (h' : Host) : Prop where
  part : h'.context.attemptPart = h.context.attemptPart.react input
  devices : h'.context.scannedDevices = h.devicesAfter input
  commands : h.HandsOver h' input

end Host

/-- The reaction leaves the search alone. -/
structure KeepsAttempt (h h' : Host) : Prop where
  part : h'.context.attemptPart = h.context.attemptPart
  devices : h'.context.scannedDevices = h.context.scannedDevices
  commands : Grown Host.commands IsUnrelated h h'

instance : IsPreorder Host KeepsAttempt where
  refl h := ⟨rfl, rfl, refl_of _ h⟩
  trans _ _ _ first second :=
    ⟨second.part.trans first.part, second.devices.trans first.devices,
      trans_of _ first.commands second.commands⟩

/-! ## Reactions -/

section Reactions

variable (h : Host)

/-- To keep the attempt is to react to nothing. -/
theorem KeepsAttempt.reacts {h h' : Host} (hkeeps : KeepsAttempt h h') : h.Reacts .nothing h' :=
  ⟨hkeeps.part, hkeeps.devices, hkeeps.commands⟩

/-- What is set last may be anything else. -/
theorem Host.Reacts.update {h h' : Host} {input : AttemptInput} (hreacts : h.Reacts input h')
    {f : HciEventContext → HciEventContext}
    (hf : ∀ ctx, (f ctx).attemptPart = ctx.attemptPart ∧ (f ctx).scannedDevices = ctx.scannedDevices) :
    h.Reacts input (h'.update f) := by
  refine ⟨(hf _).1.trans hreacts.part, (hf _).2.trans hreacts.devices, ?_⟩
  cases input <;> exact hreacts.commands

/-- An unchanged host reacts to nothing. -/
theorem reacts_nothing : h.Reacts .nothing h := (refl_of KeepsAttempt h).reacts

/-- The scanning flag is no part of the attempt. -/
theorem keepsAttempt_scanning (enabled : Bool) :
    KeepsAttempt h (h.update fun ctx => { ctx with scanningEnabled := enabled }) :=
  ⟨rfl, rfl, Grown.of_eq rfl⟩

/-- An unrelated packet leaves the attempt alone. -/
theorem keepsAttempt_hand {packet : List UInt8} (hidle : IsUnrelated packet) :
    KeepsAttempt h (h.hand packet) := by
  refine ⟨by rw [Host.context_hand], by rw [Host.context_hand], ?_⟩
  simp only [Host.hand]
  split
  · exact ⟨[packet], rfl, by simpa using hidle⟩
  · exact refl_of _ h

/-- So does one that is sent only where there is a callback. -/
theorem keepsAttempt_send {packet : List UInt8} (hidle : IsUnrelated packet) :
    KeepsAttempt h (h.send packet) := by
  simp only [Host.send]
  split
  · exact keepsAttempt_hand h hidle
  · exact refl_of _ h

/-- A response leaves everything but the scanned devices alone, and names are all it asks for. -/
theorem reported_inquiryResponse (response : BytePtr) :
    (h.inquiryResponse response).context.attemptPart = h.context.attemptPart ∧
      Grown Host.commands (commandOpcode · = some kHciOpcodeRemoteNameRequest) h
        (h.inquiryResponse response) := by
  simp only [Host.inquiryResponse]
  split
  · exact ⟨rfl, refl_of _ h⟩
  split
  · exact ⟨rfl, refl_of _ h⟩
  split
  · refine ⟨by rw [Host.context_send]; rfl, _, Host.commands_send .., fun packet hmem => ?_⟩
    simp only [Host.given] at hmem
    split at hmem
    · rw [List.mem_singleton.mp hmem, commandOpcode_makeCmdRemoteNameRequest]
    · cases hmem
  · exact ⟨rfl, Grown.of_eq rfl⟩

/-- Inquiry responses ask for names, and do not touch the attempt. -/
theorem reported_inquiryResponses (data : BytePtr) (num : Nat) :
    (h.inquiryResponses data num).context.attemptPart = h.context.attemptPart ∧
      Grown Host.commands (commandOpcode · = some kHciOpcodeRemoteNameRequest) h
        (h.inquiryResponses data num) := by
  induction num with
  | zero => exact ⟨rfl, refl_of _ h⟩
  | succ num ih =>
    have hlast := reported_inquiryResponse (h.inquiryResponses data num) (inquiryResponse data num)
    exact ⟨hlast.1.trans ih.1, trans_of _ ih.2 hlast.2⟩

/-- A reset supersedes the attempt. -/
theorem reacts_resetDevice : h.Reacts (.superseded .reset) h.resetDevice :=
  ⟨by rw [Host.resetDevice, Host.context_send]; rfl, by rw [Host.resetDevice, Host.context_send]; rfl,
    h.commands_resetDevice⟩

/-- So does an inquiry. -/
theorem reacts_startInquiry : h.Reacts (.superseded .inquiry) h.startInquiry :=
  ⟨by rw [Host.startInquiry, Host.context_send]; rfl, by rw [Host.startInquiry, Host.context_send]; rfl,
    h.commands_startInquiry⟩

/-- A failed attempt is given up. -/
theorem reacts_attemptFailed : h.Reacts .failed h.attemptFailed := by
  rw [Host.attemptFailed]
  cases hpending : h.context.pendingFastReconnect with
  | true =>
    refine ⟨?_, ?_, ?_⟩
    · simp only [if_true, Host.startInquiry, Host.context_send, Host.context_update]
      rfl
    · simp only [if_true, Host.startInquiry, Host.context_send, Host.context_update, Host.devicesAfter,
        hpending]
    · simp only [Host.HandsOver, Host.searchCommands, hpending, if_true, Host.commands_startInquiry]
      rfl
  | false =>
    refine ⟨?_, ?_, ?_⟩
    · simp only [Bool.false_eq_true, if_false, HciEventContext.attemptPart, AttemptPart.react, hpending]
    · simp only [Bool.false_eq_true, if_false, Host.devicesAfter, hpending]
    · simp only [Host.HandsOver, Host.searchCommands, hpending, Bool.false_eq_true, if_false,
        Host.given_nil, List.append_nil]

/-- A connection completes the attempt. -/
theorem reacts_connected (bdAddr : BdAddrT) : h.Reacts (.connected bdAddr) (h.connectionCompleted 0x00) := by
  simp only [Host.connectionCompleted, ne_eq, not_true_eq_false, if_false, HciEventContext.cacheConnectTarget]
  refine ⟨?_, ?_, Grown.of_eq rfl⟩
  · simp only [Host.context_update, AttemptPart.react, HciEventContext.attemptPart]
    by_cases htarget : h.context.hasCurrentConnectTarget
    · simp only [htarget, if_true]
    · simp only [htarget, Bool.false_eq_true, if_false]
  · simp only [Host.context_update, Host.devicesAfter]
    split <;> rfl

/-- Of the two commands the Create Connection comes second. -/
theorem reacts_targeted (target : HciScannedDevice) :
    h.Reacts (.targeted target) ((h.send makeCmdInquiryCancel).startCreateConnection target false) := by
  refine ⟨?_, ?_, ?_⟩
  · rw [Host.startCreateConnection, Host.context_update, Host.context_send, Host.context_send]
    rfl
  · rw [Host.startCreateConnection, Host.context_update, Host.context_send, Host.context_send]
    rfl
  · change ((h.send makeCmdInquiryCancel).startCreateConnection target false).commands = _
    rw [Host.commands_startCreateConnection, Host.given_send, Host.commands_send, List.append_assoc]
    congr
    simp only [Host.given]
    split <;> rfl

/-- The name of a listed Wiimote starts an attempt. -/
theorem reacts_remoteNameCompleted (data : BytePtr) :
    h.Reacts (match h.context.scannedDevices.findScannedDevice (data + 1).bdAddrAt with
      | some scanned => if (data + 7).startsWith wiimoteName then .targeted scanned else .nothing
      | none => .nothing) (h.remoteNameCompleted data) := by
  rw [Host.remoteNameCompleted]
  cases h.context.scannedDevices.findScannedDevice (data + 1).bdAddrAt with
  | none => exact reacts_nothing h
  | some scanned =>
    dsimp only
    split
    · exact reacts_targeted h scanned
    · exact reacts_nothing h

/-- A fast reconnect is tried where the cache is valid, and an inquiry is started elsewhere. -/
theorem reacts_startConnecting :
    h.Reacts (if h.triesFast then .tried else .superseded .inquiry) h.startConnecting := by
  rw [Host.startConnecting, Host.triesFast]
  split
  · refine ⟨?_, ?_, h.commands_startCreateConnection _ true⟩
    · rw [Host.startCreateConnection, Host.context_update, Host.context_send]
      rfl
    · rw [Host.startCreateConnection, Host.context_update, Host.context_send]
      rfl
  · exact reacts_startInquiry h

/-- The scan enable completes with one of the two where it connects at all. -/
theorem reacts_scanEnableCompleted :
    h.Reacts (if h.context.connectsOnScanEnable then
        if h.triesFast then .tried else .superseded .inquiry
      else .nothing) h.scanEnableCompleted := by
  rw [Host.scanEnableCompleted]
  split
  · exact (reacts_startConnecting h).update fun _ => ⟨rfl, rfl⟩
  · exact (reacts_nothing h).update fun _ => ⟨rfl, rfl⟩

/-- Of the replies to commands, only that to Write Scan Enable can begin an attempt. -/
theorem keepsAttempt_commandCompleted {cmdOpcode : UInt16} {status : UInt8}
    (hother : ¬(cmdOpcode = kHciOpcodeWriteScanEnable ∧ status = 0x00)) :
    KeepsAttempt h (h.commandCompleted cmdOpcode status) := by
  simp only [Host.commandCompleted]
  split_ifs with hstatus hreset haddr hname hclass hscan
  · exact refl_of _ h
  · exact keepsAttempt_send h (by decide)
  · exact keepsAttempt_send h (by decide)
  · exact keepsAttempt_send h (by decide)
  · exact trans_of KeepsAttempt (keepsAttempt_scanning h true) (keepsAttempt_send _ (by decide))
  · exact absurd ⟨hscan, not_not.mp hstatus⟩ hother
  · exact refl_of _ h

/-- Of the commands only a scan enable concerns the attempt. -/
theorem reacts_commandCompleted (cmdOpcode : UInt16) (status : UInt8) :
    h.Reacts (if cmdOpcode = kHciOpcodeWriteScanEnable ∧ status = 0x00 ∧ h.context.connectsOnScanEnable then
        if h.triesFast then .tried else .superseded .inquiry
      else .nothing) (h.commandCompleted cmdOpcode status) := by
  by_cases hreply : cmdOpcode = kHciOpcodeWriteScanEnable ∧ status = 0x00
  · obtain ⟨rfl, rfl⟩ := hreply
    simp only [true_and]
    exact reacts_scanEnableCompleted h
  · rw [if_neg fun hall => hreply ⟨hall.1, hall.2.1⟩]
    exact (keepsAttempt_commandCompleted h hreply).reacts

/-- The callbacks of the event context are set. -/
structure Host.Listens (h : Host) : Prop where
  sendPacket : h.context.sendPacket = true
  onAclConnected : h.context.onAclConnected = true
  onDisconnected : h.context.onDisconnected = true

/-- The time does not matter to the callbacks. -/
theorem Host.Listens.enter {h : Host} (hl : h.Listens) (now : UInt32) : (h.enter now).Listens :=
  ⟨hl.sendPacket, hl.onAclConnected, hl.onDisconnected⟩

/-- A wired host listens. -/
theorem Host.Wired.listens {h : Host} (hw : h.Wired) : h.Listens :=
  ⟨hw.sendPacket, hw.onAclConnected, hw.onDisconnected⟩

/-- Every event is reacted to as it is meant. -/
theorem reacts_handleEvent {packet : HciEventPacket}
    (hdisc : packet.eventCode = kHciDisconnectionCompEvt → h.context.onDisconnected = true) :
    h.Reacts (h.attemptEvent packet) (h.handleEvent packet) := by
  simp only [Host.attemptEvent, Host.handleEvent]
  by_cases hinquiry : packet.eventCode = kHciInquiryCompEvt
  · simp only [if_pos hinquiry]
    exact reacts_resetDevice h
  simp only [if_neg hinquiry]
  by_cases hresult : packet.eventCode = kHciInquiryResultEvt
  · simp only [if_pos hresult]
    exact ⟨(reported_inquiryResponses h ..).1, rfl, rfl⟩
  simp only [if_neg hresult]
  by_cases hconn : packet.eventCode = kHciConnectionCompEvt
  · simp only [if_pos hconn]
    split
    next hstatus =>
      rw [hstatus]
      exact reacts_connected h _
    next hstatus =>
      rw [Host.connectionCompleted, if_pos hstatus]
      exact reacts_attemptFailed h
  simp only [if_neg hconn]
  by_cases hdisconn : packet.eventCode = kHciDisconnectionCompEvt
  · simp only [if_pos hdisconn, Host.disconnected, hdisc hdisconn, if_true]
    obtain ⟨hpart, hdevices, hcommands⟩ := reacts_resetDevice { h with connected := false }
    exact ⟨hpart, hdevices, hcommands⟩
  simp only [if_neg hdisconn]
  by_cases hrname : packet.eventCode = kHciRmtNameRequestCompEvt
  · simp only [if_pos hrname]
    exact reacts_remoteNameCompleted h packet.data
  simp only [if_neg hrname]
  by_cases hcomplete : packet.eventCode = kHciCommandCompleteEvt
  · simp only [if_pos hcomplete]
    exact reacts_commandCompleted h ..
  simp only [if_neg hcomplete]
  by_cases hcstatus : packet.eventCode = kHciCommandStatusEvt
  · simp only [if_pos hcstatus, Host.commandStatus]
    split
    · exact reacts_attemptFailed h
    · exact reacts_nothing h
  · simp only [if_neg hcstatus]
    exact reacts_nothing h

/-- A discovery is answered with an inquiry, or not at all. -/
theorem reacts_startDiscovery (hsend : h.context.sendPacket = true) (handle : Option UInt16) :
    h.Reacts (h.attemptInput (.call .startDiscovery handle)) (h.call .startDiscovery handle) := by
  simp only [Host.attemptInput, Host.call]
  cases h.context.deviceInited with
  | false => exact reacts_nothing h
  | true =>
    cases h.connected with
    | true => exact reacts_nothing h
    | false =>
      cases h.context.scanningEnabled with
      | true => exact reacts_nothing h
      | false =>
        refine ⟨?_, ?_, ?_⟩
        · simp only [Bool.not_true, Bool.false_eq_true, if_false, Host.context_update, Host.context_hand]
          rfl
        · simp only [Bool.not_true, Bool.false_eq_true, if_false, Host.context_update, Host.context_hand]
          rfl
        · -- the callback is called past the event context
          change (h.hand _).commands = _
          simp only [Host.hand, Host.given, hsend, Bool.true_and]
          split
          · rfl
          · exact (List.append_nil _).symm

/-- The other calls hand over at most one command that does not search. -/
theorem reacts_call {c : TwCall} (hsend : c = .startDiscovery → h.context.sendPacket = true)
    (handle : Option UInt16) : h.Reacts (h.attemptInput (.call c handle)) (h.call c handle) := by
  cases c with
  | init hciInterface => exact ⟨rfl, rfl, Grown.of_eq rfl⟩
  | resetDevice =>
    simp only [Host.attemptInput, Host.call]
    exact (reacts_resetDevice h).update fun _ => ⟨rfl, rfl⟩
  | startDiscovery => exact reacts_startDiscovery h (hsend rfl) handle
  | clearReconnectCache =>
    simp only [Host.attemptInput, Host.call]
    cases h.context.deviceInited with
    | false => exact reacts_nothing h
    | true => exact ⟨rfl, rfl, Grown.of_eq rfl⟩
  | setFastReconnectTtlMs ttlMs =>
    simp only [Host.attemptInput, Host.call]
    exact (reacts_nothing h).update fun _ => ⟨rfl, rfl⟩
  | setAutoReconnectEnabled enabled =>
    simp only [Host.attemptInput, Host.call]
    split
    · exact reacts_nothing h
    · exact (reacts_nothing h).update fun _ => ⟨rfl, rfl⟩
  | setScanEnabled enabled =>
    simp only [Host.attemptInput, Host.call]
    split
    · exact reacts_nothing h
    split
    · exact reacts_nothing h
    · refine (trans_of KeepsAttempt (keepsAttempt_hand h ?_) (keepsAttempt_scanning _ _)).reacts
      simp [IsUnrelated, IsDisruptive]
      decide
  | stopDiscovery =>
    simp only [Host.attemptInput, Host.call]
    split
    · exact reacts_nothing h
    split
    · exact reacts_nothing h
    split
    · exact reacts_nothing h
    · exact (trans_of KeepsAttempt (keepsAttempt_hand h (by decide)) (keepsAttempt_scanning _ _)).reacts
  | disconnect reason =>
    simp only [Host.attemptInput, Host.call]
    split
    · exact reacts_nothing h
    split
    · exact reacts_nothing h
    cases handle with
    | none => exact reacts_nothing h
    | some connectionHandle =>
      refine (keepsAttempt_hand h ?_).reacts
      simp [IsUnrelated, IsDisruptive]
      decide
  | _ => exact reacts_nothing h

/-- Every step of the host side reacts to its part in the search. -/
theorem reacts_react (hl : h.Listens) (input : HostInput) :
    h.Reacts (h.attemptInput input) (h.react input) := by
  cases input with
  | event packet => exact reacts_handleEvent h fun _ => hl.onDisconnected
  | firstReport => exact ⟨rfl, rfl, Grown.of_eq rfl⟩
  | call c handle => exact reacts_call h (fun _ => hl.sendPacket) handle
  | nothing => exact reacts_nothing h

end Reactions

/-! ## The commands of a reaction -/

section Commands

variable {h h' : Host} {input : AttemptInput} {packet : List UInt8}

/-- A reaction hands over the commands of its search and unrelated ones, or asks for names. -/
theorem Host.Reacts.mem_commands (hreacts : h.Reacts input h') (hcommands : h.commands = [])
    (hmem : packet ∈ h'.commands) : packet ∈ h.given (h.searchCommands input) ∨ IsUnrelated packet ∨
      commandOpcode packet = some kHciOpcodeRemoteNameRequest ∧ ∃ data, input = .reported data := by
  have hunrelated (hgrown : Grown Host.commands IsUnrelated h h') : IsUnrelated packet :=
    hgrown.forall_mem (by simp [hcommands]) packet hmem
  have hsearch (hsent : h'.commands = h.commands ++ h.given (h.searchCommands input)) :
      packet ∈ h.given (h.searchCommands input) := by
    rw [hsent, hcommands, List.nil_append] at hmem
    exact hmem
  have hhanded := hreacts.commands
  cases input with
  | reported data =>
    have hnames := (reported_inquiryResponses h data (data.at 0).toNat).2
    rw [Grown, ← show h'.commands = _ from hhanded] at hnames
    exact .inr (.inr ⟨Grown.forall_mem hnames (by simp [hcommands]) packet hmem, data, rfl⟩)
  | superseded cause => exact .inl (hsearch hhanded)
  | failed => exact .inl (hsearch hhanded)
  | tried => exact .inl (hsearch hhanded)
  | targeted target => exact .inl (hsearch hhanded)
  | _ => exact .inr (.inl (hunrelated hhanded))

/-- The commands of the search are handed over wherever there is a send callback. -/
theorem Host.Reacts.mem_of_searchCommands (hreacts : h.Reacts input h')
    (hmem : packet ∈ h.given (h.searchCommands input)) : packet ∈ h'.commands := by
  have hsearch (hsent : h'.commands = h.commands ++ h.given (h.searchCommands input)) :
      packet ∈ h'.commands := by
    rw [hsent]
    exact List.mem_append_right _ hmem
  have hhanded := hreacts.commands
  cases input with
  | superseded cause => exact hsearch hhanded
  | failed => exact hsearch hhanded
  | tried => exact hsearch hhanded
  | targeted target => exact hsearch hhanded
  | _ => cases (Host.mem_given hmem).2

/-- No command of a search asks for a name. -/
theorem not_name_of_mem_searchCommands (hmem : packet ∈ h.searchCommands input) :
    commandOpcode packet ≠ some kHciOpcodeRemoteNameRequest := by
  have hconnect (params : HciCreateConnectionParams) :
      commandOpcode (makeCmdCreateConnection params) ≠ some kHciOpcodeRemoteNameRequest := by
    rw [commandOpcode_makeCmdCreateConnection]
    decide
  cases input with
  | superseded cause =>
    rw [List.mem_singleton.mp hmem]
    cases cause <;> decide
  | failed =>
    simp only [Host.searchCommands] at hmem
    split at hmem
    · rw [List.mem_singleton.mp hmem]
      decide
    · cases hmem
  | tried =>
    rw [List.mem_singleton.mp hmem]
    exact hconnect _
  | targeted target =>
    obtain rfl | hmem := List.mem_cons.mp hmem
    · decide
    · rw [List.mem_singleton.mp hmem]
      exact hconnect _
  | _ => cases hmem

/-- A search that starts with an Inquiry empties the list, unless the user starts it. -/
theorem devicesAfter_of_inquiry (hmem : packet ∈ h.searchCommands input)
    (hop : commandOpcode packet = some kHciOpcodeInquiry) :
    input = .superseded .discovery ∨ h.devicesAfter input = .empty := by
  have hconnect (params : HciCreateConnectionParams) :
      commandOpcode (makeCmdCreateConnection params) ≠ some kHciOpcodeInquiry := by
    rw [commandOpcode_makeCmdCreateConnection]
    decide
  cases input with
  | superseded cause =>
    cases cause with
    | discovery => exact .inl rfl
    | _ => exact .inr rfl
  | failed =>
    simp only [Host.searchCommands] at hmem
    split at hmem
    next hpending => exact .inr (if_pos hpending)
    next => cases hmem
  | tried =>
    rw [List.mem_singleton.mp hmem] at hop
    exact absurd hop (hconnect _)
  | targeted target =>
    obtain rfl | hmem := List.mem_cons.mp hmem
    · exact absurd hop (by decide)
    · rw [List.mem_singleton.mp hmem] at hop
      exact absurd hop (hconnect _)
  | _ => cases hmem

/-- Without an Inquiry and a Reset, devices are listed by Inquiry Results only. -/
theorem devicesAfter_of_quiet (hquiet : ∀ packet ∈ h.searchCommands input,
      commandOpcode packet ≠ some kHciOpcodeInquiry ∧ commandOpcode packet ≠ some kHciOpcodeReset)
    (hinit : input ≠ .initialised) (hreported : ∀ data, input ≠ .reported data) :
    h.devicesAfter input = h.context.scannedDevices := by
  cases input with
  | superseded cause =>
    cases cause with
    | reset => exact absurd rfl (hquiet _ (List.mem_singleton_self _)).2
    | inquiry => exact absurd rfl (hquiet _ (List.mem_singleton_self _)).1
    | discovery => rfl
  | failed =>
    simp only [Host.searchCommands] at hquiet
    split at hquiet
    · exact absurd rfl (hquiet _ (List.mem_singleton_self _)).1
    next hpending => exact if_neg hpending
  | reported data => exact absurd rfl (hreported data)
  | initialised => exact absurd rfl hinit
  | _ => rfl

end Commands

/-! ## What a step keeps -/

/-- The callbacks stay where they are. -/
theorem listens_step {w : TwWorld} (hw : w.host.Listens) (e : TwEvent) : (w.step e).host.Listens := by
  refine host_invariant_step (I := Host.Listens) (fun h h' hmove hl => ?_) (fun _ _ _ => ⟨rfl, rfl, rfl⟩) e
    (hw.enter e.millis)
  obtain ⟨-, hsend, hacl, hdisc⟩ := hmove.wiring
  exact ⟨hsend.trans hl.sendPacket, hacl.trans hl.onAclConnected, hdisc.trans hl.onDisconnected⟩

/-- After the initialisation they are set. -/
theorem listens_afterInit (w : TwWorld) (hciInterface : TwHciInterface) :
    (w.afterInit hciInterface).host.Listens := ⟨rfl, rfl, rfl⟩

/-- Only a new start sets the send callback. -/
theorem callback_react (h : Host) {input : HostInput} (hin : ∀ i handle, input ≠ .call (.init i) handle) :
    (h.react input).callback = h.callback := by
  have hmoves : Host.Moves true h (h.react input) := Host.moves_react h hin fun _ => rfl
  exact hmoves.invariant (I := fun h' => h'.callback = h.callback)
    (fun _ _ hmove hsame => hmove.wiring.1.trans hsame) rfl

end Esp32Wiimote.Bluetooth
