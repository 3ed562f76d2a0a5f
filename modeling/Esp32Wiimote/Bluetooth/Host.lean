import Esp32Wiimote.Bluetooth.LinkSafety
import Mathlib.Logic.Relation

/-!
# The host side of the HCI link

What the event handlers and the public calls see and do, as a machine of its own: the event
context, whether a controller is connected, whether the send callback is set, the clock, and
the commands handed to the callback in the current step. Each step of the runtime is a step
of this machine. ACL data is visible in it only by the first input report of a link.
-/

namespace Esp32Wiimote.Bluetooth

open StateProgram

/-- The packet is an HCI command. -/
def IsCommand (packet : List UInt8) : Bool := (commandOpcode packet).isSome

/-- The host side of the stack: event context, connection flag, whether the callback is set, the
time, and the commands handed to the callback. -/
@[ext] structure Host where
  context : HciEventContext
  connected : Bool
  callback : Bool
  now : UInt32
  commands : List (List UInt8)
  deriving DecidableEq

/-- Caching the target leaves the scanning flag alone. -/
@[simp] theorem HciEventContext.scanningEnabled_cacheConnectTarget (ctx : HciEventContext)
    (nowMs : UInt32) : (ctx.cacheConnectTarget nowMs).scanningEnabled = ctx.scanningEnabled := by
  simp only [cacheConnectTarget]
  split <;> rfl

/-- What the host side shows of the world. -/
def TwWorld.host (w : TwWorld) : Host where
  context := w.gRuntime.hciEventContext
  connected := w.isConnected
  callback := w.gRuntime.hciInterface.hciSendPacket
  now := w.millis
  commands := w.sent.filter IsCommand

/-! ## Reactions -/

namespace Host

variable (h : Host)

/-- Assign to the event context. -/
def update (f : HciEventContext → HciEventContext) : Host := { h with context := f h.context }

/-- Record commands the send callback was given. -/
def record (packets : List (List UInt8)) : Host := { h with commands := h.commands ++ packets }

/-- Recording nothing changes nothing. -/
@[simp] theorem record_nil : h.record [] = h := by simp only [record, List.append_nil]

/-- Hand a packet to the send callback. -/
def hand (packet : List UInt8) : Host := if h.callback then h.record [packet] else h

/-- Hand a packet over through the event context. -/
def send (packet : List UInt8) : Host := if h.context.sendPacket then h.hand packet else h

/-- An assignment to the context touches nothing else. -/
@[simp] theorem context_update (f : HciEventContext → HciEventContext) :
    (h.update f).context = f h.context := rfl

@[simp] theorem connected_update (f : HciEventContext → HciEventContext) :
    (h.update f).connected = h.connected := rfl

@[simp] theorem commands_update (f : HciEventContext → HciEventContext) :
    (h.update f).commands = h.commands := rfl

/-- Handing a packet over leaves the context alone. -/
@[simp] theorem context_hand (packet : List UInt8) : (h.hand packet).context = h.context := by
  simp only [hand]
  split <;> rfl

/-- So it does the connection flag. -/
@[simp] theorem connected_hand (packet : List UInt8) : (h.hand packet).connected = h.connected := by
  simp only [hand]
  split <;> rfl

/-- Sending leaves the context alone. -/
@[simp] theorem context_send (packet : List UInt8) : (h.send packet).context = h.context := by
  simp only [send]
  split
  · exact context_hand h packet
  · rfl

/-- So it does the connection flag. -/
@[simp] theorem connected_send (packet : List UInt8) : (h.send packet).connected = h.connected := by
  simp only [send]
  split
  · exact connected_hand h packet
  · rfl

/-- So it does the callback. -/
@[simp] theorem callback_send (packet : List UInt8) : (h.send packet).callback = h.callback := by
  simp only [send, hand]
  split
  · split <;> rfl
  · rfl

/-- The reaction of `startInquiry`: an empty list and an Inquiry. -/
def startInquiry : Host :=
  (h.update fun ctx => { ctx with scannedDevices := .empty }).send
    (makeCmdInquiry ⟨0x9E8B33, 0x05, 0x00⟩)

/-- The reaction of `startCreateConnection`: a Create Connection, and its target noted. -/
def startCreateConnection (target : HciScannedDevice) (isFastReconnect : Bool) : Host :=
  (h.send (makeCmdCreateConnection ⟨target.bdAddr, 0x0008, target.psrm, target.clkofs, 0x00⟩)).update
    fun ctx =>
      { ctx with
        currentConnectTarget := target
        hasCurrentConnectTarget := true
        pendingFastReconnect := isFastReconnect }

/-- A connection attempt failed. -/
def attemptFailed : Host :=
  if h.context.pendingFastReconnect then
    (h.update fun ctx => { ctx with pendingFastReconnect := false }).startInquiry
  else h

/-- The reaction of `hciEventsResetDevice`: an empty list, no scan and a Reset. -/
def resetDevice : Host :=
  (h.update fun ctx => { ctx with scannedDevices := .empty, scanningEnabled := false }).send
    makeCmdReset

/-- The cached controller if it may still be there, else an inquiry. -/
def startConnecting : Host :=
  if h.context.autoReconnectEnabled && h.context.isFastReconnectCacheValid h.now then
    h.startCreateConnection h.context.lastWiimote true
  else h.startInquiry

/-- The reply to Write Scan Enable. -/
def scanEnableCompleted : Host :=
  (if h.context.connectsOnScanEnable then h.startConnecting else h).update
    fun ctx => { ctx with deviceInited := true }

/-- The next command of the start sequence. -/
def commandCompleted (cmdOpcode : UInt16) (status : UInt8) : Host :=
  if status ≠ 0x00 then h
  else if cmdOpcode = kHciOpcodeReset then h.send makeCmdReadBdAddr
  else if cmdOpcode = kHciOpcodeReadBdAddr then h.send (makeCmdWriteLocalName kName)
  else if cmdOpcode = kHciOpcodeWriteLocalName then
    h.send (makeCmdWriteClassOfDevice 0x04 0x05 0x00)
  else if cmdOpcode = kHciOpcodeWriteClassOfDevice then
    (h.update fun ctx => { ctx with scanningEnabled := true }).send (makeCmdWriteScanEnable 3)
  else if cmdOpcode = kHciOpcodeWriteScanEnable then h.scanEnableCompleted
  else h

/-- A refused Create Connection is a failed attempt. -/
def commandStatus (status : UInt8) (cmdOpcode : UInt16) : Host :=
  if status ≠ 0x00 ∧ cmdOpcode = kHciOpcodeCreateConnection then h.attemptFailed else h

/-- One response: the device is listed, and a new Wiimote asked for its name. -/
def inquiryResponse (response : BytePtr) : Host :=
  if (h.context.scannedDevices.findScannedDevice response.bdAddrAt).isSome then h
  else
    match h.context.scannedDevices.addScannedDevice response.scannedAt with
    | none => h
    | some devices =>
      let noted := h.update fun ctx => { ctx with scannedDevices := devices }
      if (response + 9).startsWith wiimoteClassOfDevice then
        noted.send (makeCmdRemoteNameRequest
          ⟨response.bdAddrAt, response.at 6, clockOffset (response.at 12) (response.at 13)⟩)
      else noted

/-- The first `num` responses, in order. -/
def inquiryResponses (data : BytePtr) : Nat → Host
  | 0 => h
  | num + 1 => (inquiryResponses data num).inquiryResponse (Bluetooth.inquiryResponse data num)

/-- A listed device whose name is the Wiimote's is connected to. -/
def remoteNameCompleted (data : BytePtr) : Host :=
  match h.context.scannedDevices.findScannedDevice (data + 1).bdAddrAt with
  | none => h
  | some scanned =>
    if (data + 7).startsWith wiimoteName then
      (h.send makeCmdInquiryCancel).startCreateConnection scanned false
    else h

/-- A Connection Complete: the target is cached, or the attempt failed. -/
def connectionCompleted (status : UInt8) : Host :=
  if status ≠ 0x00 then h.attemptFailed
  else h.update fun ctx => { ctx.cacheConnectTarget h.now with pendingFastReconnect := false }

/-- A Disconnection Complete resets the device. -/
def disconnected : Host :=
  if h.context.onDisconnected then { h with connected := false }.resetDevice else h

/-- The reaction to an event, by its code. -/
def handleEvent (packet : HciEventPacket) : Host :=
  let data := packet.data
  if packet.eventCode = kHciInquiryCompEvt then h.resetDevice
  else if packet.eventCode = kHciInquiryResultEvt then h.inquiryResponses data (data.at 0).toNat
  else if packet.eventCode = kHciConnectionCompEvt then h.connectionCompleted (data.at 0)
  else if packet.eventCode = kHciDisconnectionCompEvt then h.disconnected
  else if packet.eventCode = kHciRmtNameRequestCompEvt then h.remoteNameCompleted data
  else if packet.eventCode = kHciCommandCompleteEvt then
    h.commandCompleted (uint16OfLe (data.at 1) (data.at 2)) (data.at 3)
  else if packet.eventCode = kHciCommandStatusEvt then
    h.commandStatus (data.at 0) (uint16OfLe (data.at 2) (data.at 3))
  else h

/-- A Connection Complete is handled by its status. -/
theorem handleEvent_of_connectionComplete {packet : HciEventPacket}
    (hcode : packet.eventCode = kHciConnectionCompEvt) :
    h.handleEvent packet = h.connectionCompleted (packet.data.at 0) := by
  obtain ⟨eventCode, len, data⟩ := packet
  subst hcode
  rfl

/-- A Command Complete is handled by its opcode and status. -/
theorem handleEvent_of_commandComplete {packet : HciEventPacket}
    (hcode : packet.eventCode = kHciCommandCompleteEvt) : h.handleEvent packet =
      h.commandCompleted (uint16OfLe (packet.data.at 1) (packet.data.at 2)) (packet.data.at 3) := by
  obtain ⟨eventCode, len, data⟩ := packet
  subst hcode
  rfl

/-- The first input report of a link. -/
def firstReport : Host := { h.update (fun ctx => { ctx with scanningEnabled := false }) with connected := true }

/-- A public call; `handle` is the first connection of the L2CAP table. -/
def call (c : TwCall) (handle : Option UInt16) : Host :=
  match c with
  | .init hciInterface =>
    { h with
      connected := false
      callback := hciInterface.hciSendPacket
      context :=
        { sendPacket := true
          fastReconnectTtlMs := kFastReconnectTtlMs
          autoReconnectEnabled := true
          onAclConnected := true
          onDisconnected := true } }
  | .resetDevice => h.resetDevice.update fun ctx => { ctx with deviceInited := true }
  | .setFastReconnectTtlMs ttlMs => h.update fun ctx => { ctx with fastReconnectTtlMs := ttlMs }
  | .setScanEnabled enabled =>
    if !h.context.deviceInited then h
    else if !h.connected && enabled == h.context.scanningEnabled then h
    else
      (h.hand (makeCmdWriteScanEnable (if enabled then 0x02 else 0x00))).update
        fun ctx => { ctx with scanningEnabled := enabled }
  | .startDiscovery =>
    if !h.context.deviceInited then h
    else if h.connected then h
    else if h.context.scanningEnabled then h
    else
      (h.hand (makeCmdInquiry ⟨0x9E8B33, 0x08, 0xFF⟩)).update
        fun ctx => { ctx with scanningEnabled := true }
  | .stopDiscovery =>
    if !h.context.deviceInited then h
    else if h.connected then h
    else if !h.context.scanningEnabled then h
    else (h.hand makeCmdInquiryCancel).update fun ctx => { ctx with scanningEnabled := false }
  | .disconnect reason =>
    if !h.context.deviceInited then h
    else if !h.connected then h
    else
      match handle with
      | none => h
      | some connectionHandle => h.hand (makeCmdDisconnect connectionHandle reason)
  | .setAutoReconnectEnabled enabled =>
    if !h.context.deviceInited then h
    else h.update fun ctx => { ctx with autoReconnectEnabled := enabled }
  | .clearReconnectCache =>
    if !h.context.deviceInited then h
    else h.update fun ctx =>
      { ctx with hasLastWiimote := false, lastWiimote := {}, pendingFastReconnect := false }
  | _ => h

end Host

/-! ## Single moves -/

/-- The event reports a new link. -/
def HciEventPacket.Connects (packet : HciEventPacket) : Prop :=
  packet.eventCode = kHciConnectionCompEvt ∧ packet.data.at 0 = 0x00

instance (packet : HciEventPacket) : Decidable packet.Connects :=
  inferInstanceAs (Decidable (_ ∧ _))

namespace Host

/-- The single things a reaction does. Whether the reconnect cache may change is a parameter. -/
inductive Move (cache : Bool) : Host → Host → Prop
  | record (h : Host) (packets : List (List UInt8)) : Move cache h (h.record packets)
  | scanned (h : Host) (devices : ScannedDevices) :
    Move cache h (h.update fun ctx => { ctx with scannedDevices := devices })
  | targeted (h : Host) (target : HciScannedDevice) (isFastReconnect : Bool) :
    Move cache h (h.update fun ctx =>
      { ctx with
        currentConnectTarget := target
        hasCurrentConnectTarget := true
        pendingFastReconnect := isFastReconnect })
  | settled (h : Host) : Move cache h (h.update fun ctx => { ctx with pendingFastReconnect := false })
  | cached (hcache : cache = true) (h : Host) :
    Move cache h (h.update fun ctx => ctx.cacheConnectTarget h.now)
  | forgotten (hcache : cache = true) (h : Host) :
    Move cache h (h.update fun ctx => { ctx with hasLastWiimote := false, lastWiimote := {} })
  | scanning (h : Host) (enabled : Bool) :
    Move cache h (h.update fun ctx => { ctx with scanningEnabled := enabled })
  | inited (h : Host) : Move cache h (h.update fun ctx => { ctx with deviceInited := true })
  | timed (h : Host) (ttlMs : UInt32) :
    Move cache h (h.update fun ctx => { ctx with fastReconnectTtlMs := ttlMs })
  | automatic (h : Host) (enabled : Bool) :
    Move cache h (h.update fun ctx => { ctx with autoReconnectEnabled := enabled })
  | linked (h : Host) (connected : Bool) : Move cache h { h with connected }

/-- A reaction is a sequence of single moves. -/
abbrev Moves (cache : Bool) : Host → Host → Prop := Relation.ReflTransGen (Move cache)

section Moves

open Relation

variable {cache : Bool} (h : Host)

/-- What every move keeps, a sequence of moves keeps. -/
theorem Moves.invariant {I : Host → Prop} (hI : ∀ h h', Move cache h h' → I h → I h')
    {h h' : Host} (hmoves : Moves cache h h') (hi : I h) : I h' := by
  induction hmoves with
  | refl => exact hi
  | tail _ hmove ih => exact hI _ _ hmove ih

/-- Handing a packet over is a move. -/
theorem moves_hand (packet : List UInt8) : Moves cache h (h.hand packet) := by
  simp only [hand]
  split
  · exact .single (.record h [packet])
  · exact .refl

/-- So is sending one. -/
theorem moves_send (packet : List UInt8) : Moves cache h (h.send packet) := by
  simp only [send]
  split
  · exact moves_hand h packet
  · exact .refl

/-- So is the start of an inquiry. -/
theorem moves_startInquiry : Moves cache h h.startInquiry :=
  .head (.scanned h .empty) (moves_send _ _)

/-- So is a Create Connection. -/
theorem moves_startCreateConnection (target : HciScannedDevice) (isFastReconnect : Bool) :
    Moves cache h (h.startCreateConnection target isFastReconnect) :=
  (moves_send h _).tail (.targeted _ target isFastReconnect)

/-- So is a failed attempt. -/
theorem moves_attemptFailed : Moves cache h h.attemptFailed := by
  simp only [attemptFailed]
  split
  · exact .head (.settled h) (moves_startInquiry _)
  · exact .refl

/-- So is the reset. -/
theorem moves_resetDevice : Moves cache h h.resetDevice :=
  .head (.scanned h .empty) (.head (.scanning _ false) (moves_send _ _))

/-- So is the start of a connection. -/
theorem moves_startConnecting : Moves cache h h.startConnecting := by
  simp only [startConnecting]
  split
  · exact moves_startCreateConnection h _ true
  · exact moves_startInquiry h

/-- So is the reply to a command. -/
theorem moves_commandCompleted (cmdOpcode : UInt16) (status : UInt8) :
    Moves cache h (h.commandCompleted cmdOpcode status) := by
  simp only [commandCompleted]
  split_ifs
  · exact .refl
  · exact moves_send h _
  · exact moves_send h _
  · exact moves_send h _
  · exact .head (.scanning h true) (moves_send _ _)
  · simp only [scanEnableCompleted]
    split
    · exact (moves_startConnecting h).tail (.inited _)
    · exact .single (.inited h)
  · exact .refl

/-- So is one response of an inquiry. -/
theorem moves_inquiryResponse (response : BytePtr) : Moves cache h (h.inquiryResponse response) := by
  simp only [inquiryResponse]
  split
  · exact .refl
  split
  · exact .refl
  split
  · exact .head (.scanned h _) (moves_send _ _)
  · exact .single (.scanned h _)

/-- So are all responses of a result. -/
theorem moves_inquiryResponses (data : BytePtr) (num : Nat) :
    Moves cache h (h.inquiryResponses data num) := by
  induction num with
  | zero => exact .refl
  | succ num ih => exact ih.trans (moves_inquiryResponse _ _)

/-- So is a remote name. -/
theorem moves_remoteNameCompleted (data : BytePtr) : Moves cache h (h.remoteNameCompleted data) := by
  simp only [remoteNameCompleted]
  split
  · exact .refl
  split
  · exact (moves_send h _).trans (moves_startCreateConnection _ _ false)
  · exact .refl

/-- So is a Connection Complete, which fills the cache where it succeeded. -/
theorem moves_connectionCompleted {status : UInt8} (hcache : status = 0x00 → cache = true) :
    Moves cache h (h.connectionCompleted status) := by
  simp only [connectionCompleted]
  split
  · exact moves_attemptFailed h
  next hstatus => exact .head (.cached (hcache (not_not.mp hstatus)) h) (.single (.settled _))

/-- So is the end of a link. -/
theorem moves_disconnected : Moves cache h h.disconnected := by
  simp only [disconnected]
  split
  · exact .head (.linked h false) (moves_resetDevice _)
  · exact .refl

/-- Every event moves the host, and only a successful Connection Complete fills the cache. -/
theorem moves_handleEvent {packet : HciEventPacket}
    (hcache : packet.Connects → cache = true) : Moves cache h (h.handleEvent packet) := by
  simp only [handleEvent]
  split_ifs with _ _ hconn
  · exact moves_resetDevice h
  · exact moves_inquiryResponses h ..
  · exact moves_connectionCompleted h fun hstatus => hcache ⟨hconn, hstatus⟩
  · exact moves_disconnected h
  · exact moves_remoteNameCompleted h _
  · exact moves_commandCompleted h ..
  · simp only [commandStatus]
    split
    · exact moves_attemptFailed h
    · exact .refl
  · exact .refl

/-- Only a new start is no sequence of moves. -/
theorem moves_call {c : TwCall} (hc : ∀ i, c ≠ .init i)
    (hcache : c = .clearReconnectCache → cache = true) (handle : Option UInt16) :
    Moves cache h (h.call c handle) := by
  cases c with
  | init hciInterface => exact absurd rfl (hc hciInterface)
  | resetDevice => exact (moves_resetDevice h).tail (.inited _)
  | setFastReconnectTtlMs ttlMs => exact .single (.timed h ttlMs)
  | setScanEnabled enabled =>
    simp only [call]
    generalize (if enabled = true then (0x02 : UInt8) else 0x00) = mode
    split_ifs
    · exact .refl
    · exact .refl
    · exact (moves_hand h _).tail (.scanning _ enabled)
  | startDiscovery =>
    simp only [call]
    split_ifs
    · exact .refl
    · exact .refl
    · exact .refl
    · exact (moves_hand h _).tail (.scanning _ true)
  | stopDiscovery =>
    simp only [call]
    split_ifs
    · exact .refl
    · exact .refl
    · exact .refl
    · exact (moves_hand h _).tail (.scanning _ false)
  | disconnect reason =>
    simp only [call]
    split_ifs
    · exact .refl
    · exact .refl
    · cases handle with
      | none => exact .refl
      | some connectionHandle => exact moves_hand h _
  | setAutoReconnectEnabled enabled =>
    simp only [call]
    split_ifs
    · exact .refl
    · exact .single (.automatic h enabled)
  | clearReconnectCache =>
    simp only [call]
    split_ifs
    · exact .refl
    · exact .head (.forgotten (hcache rfl) h) (.single (.settled _))
  | _ => exact .refl

end Moves

/-! ## The wiring -/

/-- Every callback is set, as `tinyWiimoteInit` leaves it when it is given a send callback. -/
structure Wired (h : Host) : Prop where
  callback : h.callback = true
  sendPacket : h.context.sendPacket = true
  onAclConnected : h.context.onAclConnected = true
  onDisconnected : h.context.onDisconnected = true

section Wiring

variable {h : Host}

/-- A wired host hands every packet over. -/
theorem Wired.hand (hw : h.Wired) (packet : List UInt8) : h.hand packet = h.record [packet] :=
  if_pos hw.callback

/-- A wired host sends every packet. -/
theorem Wired.send (hw : h.Wired) (packet : List UInt8) : h.send packet = h.record [packet] :=
  (if_pos hw.sendPacket).trans (hw.hand packet)

/-- No move sets or clears a callback. -/
theorem Move.wiring {cache : Bool} {h h' : Host} (hmove : Move cache h h') :
    h'.callback = h.callback ∧ h'.context.sendPacket = h.context.sendPacket ∧
      h'.context.onAclConnected = h.context.onAclConnected ∧
      h'.context.onDisconnected = h.context.onDisconnected := by
  cases hmove with
  | cached =>
    rw [context_update, HciEventContext.cacheConnectTarget]
    split <;> exact ⟨rfl, rfl, rfl, rfl⟩
  | _ => exact ⟨rfl, rfl, rfl, rfl⟩

/-- No move unwires the host. -/
theorem Wired.moves {cache : Bool} {h' : Host} (hw : h.Wired) (hmoves : Moves cache h h') : h'.Wired := by
  apply hmoves.invariant (I := Wired) _ hw
  intro h h' hmove hw
  obtain ⟨hcallback, hsend, hacl, hdisc⟩ := hmove.wiring
  exact ⟨hcallback.trans hw.callback, hsend.trans hw.sendPacket, hacl.trans hw.onAclConnected,
    hdisc.trans hw.onDisconnected⟩

end Wiring

/-! ## What a host hands over -/

/-- What arrives of packets that are sent through the event context. -/
def given (h : Host) (packets : List (List UInt8)) : List (List UInt8) :=
  if h.context.sendPacket && h.callback then packets else []

section Commands

variable (h : Host)

/-- Sending adds what the callback is given. -/
theorem commands_send (packet : List UInt8) : (h.send packet).commands = h.commands ++ h.given [packet] := by
  simp only [send, hand, given]
  cases h.context.sendPacket <;> cases h.callback <;> simp [record]

/-- Of no packets the callback is given none. -/
@[simp] theorem given_nil : h.given [] = [] := ite_self []

variable {h} in
/-- What the callback is given is one of the packets, and the callback is set. -/
theorem mem_given {packets : List (List UInt8)} {packet : List UInt8} (hmem : packet ∈ h.given packets) :
    h.callback = true ∧ packet ∈ packets := by
  simp only [given] at hmem
  split at hmem
  next hsends => exact ⟨(Bool.and_eq_true_iff.mp hsends).2, hmem⟩
  next => cases hmem

/-- Sending does not change what the callback is given. -/
theorem given_send (packet : List UInt8) (packets : List (List UInt8)) :
    (h.send packet).given packets = h.given packets := by
  simp only [given, context_send, callback_send]

/-- The start of an inquiry hands out one Inquiry. -/
theorem commands_startInquiry : h.startInquiry.commands =
    h.commands ++ h.given [makeCmdInquiry ⟨0x9E8B33, 0x05, 0x00⟩] := commands_send ..

/-- A Create Connection hands out itself. -/
theorem commands_startCreateConnection (target : HciScannedDevice) (isFastReconnect : Bool) :
    (h.startCreateConnection target isFastReconnect).commands = h.commands ++ h.given
      [makeCmdCreateConnection ⟨target.bdAddr, 0x0008, target.psrm, target.clkofs, 0x00⟩] :=
  commands_send ..

/-- The reset hands out one Reset. -/
theorem commands_resetDevice : h.resetDevice.commands = h.commands ++ h.given [makeCmdReset] :=
  commands_send ..

/-- The search starts with the cached controller or with an inquiry. -/
theorem commands_startConnecting : h.startConnecting.commands =
    h.commands ++ h.given [
      if h.context.autoReconnectEnabled && h.context.isFastReconnectCacheValid h.now then
        makeCmdCreateConnection ⟨h.context.lastWiimote.bdAddr, 0x0008, h.context.lastWiimote.psrm,
          h.context.lastWiimote.clkofs, 0x00⟩
      else makeCmdInquiry ⟨0x9E8B33, 0x05, 0x00⟩] := by
  rw [startConnecting]
  split
  · exact h.commands_startCreateConnection _ true
  · exact h.commands_startInquiry

variable {h}

/-- The callback of a wired host is given everything. -/
theorem Wired.given (hw : h.Wired) (packets : List (List UInt8)) : h.given packets = packets :=
  if_pos (by simp [hw.sendPacket, hw.callback])

end Commands

end Host

/-! ## Steps -/

/-- What a step of the runtime is for the host side. -/
inductive HostInput where
  | event (packet : HciEventPacket)
  | firstReport
  | call (c : TwCall) (handle : Option UInt16)
  | nothing

/-- The host side as a step finds it: no command handed over yet. -/
def Host.enter (h : Host) (now : UInt32) : Host := { h with now, commands := [] }

/-- The reaction to an input. -/
def Host.react (h : Host) : HostInput → Host
  | .event packet => h.handleEvent packet
  | .firstReport => h.firstReport
  | .call c handle => h.call c handle
  | .nothing => h

/-- One step: the time is noted, then the host reacts. -/
def Host.step (h : Host) (now : UInt32) (input : HostInput) : Host := (h.enter now).react input

/-- The step sets or clears the reconnect cache. -/
def HostInput.SetsCache : HostInput → Prop
  | .event packet => packet.Connects
  | .call .clearReconnectCache _ => True
  | _ => False

/-- Apart from a new start, a step is a sequence of moves. -/
theorem Host.moves_react (h : Host) {cache : Bool} {input : HostInput}
    (hin : ∀ i handle, input ≠ .call (.init i) handle) (hcache : input.SetsCache → cache = true) :
    Moves cache h (h.react input) := by
  cases input with
  | event packet => exact moves_handleEvent h hcache
  | firstReport => exact .head (.scanning h false) (.single (.linked _ true))
  | call c handle =>
    refine moves_call h (fun i hi => hin i handle (by rw [hi])) (fun hclear => hcache ?_) handle
    subst hclear
    trivial
  | nothing => exact .refl

/-- A start without a send callback. -/
def HostInput.Unwires : HostInput → Prop
  | .call (.init hciInterface) _ => hciInterface.hciSendPacket = false
  | _ => False

/-- The clock does not unwire the host. -/
theorem Host.Wired.enter {h : Host} (hw : h.Wired) (now : UInt32) : (h.enter now).Wired :=
  ⟨hw.callback, hw.sendPacket, hw.onAclConnected, hw.onDisconnected⟩

/-- A wired host stays wired through every step that does not unwire it. -/
theorem Host.Wired.step {h : Host} (hw : h.Wired) (now : UInt32) {input : HostInput}
    (hin : ¬input.Unwires) : (h.step now input).Wired := by
  by_cases hinit : ∃ i handle, input = .call (.init i) handle
  · obtain ⟨i, handle, rfl⟩ := hinit
    have hi : i.hciSendPacket = true := by simpa [HostInput.Unwires] using hin
    exact ⟨hi, rfl, rfl, rfl⟩
  · exact (hw.enter now).moves (moves_react _
      (fun i handle hi => hinit ⟨i, handle, hi⟩) fun _ => rfl)

/-- `TinyWiimoteInit` with a callback leaves the host wired. -/
theorem wired_afterInit (w : TwWorld) : (w.afterInit ⟨true⟩).host.Wired := ⟨rfl, rfl, rfl, rfl⟩

/-- The host side's part in a step. -/
def TwWorld.hostInput (w : TwWorld) (e : TwEvent) : HostInput :=
  match e.action with
  | .hci data len =>
    match eventPacket data len with
    | some packet => .event packet
    | none => if (w.step e).isConnected = w.isConnected then .nothing else .firstReport
  | .call c => .call c w.gRuntime.l2capConnections.getFirstConnectionHandle

/-! ## The host side of a program -/

section Observing

variable (w : TwWorld)

/-- Reads do not show on the host side. -/
@[simp] theorem host_noteReads (offsets : List Nat) : (w.noteReads offsets).host = w.host := rfl

/-- An assignment to the context shows as one. -/
@[simp] theorem host_mapContext (f : HciEventContext → HciEventContext) :
    (w.mapContext f).host = w.host.update f := rfl

/-- Of the packets sent, the commands show. -/
theorem host_noteSent (packets : List (List UInt8)) :
    (w.noteSent packets).host = w.host.record (packets.filter IsCommand) := by
  simp [TwWorld.host, TwWorld.isConnected, TwWorld.noteSent, Host.record]

/-- The entry of a step sets the time of the host. -/
@[simp] theorem host_enter (e : TwEvent) : (w.enter e).host = w.host.enter e.millis := rfl

variable {w}

/-- For a command it does not matter whether all packets are looked at or the commands only. -/
theorem mem_host_commands {packet : List UInt8} {opcode : UInt16}
    (h : commandOpcode packet = some opcode) : packet ∈ w.host.commands ↔ packet ∈ w.sent := by
  change packet ∈ w.sent.filter IsCommand ↔ _
  rw [List.mem_filter]
  simp [IsCommand, h]

/-- A command was sent exactly when the host handed it out. -/
theorem exists_sent_iff {opcode : UInt16} {Q : List UInt8 → Prop} :
    (∃ packet ∈ w.sent, commandOpcode packet = some opcode ∧ Q packet) ↔
      ∃ packet ∈ w.host.commands, commandOpcode packet = some opcode ∧ Q packet := by
  constructor
  · intro ⟨packet, hmem, hop, hQ⟩
    exact ⟨packet, (mem_host_commands hop).mpr hmem, hop, hQ⟩
  · intro ⟨packet, hmem, hop, hQ⟩
    exact ⟨packet, (mem_host_commands hop).mp hmem, hop, hQ⟩

/-- No command with this opcode was sent exactly when the host handed none out. -/
theorem forall_sent_iff {opcode : UInt16} :
    (∀ packet ∈ w.sent, commandOpcode packet ≠ some opcode) ↔
      ∀ packet ∈ w.host.commands, commandOpcode packet ≠ some opcode :=
  ⟨fun h packet hmem hop => h packet ((mem_host_commands hop).mp hmem) hop,
    fun h packet hmem hop => h packet ((mem_host_commands hop).mpr hmem) hop⟩

/-- The host's context, flag and time are the world's. -/
@[simp] theorem host_context : w.host.context = w.gRuntime.hciEventContext := rfl

@[simp] theorem host_connected : w.host.connected = w.isConnected := rfl

@[simp] theorem host_now : w.host.now = w.millis := rfl

/-- Sending output reports cannot be seen on the host side. -/
instance : SendRelation (Same TwWorld.host) where
  noteReads _ _ := rfl
  noteSent w packet h := by
    change (w.noteSent [packet]).host = w.host
    rw [host_noteSent, List.filter_cons_of_neg (by simp [IsCommand, h]), List.filter_nil,
      Host.record_nil]
  mapRuntime w r h := by
    have hctx := congrArg UpperRuntime.hciEventContext h
    have hconn := congrArg UpperRuntime.wiimoteConnected h
    have hcallback := congrArg UpperRuntime.hciInterface h
    simp only [TinyWiimoteRuntime.upper] at hctx hconn hcallback
    simp only [Same, TwWorld.host, TwWorld.isConnected, TwWorld.gRuntime_mapRuntime,
      TwWorld.millis_mapRuntime, TwWorld.sent_mapRuntime, hctx, hconn, hcallback]

/-- ACL data shows on the host side by the first input report of a link at most. -/
def DataEffect (w t : TwWorld) : Prop :=
  t.host = w.host ∨ (w.isConnected = false ∧ t.host = w.host.firstReport)

instance : AclRelation DataEffect where
  refl _ := .inl rfl
  trans r s t hrs hst := by
    obtain hrs | ⟨hr, hrs⟩ := hrs
    · obtain hst | ⟨hs, hst⟩ := hst
      · exact .inl (hst.trans hrs)
      · refine .inr ⟨?_, hst.trans (congrArg Host.firstReport hrs)⟩
        exact (congrArg Host.connected hrs).symm.trans hs
    · -- once the link is known, it is not detected again
      have hs : s.isConnected = true := congrArg Host.connected hrs
      obtain hst | ⟨hs', hst⟩ := hst
      · exact .inr ⟨hr, hst.trans hrs⟩
      · exact absurd (hs.symm.trans hs') Bool.true_eq_false.mp
  noteReads w offsets := .inl rfl
  noteSent w packet h := .inl (SendRelation.noteSent (R := Same TwWorld.host) w packet h)
  mapRuntime w r h := .inl (SendRelation.mapRuntime (R := Same TwWorld.host) w r h)
  detected w h := .inr ⟨h, rfl⟩

/-- `sendHciPacketRaw` is `hand` for a command. -/
@[simp] theorem host_sendHciPacketRaw {packet : List UInt8} (h : IsCommand packet) (w : TwWorld) :
    (exec (sendHciPacketRaw packet) w).2.host = w.host.hand packet := by
  rw [exec_sendHciPacketRaw, host_noteSent, Host.hand]
  change _ = if w.gRuntime.hciInterface.hciSendPacket = true then _ else _
  split
  · rw [List.filter_cons_of_pos h, List.filter_nil]
  · rw [List.filter_nil, Host.record_nil]

/-- `hciSend` is `send` for a command. -/
@[simp] theorem host_hciSend {packet : List UInt8} (h : IsCommand packet) (w : TwWorld) :
    (exec (hciSend packet) w).2.host = w.host.send packet := by
  simp only [hciSend, exec_getContext_bind, exec_ite, exec_pure]
  change _ = if w.gRuntime.hciEventContext.sendPacket = true then _ else _
  split
  · exact host_sendHciPacketRaw h w
  · rfl

end Observing

/-! ## The event handlers -/

section Handlers

variable (w : TwWorld)

/-- `startInquiry` is the host's. -/
theorem host_startInquiry : (exec startInquiry w).2.host = w.host.startInquiry := by
  rw [startInquiry, exec_then, host_hciSend (by simp [IsCommand])]
  rfl

/-- So is `startCreateConnection`. -/
theorem host_startCreateConnection (target : HciScannedDevice) (isFastReconnect : Bool) :
    (exec (startCreateConnection target isFastReconnect) w).2.host =
      w.host.startCreateConnection target isFastReconnect := by
  rw [startCreateConnection, exec_then, exec_modifyContext, host_mapContext,
    host_hciSend (by simp [IsCommand])]
  rfl

/-- `fallbackFromFastReconnectToInquiry` is a failed attempt. -/
theorem host_fallbackFromFastReconnectToInquiry :
    (exec fallbackFromFastReconnectToInquiry w).2.host = w.host.attemptFailed := by
  by_cases h : w.gRuntime.hciEventContext.pendingFastReconnect
  · simp only [fallbackFromFastReconnectToInquiry, exec_getContext_bind, exec_then,
      exec_modifyContext, Host.attemptFailed, host_context, h, if_true, host_startInquiry,
      host_mapContext]
  · simp [fallbackFromFastReconnectToInquiry, Host.attemptFailed, h]

/-- `hciEventsResetDevice` is the host's reset. -/
theorem host_hciEventsResetDevice : (exec hciEventsResetDevice w).2.host = w.host.resetDevice := by
  rw [hciEventsResetDevice, exec_then, exec_then, host_hciSend rfl]
  rfl

/-- `startConnecting` is the host's. -/
theorem host_startConnecting : (exec startConnecting w).2.host = w.host.startConnecting := by
  let ctx := w.gRuntime.hciEventContext
  by_cases h : ctx.autoReconnectEnabled && ctx.isFastReconnectCacheValid w.millis
  · simp only [startConnecting, exec_getContext_bind, exec_nowMs_bind, Host.startConnecting,
      host_context, host_now, ctx, h, if_true, host_startCreateConnection]
  · simp only [startConnecting, exec_getContext_bind, exec_nowMs_bind, Host.startConnecting,
      host_context, host_now, ctx, h, Bool.false_eq_true, if_false, host_startInquiry]

/-- The reply to Write Scan Enable is the host's. -/
theorem host_writeScanEnableCompleted :
    (exec writeScanEnableCompleted w).2.host = w.host.scanEnableCompleted := by
  by_cases h : w.gRuntime.hciEventContext.connectsOnScanEnable
  · simp only [writeScanEnableCompleted, exec_getContext_bind, exec_then, exec_modifyContext,
      Host.scanEnableCompleted, host_context, h, if_true, host_mapContext, host_startConnecting]
  · simp [writeScanEnableCompleted, Host.scanEnableCompleted, h]

/-- So is the reply to every command. -/
theorem host_commandCompleted (cmdOpcode : UInt16) (status : UInt8) :
    (exec (commandCompleted cmdOpcode status) w).2.host =
      w.host.commandCompleted cmdOpcode status := by
  simp only [commandCompleted, exec_ite, exec_then, exec_modifyContext, exec_pure,
    Host.commandCompleted]
  split_ifs
  · rfl
  · rw [host_hciSend rfl]
  · rw [host_hciSend (by simp [IsCommand])]
  · rw [host_hciSend (by simp [IsCommand])]
  · rw [host_hciSend (by simp [IsCommand]), host_mapContext]
  · rw [host_writeScanEnableCompleted]
  · rfl

/-- `handleCommandComplete` reads opcode and status off the event. -/
theorem host_handleCommandComplete (data : BytePtr) :
    (exec (handleCommandComplete data) w).2.host =
      w.host.commandCompleted (uint16OfLe (data.at 1) (data.at 2)) (data.at 3) := by
  rw [handleCommandComplete, exec_readUInt16Le_bind, exec_readByte_bind, host_commandCompleted]
  rfl

/-- So does `handleCommandStatus`. -/
theorem host_handleCommandStatus (data : BytePtr) :
    (exec (handleCommandStatus data) w).2.host =
      w.host.commandStatus (data.at 0) (uint16OfLe (data.at 2) (data.at 3)) := by
  simp only [handleCommandStatus, exec_readByte_bind, exec_readUInt16Le_bind, exec_ite, exec_pure,
    TwWorld.noteReads_noteReads, BytePtr.at_add, Host.commandStatus]
  split_ifs
  · rw [host_fallbackFromFastReconnectToInquiry, host_noteReads]
  · rfl

/-- `handleInquiryResponse` is the host's reaction to one response. -/
theorem host_handleInquiryResponse (response : BytePtr) :
    (exec (handleInquiryResponse response) w).2.host = w.host.inquiryResponse response := by
  let devices := w.gRuntime.hciEventContext.scannedDevices
  by_cases hlisted : (devices.findScannedDevice response.bdAddrAt).isSome
  · simp [handleInquiryResponse, Host.inquiryResponse, devices, hlisted]
  cases hadd : devices.addScannedDevice response.scannedAt with
  | none =>
    simp only [BytePtr.scannedAt, devices] at hadd
    simp [handleInquiryResponse, Host.inquiryResponse, BytePtr.scannedAt, devices, hlisted, hadd]
  | some devices' =>
    simp only [BytePtr.scannedAt, devices] at hadd
    simp only [handleInquiryResponse, exec_streamToBdAddr_bind, exec_getContext_bind, exec_ite,
      exec_readByte_bind, exec_pure, Host.inquiryResponse, host_context, TwWorld.gRuntime_noteReads,
      BytePtr.scannedAt, devices, hlisted, Bool.false_eq_true, if_false, hadd, exec_then, exec_modifyContext,
      exec_bind_of_exec (exec_readMatches ..)]
    split
    · rw [host_hciSend (by simp [IsCommand])]
      rfl
    · rfl

/-- So it is for the responses of a result. -/
theorem host_handleInquiryResponses (data : BytePtr) (num : Nat) :
    (exec (handleInquiryResponses data num) w).2.host = w.host.inquiryResponses data num := by
  induction num with
  | zero => rfl
  | succ num ih =>
    rw [handleInquiryResponses, exec_then, host_handleInquiryResponse, ih, Host.inquiryResponses]

/-- `handleRemoteNameRequestComplete` is the host's reaction to a name. -/
theorem host_handleRemoteNameRequestComplete (data : BytePtr) :
    (exec (handleRemoteNameRequestComplete data) w).2.host = w.host.remoteNameCompleted data := by
  simp only [handleRemoteNameRequestComplete, exec_streamToBdAddr_bind, exec_then,
    exec_logRemoteName, exec_getContext_bind, TwWorld.noteReads_noteReads,
    TwWorld.gRuntime_noteReads, Host.remoteNameCompleted]
  cases h : w.gRuntime.hciEventContext.scannedDevices.findScannedDevice (data + 1).bdAddrAt with
  | none => simp [h]
  | some scanned =>
    simp only [exec_bind_of_exec (exec_readMatches ..), exec_ite, exec_then, exec_pure,
      host_context, h]
    split
    · rw [host_startCreateConnection, host_hciSend rfl]
      rfl
    · rfl

/-- `handleConnectionComplete` reads the status off the event. -/
theorem host_handleConnectionComplete (data : BytePtr) :
    (exec (handleConnectionComplete callbacks data) w).2.host =
      w.host.connectionCompleted (data.at 0) := by
  simp only [handleConnectionComplete, exec_readByte_bind, exec_ite, Host.connectionCompleted]
  split_ifs
  · rw [host_fallbackFromFastReconnectToInquiry, host_noteReads]
  · simp only [exec_readUInt16Le_bind, exec_nowMs_bind, exec_then, exec_modifyContext,
      exec_getContext_bind, exec_ite, exec_pure]
    split_ifs
    · -- opening the L2CAP channel sends ACL data only
      have hopen : ∀ ch, Within (Same TwWorld.host) (onAclConnected ch) := fun ch =>
        aclEffect_sendConnectionRequest ch _ _
      exact (hopen _).rel _
    · rfl

/-- `resetDevice` is the host's reset. -/
theorem host_resetDeviceInternal : (exec resetDeviceInternal w).2.host = w.host.resetDevice := by
  have hreset := host_hciEventsResetDevice
    (w.mapRuntime fun r => { r with l2capConnections := .empty })
  exact hreset

/-- `handleDisconnectionComplete` is the host's reaction to the end of a link. -/
theorem host_handleDisconnectionComplete (data : BytePtr) :
    (exec (handleDisconnectionComplete callbacks data) w).2.host = w.host.disconnected := by
  by_cases h : w.gRuntime.hciEventContext.onDisconnected
  · simp only [handleDisconnectionComplete, exec_readUInt16Le_bind, exec_readByte_bind,
      exec_getContext_bind, TwWorld.gRuntime_noteReads, Host.disconnected, host_context, h, if_true]
    simp only [callbacks, onDisconnected, exec_then, exec_modifyWiimoteState,
      host_resetDeviceInternal]
    rfl
  · simp [handleDisconnectionComplete, Host.disconnected, h]

/-- Every event is handled as the host reacts to it. -/
theorem host_hciEventsHandleEvent (packet : HciEventPacket) :
    (exec (hciEventsHandleEvent callbacks packet) w).2.host = w.host.handleEvent packet := by
  simp only [hciEventsHandleEvent, exec_ite, exec_pure, Host.handleEvent]
  split_ifs
  · exact host_hciEventsResetDevice w
  · rw [handleInquiryResult, exec_readByte_bind, host_handleInquiryResponses, host_noteReads]
  · exact host_handleConnectionComplete w packet.data
  · exact host_handleDisconnectionComplete w packet.data
  · exact host_handleRemoteNameRequestComplete w packet.data
  · exact host_handleCommandComplete w packet.data
  · exact host_handleCommandStatus w packet.data
  · rfl

end Handlers

/-! ## Steps of the runtime -/

/-- A call that only sends output reports cannot be seen. -/
theorem host_sendOnFirstConnection {send : WiimoteProtocol → UInt16 → TwM Unit}
    (hsend : ∀ protocol ch, Within (Same TwWorld.host) (send protocol ch)) (w : TwWorld) :
    (exec (discard (sendOnFirstConnection send)) w).2.host = w.host :=
  (aclEffect_sendOnFirstConnection hsend).rel w

/-- Every call is the host's. -/
theorem host_run (c : TwCall) (w : TwWorld) : (exec c.run w).2.host =
    w.host.call c w.gRuntime.l2capConnections.getFirstConnectionHandle := by
  cases c with
  | init hciInterface => rfl
  | resetDevice =>
    rw [TwCall.run, tinyWiimoteResetDevice, exec_then, exec_modifyContext, host_mapContext,
      host_resetDeviceInternal]
    rfl
  | requestBatteryUpdate => exact host_sendOnFirstConnection (fun _ _ => aclEffect_sendReport ..) w
  | setLeds ledMask => exact host_sendOnFirstConnection (fun _ _ => aclEffect_sendReport ..) w
  | setReportingMode mode continuous =>
    exact host_sendOnFirstConnection (fun _ _ => aclEffect_sendReport ..) w
  | requestStatus => exact host_sendOnFirstConnection (fun _ _ => aclEffect_sendReport ..) w
  | writeMemory addressSpace offset data len =>
    exact host_sendOnFirstConnection (fun _ _ => aclEffect_writeMemory ..) w
  | readMemory addressSpace offset size =>
    exact host_sendOnFirstConnection (fun _ _ => aclEffect_readMemory ..) w
  | read => rfl
  | reqAccelerometer use => rfl
  | setFastReconnectTtlMs ttlMs => rfl
  | setScanEnabled enabled =>
    simp only [TwCall.run, tinyWiimoteSetScanEnabled, exec_getRuntime_bind, exec_ite, exec_then,
      exec_modifyContext, exec_pure, Host.call]
    change _ = if !w.gRuntime.hciEventContext.deviceInited then _
      else if !w.gRuntime.wiimoteState.wiimoteConnected &&
        enabled == w.gRuntime.hciEventContext.scanningEnabled then _ else _
    generalize (if enabled = true then (0x02 : UInt8) else 0x00) = mode
    split_ifs
    · rfl
    · rfl
    · rw [host_mapContext, host_sendHciPacketRaw (by simp [IsCommand])]
  | startDiscovery =>
    simp only [TwCall.run, tinyWiimoteStartDiscovery, exec_discard, exec_getRuntime_bind, exec_ite,
      exec_then, exec_modifyContext, exec_pure, Host.call]
    change _ = if !w.gRuntime.hciEventContext.deviceInited then _
      else if w.gRuntime.wiimoteState.wiimoteConnected then _
      else if w.gRuntime.hciEventContext.scanningEnabled then _ else _
    split_ifs
    · rfl
    · rfl
    · rfl
    · rw [host_mapContext, host_sendHciPacketRaw (by simp [IsCommand])]
  | stopDiscovery =>
    simp only [TwCall.run, tinyWiimoteStopDiscovery, exec_discard, exec_getRuntime_bind, exec_ite,
      exec_then, exec_modifyContext, exec_pure, Host.call]
    change _ = if !w.gRuntime.hciEventContext.deviceInited then _
      else if w.gRuntime.wiimoteState.wiimoteConnected then _
      else if !w.gRuntime.hciEventContext.scanningEnabled then _ else _
    split_ifs
    · rfl
    · rfl
    · rfl
    · rw [host_mapContext, host_sendHciPacketRaw rfl]
  | disconnect reason =>
    simp only [TwCall.run, tinyWiimoteDisconnect, exec_discard, exec_getRuntime_bind, exec_ite,
      exec_pure, Host.call]
    change _ = if !w.gRuntime.hciEventContext.deviceInited then _
      else if !w.gRuntime.wiimoteState.wiimoteConnected then _ else _
    split_ifs
    · rfl
    · rfl
    · cases w.gRuntime.l2capConnections.getFirstConnectionHandle with
      | none => rfl
      | some connectionHandle => exact host_sendHciPacketRaw (by simp [IsCommand]) w
  | setAutoReconnectEnabled enabled =>
    simp only [TwCall.run, tinyWiimoteSetAutoReconnectEnabled, exec_getRuntime_bind, exec_ite,
      exec_modifyContext, exec_pure, Host.call]
    change _ = if !w.gRuntime.hciEventContext.deviceInited then _ else _
    split_ifs
    · rfl
    · rfl
  | clearReconnectCache =>
    simp only [TwCall.run, tinyWiimoteClearReconnectCache, exec_getRuntime_bind, exec_ite,
      exec_modifyContext, exec_pure, Host.call]
    change _ = if !w.gRuntime.hciEventContext.deviceInited then _ else _
    split_ifs
    · rfl
    · rfl

/-- Every step of the runtime is a step of the host side. -/
theorem host_step (w : TwWorld) (e : TwEvent) :
    (w.step e).host = w.host.step e.millis (w.hostInput e) := by
  obtain ⟨action, millis, logLevel⟩ := e
  cases action with
  | call c => exact host_run c (w.enter ⟨.call c, millis, logLevel⟩)
  | hci data len =>
    simp only [TwWorld.hostInput]
    cases hpacket : eventPacket data len with
    | some packet =>
      simp only [TwWorld.step, TwAction.run]
      rw [exec_handleHciData_of_eventPacket hpacket, host_hciEventsHandleEvent]
      rfl
    | none =>
      have heffect : DataEffect (w.enter ⟨.hci data len, millis, logLevel⟩)
          (w.step ⟨.hci data len, millis, logLevel⟩) := (aclEffect_handleHciData hpacket).rel _
      obtain hsame | ⟨hbefore, hreport⟩ := heffect
      · have hconn : (w.step ⟨.hci data len, millis, logLevel⟩).isConnected = w.isConnected :=
          congrArg Host.connected hsame
        rw [hsame]
        simp only [hconn, if_true]
        rfl
      · have hconn : (w.step ⟨.hci data len, millis, logLevel⟩).isConnected = true :=
          congrArg Host.connected hreport
        have hbefore' : w.isConnected = false := hbefore
        rw [hreport]
        simp only [hconn, hbefore', Bool.true_eq_false, if_false]
        rfl

/-- What no single move loses, and every start gives, holds after every step. -/
theorem host_invariant_step {I : Host → Prop} (hmove : ∀ h h', Host.Move true h h' → I h → I h')
    (hinit : ∀ h i handle, I (Host.call h (.init i) handle)) {w : TwWorld} (e : TwEvent)
    (hw : I (w.host.enter e.millis)) : I (w.step e).host := by
  rw [host_step]
  by_cases hstart : ∃ i handle, w.hostInput e = .call (.init i) handle
  · obtain ⟨i, handle, hinput⟩ := hstart
    rw [hinput]
    exact hinit _ i handle
  · have hmoves : Host.Moves true (w.host.enter e.millis) ((w.host.enter e.millis).react (w.hostInput e)) :=
      Host.moves_react _ (fun i handle hinput => hstart ⟨i, handle, hinput⟩) fun _ => rfl
    exact hmoves.invariant hmove hw

end Esp32Wiimote.Bluetooth
