import Esp32Wiimote.Bluetooth.Session

/-!
# What a step does to the link

Whether a controller is connected, the connection table and the queue of reports, as a machine of
their own. A frame of a received ACL packet opens a channel or brings a report; apart from that only
the end of a link and three of the public calls touch the link.
-/

namespace Esp32Wiimote.Bluetooth

open StateProgram TransitionRun

/-! ## Frames -/

/-- The L2CAP frame of an ACL packet. -/
structure AclFrame where
  connectionHandle : UInt16
  channelId : UInt16
  data : BytePtr
  len : UInt16

/-- The frame that is given to `handleL2capData`, if any. -/
def aclFrame (data : Option (Nat → UInt8)) (len : Nat) : Option AclFrame :=
  match data with
  | none => none
  | some mem =>
    let p : BytePtr := { mem, len, off := 1 }
    let l2capLen := uint16OfLe (mem 5) (mem 6)
    if mem 0 = h4Acl ∧ 9 ≤ len ∧ (mem 2 &&& 0x30) >>> 4 = 0b10 ∧ (mem 2 &&& 0xC0) >>> 6 = 0b00 ∧
        9 + l2capLen.toNat ≤ len then
      some ⟨((mem 2 &&& 0x0F).toUInt16 <<< 8) ||| (mem 1).toUInt16, uint16OfLe (mem 7) (mem 8), p + 8,
        l2capLen⟩
    else none

/-- The ACL frame a step handles, if it handles one. -/
def TwEvent.frame (e : TwEvent) : Option AclFrame :=
  match e.action with
  | .hci data len => aclFrame data len
  | .call _ => none

namespace AclFrame

variable (frame : AclFrame)

/-- The first byte of the frame. -/
def code : Option UInt8 := if frame.len = 0 then none else some (frame.data.at 0)

/-- The frame is an input report. -/
def IsReport : Prop := frame.code = some hidInputReport

instance : Decidable frame.IsReport := inferInstanceAs (Decidable (_ = _))

end AclFrame

/-! ## Where a frame goes -/

section Receiver

variable (receive : L2capFrameHeader → BytePtr → UInt16 → TwM Unit)

/-- `handleAclData` with any receiver of frames in the place of `handleL2capData`. -/
def handleAclDataWith (data : BytePtr) (len : Nat) : TwM Unit := do
  if len < 8 then
    pure ()
  else
    let high ← readByte data 1
    let low ← readByte data 0
    let ch := ((high &&& 0x0F).toUInt16 <<< 8) ||| low.toUInt16
    let pbf := (high &&& 0x30) >>> 4
    let bf := (high &&& 0xC0) >>> 6
    if pbf ≠ 0b10 ∨ bf ≠ 0b00 then
      pure ()
    else
      let l2capLen ← readUInt16Le (data + 4)
      let channelId ← readUInt16Le (data + 6)
      if len < 8 + l2capLen.toNat then
        pure ()
      else
        receive ⟨ch, channelId⟩ (data + 8) l2capLen

/-- `handleHciData` with any receiver of frames. -/
def handleHciDataWith (data : Option (Nat → UInt8)) (len : Nat) : TwM Unit :=
  match data with
  | none => pure ()
  | some mem => do
    let data : BytePtr := { mem, len }
    if len = 0 then
      pure ()
    else
      let type ← readByte data 0
      if type = h4Event then
        handleHciEvent data
      else if type = h4Acl then
        if 2 ≤ len then handleAclDataWith receive (data + 1) (len - 1)
      else
        format2Hex data (len % 65536)

/-- `handleHciData` hands the frames it decodes to `handleL2capData`. -/
theorem handleHciDataWith_handleL2capData : handleHciDataWith handleL2capData = handleHciData := rfl

/-- A packet with a frame is handled by reading its headers and giving the frame to the receiver. -/
theorem exec_handleHciDataWith_of_aclFrame {data : Option (Nat → UInt8)} {len : Nat}
    {frame : AclFrame} (h : aclFrame data len = some frame) (w : TwWorld) :
    ∃ offsets, exec (handleHciDataWith receive data len) w =
      exec (receive ⟨frame.connectionHandle, frame.channelId⟩ frame.data frame.len)
        (w.noteReads offsets) := by
  cases data with
  | none => cases h
  | some mem =>
    simp only [aclFrame] at h
    split at h
    next hd =>
      obtain ⟨htype, hlen, hpbf, hbf, hfits⟩ := hd
      cases h
      have hread : ∀ off i, BytePtr.at { mem, len, off } i = mem (off + i) := fun _ _ => rfl
      have hnotEvent : ¬h4Acl = h4Event := by decide
      simp only [handleHciDataWith, show ¬len = 0 by omega, if_false, exec_readByte_bind, hread, htype,
        hnotEvent, if_true, show 2 ≤ len by omega, handleAclDataWith, show ¬len - 1 < 8 by omega]
      simp only [BytePtr.at_add, hread, hpbf, hbf, ne_eq, not_true_eq_false, or_self, if_false,
        exec_readUInt16Le_bind, show ¬len - 1 < 8 + (uint16OfLe (mem 5) (mem 6)).toNat by omega,
        TwWorld.noteReads_noteReads]
      exact ⟨_, rfl⟩
    next => cases h

end Receiver

/-- A frame that decodes is handled after its header was read. -/
theorem exec_handleHciData_of_aclFrame {data : Option (Nat → UInt8)} {len : Nat} {frame : AclFrame}
    (h : aclFrame data len = some frame) (w : TwWorld) : ∃ offsets, exec (handleHciData data len) w =
      exec (handleL2capData ⟨frame.connectionHandle, frame.channelId⟩ frame.data frame.len)
        (w.noteReads offsets) := exec_handleHciDataWith_of_aclFrame handleL2capData h w

/-! ## Dropped packets -/

/-- Nothing happened but reads of the received packet. -/
def ReadsOnly (w t : TwWorld) : Prop := ∃ offsets, t = w.noteReads offsets

instance : IsPreorder TwWorld ReadsOnly where
  refl w := ⟨[], (TwWorld.noteReads_nil w).symm⟩
  trans := by
    rintro r s t ⟨first, rfl⟩ ⟨second, rfl⟩
    exact ⟨first ++ second, TwWorld.noteReads_noteReads r first second⟩

/-- Reading bytes does nothing but read. -/
theorem readsOnly_readBytes (p : BytePtr) (count : Nat) : Within ReadsOnly (readBytes p count) := by
  refine ⟨fun w => ?_⟩
  rw [exec_readBytes]
  exact ⟨_, rfl⟩

/-- A packet that holds neither an event nor a frame is dropped. -/
theorem readsOnly_handleHciData {data : Option (Nat → UInt8)} {len : Nat}
    (hevent : eventPacket data len = none) (hframe : aclFrame data len = none) :
    Within ReadsOnly (handleHciData data len) := by
  cases data with
  | none => exact Within.pure _
  | some mem =>
    have hread : ∀ off i, BytePtr.at { mem, len, off } i = mem (off + i) := fun _ _ => rfl
    simp only [eventPacket, ite_eq_right_iff, reduceCtorEq, imp_false] at hevent
    simp only [aclFrame, ite_eq_right_iff, reduceCtorEq, imp_false] at hframe
    refine Within.ite _ (fun _ => Within.pure _) fun hlen => ⟨fun w => ?_⟩
    rw [exec_readByte_bind, hread]
    refine trans_of _ ⟨_, rfl⟩ (Within.rel ?_ _)
    refine Within.ite _ (fun htype => ?_) fun _ => Within.ite _ (fun htype => ?_) fun _ => ?_
    · refine Within.ite _ (fun _ => Within.pure _) fun hshort => ⟨fun v => ?_⟩
      rw [exec_readByte_bind, hread]
      refine trans_of _ ⟨_, rfl⟩ (Within.rel ?_ _)
      refine Within.ite _ (fun _ => Within.pure _) fun hdeclared => ?_
      have hheader : ¬len < 3 := hshort
      have hfits : ¬len < 3 + (mem 2).toNat := hdeclared
      exact absurd ⟨hlen, htype, by omega, by omega⟩ hevent
    · refine Within.ite _ (fun htwo => ?_) fun _ => Within.pure _
      refine Within.ite _ (fun _ => Within.pure _) fun hshort => ⟨fun v => ?_⟩
      simp only [exec_readByte_bind, BytePtr.at_add, hread]
      refine trans_of _ ⟨_, TwWorld.noteReads_noteReads ..⟩ (Within.rel ?_ _)
      refine Within.ite _ (fun _ => Within.pure _) fun hflags => ⟨fun u => ?_⟩
      simp only [exec_readUInt16Le_bind, BytePtr.at_add, hread]
      refine trans_of _ ⟨_, TwWorld.noteReads_noteReads ..⟩ (Within.rel ?_ _)
      refine Within.ite _ (fun _ => Within.pure _) fun hdeclared => ?_
      have hfits : ¬len - 1 < 8 + (uint16OfLe (mem 5) (mem 6)).toNat := hdeclared
      simp only [ne_eq, not_or, not_not] at hflags
      exact absurd ⟨htype, by omega, hflags.1, hflags.2, by omega⟩ hframe
    · exact readsOnly_readBytes ..

/-! ## The machine -/

/-- What a step is for the link. -/
inductive LinkInput where
  /-- A connection response was accepted. -/
  | opened (table : L2capConnectionTable)
  | reported (data : BytePtr) (len : UInt16)
  | ended
  | initialised
  | reset
  | read
  | nothing

/-- What each input does to the link layer. -/
def LinkRuntime.react (link : LinkRuntime) : LinkInput → LinkRuntime
  | .opened table => { link with l2capConnections := table }
  | .reported data len =>
    { link with
      wiimoteConnected := true
      wiimoteReports := link.wiimoteReports.put 0 data len.toUInt8 }
  | .ended => { link with wiimoteConnected := false, l2capConnections := .empty }
  | .initialised => ⟨false, .empty, link.wiimoteReports.clear⟩
  | .reset => { link with l2capConnections := .empty }
  | .read => { link with wiimoteReports := link.wiimoteReports.read.2 }
  | .nothing => link

/-- The signaling functions have a connection table and a sender. -/
def TinyWiimoteRuntime.canSignal (r : TinyWiimoteRuntime) : Bool :=
  r.l2capSignaling.connections && r.l2capSignaling.sender

/-- The connection table after a frame that opens a channel. -/
def AclFrame.opens (frame : AclFrame) (r : TinyWiimoteRuntime) : Option L2capConnectionTable :=
  if frame.code = some codeConnectionResponse ∧ 12 ≤ frame.len ∧ r.canSignal ∧
      uint16OfLe (frame.data.at 8) (frame.data.at 9) = 0x0000 then
    r.l2capConnections.addConnection
      ⟨frame.connectionHandle, uint16OfLe (frame.data.at 4) (frame.data.at 5)⟩
  else none

/-- The link's part in a step. -/
def TwWorld.linkInput (w : TwWorld) (e : TwEvent) : LinkInput :=
  match e.action with
  | .hci data len =>
    match eventPacket data len, aclFrame data len with
    | some packet, _ => if packet.eventCode = kHciDisconnectionCompEvt then .ended else .nothing
    | none, some frame =>
      if frame.IsReport then .reported frame.data frame.len
      else
        match frame.opens w.gRuntime with
        | some table => .opened table
        | none => .nothing
    | none, none => .nothing
  | .call (.init _) => .initialised
  | .call .resetDevice => .reset
  | .call .read => .read
  | .call _ => .nothing

/-- The link layer of the runtime. -/
abbrev TwWorld.link (w : TwWorld) : LinkRuntime := w.gRuntime.link

/-! ## The link's part in a program -/

/-- Sending does not touch the link layer. -/
theorem link_sendHciPacketRaw (packet : List UInt8) :
    Within (Same TwWorld.link) (sendHciPacketRaw packet) := by
  refine ⟨fun w => ?_⟩
  rw [exec_sendHciPacketRaw]
  rfl

instance : EventRelation (Same TwWorld.link) where
  sendPacket _ _ _ := aclEffect_getRuntime_bind fun _ =>
    Within.ite _ (fun _ => link_sendHciPacketRaw _) fun _ => Within.pure _
  setFields _ _ _ hlink := hlink
  setContext _ _ _ := rfl
  sendRaw packet _ := link_sendHciPacketRaw packet
  noteReads _ _ := rfl

section Handlers

variable (w : TwWorld)

/-- The first input report of a link marks the controller as connected. -/
theorem link_detectWiimote (ch : UInt16) :
    (exec (detectWiimote ch) w).2.link = { w.link with wiimoteConnected := true } := by
  let protocol := w.gRuntime.wiimoteProtocol
  have hsend : ∀ (pb : PayloadBuilder payloadSize) (v : TwWorld),
      (exec (protocol.sendReport ch pb) v).2.link = v.link := fun pb v =>
    (aclEffect_sendReport (R := Same TwWorld.link) protocol ch pb).rel v
  cases hconn : w.gRuntime.wiimoteState.wiimoteConnected with
  | true =>
    simp only [detectWiimote, exec_getRuntime_bind, hconn, if_true, exec_pure]
    exact LinkRuntime.ext hconn rfl rfl
  | false =>
    let asked := (exec (protocol.requestStatus ch) (exec (protocol.setLeds ch ⟨0b0001⟩) w).2).2
    have hasked : asked.link = w.link := (hsend _ _).trans (hsend _ w)
    have hdetected : ∀ v : TwWorld, v.link = w.link →
        (v.mapRuntime (·.detected)).link = { w.link with wiimoteConnected := true } := fun v hv =>
      congrArg (fun link : LinkRuntime => { link with wiimoteConnected := true }) hv
    simp only [detectWiimote, exec_getRuntime_bind, hconn, Bool.false_eq_true, if_false, exec_then,
      exec_modifyWiimoteState, exec_modifyContext, exec_ite, exec_pure]
    split
    · exact (hsend _ (asked.mapRuntime (·.detected))).trans (hdetected asked hasked)
    · exact hdetected asked hasked

/-- A report is put into the queue and nothing else changes. -/
theorem link_putReport (number : UInt8) (data : BytePtr) (len : UInt8) :
    (exec (putReport number data len) w).2.link =
      { w.link with wiimoteReports := w.link.wiimoteReports.put number data len } := by
  by_cases hroom : w.gRuntime.wiimoteReports.itemCount.val < receivedDataMaxNum
  · simp only [putReport, exec_getRuntime_bind, hroom, if_true, exec_then, exec_readBytes,
      exec_modifyRuntime]
    rfl
  · have hfull : w.link.wiimoteReports.put number data len = w.link.wiimoteReports := dif_neg hroom
    simp only [putReport, exec_getRuntime_bind, hroom, if_false, exec_pure, hfull]

/-- An input report changes the link layer as `react` says. -/
theorem link_handleInputReport (ch : UInt16) (data : BytePtr) (len : UInt16) :
    (exec (handleInputReport ch data len) w).2.link = w.link.react (.reported data len) := by
  have hlog : Within (Same TwWorld.link) (logInputReport data len) := aclEffect_logInputReport ..
  have hreport : Within (Same TwWorld.link) (WiimoteExtensions.handleReport ch data len) :=
    aclEffect_handleReport ..
  rw [handleInputReport, exec_then, exec_then, exec_then, link_putReport, hreport.rel,
    link_detectWiimote, hlog.rel]
  rfl

/-- A connection response opens a channel where it is accepted. -/
theorem link_handleConnectionResponse {frame : AclFrame}
    (hcode : frame.code = some codeConnectionResponse) (hlen : 12 ≤ frame.len) :
    (exec (L2capSignaling.handleConnectionResponse frame.connectionHandle frame.data frame.len)
      w).2.link =
        match frame.opens w.gRuntime with
        | some table => w.link.react (.opened table)
        | none => w.link := by
  have hlong : ¬frame.len < 12 := UInt16.not_lt.mpr hlen
  simp only [L2capSignaling.handleConnectionResponse, exec_getRuntime_bind, exec_ite, exec_pure,
    exec_readUInt16Le_bind, BytePtr.at_add, AclFrame.opens, hcode, hlen, hlong, true_and, false_or,
    TinyWiimoteRuntime.canSignal]
  cases w.gRuntime.l2capSignaling.connections && w.gRuntime.l2capSignaling.sender with
  | false => rfl
  | true =>
    by_cases hresult : uint16OfLe (frame.data.at 8) (frame.data.at 9) = 0x0000
    · simp only [hresult, Bool.not_true, Bool.false_eq_true, if_false, ne_eq, not_true_eq_false,
        and_self, if_true]
      cases w.gRuntime.l2capConnections.addConnection
        ⟨frame.connectionHandle, uint16OfLe (frame.data.at 4) (frame.data.at 5)⟩ with
      | none => rfl
      | some table =>
        rw [exec_then]
        exact (ReportRelation.sendPacket (R := Same TwWorld.link) frame.connectionHandle
          l2capCidSignaling (L2capSignaling.configurationRequest _)).rel _
    · simp only [hresult, Bool.not_true, Bool.false_eq_true, if_false, ne_eq, not_false_eq_true,
        and_false, if_true]
      rfl

/-- Of the frames, reports and accepted connection responses change the link. -/
theorem link_handleL2capData (frame : AclFrame) :
    (exec (handleL2capData ⟨frame.connectionHandle, frame.channelId⟩ frame.data frame.len) w).2.link =
      if frame.IsReport then w.link.react (.reported frame.data frame.len)
      else
        match frame.opens w.gRuntime with
        | some table => w.link.react (.opened table)
        | none => w.link := by
  by_cases hempty : frame.len = 0
  · simp only [handleL2capData, hempty, if_true, exec_pure, AclFrame.IsReport, AclFrame.opens,
      AclFrame.code, reduceCtorEq, false_and, if_false]
  have hcode : frame.code = some (frame.data.at 0) := if_neg hempty
  simp only [handleL2capData, hempty, if_false, exec_readByte_bind, AclFrame.IsReport, hcode,
    Option.some.injEq]
  have hother : ∀ code, frame.data.at 0 = code → code ≠ codeConnectionResponse →
      frame.opens w.gRuntime = none := by
    intro code heq hne
    exact if_neg fun h => hne (heq.symm.trans (Option.some.inj (hcode.symm.trans h.1)))
  by_cases hresponse : frame.data.at 0 = codeConnectionResponse
  · have hnot : ¬codeConnectionResponse = hidInputReport := by decide
    simp only [hresponse, if_true, hnot, if_false, exec_ite, exec_pure]
    split
    next hshort =>
      have hnone : frame.opens w.gRuntime = none :=
        if_neg fun h => absurd hshort (UInt16.not_lt.mpr h.2.1)
      rw [hnone]
      rfl
    next hlong =>
      exact link_handleConnectionResponse _ (hcode.trans (congrArg some hresponse)) (UInt16.not_lt.mp hlong)
  rw [hother _ rfl hresponse]
  by_cases hreport : frame.data.at 0 = hidInputReport
  · have hnot : ¬hidInputReport = codeConfigurationRequest ∧ ¬hidInputReport = codeConfigurationResponse := by
      decide
    simp only [if_false, hreport, hnot.1, hnot.2, if_true]
    exact link_handleInputReport _ ..
  simp only [hresponse, hreport, if_false]
  refine Within.rel (R := Same TwWorld.link) ?_ (w.noteReads _)
  refine Within.ite _ (fun _ => ?_) fun _ => ?_
  · exact Within.ite _ (fun _ => Within.pure _) fun _ => aclEffect_handleConfigurationRequest ..
  · exact Within.ite _ (fun _ => Within.pure _) fun _ => aclEffect_readBytes ..

end Handlers

/-! ## Steps -/

/-- Only the end of a link shows in the link. -/
theorem link_of_dispatched {w : TwWorld} {e : TwEvent} {packet : HciEventPacket}
    (hw : w.hearsDisconnects) (hpacket : e.dispatched = some packet) : (w.step e).link =
      if packet.eventCode = kHciDisconnectionCompEvt then w.link.react .ended else w.link := by
  split
  next hcode =>
    obtain ⟨connectionHandle, reason, offsets, hstep⟩ := step_of_disconnection ⟨packet, hpacket, hcode⟩ hw
    obtain ⟨r, hexec, hstate, htable, -, hreports, -⟩ :=
      exec_onDisconnected connectionHandle reason ((w.enter e).noteReads offsets)
    rw [hstep, hexec]
    exact LinkRuntime.ext (congrArg WiimoteState.wiimoteConnected hstate) htable hreports
  next hcode =>
    rw [step_of_dispatched hpacket]
    have hsame : Within (Same TwWorld.link) (hciEventsHandleEvent callbacks packet) :=
      eventEffect_hciEventsHandleEvent fun h => absurd h hcode
    exact hsame.rel _

/-- So does a call. -/
theorem link_call (c : TwCall) (w : TwWorld) :
    (exec c.run w).2.link = w.link.react (w.linkInput ⟨.call c, w.millis, w.logLevel⟩) := by
  by_cases hplain : c.IsPlain
  · have hsame : (exec c.run w).2.link = w.link :=
      (callEffect_run hplain fun packet _ => link_sendHciPacketRaw packet).rel w
    rw [hsame]
    cases c with
    | init hciInterface => exact hplain.elim
    | resetDevice => exact hplain.elim
    | read => exact hplain.elim
    | _ => rfl
  · cases c with
    | init hciInterface => rfl
    | resetDevice =>
      have hreset : Within (Same TwWorld.link) hciEventsResetDevice := actionEffect_hciEventsResetDevice
      exact hreset.rel (w.mapRuntime fun r => { r with l2capConnections := .empty })
    | read => rfl
    | setAutoReconnectEnabled enabled =>
      have hset : Within (Same TwWorld.link) (tinyWiimoteSetAutoReconnectEnabled enabled) :=
        aclEffect_getRuntime_bind fun _ =>
          Within.ite _ (fun _ => Within.pure _) fun _ => ⟨fun _ => rfl⟩
      exact hset.rel w
    | _ => exact absurd trivial hplain

/-- Every step of the runtime is a step of the link, once the end of a link is heard. -/
theorem link_step {w : TwWorld} (hw : w.hearsDisconnects) (e : TwEvent) :
    (w.step e).link = w.link.react (w.linkInput e) := by
  obtain ⟨action, millis, logLevel⟩ := e
  cases action with
  | call c => exact link_call c (w.enter ⟨.call c, millis, logLevel⟩)
  | hci data len =>
    simp only [TwWorld.linkInput]
    cases hevent : eventPacket data len with
    | some packet =>
      simp only [link_of_dispatched (e := ⟨.hci data len, millis, logLevel⟩) hw hevent]
      split <;> rfl
    | none =>
      cases hframe : aclFrame data len with
      | none =>
        obtain ⟨offsets, hreads⟩ := (readsOnly_handleHciData hevent hframe).rel
          (w.enter ⟨.hci data len, millis, logLevel⟩)
        have hlink := congrArg TwWorld.link hreads
        exact hlink
      | some frame =>
        obtain ⟨offsets, hexec⟩ := exec_handleHciData_of_aclFrame hframe
          (w.enter ⟨.hci data len, millis, logLevel⟩)
        rw [TwWorld.step, TwAction.run, hexec, link_handleL2capData]
        simp only [TwWorld.gRuntime_noteReads]
        change (if _ then _ else match frame.opens w.gRuntime with | some table => _ | none => _) = _
        split
        · rfl
        · cases frame.opens w.gRuntime <;> rfl

end Esp32Wiimote.Bluetooth
