import Esp32Wiimote.Library.TransitionRun
import Esp32Wiimote.Bluetooth.HciEffect

/-!
# The format of the packets that are sent

An H4 command declares the number of its parameter bytes, an ACL packet declares its length and
that of the L2CAP frame in it, and a signaling command once more its own. The builders write
these lengths as constants or from a counter; in every run every packet that is sent declares its
true lengths and fits the buffer it is built in.
-/

namespace Esp32Wiimote.Bluetooth

open StateProgram TransitionRun

/-! ## ACL packets -/

/-- The size of `tmpQueueData_`. -/
def tmpQueueDataSize : Nat := 256

/-- The 16-bit field at this offset of a packet. -/
def u16At (packet : List UInt8) (i : Nat) : Option UInt16 :=
  match packet[i]?, packet[i + 1]? with
  | some low, some high => some (uint16OfLe low high)
  | _, _ => none

/-- An H4 ACL packet that declares its true lengths, with a payload that fits its buffer. -/
structure FormedAcl (packet : List UInt8) : Prop where
  type : packet.head? = some h4Acl
  aclLength : ∃ len, u16At packet 3 = some len ∧ packet.length = 5 + len.toNat
  l2capLength : ∃ len, u16At packet 5 = some len ∧ packet.length = 9 + len.toNat ∧
    len.toNat ≤ payloadSize
  fits : packet.length ≤ tmpQueueDataSize

/-- An ACL packet on the signaling channel with one complete signaling command. -/
structure FormedSignaling (packet : List UInt8) : Prop where
  acl : FormedAcl packet
  channel : u16At packet 7 = some l2capCidSignaling
  length : ∃ len l2capLen, u16At packet 11 = some len ∧ u16At packet 5 = some l2capLen ∧
    l2capLen.toNat = len.toNat + 4

/-- A number that was streamed is read back where it was put. -/
theorem u16At_streamU16ToLe (before after : List UInt8) (value : UInt16) :
    u16At (before ++ streamU16ToLe value ++ after) before.length = some value := by
  simp [u16At, streamU16ToLe, uint16OfLe_split]

section Packet

variable (ch : UInt16) (control : AclPacketControl) (cid : UInt16) (pb : PayloadBuilder payloadSize)

/-- The packet `sendAclL2capPacket` builds from a payload. -/
abbrev aclPacket : List UInt8 :=
  makeAclL2capPacket ch control cid pb.bytes pb.bytes.length.toUInt8

/-- The length of a payload fits eight bits. -/
theorem toNat_payloadLength : pb.bytes.length.toUInt8.toNat = pb.bytes.length := by
  have hlen := pb.length_le
  simp only [payloadSize] at hlen
  rw [Nat.toUInt8, UInt8.toNat_ofNat']
  omega

/-- The two lengths, the channel and the payload follow the three bytes of the ACL header. -/
theorem aclPacket_eq : ∃ flags, aclPacket ch control cid pb =
    [h4Acl, (ch &&& 0xFF).toUInt8, flags] ++
      streamU16ToLe (4 + pb.bytes.length.toUInt8.toUInt16) ++
      (streamU16ToLe pb.bytes.length.toUInt8.toUInt16 ++ streamU16ToLe cid ++ pb.bytes) := by
  rw [aclPacket, makeAclL2capPacket, makeL2capPacket, UInt8.toNat_toUInt16, toNat_payloadLength,
    List.take_length]
  exact ⟨_, rfl⟩

/-- An ACL packet is nine bytes longer than its payload. -/
theorem length_aclPacket : (aclPacket ch control cid pb).length = 9 + pb.bytes.length := by
  obtain ⟨flags, heq⟩ := aclPacket_eq ch control cid pb
  rw [heq]
  simp [streamU16ToLe]
  omega

/-- The ACL length of a packet. -/
theorem u16At_aclPacket_acl : u16At (aclPacket ch control cid pb) 3 =
    some (4 + pb.bytes.length.toUInt8.toUInt16) := by
  obtain ⟨flags, heq⟩ := aclPacket_eq ch control cid pb
  rw [heq]
  exact u16At_streamU16ToLe [_, _, _] _ _

/-- The L2CAP length of a packet. -/
theorem u16At_aclPacket_l2cap : u16At (aclPacket ch control cid pb) 5 =
    some pb.bytes.length.toUInt8.toUInt16 := by
  obtain ⟨flags, heq⟩ := aclPacket_eq ch control cid pb
  rw [heq]
  exact u16At_streamU16ToLe [_, _, _, _, _] (streamU16ToLe cid ++ pb.bytes) _

/-- The channel of a packet. -/
theorem u16At_aclPacket_channel : u16At (aclPacket ch control cid pb) 7 = some cid := by
  obtain ⟨flags, heq⟩ := aclPacket_eq ch control cid pb
  rw [heq]
  exact u16At_streamU16ToLe [_, _, _, _, _, _, _] pb.bytes cid

/-- The payload starts at the ninth byte. -/
theorem getElem?_aclPacket_payload (i : Nat) : (aclPacket ch control cid pb)[9 + i]? = pb.bytes[i]? := by
  obtain ⟨flags, heq⟩ := aclPacket_eq ch control cid pb
  rw [heq, Nat.add_comm]
  rfl

/-- So it does for numbers of two bytes. -/
theorem u16At_aclPacket_payload (i : Nat) :
    u16At (aclPacket ch control cid pb) (9 + i) = u16At pb.bytes i := by
  rw [u16At, u16At, getElem?_aclPacket_payload, Nat.add_assoc, getElem?_aclPacket_payload]

/-- Every payload gives a well-formed packet. -/
theorem formedAcl_aclPacket : FormedAcl (aclPacket ch control cid pb) := by
  have hpayload := pb.length_le
  have hlen := length_aclPacket ch control cid pb
  have hl2cap : pb.bytes.length.toUInt8.toUInt16.toNat = pb.bytes.length := by
    rw [UInt8.toNat_toUInt16, toNat_payloadLength]
  have hacl : (4 + pb.bytes.length.toUInt8.toUInt16).toNat = 4 + pb.bytes.length := by
    rw [UInt16.toNat_add, hl2cap]
    simp only [payloadSize] at hpayload
    exact Nat.mod_eq_of_lt (show 4 + pb.bytes.length < 65536 by omega)
  simp only [payloadSize] at hpayload
  refine ⟨rfl, ⟨_, u16At_aclPacket_acl .., ?_⟩, ⟨_, u16At_aclPacket_l2cap .., ?_, ?_⟩, ?_⟩
  · omega
  · omega
  · simp only [payloadSize]
    omega
  · simp only [tmpQueueDataSize]
    omega

/-- A payload that declares its own length after two bytes is a signaling command. -/
theorem formedSignaling_aclPacket {len : UInt16} (h : u16At pb.bytes 2 = some len)
    (hlen : pb.bytes.length = len.toNat + 4) :
    FormedSignaling (aclPacket ch control l2capCidSignaling pb) := by
  refine ⟨formedAcl_aclPacket .., u16At_aclPacket_channel .., len, _, ?_, u16At_aclPacket_l2cap .., ?_⟩
  · exact (u16At_aclPacket_payload ch control l2capCidSignaling pb 2).trans h
  · rw [UInt8.toNat_toUInt16, toNat_payloadLength, hlen]

end Packet

/-! ## Sending programs -/

/-- A packet that declares its true lengths; a command was built in a buffer of `capacity` bytes. -/
def FormedPacket (capacity : Nat) (packet : List UInt8) : Prop :=
  FormedCommand capacity packet ∨ FormedAcl packet

section Sending

variable {P : List UInt8 → Prop}

/-- Sending a packet with the property keeps the property of everything sent. -/
theorem grown_sendHciPacketRaw {packet : List UInt8} (h : P packet) :
    Within (Grown TwWorld.sent P) (sendHciPacketRaw packet) := by
  refine ⟨fun w => ?_⟩
  rw [exec_sendHciPacketRaw]
  refine ⟨_, rfl, ?_⟩
  split <;> simp [h]

/-- Wherever the callbacks are set, one packet is handed over. -/
theorem exec_sendAclL2capPacket (ch cid : UInt16) {payload : List UInt8} (hlen : payload.length ≤ 255)
    (w : TwWorld) : exec (sendAclL2capPacket ch cid payload) w = ((), w.noteSent
      (if w.gRuntime.packetSender ∧ w.gRuntime.hciInterface.hciSendPacket then
        [makeAclL2capPacket ch ⟨0b10, 0b00⟩ cid payload payload.length.toUInt8] else [])) := by
  by_cases hsender : w.gRuntime.packetSender = true
  · simp [sendAclL2capPacket, exec_getRuntime_bind, hsender, hlen]
  · simp [sendAclL2capPacket, exec_getRuntime_bind, hsender, TwWorld.noteSent]

/-- So does sending a payload whose ACL packet has it. -/
theorem grown_sendAclL2capPacket {ch cid : UInt16} {pb : PayloadBuilder payloadSize}
    (h : P (aclPacket ch ⟨0b10, 0b00⟩ cid pb)) :
    Within (Grown TwWorld.sent P) (sendAclL2capPacket ch cid pb.bytes) :=
  aclEffect_getRuntime_bind fun _ =>
    Within.ite _ (fun _ => grown_sendHciPacketRaw h) fun _ => Within.pure _

end Sending

section Instances

variable (capacity : Nat)

instance : FrameRelation (Grown TwWorld.sent (FormedPacket capacity)) where
  sendPacket _ _ _ := grown_sendAclL2capPacket (.inr (formedAcl_aclPacket ..))
  setFields _ _ _ _ := Grown.of_eq rfl
  noteReads _ _ := Grown.of_eq rfl
  opened _ _ _ _ := Grown.of_eq rfl
  putReport number data len := by
    refine aclEffect_getRuntime_bind fun _ => Within.ite _ (fun _ => ?_) fun _ => Within.pure _
    refine Within.bind ⟨fun w => ?_⟩ fun _ => ⟨fun _ => Grown.of_eq rfl⟩
    rw [exec_readBytes]
    exact Grown.of_eq rfl
  detected _ _ := Grown.of_eq rfl

instance : ContextRelation (Grown TwWorld.sent (FormedPacket capacity)) where
  setContext _ _ _ := Grown.of_eq rfl

end Instances

instance : EventRelation (Grown TwWorld.sent (FormedPacket hciTxBufferSize)) where
  sendRaw _ h := grown_sendHciPacketRaw (.inl h)
  noteReads _ _ := Grown.of_eq rfl

instance : ResetRelation (Grown TwWorld.sent (FormedPacket hciTxBufferSize)) where
  setLinkLayer _ _ _ _ := Grown.of_eq rfl

/-! ## Signaling -/

/-- The functions of `L2capSignaling`, with their arguments. -/
inductive SignalingCall where
  | sendConnectionRequest (ch psm cid : UInt16)
  | handleConnectionResponse (ch : UInt16) (data : BytePtr) (len : UInt16)
  | handleConfigurationRequest (ch : UInt16) (data : BytePtr) (len : UInt16)
  | handleConfigurationResponse (data : BytePtr) (len : UInt16)

/-- The method a signaling call stands for. -/
def SignalingCall.run : SignalingCall → TwM Unit
  | .sendConnectionRequest ch psm cid => L2capSignaling.sendConnectionRequest ch psm cid
  | .handleConnectionResponse ch data len => L2capSignaling.handleConnectionResponse ch data len
  | .handleConfigurationRequest ch data len => L2capSignaling.handleConfigurationRequest ch data len
  | .handleConfigurationResponse data len => L2capSignaling.handleConfigurationResponse data len

/-- A builder keeps what fits of what is appended. -/
theorem PayloadBuilder.bytes_append {capacity : Nat} (pb : PayloadBuilder capacity) (val : UInt8) :
    (pb.append val).bytes = (pb.bytes ++ [val]).take capacity := by
  have hle := pb.length_le
  rw [append]
  split
  · rw [List.take_of_length_le]
    rw [List.length_append, List.length_singleton]
    omega
  · rw [List.take_append_of_le_length (by omega), List.take_of_length_le hle]

/-- The bytes of a Configuration Request. -/
theorem bytes_configurationRequest (dstCID : UInt16) :
    (L2capSignaling.configurationRequest dstCID).bytes =
      [codeConfigurationRequest, 0x02, 0x08, 0x00, (dstCID &&& 0xFF).toUInt8,
        (dstCID >>> 8).toUInt8, 0x00, 0x00, 0x01, 0x02, 0x40, 0x00] := by
  simp [L2capSignaling.configurationRequest, PayloadBuilder.appendU16LE,
    PayloadBuilder.bytes_append, PayloadBuilder.empty, payloadSize]
  decide

/-- The bytes of a Configuration Response. -/
theorem bytes_configurationResponse (identifier : UInt8) (remoteCID mtu : UInt16) :
    (L2capSignaling.configurationResponse identifier remoteCID mtu).bytes =
      [codeConfigurationResponse, identifier, 0x0A, 0x00, (remoteCID &&& 0xFF).toUInt8,
        (remoteCID >>> 8).toUInt8, 0x00, 0x00, 0x00, 0x00, 0x01, 0x02, (mtu &&& 0xFF).toUInt8,
        (mtu >>> 8).toUInt8] := by
  simp [L2capSignaling.configurationResponse, PayloadBuilder.appendU16LE,
    PayloadBuilder.bytes_append, PayloadBuilder.empty, payloadSize]
  decide

/-- Sending a payload that declares its own length on the signaling channel. -/
theorem signaling_sendAclL2capPacket {ch n : UInt16} {pb : PayloadBuilder payloadSize}
    (h : u16At pb.bytes 2 = some n) (hlen : pb.bytes.length = n.toNat + 4) :
    Within (Grown TwWorld.sent FormedSignaling) (sendAclL2capPacket ch l2capCidSignaling pb.bytes) :=
  grown_sendAclL2capPacket (formedSignaling_aclPacket ch _ pb h hlen)

/-- Reading a byte sends nothing. -/
theorem signaling_readByte (p : BytePtr) (i : Nat) :
    Within (Grown TwWorld.sent FormedSignaling) (readByte p i) := ⟨fun _ => Grown.of_eq rfl⟩

/-- Nor does reading a number. -/
theorem signaling_readUInt16Le (p : BytePtr) :
    Within (Grown TwWorld.sent FormedSignaling) (readUInt16Le p) := ⟨fun _ => Grown.of_eq rfl⟩

/-- A Connection Response is answered by well-formed signaling. -/
theorem signaling_handleConnectionResponse (ch : UInt16) (data : BytePtr) (len : UInt16) :
    Within (Grown TwWorld.sent FormedSignaling)
      (L2capSignaling.handleConnectionResponse ch data len) := by
  refine aclEffect_getRuntime_bind fun r => Within.ite _ (fun _ => Within.pure _) fun _ => ?_
  refine Within.bind (signaling_readUInt16Le _) fun dstCID => ?_
  refine Within.bind (signaling_readUInt16Le _) fun result => ?_
  refine Within.ite _ (fun _ => Within.pure _) fun _ => ?_
  cases r.l2capConnections.addConnection ⟨ch, dstCID⟩ with
  | none => exact Within.pure _
  | some table =>
    refine Within.bind ⟨fun _ => Grown.of_eq rfl⟩ fun _ => ?_
    have hbytes := bytes_configurationRequest dstCID
    apply signaling_sendAclL2capPacket (n := 0x0008)
    · rw [hbytes]
      rfl
    · rw [hbytes]
      rfl

/-- So is a Configuration Request. -/
theorem signaling_handleConfigurationRequest (ch : UInt16) (data : BytePtr) (len : UInt16) :
    Within (Grown TwWorld.sent FormedSignaling)
      (L2capSignaling.handleConfigurationRequest ch data len) := by
  refine aclEffect_getRuntime_bind fun r => Within.ite _ (fun _ => Within.pure _) fun _ => ?_
  refine Within.bind (signaling_readByte ..) fun identifier => ?_
  refine Within.bind (signaling_readUInt16Le _) fun dataLen => ?_
  refine Within.bind (signaling_readUInt16Le _) fun flags => ?_
  refine Within.ite _ (fun _ => Within.pure _) fun _ => ?_
  refine Within.bind (signaling_readByte ..) fun option => ?_
  refine Within.ite _ (fun _ => Within.pure _) fun _ => ?_
  refine Within.bind (signaling_readByte ..) fun optionLength => ?_
  refine Within.ite _ (fun _ => Within.pure _) fun _ => ?_
  refine Within.bind (signaling_readUInt16Le _) fun mtu => aclEffect_getRuntime_bind fun r => ?_
  cases r.l2capConnections.getRemoteCid ch with
  | none => exact Within.pure _
  | some remoteCID =>
    have hbytes := bytes_configurationResponse identifier remoteCID mtu
    apply signaling_sendAclL2capPacket (n := 0x000A)
    · rw [hbytes]
      rfl
    · rw [hbytes]
      rfl

/-- Whatever is received, `L2capSignaling` sends well-formed signaling commands only. -/
theorem SignalingCall.within_run (c : SignalingCall) :
    Within (Grown TwWorld.sent FormedSignaling) c.run := by
  cases c with
  | sendConnectionRequest ch psm cid =>
    refine aclEffect_getRuntime_bind fun _ => Within.ite _ (fun _ => ?_) fun _ => Within.pure _
    apply signaling_sendAclL2capPacket (n := 0x0004)
    · simp [PayloadBuilder.appendU16LE, PayloadBuilder.bytes_append, PayloadBuilder.empty,
        payloadSize, u16At]
      decide
    · simp [PayloadBuilder.appendU16LE, PayloadBuilder.bytes_append, PayloadBuilder.empty,
        payloadSize]
  | handleConnectionResponse ch data len => exact signaling_handleConnectionResponse ch data len
  | handleConfigurationRequest ch data len => exact signaling_handleConfigurationRequest ch data len
  | handleConfigurationResponse data len => exact Within.pure _

/-! ## Steps -/

/-- The size of the buffer the commands of an action are built in. -/
def TwAction.commandCapacity : TwAction → Nat
  | .hci _ _ => hciTxBufferSize
  | .call c => c.commandCapacity

/-- Every call sends well-formed packets. -/
theorem TwCall.formed_run (c : TwCall) :
    Within (Grown TwWorld.sent (FormedPacket c.commandCapacity)) c.run := by
  by_cases hplain : c.IsPlain
  · exact callEffect_run hplain fun _ h => grown_sendHciPacketRaw (.inl h)
  · cases c with
    | init hciInterface => exact ⟨fun _ => Grown.of_eq rfl⟩
    | resetDevice =>
      exact Within.bind (R := Grown TwWorld.sent (FormedPacket hciTxBufferSize))
        actionEffect_resetDeviceInternal fun _ => actionEffect_modifyContext fun _ => rfl
    | read => exact ⟨fun _ => Grown.of_eq rfl⟩
    | setAutoReconnectEnabled enabled =>
      refine aclEffect_getRuntime_bind fun r => Within.ite _ (fun _ => Within.pure _) fun _ => ?_
      exact ⟨fun _ => Grown.of_eq rfl⟩
    | _ => exact absurd trivial hplain

/-- Every action does. -/
theorem TwAction.formed_run (action : TwAction) :
    Within (Grown TwWorld.sent (FormedPacket action.commandCapacity)) action.run := by
  cases action with
  | hci data len =>
    exact eventEffect_handleHciData (R := Grown TwWorld.sent (FormedPacket hciTxBufferSize)) data len
  | call c => exact c.formed_run

/-! ## Runs -/

/-- In every run every packet that is sent is well formed and fits its buffer, and what
`L2capSignaling` sends, in any state, is a well-formed command on the signaling channel. -/
theorem sent_packets_formed (w : TwWorld) (events : List TwEvent) :
    EveryStep (fun w e => ∀ packet ∈ (w.step e).sent, FormedPacket e.action.commandCapacity packet)
        TwWorld.step w events ∧
      ∀ (c : SignalingCall) (v : TwWorld), Grown TwWorld.sent FormedSignaling v (exec c.run v).2 := by
  refine ⟨(everyStep_iff w events).mpr ?_, fun c v => c.within_run.rel v⟩
  intro before e after _
  have hstep := e.action.formed_run.rel ((runFrom TwWorld.step w before).enter e)
  apply hstep.forall_mem
  intro packet hmem
  exact absurd hmem List.not_mem_nil

end Esp32Wiimote.Bluetooth
