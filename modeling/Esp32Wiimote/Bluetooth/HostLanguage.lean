import Esp32Wiimote.Bluetooth.OutputReport

/-!
# What the host says to the controller

The packets that are sent are HCI commands, signaling commands of L2CAP, and output reports. Each has
an encoder in the code. Here a packet is decoded by the layout of the wire alone, its lengths being
checked on the way, and every encoded message decodes to itself.
-/

namespace Esp32Wiimote.Bluetooth

/-! ## Commands -/

/-- The HCI commands, with their parameters. -/
inductive HciCommand where
  | reset
  | readBdAddr
  | writeLocalName (name : List UInt8)
  | writeClassOfDevice (cod0 cod1 cod2 : UInt8)
  | writeScanEnable (mode : UInt8)
  | inquiry (lap : ℕ) (length maxResponses : UInt8)
  | inquiryCancel
  | remoteNameRequest (bdAddr : BdAddrT) (pageScanRepetitionMode : UInt8) (clockOffset : UInt16)
  | createConnection (bdAddr : BdAddrT) (packetType : UInt16) (pageScanRepetitionMode : UInt8)
      (clockOffset : UInt16) (allowRoleSwitch : UInt8)
  | disconnect (connectionHandle : UInt16) (reason : UInt8)
  deriving DecidableEq

/-- The value of bytes, low byte first. -/
def littleEndian : List UInt8 → ℕ
  | [] => 0
  | byte :: rest => byte.toNat + 256 * littleEndian rest

/-- An address on the wire, its last byte first. -/
def decodeBdAddr : List UInt8 → Option BdAddrT
  | [addr5, addr4, addr3, addr2, addr1, addr0] => some ⟨addr0, addr1, addr2, addr3, addr4, addr5⟩
  | _ => none

/-- The command with this opcode and these parameters. -/
def decodeParameters (opcode : UInt16) (parameters : List UInt8) : Option HciCommand :=
  if opcode = 0x0C03 then
    if parameters = [] then some .reset else none
  else if opcode = 0x1009 then
    if parameters = [] then some .readBdAddr else none
  else if opcode = 0x0C13 then
    if parameters.length = 248 then some (.writeLocalName (parameters.takeWhile (· ≠ 0))) else none
  else if opcode = 0x0C24 then
    match parameters with
    | [cod0, cod1, cod2] => some (.writeClassOfDevice cod0 cod1 cod2)
    | _ => none
  else if opcode = 0x0C1A then
    match parameters with
    | [mode] => some (.writeScanEnable mode)
    | _ => none
  else if opcode = 0x0401 then
    match parameters with
    | [lap0, lap1, lap2, length, maxResponses] =>
      some (.inquiry (littleEndian [lap0, lap1, lap2]) length maxResponses)
    | _ => none
  else if opcode = 0x0402 then
    if parameters = [] then some .inquiryCancel else none
  else if opcode = 0x0419 then
    match parameters.drop 6 with
    | [mode, 0x00, clockLow, clockHigh] =>
      (decodeBdAddr (parameters.take 6)).map fun bdAddr =>
        .remoteNameRequest bdAddr mode (uint16OfLe clockLow clockHigh)
    | _ => none
  else if opcode = 0x0405 then
    match parameters.drop 6 with
    | [typeLow, typeHigh, mode, 0x00, clockLow, clockHigh, allowRoleSwitch] =>
      (decodeBdAddr (parameters.take 6)).map fun bdAddr =>
        .createConnection bdAddr (uint16OfLe typeLow typeHigh) mode (uint16OfLe clockLow clockHigh)
          allowRoleSwitch
    | _ => none
  else if opcode = 0x0406 then
    match parameters with
    | [handleLow, handleHigh, reason] => some (.disconnect (uint16OfLe handleLow handleHigh) reason)
    | _ => none
  else none

/-! ## Data -/

/-- The signaling commands, with their identifier. -/
inductive SignalingCommand where
  | connectionRequest (identifier : UInt8) (psm sourceCID : UInt16)
  | configurationRequest (identifier : UInt8) (destinationCID mtu : UInt16)
  | configurationResponse (identifier : UInt8) (sourceCID mtu : UInt16)
  deriving DecidableEq

/-- The meaning of a payload on the signaling channel: the code, the identifier, and as many bytes as
are declared. Flags and result are zero, and the MTU is the only option. -/
def decodeSignaling : List UInt8 → Option SignalingCommand
  | [0x02, identifier, 0x04, 0x00, psmLow, psmHigh, cidLow, cidHigh] =>
    some (.connectionRequest identifier (uint16OfLe psmLow psmHigh) (uint16OfLe cidLow cidHigh))
  | [0x04, identifier, 0x08, 0x00, cidLow, cidHigh, 0x00, 0x00, 0x01, 0x02, mtuLow, mtuHigh] =>
    some (.configurationRequest identifier (uint16OfLe cidLow cidHigh) (uint16OfLe mtuLow mtuHigh))
  | [0x05, identifier, 0x0A, 0x00, cidLow, cidHigh, 0x00, 0x00, 0x00, 0x00, 0x01, 0x02, mtuLow,
      mtuHigh] =>
    some (.configurationResponse identifier (uint16OfLe cidLow cidHigh) (uint16OfLe mtuLow mtuHigh))
  | _ => none

/-- What the host can say; the handle of a link has twelve bits. -/
inductive HostMessage where
  | command (command : HciCommand)
  | signaling (handle : UInt16) (command : SignalingCommand)
  | report (handle channelId : UInt16) (report : OutputReport)
  deriving DecidableEq

/-- An output report is known by its prefix, since its channel may be any. -/
def decodePayload (handle channelId : UInt16) (payload : List UInt8) : Option HostMessage :=
  if payload.head? = some 0xA2 then
    (decodeOutputReport payload).map (.report handle channelId)
  else if channelId = 0x0001 then
    (decodeSignaling payload).map (.signaling handle)
  else none

/-- The meaning of a packet that is sent. A packet of data holds one complete frame, and is the first
and only one of it. -/
def decodeHostPacket : List UInt8 → Option HostMessage
  | 0x01 :: opcodeLow :: opcodeHigh :: length :: parameters =>
    if parameters.length = length.toNat then
      (decodeParameters (uint16OfLe opcodeLow opcodeHigh) parameters).map .command
    else none
  | 0x02 :: handleLow :: handleHigh :: aclLow :: aclHigh :: l2capLow :: l2capHigh :: cidLow ::
      cidHigh :: payload =>
    if handleHigh &&& 0xF0 = 0x20 ∧ (uint16OfLe aclLow aclHigh).toNat = payload.length + 4 ∧
        (uint16OfLe l2capLow l2capHigh).toNat = payload.length then
      decodePayload (uint16OfLe handleLow handleHigh &&& 0x0FFF) (uint16OfLe cidLow cidHigh) payload
    else none
  | _ => none

/-! ## Encoding -/

namespace HciCommand

/-- The builder of the command. -/
def encode : HciCommand → List UInt8
  | reset => makeCmdReset
  | readBdAddr => makeCmdReadBdAddr
  | writeLocalName name => makeCmdWriteLocalName (name ++ [0])
  | writeClassOfDevice cod0 cod1 cod2 => makeCmdWriteClassOfDevice cod0 cod1 cod2
  | writeScanEnable mode => makeCmdWriteScanEnable mode
  | inquiry lap length maxResponses => makeCmdInquiry ⟨lap.toUInt32, length, maxResponses⟩
  | inquiryCancel => makeCmdInquiryCancel
  | remoteNameRequest bdAddr mode clockOffset => makeCmdRemoteNameRequest ⟨bdAddr, mode, clockOffset⟩
  | createConnection bdAddr packetType mode clockOffset allowRoleSwitch =>
    makeCmdCreateConnection ⟨bdAddr, packetType, mode, clockOffset, allowRoleSwitch⟩
  | disconnect connectionHandle reason => makeCmdDisconnect connectionHandle reason

/-- The parameters fit their fields: a name with its terminator, a LAP in three bytes. -/
def Valid : HciCommand → Prop
  | writeLocalName name => name.length < 248 ∧ 0 ∉ name
  | inquiry lap _ _ => lap < 2 ^ 24
  | _ => True

/-- A packet with a preamble is decoded by its opcode. -/
theorem decode_cmdPreamble (opcode : UInt16) (paramLen : UInt8) {parameters : List UInt8}
    (h : parameters.length = paramLen.toNat) :
    decodeHostPacket (cmdPreamble opcode paramLen ++ parameters) =
      (decodeParameters opcode parameters).map HostMessage.command := by
  change (if parameters.length = paramLen.toNat then
    (decodeParameters (uint16OfLe opcode.toUInt8 (opcode >>> 8).toUInt8) parameters).map
      HostMessage.command else none) = _
  rw [if_pos h, uint16OfLe_split]

/-- The three bytes of an inquiry's access code read back as the code. -/
theorem littleEndian_u24 {lap : ℕ} (h : lap < 2 ^ 24) :
    littleEndian [(lap.toUInt32 &&& 0xFF).toUInt8, ((lap.toUInt32 >>> 8) &&& 0xFF).toUInt8,
      ((lap.toUInt32 >>> 16) &&& 0xFF).toUInt8] = lap := by
  have hlow (n : ℕ) : n &&& 255 = n % 256 := Nat.and_two_pow_sub_one_eq_mod n 8
  simp [littleEndian, hlow, Nat.shiftRight_eq_div_pow]
  omega

/-- Every command decodes to itself. -/
theorem decode_encode (command : HciCommand) (hvalid : command.Valid) :
    decodeHostPacket command.encode = some (.command command) := by
  cases command with
  | reset => rfl
  | readBdAddr => rfl
  | writeLocalName name =>
    obtain ⟨hlen, hnul⟩ := hvalid
    have hlength : (name ++ [(0 : UInt8)] ++ List.replicate (248 - (name ++ [(0 : UInt8)]).length) (0 : UInt8)).length =
        248 := by
      simp only [List.length_append, List.length_singleton, List.length_replicate]
      omega
    rw [encode, makeCmdWriteLocalName, List.append_assoc, decode_cmdPreamble _ _ hlength]
    have hname : (name ++ [(0 : UInt8)] ++ List.replicate (248 - (name ++ [(0 : UInt8)]).length) (0 : UInt8)).takeWhile
        (· ≠ 0) = name := by
      have hbytes : ∀ byte ∈ name, decide (byte ≠ 0) = true := by
        intro byte hbyte
        refine decide_eq_true fun h => hnul ?_
        rw [← h]
        exact hbyte
      rw [List.append_assoc, List.takeWhile_append_of_pos hbytes]
      simp
    have hdecode : decodeParameters kHciOpcodeWriteLocalName
        (name ++ [(0 : UInt8)] ++ List.replicate (248 - (name ++ [(0 : UInt8)]).length) (0 : UInt8)) = _ := if_pos hlength
    rw [hdecode, hname]
    rfl
  | writeClassOfDevice cod0 cod1 cod2 => rfl
  | writeScanEnable mode => rfl
  | inquiry lap length maxResponses =>
    rw [encode, makeCmdInquiry, decode_cmdPreamble _ _ rfl]
    have hlap := littleEndian_u24 hvalid
    exact congrArg (fun lap => some (HostMessage.command (.inquiry lap length maxResponses))) hlap
  | inquiryCancel => rfl
  | remoteNameRequest bdAddr mode clockOffset =>
    have hclock := uint16OfLe_split clockOffset
    exact congrArg (fun clock => some (HostMessage.command (.remoteNameRequest bdAddr mode clock))) hclock
  | createConnection bdAddr packetType mode clockOffset allowRoleSwitch =>
    have htype := uint16OfLe_split packetType
    have hclock := uint16OfLe_split clockOffset
    change some (HostMessage.command (.createConnection bdAddr
      (uint16OfLe packetType.toUInt8 (packetType >>> 8).toUInt8) mode
      (uint16OfLe clockOffset.toUInt8 (clockOffset >>> 8).toUInt8) allowRoleSwitch)) = _
    rw [htype, hclock]
  | disconnect connectionHandle reason =>
    have hhandle := uint16OfLe_split connectionHandle
    exact congrArg (fun handle => some (HostMessage.command (.disconnect handle reason))) hhandle

end HciCommand

/-! ## Frames -/

section Frames

variable (ch remoteCID : UInt16)

/-- The flags lie above the handle in its second byte. -/
theorem flags_of_handle : (((ch >>> 8) &&& 0x0F).toUInt8 ||| ((0b10 : UInt8) <<< 4) |||
    ((0b00 : UInt8) <<< 6)) &&& 0xF0 = 0x20 := by
  have hnibble : ∀ n < 16, (n ||| 32) &&& 240 = 32 := by decide
  have hfour (n : ℕ) : n &&& 15 = n % 16 := Nat.and_two_pow_sub_one_eq_mod n 4
  apply UInt8.toNat_inj.mp
  simp [hfour]
  exact hnibble _ (Nat.mod_lt _ (by decide))

/-- A frame of up to 255 bytes decodes to what its payload says. -/
theorem decode_reportPacket {payload : List UInt8} (h : payload.length ≤ 255) :
    decodeHostPacket (reportPacket ch remoteCID payload) =
      decodePayload (ch &&& 0x0FFF) remoteCID payload := by
  have hlen : payload.length.toUInt8.toUInt16.toNat = payload.length := by
    simp only [UInt8.toNat_toUInt16, Nat.toUInt8_eq, UInt8.toNat_ofNat']
    omega
  have hacl : (4 + payload.length.toUInt8.toUInt16).toNat = payload.length + 4 := by
    rw [UInt16.toNat_add, hlen, Nat.add_comm]
    exact Nat.mod_eq_of_lt (show payload.length + 4 < 65536 by omega)
  rw [reportPacket, makeAclL2capPacket, makeL2capPacket, hlen, List.take_length]
  change (if _ ∧ _ ∧ _ then _ else none) = _
  rw [uint16OfLe_handle, uint16OfLe_split, uint16OfLe_split, uint16OfLe_split]
  exact if_pos ⟨flags_of_handle ch, hacl, hlen⟩

end Frames

/-! ## Messages -/

/-- What the host can be made to say, with the handle of the link for what goes out on one. -/
inductive HostCall where
  | hci (command : HciCommand)
  | connectionRequest (ch psm cid : UInt16)
  | configurationRequest (ch dstCID : UInt16)
  | configurationResponse (ch : UInt16) (identifier : UInt8) (remoteCID mtu : UInt16)
  | report (ch remoteCID : UInt16) (command : OutputCommand)

/-- The payload `sendConnectionRequest` builds. -/
def L2capSignaling.connectionRequest (psm cid : UInt16) : PayloadBuilder payloadSize :=
  let pb : PayloadBuilder payloadSize := .empty
  let pb := pb.append codeConnectionRequest
  let pb := pb.append 0x01
  let pb := pb.appendU16LE 0x0004
  let pb := pb.appendU16LE psm
  pb.appendU16LE cid

namespace HostCall

/-- The packet that is sent for the call. -/
def packet : HostCall → List UInt8
  | hci command => command.encode
  | connectionRequest ch psm cid =>
    reportPacket ch l2capCidSignaling (L2capSignaling.connectionRequest psm cid).bytes
  | configurationRequest ch dstCID =>
    reportPacket ch l2capCidSignaling (L2capSignaling.configurationRequest dstCID).bytes
  | configurationResponse ch identifier remoteCID mtu =>
    reportPacket ch l2capCidSignaling (L2capSignaling.configurationResponse identifier remoteCID mtu).bytes
  | report ch remoteCID command => reportPacket ch remoteCID command.payload.bytes

/-- What the call says. -/
def message : HostCall → HostMessage
  | hci command => .command command
  | connectionRequest ch psm cid => .signaling (ch &&& 0x0FFF) (.connectionRequest 0x01 psm cid)
  | configurationRequest ch dstCID =>
    .signaling (ch &&& 0x0FFF) (.configurationRequest 0x02 dstCID 0x0040)
  | configurationResponse ch identifier remoteCID mtu =>
    .signaling (ch &&& 0x0FFF) (.configurationResponse identifier remoteCID mtu)
  | report ch remoteCID command => .report (ch &&& 0x0FFF) remoteCID command.report

/-- The parameters fit their fields. -/
def Valid : HostCall → Prop
  | hci command => command.Valid
  | report _ _ command => command.isValid = true
  | _ => True

/-- The bytes of a Connection Request. -/
theorem bytes_connectionRequest (psm cid : UInt16) :
    (L2capSignaling.connectionRequest psm cid).bytes =
      [codeConnectionRequest, 0x01, 0x04, 0x00, (psm &&& 0xFF).toUInt8, (psm >>> 8).toUInt8,
        (cid &&& 0xFF).toUInt8, (cid >>> 8).toUInt8] := by
  simp [L2capSignaling.connectionRequest, PayloadBuilder.appendU16LE, PayloadBuilder.bytes_append,
    PayloadBuilder.empty, payloadSize]
  decide

/-- A frame on the signaling channel is decoded as a signaling command. -/
theorem decode_signaling {ch : UInt16} {payload : List UInt8} {command : SignalingCommand}
    (h : payload.length ≤ 255) (hreport : payload.head? ≠ some 0xA2)
    (hdecode : decodeSignaling payload = some command) :
    decodeHostPacket (reportPacket ch l2capCidSignaling payload) =
      some (.signaling (ch &&& 0x0FFF) command) := by
  rw [decode_reportPacket ch l2capCidSignaling h, decodePayload, if_neg hreport, hdecode]
  rfl

/-- Every output report starts with the byte of a HID output report. -/
theorem head_payload (command : OutputCommand) : command.payload.bytes.head? = some 0xA2 := by
  have hdecode := command.decode_payload
  unfold decodeOutputReport at hdecode
  split at hdecode
  next heq => rw [heq]; rfl
  next => cases hdecode

/-- Whatever is said is decoded as it was meant. -/
theorem decode_packet (call : HostCall) (hvalid : call.Valid) :
    decodeHostPacket call.packet = some call.message := by
  have hlow (value : UInt16) : uint16OfLe (value &&& 0xFF).toUInt8 (value >>> 8).toUInt8 = value := by
    rw [and_255_toUInt8, uint16OfLe_split]
  cases call with
  | hci command => exact command.decode_encode hvalid
  | connectionRequest ch psm cid =>
    rw [packet, bytes_connectionRequest]
    refine decode_signaling (Nat.le_of_ble_eq_true rfl) ?_ ?_
    · exact fun h => absurd (Option.some.inj h) (by decide)
    · change some (SignalingCommand.connectionRequest 0x01 (uint16OfLe _ _) (uint16OfLe _ _)) = _
      rw [hlow, hlow]
  | configurationRequest ch dstCID =>
    rw [packet, bytes_configurationRequest]
    refine decode_signaling (Nat.le_of_ble_eq_true rfl) ?_ ?_
    · exact fun h => absurd (Option.some.inj h) (by decide)
    · change some (SignalingCommand.configurationRequest 0x02 (uint16OfLe _ _) (uint16OfLe 0x40 0x00)) = _
      rw [hlow]
      rfl
  | configurationResponse ch identifier remoteCID mtu =>
    rw [packet, bytes_configurationResponse]
    refine decode_signaling (Nat.le_of_ble_eq_true rfl) ?_ ?_
    · exact fun h => absurd (Option.some.inj h) (by decide)
    · change some (SignalingCommand.configurationResponse identifier (uint16OfLe _ _) (uint16OfLe _ _)) = _
      rw [hlow, hlow]
  | report ch remoteCID command =>
    have hlen : command.payload.bytes.length ≤ 255 := Nat.le_trans command.payload.length_le (by decide)
    rw [packet, decode_reportPacket ch remoteCID hlen, decodePayload, if_pos (head_payload command),
      command.decode_payload]
    rfl

end HostCall

end Esp32Wiimote.Bluetooth
