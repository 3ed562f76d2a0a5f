import Esp32Wiimote.Bluetooth.PayloadBuffer
import Esp32Wiimote.Bluetooth.Extensions
import Esp32Wiimote.Bluetooth.PacketFormat

/-!
# Output reports and what they say

The five encoders of `WiimoteProtocol` share one payload buffer, which still holds what the last
payload left there. An output report is decoded here by its layout alone: the bytes behind the HID
prefix and the report number are the mask, the mode, the address or the data. Whatever was encoded
before, the report of a command decodes to the arguments of the command.
-/

namespace Esp32Wiimote.Bluetooth

open StateProgram TransitionRun LoggedMemory

/-! ## Commands -/

/-- The calls of `WiimoteProtocol`, with their arguments. -/
inductive OutputCommand where
  | setLeds (command : WiimoteLedCommand)
  | setReportingMode (command : WiimoteReportingModeCommand)
  | requestStatus
  | writeMemory (addressSpace : WiimoteAddressSpace) (offset : UInt32) (data : ℕ → UInt8)
      (length : UInt8)
  | readMemory (addressSpace : WiimoteAddressSpace) (offset : UInt32) (size : UInt16)

namespace OutputCommand

/-- The method of `WiimoteProtocol` that sends the command. -/
def run (protocol : WiimoteProtocol) (ch : UInt16) : OutputCommand → TwM Unit
  | setLeds command => protocol.setLeds ch command
  | setReportingMode command => protocol.setReportingMode ch command
  | requestStatus => protocol.requestStatus ch
  | writeMemory addressSpace offset data length =>
    protocol.writeMemory ch addressSpace offset data length
  | readMemory addressSpace offset size => protocol.readMemory ch addressSpace offset size

/-- What `isValidMemorySize` lets through. -/
def isValid : OutputCommand → Bool
  | writeMemory _ _ _ length => WiimoteProtocol.isValidMemorySize length.toUInt16
  | readMemory _ _ size => WiimoteProtocol.isValidMemorySize size
  | _ => true

/-- The writes of each encoder. -/
def build (pb : BufferWriter) : OutputCommand → BufferWriter
  | setLeds command =>
    let pb := pb.append kHidOutputReport
    let pb := pb.append kWiimoteRptSetLeds
    pb.append (command.leds <<< 4)
  | setReportingMode command =>
    let contReportIsDesired := if command.continuous then 0x04 else 0x00
    let pb := pb.append kHidOutputReport
    let pb := pb.append kWiimoteRptSetReportingMode
    let pb := pb.append contReportIsDesired
    pb.append command.mode
  | requestStatus =>
    let pb := pb.append kHidOutputReport
    let pb := pb.append kWiimoteRptRequestStatus
    pb.append 0x00
  | writeMemory addressSpace offset data length =>
    let pb := pb.append kHidOutputReport
    let pb := pb.append kWiimoteRptWriteMemory
    let pb := pb.append addressSpace
    let pb := pb.appendU24BE offset
    let pb := pb.append length
    let pb := pb.reserveZeroed kEepromDataSize
    pb.memcpy ((pb.length : ℤ) - kEepromDataSize) data length.toNat
  | readMemory addressSpace offset size =>
    let pb := pb.append kHidOutputReport
    let pb := pb.append kWiimoteRptReadMemory
    let pb := pb.append addressSpace
    let pb := pb.appendU24BE offset
    pb.appendU16BE size

/-- The call as it is made on the object: the report is built in `payload_`, which is returned as
the call leaves it. -/
def transmit (protocol : WiimoteProtocol) (ch : UInt16) (command : OutputCommand)
    (payload_ : Memory UInt8) : TwM (Memory UInt8) := do
  let r ← getRuntime
  if !(protocol.connections && protocol.sender) then
    return payload_
  else if !command.isValid then
    return payload_
  else
    match r.l2capConnections.getRemoteCid ch with
    | none => return payload_
    | some remoteCID =>
      let pb := command.build { buffer := payload_, capacity := payloadSize }
      sendAclL2capPacket ch remoteCID pb.bytes
      return pb.buffer

end OutputCommand

/-! ## The layout of an output report -/

/-- What an output report says. -/
inductive OutputReport where
  | playerLeds (mask : ℕ)
  | reportingMode (continuous : Bool) (mode : UInt8)
  | statusRequest
  | memoryWrite (addressSpace : UInt8) (offset : ℕ) (length : ℕ) (data : List UInt8)
  | memoryRead (addressSpace : UInt8) (offset : ℕ) (size : ℕ)
  deriving DecidableEq

/-- The value of bytes, high byte first. -/
def bigEndian (bytes : List UInt8) : ℕ := bytes.foldl (fun value byte => 256 * value + byte.toNat) 0

/-- The report number and the bytes behind it. Bits without a meaning here are zero. -/
def decodeReport (report : UInt8) (body : List UInt8) : Option OutputReport :=
  if report = 0x11 then
    match body with
    | [leds] => if leds.toNat % 16 = 0 then some (.playerLeds (leds.toNat / 16)) else none
    | _ => none
  else if report = 0x12 then
    match body with
    | [flags, mode] =>
      if flags = 0x04 then some (.reportingMode true mode)
      else if flags = 0x00 then some (.reportingMode false mode)
      else none
    | _ => none
  else if report = 0x15 then
    if body = [0x00] then some .statusRequest else none
  else if report = 0x16 then
    match body with
    | addressSpace :: offset2 :: offset1 :: offset0 :: length :: data =>
      if data.length = 16 then
        some (.memoryWrite addressSpace (bigEndian [offset2, offset1, offset0]) length.toNat data)
      else none
    | _ => none
  else if report = 0x17 then
    match body with
    | [addressSpace, offset2, offset1, offset0, size1, size0] =>
      some (.memoryRead addressSpace (bigEndian [offset2, offset1, offset0])
        (bigEndian [size1, size0]))
    | _ => none
  else none

/-- The meaning of a payload on the channel of the output reports. -/
def decodeOutputReport : List UInt8 → Option OutputReport
  | 0xA2 :: report :: body => decodeReport report body
  | _ => none

/-- The arguments of the command as the report can say them. -/
def OutputCommand.report : OutputCommand → OutputReport
  | setLeds command => .playerLeds (command.leds.toNat % 16)
  | setReportingMode command => .reportingMode command.continuous command.mode
  | requestStatus => .statusRequest
  | writeMemory addressSpace offset data length =>
    .memoryWrite addressSpace (offset.toNat % 2 ^ 24) length.toNat
      ((List.range 16).map fun i => if i < length.toNat then data i else 0x00)
  | readMemory addressSpace offset size =>
    .memoryRead addressSpace (offset.toNat % 2 ^ 24) size.toNat

/-- The packet carries the report of the command on this channel of the connection. -/
structure OutputCommand.CarriedBy (command : OutputCommand) (ch remoteCID : UInt16)
    (packet : List UInt8) : Prop where
  formed : FormedAcl packet
  handle : (u16At packet 1).map (· &&& 0x0FFF) = some (ch &&& 0x0FFF)
  channel : u16At packet 7 = some remoteCID
  report : decodeOutputReport (packet.drop 9) = some command.report

/-! ## The encoders -/

namespace OutputCommand

/-- The bytes each encoder leaves in the payload builder of the packet model. -/
def payload : OutputCommand → PayloadBuilder payloadSize
  | setLeds command =>
    ((PayloadBuilder.empty.append kHidOutputReport).append kWiimoteRptSetLeds).append
      (command.leds <<< 4)
  | setReportingMode command =>
    (((PayloadBuilder.empty.append kHidOutputReport).append kWiimoteRptSetReportingMode).append
      (if command.continuous then 0x04 else 0x00)).append command.mode
  | requestStatus =>
    ((PayloadBuilder.empty.append kHidOutputReport).append kWiimoteRptRequestStatus).append 0x00
  | writeMemory addressSpace offset data length =>
    let pb := (((((PayloadBuilder.empty.append kHidOutputReport).append
      kWiimoteRptWriteMemory).append addressSpace).appendU24BE offset).append length).reserveZeroed
        kEepromDataSize
    pb.overwrite (pb.bytes.length - kEepromDataSize) data length.toNat
  | readMemory addressSpace offset size =>
    ((((PayloadBuilder.empty.append kHidOutputReport).append kWiimoteRptReadMemory).append
      addressSpace).appendU24BE offset).appendU16BE size

/-- Every method checks its arguments and sends the report of its command. -/
theorem run_eq (protocol : WiimoteProtocol) (ch : UInt16) (command : OutputCommand) :
    command.run protocol ch =
      if command.isValid then protocol.sendReport ch command.payload else pure () := by
  cases command <;> rfl

/-- What is written before the data area. -/
theorem bytes_memoryHeader (report addressSpace length : UInt8) (offset : UInt32) :
    (((((PayloadBuilder.empty : PayloadBuilder payloadSize).append kHidOutputReport).append
      report).append addressSpace).appendU24BE offset |>.append length).bytes =
      [0xA2, report, addressSpace, ((offset >>> 16) &&& 0xFF).toUInt8,
        ((offset >>> 8) &&& 0xFF).toUInt8, (offset &&& 0xFF).toUInt8, length] := by
  simp [PayloadBuilder.appendU24BE, PayloadBuilder.bytes_append, PayloadBuilder.empty, payloadSize,
    kHidOutputReport]

/-- Data copied over cleared bytes is padded with zeroes. -/
theorem bytes_overwrite_zeroes {capacity : ℕ} {pb : PayloadBuilder capacity} {header : List UInt8}
    {size : ℕ} (h : pb.bytes = header ++ List.replicate size 0x00) (data : ℕ → UInt8) (count : ℕ) :
    (pb.overwrite header.length data count).bytes =
      header ++ (List.range size).map fun i => if i < count then data i else 0x00 := by
  simp only [PayloadBuilder.overwrite, h]
  apply List.ext_getElem
  · simp
  · intro i hi _
    rw [List.length_mapIdx] at hi
    rw [List.getElem_mapIdx, List.getElem_append, List.getElem_append]
    by_cases hlt : i < header.length
    · rw [dif_pos hlt, dif_pos hlt, if_neg (by omega)]
    · obtain ⟨j, rfl⟩ := Nat.exists_eq_add_of_le (Nat.le_of_not_lt hlt)
      rw [dif_neg hlt, dif_neg hlt]
      simp

/-- The bytes of a memory write: the header, the data and zeros up to sixteen. -/
theorem bytes_writeMemory (addressSpace length : UInt8) (offset : UInt32) (data : ℕ → UInt8) :
    (payload (.writeMemory addressSpace offset data length)).bytes =
      [0xA2, 0x16, addressSpace, ((offset >>> 16) &&& 0xFF).toUInt8,
        ((offset >>> 8) &&& 0xFF).toUInt8, (offset &&& 0xFF).toUInt8, length] ++
        (List.range 16).map fun i => if i < length.toNat then data i else 0x00 := by
  have hheader := bytes_memoryHeader kWiimoteRptWriteMemory addressSpace length offset
  have hreserved (pb : PayloadBuilder payloadSize) (h : pb.bytes.length = 7) :
      (pb.reserveZeroed kEepromDataSize).bytes = pb.bytes ++ List.replicate kEepromDataSize 0x00 := by
    rw [PayloadBuilder.reserveZeroed, dif_pos (by rw [h]; decide)]
  have harea := hreserved _ (by rw [hheader]; rfl)
  rw [hheader] at harea
  have hcopied := bytes_overwrite_zeroes harea data length.toNat
  rw [payload, harea]
  exact hcopied

/-- The buffer the encoder wrote to holds the bytes of the packet model. -/
theorem holds_build (payload_ : Memory UInt8) {command : OutputCommand}
    (hvalid : command.isValid = true) :
    (command.build { buffer := payload_, capacity := payloadSize }).Holds payload_ command.payload := by
  have hempty := BufferWriter.holds_empty payload_ payloadSize
  cases command with
  | setLeds command => exact ((hempty.append _).append _).append _
  | setReportingMode command => exact (((hempty.append _).append _).append _).append _
  | requestStatus => exact ((hempty.append _).append _).append _
  | readMemory addressSpace offset size =>
    exact ((((hempty.append _).append _).append _).appendU24BE _).appendU16BE _
  | writeMemory addressSpace offset data length =>
    have harea := (((((hempty.append kHidOutputReport).append kWiimoteRptWriteMemory).append
      addressSpace).appendU24BE offset).append length).reserveZeroed kEepromDataSize
    have hwritten := congrArg List.length (bytes_writeMemory addressSpace length offset data)
    simp only [payload, PayloadBuilder.overwrite, List.length_mapIdx, List.length_append,
      List.length_map, List.length_range, List.length_cons, List.length_nil] at hwritten
    have hlength : length.toNat ≤ kEepromDataSize := by
      simpa [isValid, WiimoteProtocol.isValidMemorySize] using hvalid
    rw [build, BufferWriter.length, harea.position_eq, payload, hwritten]
    rw [kEepromDataSize] at hlength
    exact harea.memcpy data (show 7 + length.toNat ≤ _ by rw [hwritten]; omega)

end OutputCommand

/-! ## Decoding -/

/-- The three bytes of an offset read back as the offset's low 24 bits. -/
theorem bigEndian_u24 (value : UInt32) : bigEndian [((value >>> 16) &&& 0xFF).toUInt8,
    ((value >>> 8) &&& 0xFF).toUInt8, (value &&& 0xFF).toUInt8] = value.toNat % 2 ^ 24 := by
  have hlow (n : ℕ) : n &&& 255 = n % 256 := Nat.and_two_pow_sub_one_eq_mod n 8
  simp only [bigEndian, List.foldl_cons, List.foldl_nil, UInt32.toNat_toUInt8, UInt32.toNat_and,
    UInt32.toNat_shiftRight]
  simp [hlow, Nat.shiftRight_eq_div_pow]
  omega

/-- Two bytes, the high one first, read back as the number. -/
theorem bigEndian_u16 (value : UInt16) :
    bigEndian [(value >>> 8).toUInt8, (value &&& 0xFF).toUInt8] = value.toNat := by
  have hlow (n : ℕ) : n &&& 255 = n % 256 := Nat.and_two_pow_sub_one_eq_mod n 8
  have hlt := value.toNat_lt
  simp only [bigEndian, List.foldl_cons, List.foldl_nil, UInt16.toNat_toUInt8, UInt16.toNat_and,
    UInt16.toNat_shiftRight]
  simp [hlow, Nat.shiftRight_eq_div_pow]
  omega

/-- Two bytes, the low one first, as a number. -/
theorem toNat_uint16OfLe (low high : UInt8) :
    (uint16OfLe low high).toNat = high.toNat * 256 + low.toNat := by
  have hlow := low.toNat_lt
  have hhigh := high.toNat_lt
  have hor := Nat.shiftLeft_add_eq_or_of_lt (i := 8) hlow high.toNat
  simp [uint16OfLe, Nat.shiftLeft_eq] at hor ⊢
  rw [Nat.mod_eq_of_lt (by omega), hor]

/-- The flags of an ACL packet lie above the twelve bits of its handle. -/
theorem uint16OfLe_handle (ch : UInt16) : uint16OfLe (ch &&& 0xFF).toUInt8
    (((ch >>> 8) &&& 0x0F).toUInt8 ||| ((0b10 : UInt8) <<< 4) ||| ((0b00 : UInt8) <<< 6)) &&& 0x0FFF =
      ch &&& 0x0FFF := by
  have hlow (n : ℕ) : n &&& 255 = n % 256 := Nat.and_two_pow_sub_one_eq_mod n 8
  have hfour (n : ℕ) : n &&& 15 = n % 16 := Nat.and_two_pow_sub_one_eq_mod n 4
  have htwelve (n : ℕ) : n &&& 4095 = n % 4096 := Nat.and_two_pow_sub_one_eq_mod n 12
  have hflag (n : ℕ) (hn : n < 32) : n ||| 32 = 32 + n := by
    rw [Nat.or_comm]
    exact (Nat.two_pow_add_eq_or_of_lt (i := 5) hn 1).symm
  apply UInt16.toNat_inj.mp
  rw [UInt16.toNat_and, toNat_uint16OfLe]
  simp [hlow, hfour, htwelve, Nat.shiftRight_eq_div_pow]
  rw [hflag _ (by omega)]
  omega

namespace OutputCommand

/-- A payload decodes to the arguments of its command. -/
theorem decode_payload (command : OutputCommand) :
    decodeOutputReport command.payload.bytes = some command.report := by
  cases command with
  | setLeds command =>
    change decodeReport 0x11 [command.leds <<< 4] = _
    have hshift : (command.leds <<< 4).toNat = command.leds.toNat % 16 * 16 := by
      have hlt := command.leds.toNat_lt
      simp [UInt8.toNat_shiftLeft, Nat.shiftLeft_eq]
      omega
    simp [decodeReport, hshift, report]
  | setReportingMode command =>
    change decodeReport 0x12 [if command.continuous then 0x04 else 0x00, command.mode] = _
    cases hcontinuous : command.continuous with
    | false => simp [decodeReport, hcontinuous, report]
    | true => simp [decodeReport, hcontinuous, report]
  | requestStatus => rfl
  | writeMemory addressSpace offset data length =>
    rw [bytes_writeMemory, report, ← bigEndian_u24]
    rfl
  | readMemory addressSpace offset size =>
    rw [report, ← bigEndian_u24, ← bigEndian_u16]
    rfl

/-- The packet of the payload carries the command. -/
theorem carriedBy_reportPacket (command : OutputCommand) (ch remoteCID : UInt16) :
    command.CarriedBy ch remoteCID (reportPacket ch remoteCID command.payload.bytes) := by
  have hpayload : (aclPacket ch ⟨0b10, 0b00⟩ remoteCID command.payload).drop 9 =
      command.payload.bytes := by
    obtain ⟨flags, heq⟩ := aclPacket_eq ch ⟨0b10, 0b00⟩ remoteCID command.payload
    rw [heq]
    rfl
  constructor
  · exact formedAcl_aclPacket ..
  · exact congrArg some (uint16OfLe_handle ch)
  · exact u16At_aclPacket_channel ..
  · rw [reportPacket, hpayload, decode_payload]

/-! ## Transmission -/

variable {protocol : WiimoteProtocol} {ch : UInt16} {w : TwWorld}

/-- Whatever the buffer held, the packets are those of the packet model, and the buffer is written
to on the inside only. -/
theorem exec_transmit (command : OutputCommand) (payload_ : Memory UInt8) :
    (exec (command.transmit protocol ch payload_) w).2 = (exec (command.run protocol ch) w).2 ∧
      StoresInside payloadSize payload_ (exec (command.transmit protocol ch payload_) w).1 := by
  rw [run_eq, transmit]
  simp only [exec_getRuntime_bind, exec_ite, WiimoteProtocol.sendReport]
  by_cases hwired : (protocol.connections && protocol.sender) = true
  · simp only [hwired, Bool.not_true, Bool.false_eq_true, if_false]
    cases hvalid : command.isValid with
    | false => exact ⟨rfl, refl_of _ payload_⟩
    | true =>
      have hholds := holds_build payload_ hvalid
      simp only [Bool.not_true, Bool.false_eq_true, if_false, if_true]
      cases w.gRuntime.l2capConnections.getRemoteCid ch with
      | none => exact ⟨rfl, refl_of _ payload_⟩
      | some remoteCID =>
        rw [← hholds.bytes_eq]
        exact ⟨rfl, hholds.stores⟩
  · simp only [Bool.not_eq_true] at hwired
    simp only [hwired, Bool.not_false, if_true]
    refine ⟨?_, refl_of _ payload_⟩
    split <;> rfl

/-- A valid command goes out as one packet, if anything can go out. -/
theorem sent_run {remoteCID : UInt16} (command : OutputCommand) (hvalid : command.isValid = true)
    (hch : w.gRuntime.l2capConnections.getRemoteCid ch = some remoteCID) :
    (exec (command.run protocol ch) w).2 =
      w.noteSent (if protocol.Wired ∧ w.gRuntime.packetSender = true ∧
          w.gRuntime.hciInterface.hciSendPacket = true then
        [reportPacket ch remoteCID command.payload.bytes] else []) := by
  rw [run_eq, if_pos hvalid]
  by_cases hwired : protocol.Wired
  · have hfits : command.payload.bytes.length ≤ 255 :=
      Nat.le_trans command.payload.length_le (by decide)
    rw [exec_sendReport hwired, TwWorld.outgoing, hch]
    simp only [hfits, true_and, eq_true hwired]
  · have hunwired : (!(protocol.connections && protocol.sender)) = true := by
      rw [Bool.not_eq_true']
      exact Bool.eq_false_iff.mpr hwired
    rw [if_neg fun h => hwired h.1, WiimoteProtocol.sendReport, exec_getRuntime_bind,
      if_pos hunwired, TwWorld.noteSent, List.append_nil]
    rfl

end OutputCommand

/-- A handle in the table has a remote channel. -/
theorem exists_remoteCid {table : L2capConnectionTable} {ch : UInt16}
    (h : ch ∈ table.list.map (·.ch)) : ∃ remoteCID, table.getRemoteCid ch = some remoteCID := by
  obtain ⟨connection, hmem, rfl⟩ := List.mem_map.mp h
  rw [← Option.isSome_iff_exists, L2capConnectionTable.getRemoteCid, Option.isSome_map,
    L2capConnectionTable.findConnection, List.find?_isSome]
  exact ⟨connection, hmem, beq_self_eq_true _⟩

/-! ## Runs of calls -/

/-- A call on a protocol object, with the world it is made in. -/
structure ProtocolCall where
  protocol : WiimoteProtocol
  ch : UInt16
  command : OutputCommand
  world : TwWorld

/-- The payload buffer after the call. -/
def ProtocolCall.step (payload_ : Memory UInt8) (call : ProtocolCall) : Memory UInt8 :=
  (exec (call.command.transmit call.protocol call.ch payload_) call.world).1

/-- No run of calls writes outside the payload buffer. -/
theorem storesInside_runFrom (payload_ : Memory UInt8) (calls : List ProtocolCall) :
    StoresInside payloadSize payload_ (runFrom ProtocolCall.step payload_ calls) := by
  refine invariant_of_step (I := StoresInside payloadSize payload_) ?_ (refl_of _ payload_) calls
  intro before call hbefore
  exact trans_of _ hbefore (call.command.exec_transmit before).2

/-- The payload buffer of a new object. -/
def initialPayload : Memory UInt8 := ⟨fun _ => 0x00, []⟩

/-- After any calls, on a channel the table knows, a command with at most sixteen bytes goes out as
one packet on the remote channel that decodes to its arguments, wherever packets go out at all; and
the buffer is never written to on the outside. -/
theorem output_reports_decode (calls : List ProtocolCall) (call : ProtocolCall)
    (hch : call.ch ∈ call.world.gRuntime.l2capConnections.list.map (·.ch))
    (hvalid : call.command.isValid = true) :
    ∃ remoteCID packet, call.world.gRuntime.l2capConnections.getRemoteCid call.ch = some remoteCID ∧
      call.command.CarriedBy call.ch remoteCID packet ∧
      (exec (call.command.transmit call.protocol call.ch
          (runFrom ProtocolCall.step initialPayload calls)) call.world).2 =
        call.world.noteSent (if call.protocol.Wired ∧ call.world.gRuntime.packetSender = true ∧
          call.world.gRuntime.hciInterface.hciSendPacket = true then [packet] else []) ∧
      ∀ offset ∈ (runFrom ProtocolCall.step initialPayload (calls ++ [call])).stores,
        0 ≤ offset ∧ offset < payloadSize := by
  obtain ⟨remoteCID, hcid⟩ := exists_remoteCid hch
  refine ⟨remoteCID, _, hcid, call.command.carriedBy_reportPacket call.ch remoteCID, ?_, ?_⟩
  · rw [(call.command.exec_transmit _).1, OutputCommand.sent_run call.command hvalid hcid]
  · exact (storesInside_runFrom initialPayload _).forall_mem fun _ h => absurd h List.not_mem_nil

/-- A link is open, and packets go out. -/
def oneLinkWorld : TwWorld where
  gRuntime :=
    { hciInterface := ⟨true⟩, packetSender := true, l2capConnections := ⟨[⟨0x000B, 0x0041⟩], by decide⟩ }

/-- The call that sends the command on the link of the table. -/
def ProtocolCall.onLink (command : OutputCommand) : ProtocolCall :=
  ⟨⟨true, true⟩, 0x000B, command, oneLinkWorld⟩

/-- One byte written after sixteen is padded with zeroes. -/
theorem output_report_after_longer : ∃ packet,
    decodeOutputReport (packet.drop 9) =
        some (.memoryWrite 0x04 0xA400F0 1 (0x55 :: List.replicate 15 0x00)) ∧
      (exec ((OutputCommand.writeMemory 0x04 0xFFA400F0 (fun _ => 0x55) 1).transmit ⟨true, true⟩ 0x000B
          (runFrom ProtocolCall.step initialPayload
            [.onLink (.writeMemory 0x00 0x10 (fun _ => 0xFF) 16)])) oneLinkWorld).2 =
        oneLinkWorld.noteSent [packet] := by
  obtain ⟨remoteCID, packet, -, hcarried, hsent, -⟩ := output_reports_decode
    [.onLink (.writeMemory 0x00 0x10 (fun _ => 0xFF) 16)]
    (.onLink (.writeMemory 0x04 0xFFA400F0 (fun _ => 0x55) 1)) (by decide) (by decide)
  exact ⟨packet, hcarried.report, hsent⟩

end Esp32Wiimote.Bluetooth
