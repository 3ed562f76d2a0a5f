import Mathlib.Algebra.GroupWithZero.Nat
import Mathlib.Data.List.Basic
import Mathlib.Tactic.Common

/-!
# Byte streams and HCI command packets

The writers of `hci_utils.h` advance a pointer through a buffer; here each returns the
bytes it writes, and a packet is the concatenation in writing order. The builders of
`hci_commands.cpp` return a length that counts exactly these bytes.
-/

namespace Esp32Wiimote.Bluetooth

/-- A Bluetooth address, `addr[0]` first. -/
structure BdAddrT where
  addr0 : UInt8 := 0
  addr1 : UInt8 := 0
  addr2 : UInt8 := 0
  addr3 : UInt8 := 0
  addr4 : UInt8 := 0
  addr5 : UInt8 := 0
  deriving DecidableEq, Repr

/-- Low byte first. -/
def streamU16ToLe (value : UInt16) : List UInt8 := [value.toUInt8, (value >>> 8).toUInt8]

/-- The address is sent last byte first. -/
def streamBdAddr (bdAddr : BdAddrT) : List UInt8 :=
  [bdAddr.addr5, bdAddr.addr4, bdAddr.addr3, bdAddr.addr2, bdAddr.addr1, bdAddr.addr0]

/-- The 16-bit value of two bytes, low byte first. -/
def uint16OfLe (low high : UInt8) : UInt16 := (high.toUInt16 <<< 8) ||| low.toUInt16

/-- `H4PacketType::Command`. -/
def h4Command : UInt8 := 1

/-- `H4PacketType::Acl`. -/
def h4Acl : UInt8 := 2

/-- `H4PacketType::Event`. -/
def h4Event : UInt8 := 4

/-! ## Event codes and opcodes -/

/-- The event codes. -/
def kHciInquiryCompEvt : UInt8 := 0x01
def kHciInquiryResultEvt : UInt8 := 0x02
def kHciConnectionCompEvt : UInt8 := 0x03
def kHciDisconnectionCompEvt : UInt8 := 0x05
def kHciRmtNameRequestCompEvt : UInt8 := 0x07
def kHciCommandCompleteEvt : UInt8 := 0x0E
def kHciCommandStatusEvt : UInt8 := 0x0F

/-- The opcodes. -/
def kHciOpcodeReset : UInt16 := (0x0003 : UInt16) ||| ((0x03 : UInt16) <<< 10)
def kHciOpcodeWriteLocalName : UInt16 := (0x0013 : UInt16) ||| ((0x03 : UInt16) <<< 10)
def kHciOpcodeWriteClassOfDevice : UInt16 := (0x0024 : UInt16) ||| ((0x03 : UInt16) <<< 10)
def kHciOpcodeWriteScanEnable : UInt16 := (0x001A : UInt16) ||| ((0x03 : UInt16) <<< 10)
def kHciOpcodeReadBdAddr : UInt16 := (0x0009 : UInt16) ||| ((0x04 : UInt16) <<< 10)
def kHciOpcodeInquiry : UInt16 := (0x0001 : UInt16) ||| ((0x01 : UInt16) <<< 10)
def kHciOpcodeInquiryCancel : UInt16 := (0x0002 : UInt16) ||| ((0x01 : UInt16) <<< 10)
def kHciOpcodeCreateConnection : UInt16 := (0x0005 : UInt16) ||| ((0x01 : UInt16) <<< 10)
def kHciOpcodeDisconnect : UInt16 := (0x0006 : UInt16) ||| ((0x01 : UInt16) <<< 10)
def kHciOpcodeRemoteNameRequest : UInt16 := (0x0019 : UInt16) ||| ((0x01 : UInt16) <<< 10)

/-! ## Command builders -/

/-- Packet type, opcode and declared parameter length: the four bytes every command opens with. -/
def cmdPreamble (opcode : UInt16) (paramLen : UInt8) : List UInt8 :=
  h4Command :: streamU16ToLe opcode ++ [paramLen]

/-- The parameters of an Inquiry. -/
structure HciInquiryParams where
  lap : UInt32
  length : UInt8
  maxResponses : UInt8

/-- The parameters of a Remote Name Request. -/
structure HciRemoteNameRequestParams where
  bdAddr : BdAddrT
  pageScanRepetitionMode : UInt8
  clockOffset : UInt16

/-- The parameters of a Create Connection. -/
structure HciCreateConnectionParams where
  bdAddr : BdAddrT
  packetType : UInt16
  pageScanRepetitionMode : UInt8
  clockOffset : UInt16
  allowRoleSwitch : UInt8

/-- A Reset, without parameters. -/
def makeCmdReset : List UInt8 := cmdPreamble kHciOpcodeReset 0

/-- A Read BD_ADDR, without parameters. -/
def makeCmdReadBdAddr : List UInt8 := cmdPreamble kHciOpcodeReadBdAddr 0

/-- The name is padded with zero bytes to 248 bytes. -/
def makeCmdWriteLocalName (name : List UInt8) : List UInt8 :=
  cmdPreamble kHciOpcodeWriteLocalName 248 ++ name ++ List.replicate (248 - name.length) 0

/-- A Write Class of Device. -/
def makeCmdWriteClassOfDevice (cod0 cod1 cod2 : UInt8) : List UInt8 :=
  cmdPreamble kHciOpcodeWriteClassOfDevice 3 ++ [cod0, cod1, cod2]

/-- A Write Scan Enable. -/
def makeCmdWriteScanEnable (mode : UInt8) : List UInt8 :=
  cmdPreamble kHciOpcodeWriteScanEnable 1 ++ [mode]

/-- An Inquiry: access code, length and number of responses. -/
def makeCmdInquiry (params : HciInquiryParams) : List UInt8 :=
  cmdPreamble kHciOpcodeInquiry 5 ++
    [(params.lap &&& 0xFF).toUInt8, ((params.lap >>> 8) &&& 0xFF).toUInt8,
      ((params.lap >>> 16) &&& 0xFF).toUInt8, params.length, params.maxResponses]

/-- An Inquiry Cancel, without parameters. -/
def makeCmdInquiryCancel : List UInt8 := cmdPreamble kHciOpcodeInquiryCancel 0

/-- A Remote Name Request. -/
def makeCmdRemoteNameRequest (params : HciRemoteNameRequestParams) : List UInt8 :=
  cmdPreamble kHciOpcodeRemoteNameRequest 10 ++ streamBdAddr params.bdAddr ++
    [params.pageScanRepetitionMode, 0] ++ streamU16ToLe params.clockOffset

/-- A Create Connection. -/
def makeCmdCreateConnection (params : HciCreateConnectionParams) : List UInt8 :=
  cmdPreamble kHciOpcodeCreateConnection 13 ++ streamBdAddr params.bdAddr ++
    streamU16ToLe params.packetType ++ [params.pageScanRepetitionMode, 0] ++
    streamU16ToLe params.clockOffset ++ [params.allowRoleSwitch]

/-- A Disconnect. -/
def makeCmdDisconnect (connectionHandle : UInt16) (reason : UInt8) : List UInt8 :=
  cmdPreamble kHciOpcodeDisconnect 3 ++ streamU16ToLe connectionHandle ++ [reason]

/-! ## Well-formed commands -/

/-- An H4 command with as many parameter bytes as it declares, in a buffer of `capacity` bytes. -/
structure FormedCommand (capacity : Nat) (packet : List UInt8) : Prop where
  type : packet.head? = some h4Command
  declared : ∃ paramLen, packet[3]? = some paramLen ∧ packet.length = 4 + paramLen.toNat
  fits : packet.length ≤ capacity

/-- A command that fits a buffer fits a larger one. -/
theorem FormedCommand.mono {m n : Nat} {packet : List UInt8} (h : FormedCommand m packet)
    (hmn : m ≤ n) : FormedCommand n packet := ⟨h.type, h.declared, Nat.le_trans h.fits hmn⟩

/-- A command is well formed if its parameters have the declared length. -/
theorem formedCommand_cmdPreamble (opcode : UInt16) (paramLen : UInt8) (params : List UInt8)
    (h : params.length = paramLen.toNat) :
    FormedCommand (4 + paramLen.toNat) (cmdPreamble opcode paramLen ++ params) := by
  have hlen : (cmdPreamble opcode paramLen ++ params).length = 4 + paramLen.toNat := by
    rw [List.length_append, h]
    rfl
  exact ⟨rfl, ⟨paramLen, rfl, hlen⟩, Nat.le_of_eq hlen⟩

/-- A Reset is well formed and four bytes long. -/
theorem formedCommand_makeCmdReset : FormedCommand 4 makeCmdReset :=
  formedCommand_cmdPreamble kHciOpcodeReset 0 [] rfl

/-- So is a Read BD_ADDR. -/
theorem formedCommand_makeCmdReadBdAddr : FormedCommand 4 makeCmdReadBdAddr :=
  formedCommand_cmdPreamble kHciOpcodeReadBdAddr 0 [] rfl

/-- So is an Inquiry Cancel. -/
theorem formedCommand_makeCmdInquiryCancel : FormedCommand 4 makeCmdInquiryCancel :=
  formedCommand_cmdPreamble kHciOpcodeInquiryCancel 0 [] rfl

/-- So is a Write Scan Enable, with its one byte more. -/
theorem formedCommand_makeCmdWriteScanEnable (mode : UInt8) :
    FormedCommand 5 (makeCmdWriteScanEnable mode) :=
  formedCommand_cmdPreamble kHciOpcodeWriteScanEnable 1 _ rfl

/-- So is a Write Class of Device, with three. -/
theorem formedCommand_makeCmdWriteClassOfDevice (cod0 cod1 cod2 : UInt8) :
    FormedCommand 7 (makeCmdWriteClassOfDevice cod0 cod1 cod2) :=
  formedCommand_cmdPreamble kHciOpcodeWriteClassOfDevice 3 _ rfl

/-- So is a Disconnect, with three. -/
theorem formedCommand_makeCmdDisconnect (connectionHandle : UInt16) (reason : UInt8) :
    FormedCommand 7 (makeCmdDisconnect connectionHandle reason) := by
  rw [makeCmdDisconnect, List.append_assoc]
  exact formedCommand_cmdPreamble kHciOpcodeDisconnect 3 _ rfl

/-- So is an Inquiry, with five. -/
theorem formedCommand_makeCmdInquiry (params : HciInquiryParams) :
    FormedCommand 9 (makeCmdInquiry params) := formedCommand_cmdPreamble kHciOpcodeInquiry 5 _ rfl

/-- So is a Remote Name Request, with ten. -/
theorem formedCommand_makeCmdRemoteNameRequest (params : HciRemoteNameRequestParams) :
    FormedCommand 14 (makeCmdRemoteNameRequest params) := by
  simp only [makeCmdRemoteNameRequest, List.append_assoc]
  exact formedCommand_cmdPreamble kHciOpcodeRemoteNameRequest 10 _ rfl

/-- So is a Create Connection, with thirteen. -/
theorem formedCommand_makeCmdCreateConnection (params : HciCreateConnectionParams) :
    FormedCommand 17 (makeCmdCreateConnection params) := by
  simp only [makeCmdCreateConnection, List.append_assoc]
  exact formedCommand_cmdPreamble kHciOpcodeCreateConnection 13 _ rfl

/-- A name of up to 248 bytes is padded to exactly 248. -/
theorem formedCommand_makeCmdWriteLocalName {name : List UInt8} (h : name.length ≤ 248) :
    FormedCommand 252 (makeCmdWriteLocalName name) := by
  rw [makeCmdWriteLocalName, List.append_assoc]
  apply formedCommand_cmdPreamble kHciOpcodeWriteLocalName 248
  rw [List.length_append, List.length_replicate, Nat.add_sub_of_le h]
  rfl

/-! ## Recognising a command on the wire -/

/-- Cutting to eight bits takes the mask away. -/
theorem and_255_toUInt8 (value : UInt16) : (value &&& 0xFF).toUInt8 = value.toUInt8 := by
  apply UInt8.toNat_inj.mp
  have hmod : value.toNat &&& 255 = value.toNat % 256 := Nat.and_two_pow_sub_one_eq_mod value.toNat 8
  rw [UInt16.toNat_toUInt8, UInt16.toNat_toUInt8, UInt16.toNat_and]
  change (value.toNat &&& 255) % 256 = value.toNat % 256
  rw [hmod, Nat.mod_mod]

/-- Splitting a 16-bit value and reading it back is the identity. -/
theorem uint16OfLe_split (value : UInt16) :
    uint16OfLe value.toUInt8 (value >>> 8).toUInt8 = value := by
  apply UInt16.toBitVec_inj.mp
  apply BitVec.eq_of_getElem_eq
  intro i hi
  simp only [uint16OfLe, UInt16.toBitVec_or, UInt16.toBitVec_shiftLeft, UInt8.toBitVec_toUInt16,
    UInt16.toBitVec_toUInt8, UInt16.toBitVec_shiftRight]
  by_cases h : i < 8
  · simp [h, BitVec.getLsbD_eq_getElem hi]
  · have hsplit : 8 + (i - 8) = i := by omega
    have hhigh : i - 8 < 8 := by omega
    simp [h, hsplit, hhigh, BitVec.getLsbD_eq_getElem hi]

/-- The opcode of an H4 command packet, if the packet is one. -/
def commandOpcode : List UInt8 → Option UInt16
  | type :: low :: high :: _ => if type = h4Command then some (uint16OfLe low high) else none
  | _ => none

/-- A command carries the opcode of its preamble. -/
@[simp] theorem commandOpcode_cmdPreamble (opcode : UInt16) (paramLen : UInt8)
    (params : List UInt8) :
    commandOpcode (cmdPreamble opcode paramLen ++ params) = some opcode := by
  simp [commandOpcode, cmdPreamble, streamU16ToLe, uint16OfLe_split]

/-- A packet of another H4 type is no command. -/
theorem commandOpcode_of_type {type : UInt8} {rest : List UInt8} (h : type ≠ h4Command) :
    commandOpcode (type :: rest) = none := by
  rcases rest with _ | ⟨low, _ | ⟨high, rest⟩⟩ <;> simp [commandOpcode, h]

/-- The opcode of every command reads back as the builder's. -/
@[simp] theorem commandOpcode_makeCmdWriteScanEnable (mode : UInt8) :
    commandOpcode (makeCmdWriteScanEnable mode) = some kHciOpcodeWriteScanEnable :=
  commandOpcode_cmdPreamble ..

/-- Likewise for a Disconnect. -/
@[simp] theorem commandOpcode_makeCmdDisconnect (connectionHandle : UInt16) (reason : UInt8) :
    commandOpcode (makeCmdDisconnect connectionHandle reason) = some kHciOpcodeDisconnect :=
  commandOpcode_cmdPreamble ..

/-- Likewise for a Remote Name Request. -/
@[simp] theorem commandOpcode_makeCmdRemoteNameRequest (params : HciRemoteNameRequestParams) :
    commandOpcode (makeCmdRemoteNameRequest params) = some kHciOpcodeRemoteNameRequest := by
  simp only [makeCmdRemoteNameRequest, List.append_assoc, commandOpcode_cmdPreamble]

/-- Likewise for a Create Connection. -/
@[simp] theorem commandOpcode_makeCmdCreateConnection (params : HciCreateConnectionParams) :
    commandOpcode (makeCmdCreateConnection params) = some kHciOpcodeCreateConnection := by
  simp only [makeCmdCreateConnection, List.append_assoc, commandOpcode_cmdPreamble]

/-- Likewise for a Write Local Name. -/
@[simp] theorem commandOpcode_makeCmdWriteLocalName (name : List UInt8) :
    commandOpcode (makeCmdWriteLocalName name) = some kHciOpcodeWriteLocalName := by
  simp only [makeCmdWriteLocalName, List.append_assoc, commandOpcode_cmdPreamble]

/-- Likewise for a Write Class of Device. -/
@[simp] theorem commandOpcode_makeCmdWriteClassOfDevice (cod0 cod1 cod2 : UInt8) :
    commandOpcode (makeCmdWriteClassOfDevice cod0 cod1 cod2) =
      some kHciOpcodeWriteClassOfDevice := commandOpcode_cmdPreamble ..

/-- Likewise for an Inquiry. -/
@[simp] theorem commandOpcode_makeCmdInquiry (params : HciInquiryParams) :
    commandOpcode (makeCmdInquiry params) = some kHciOpcodeInquiry :=
  commandOpcode_cmdPreamble ..

/-- Likewise for the commands without parameters. -/
@[simp] theorem commandOpcode_makeCmdReset : commandOpcode makeCmdReset = some kHciOpcodeReset := rfl

@[simp] theorem commandOpcode_makeCmdReadBdAddr :
    commandOpcode makeCmdReadBdAddr = some kHciOpcodeReadBdAddr := rfl

@[simp] theorem commandOpcode_makeCmdInquiryCancel :
    commandOpcode makeCmdInquiryCancel = some kHciOpcodeInquiryCancel := rfl

end Esp32Wiimote.Bluetooth
