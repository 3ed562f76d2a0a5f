import Esp32Wiimote.Bluetooth.RuntimeState
import Mathlib.Data.List.Basic

/-!
# L2CAP framing and signaling

The payload builder, the ACL packet sender, the connection table and the signaling
handlers. Texts written to the log are left out throughout; a log call stands in the
model only where evaluating its arguments reads the received packet.
-/

namespace Esp32Wiimote.Bluetooth

open StateProgram

/-! ## Payload builder -/

/-- The bytes written so far into a buffer of `capacity` bytes. -/
structure PayloadBuilder (capacity : Nat) where
  bytes : List UInt8
  length_le : bytes.length ≤ capacity

namespace PayloadBuilder

variable {capacity : Nat}

/-- A builder with nothing appended. -/
def empty : PayloadBuilder capacity := ⟨[], Nat.zero_le _⟩

/-- A byte that does not fit is dropped. -/
def append (pb : PayloadBuilder capacity) (val : UInt8) : PayloadBuilder capacity :=
  if h : pb.bytes.length < capacity then ⟨pb.bytes ++ [val], by rw [List.length_append]; exact h⟩
  else pb

/-- Two bytes, the low one first. -/
def appendU16LE (pb : PayloadBuilder capacity) (val : UInt16) : PayloadBuilder capacity :=
  (pb.append (val &&& 0xFF).toUInt8).append (val >>> 8).toUInt8

/-- Two bytes, the high one first. -/
def appendU16BE (pb : PayloadBuilder capacity) (val : UInt16) : PayloadBuilder capacity :=
  (pb.append (val >>> 8).toUInt8).append (val &&& 0xFF).toUInt8

/-- The three low bytes, the highest first. -/
def appendU24BE (pb : PayloadBuilder capacity) (val : UInt32) : PayloadBuilder capacity :=
  ((pb.append ((val >>> 16) &&& 0xFF).toUInt8).append ((val >>> 8) &&& 0xFF).toUInt8).append
    (val &&& 0xFF).toUInt8

/-- The zeroes are written all or not at all. -/
def reserveZeroed (pb : PayloadBuilder capacity) (count : Nat) : PayloadBuilder capacity :=
  if h : pb.bytes.length + count ≤ capacity then
    ⟨pb.bytes ++ List.replicate count 0, by simpa using h⟩
  else pb

/-- `memcpy` of `count` bytes over what was written from `position` on. -/
def overwrite (pb : PayloadBuilder capacity) (position : Nat) (data : Nat → UInt8) (count : Nat) :
    PayloadBuilder capacity :=
  ⟨pb.bytes.mapIdx fun i byte =>
      if position ≤ i ∧ i < position + count then data (i - position) else byte,
    by simpa using pb.length_le⟩

end PayloadBuilder

/-! ## Packets -/

/-- The channel of the signaling commands. -/
def l2capCidSignaling : UInt16 := 0x0001

/-- The service multiplexer of the HID interrupt channel. -/
def l2capPsmHidInterrupt : UInt16 := 0x0013

/-- An L2CAP packet: length and channel, then the payload. -/
def makeL2capPacket (channelID : UInt16) (data : List UInt8) (len : UInt16) : List UInt8 :=
  streamU16ToLe len ++ streamU16ToLe channelID ++ data.take len.toNat

/-- The two flags of an ACL packet's header. -/
structure AclPacketControl where
  packetBoundaryFlag : UInt8
  broadcastFlag : UInt8

/-- An ACL packet with one L2CAP packet in it. -/
def makeAclL2capPacket (ch : UInt16) (control : AclPacketControl) (channelID : UInt16)
    (data : List UInt8) (len : UInt8) : List UInt8 :=
  let l2capPacket := makeL2capPacket channelID data len.toUInt16
  h4Acl :: [(ch &&& 0xFF).toUInt8,
    ((ch >>> 8) &&& 0x0F).toUInt8 ||| (control.packetBoundaryFlag <<< 4) |||
      (control.broadcastFlag <<< 6)] ++
    streamU16ToLe (4 + len.toUInt16) ++ l2capPacket

/-- Refused without a send callback and for payloads of more than 255 bytes. -/
def sendAclL2capPacket (ch remoteCID : UInt16) (payload : List UInt8) : TwM Unit := do
  let r ← getRuntime
  if r.packetSender ∧ payload.length ≤ 255 then
    sendHciPacketRaw
      (makeAclL2capPacket ch ⟨0b10, 0b00⟩ remoteCID payload payload.length.toUInt8)

/-! ## Connection table -/

namespace L2capConnectionTable

/-- The first connection of the table with this handle. -/
def findConnection (table : L2capConnectionTable) (ch : UInt16) : Option L2capConnection :=
  table.list.find? (·.ch == ch)

/-- `none` when the table is full. -/
def addConnection (table : L2capConnectionTable) (connection : L2capConnection) :
    Option L2capConnectionTable :=
  if h : table.list.length < l2capConnectionListSize then
    some ⟨table.list ++ [connection], by rw [List.length_append]; exact h⟩
  else none

/-- The channel of the other side on this link. -/
def getRemoteCid (table : L2capConnectionTable) (ch : UInt16) : Option UInt16 :=
  (table.findConnection ch).map (·.remoteCID)

/-- The handle of the first connection of the table. -/
def getFirstConnectionHandle (table : L2capConnectionTable) : Option UInt16 :=
  table.list.head?.map (·.ch)

end L2capConnectionTable

/-! ## Signaling -/

/-- The size of the payload buffers. -/
def payloadSize : Nat := 64

/-- The code of a Connection Request. -/
def codeConnectionRequest : UInt8 := 0x02

/-- The code of a Connection Response. -/
def codeConnectionResponse : UInt8 := 0x03

/-- The code of a Configuration Request. -/
def codeConfigurationRequest : UInt8 := 0x04

/-- The code of a Configuration Response. -/
def codeConfigurationResponse : UInt8 := 0x05

namespace L2capSignaling

/-- Asks for a channel of the service `psm`, which this side names `cid`. -/
def sendConnectionRequest (ch psm cid : UInt16) : TwM Unit := do
  let r ← getRuntime
  if r.l2capSignaling.sender then
    let pb : PayloadBuilder payloadSize := .empty
    let pb := pb.append codeConnectionRequest
    let pb := pb.append 0x01
    let pb := pb.appendU16LE 0x0004
    let pb := pb.appendU16LE psm
    let pb := pb.appendU16LE cid
    sendAclL2capPacket ch l2capCidSignaling pb.bytes

/-- The configuration request sent for an established channel. -/
def configurationRequest (dstCID : UInt16) : PayloadBuilder payloadSize :=
  let pb : PayloadBuilder payloadSize := .empty
  let pb := pb.append codeConfigurationRequest
  let pb := pb.append 0x02
  let pb := pb.appendU16LE 0x0008
  let pb := pb.appendU16LE dstCID
  let pb := pb.appendU16LE 0x0000
  let pb := pb.append 0x01
  let pb := pb.append 0x02
  pb.appendU16LE 0x0040

/-- A channel that was granted is noted in the table and configured. -/
def handleConnectionResponse (ch : UInt16) (data : BytePtr) (len : UInt16) : TwM Unit := do
  let r ← getRuntime
  if len < 12 ∨ !(r.l2capSignaling.connections && r.l2capSignaling.sender) then
    pure ()
  else
    let dstCID ← readUInt16Le (data + 4)
    let result ← readUInt16Le (data + 8)
    if result ≠ 0x0000 then
      pure ()
    else
      match r.l2capConnections.addConnection ⟨ch, dstCID⟩ with
      | none => pure ()
      | some table =>
        modifyRuntime fun r => { r with l2capConnections := table }
        sendAclL2capPacket ch l2capCidSignaling (configurationRequest dstCID).bytes

/-- The answer to a Configuration Request, with the length limit it asked for. -/
def configurationResponse (identifier : UInt8) (remoteCID mtu : UInt16) :
    PayloadBuilder payloadSize :=
  let pb : PayloadBuilder payloadSize := .empty
  let pb := pb.append codeConfigurationResponse
  let pb := pb.append identifier
  let pb := pb.appendU16LE 0x000A
  let pb := pb.appendU16LE remoteCID
  let pb := pb.appendU16LE 0x0000
  let pb := pb.appendU16LE 0x0000
  let pb := pb.append 0x01
  let pb := pb.append 0x02
  pb.appendU16LE mtu

/-- Answer a configuration request whose option was accepted. -/
def answerConfigurationRequest (ch : UInt16) (identifier : UInt8) (mtu : UInt16) : TwM Unit := do
  let r ← getRuntime
  match r.l2capConnections.getRemoteCid ch with
  | none => pure ()
  | some remoteCID =>
    sendAclL2capPacket ch l2capCidSignaling (configurationResponse identifier remoteCID mtu).bytes

/-- Only a request whose one option is the length limit is answered. -/
def handleConfigurationRequest (ch : UInt16) (data : BytePtr) (len : UInt16) : TwM Unit := do
  let r ← getRuntime
  if len < 12 ∨ !(r.l2capSignaling.connections && r.l2capSignaling.sender) then
    pure ()
  else
    let identifier ← readByte data 1
    let dataLen ← readUInt16Le (data + 2)
    let flags ← readUInt16Le (data + 6)
    -- the bytes of the option are read one after the other, as long as the test goes on
    if flags ≠ 0x0000 ∨ dataLen ≠ 0x08 then
      pure ()
    else
      let option ← readByte data 8
      if option ≠ 0x01 then
        pure ()
      else
        let optionLength ← readByte data 9
        if optionLength ≠ 0x02 then
          pure ()
        else
          let mtu ← readUInt16Le (data + 10)
          answerConfigurationRequest ch identifier mtu

/-- A Configuration Response is only logged. -/
def handleConfigurationResponse (_data : BytePtr) (_len : UInt16) : TwM Unit := pure ()

end L2capSignaling

end Esp32Wiimote.Bluetooth
