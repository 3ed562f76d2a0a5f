import Esp32Wiimote.Library.LoggedMemory
import Esp32Wiimote.Bluetooth.L2cap
import Mathlib.Data.List.Nodup

/-!
# The packet buffer in memory

`sendAclL2capPacket` builds its packet in an array of 256 bytes, behind nine bytes of headers that two
encoders write. The guard lets payloads of 255 bytes through, and eight of these lengths do not fit:
the encoders are exact about every length, and the guard is about another buffer.
-/

namespace Esp32Wiimote.Bluetooth

open StateProgram LoggedMemory

/-! ## The encoders -/

/-- The pointer of an encoder, as an offset from the start of the packet buffer, and the memory. -/
structure PacketWriter where
  buffer : Memory UInt8
  p : ℤ

namespace PacketWriter

/-- One byte is stored and the pointer moves on. -/
def streamU8ToLe (w : PacketWriter) (value : UInt8) : PacketWriter :=
  ⟨w.buffer.store w.p value, w.p + 1⟩

/-- Two bytes are stored, the low one first. -/
def streamU16ToLe (w : PacketWriter) (value : UInt16) : PacketWriter :=
  (w.streamU8ToLe value.toUInt8).streamU8ToLe (value >>> 8).toUInt8

/-- The loop of `streamArray`, with the rounds it makes. -/
def streamArray (w : PacketWriter) (array : ℕ → UInt8) : ℕ → PacketWriter
  | 0 => w
  | i + 1 => (w.streamArray array i).streamU8ToLe (array i)

end PacketWriter

/-- The bytes in front of the L2CAP packet: the type and the ACL header. -/
def kHciH4AclPreambleSize : UInt16 := 5

/-- The bytes of the L2CAP header. -/
def kL2CapHeaderLen : UInt16 := 4

/-- `makeL2capPacket` at an offset of the memory: the reported length, and what it wrote. -/
def makeL2capPacketIn (buffer : Memory UInt8) (buf : ℤ) (channelID : UInt16) (data : ℕ → UInt8)
    (len : UInt16) : UInt16 × Memory UInt8 :=
  let w := PacketWriter.streamU16ToLe ⟨buffer, buf⟩ len
  let w := w.streamU16ToLe channelID
  let w := w.streamArray data len.toNat
  (kL2CapHeaderLen + len, w.buffer)

/-- `makeAclL2capPacket` on the memory at the packet buffer. -/
def makeAclL2capPacketIn (buffer : Memory UInt8) (ch : UInt16) (control : AclPacketControl)
    (channelID : UInt16) (data : ℕ → UInt8) (len : UInt8) : UInt16 × Memory UInt8 :=
  let l2cap := makeL2capPacketIn buffer kHciH4AclPreambleSize.toNat channelID data len.toUInt16
  let w := PacketWriter.streamU8ToLe ⟨l2cap.2, 0⟩ h4Acl
  let w := w.streamU8ToLe (ch &&& 0xFF).toUInt8
  let w := w.streamU8ToLe (((ch >>> 8) &&& 0x0F).toUInt8 ||| (control.packetBoundaryFlag <<< 4) |||
    (control.broadcastFlag <<< 6))
  let w := w.streamU16ToLe l2cap.1
  (kHciH4AclPreambleSize + l2cap.1, w.buffer)

/-- The size of `tmpQueueData_`. -/
def packetBufferSize : ℕ := 256

/-- `sendAclL2capPacket`: the length that is handed to the callback, unless the call is refused, and
the memory at `tmpQueueData_`. -/
def sendAclL2capPacketIn (sendCallback : Bool) (ch remoteCID : UInt16) (payload : ℕ → UInt8)
    (payloadLen : UInt16) (tmpQueueData : Memory UInt8) : Option UInt16 × Memory UInt8 :=
  if sendCallback = false then (none, tmpQueueData)
  else if 255 < payloadLen then (none, tmpQueueData)
  else
    let packet :=
      makeAclL2capPacketIn tmpQueueData ch ⟨0b10, 0b00⟩ remoteCID payload payloadLen.toUInt8
    (some packet.1, packet.2)

/-! ## What is written -/

namespace PacketWriter

variable (w : PacketWriter)

/-- Bytes are written from the pointer on, which moves behind them. -/
def streamAll (bytes : List UInt8) : PacketWriter :=
  ⟨w.buffer.storeAll w.p bytes, w.p + bytes.length⟩

/-- Writing two lists one after the other is writing both at once. -/
theorem streamAll_append (first second : List UInt8) :
    (w.streamAll first).streamAll second = w.streamAll (first ++ second) := by
  rw [streamAll, streamAll, streamAll, Memory.storeAll_append, List.length_append, Int.natCast_add,
    Int.add_assoc]

/-- One byte is a list of one. -/
theorem streamU8ToLe_eq (value : UInt8) : w.streamU8ToLe value = w.streamAll [value] := rfl

/-- Two bytes are the list the model's `streamU16ToLe` gives. -/
theorem streamU16ToLe_eq (value : UInt16) :
    w.streamU16ToLe value = w.streamAll (Bluetooth.streamU16ToLe value) := by
  rw [streamU16ToLe, streamU8ToLe_eq, streamU8ToLe_eq, streamAll_append]
  rfl

/-- An array is the list of its first `len` bytes. -/
theorem streamArray_eq (array : ℕ → UInt8) (len : ℕ) :
    w.streamArray array len = w.streamAll ((List.range len).map array) := by
  induction len with
  | zero => simp [streamArray, streamAll, Memory.storeAll]
  | succ len ih =>
    rw [streamArray, ih, streamU8ToLe_eq, streamAll_append, List.range_succ, List.map_append]
    rfl

end PacketWriter

section Packet

variable (buffer : Memory UInt8) (ch channelID : UInt16) (control : AclPacketControl)
  (data : ℕ → UInt8)

/-- The bytes a pointer to the payload points to. -/
def payloadBytes (data : ℕ → UInt8) (len : ℕ) : List UInt8 := (List.range len).map data

/-- The payload has the length it is given. -/
theorem length_payloadBytes (len : ℕ) : (payloadBytes data len).length = len := by
  rw [payloadBytes, List.length_map, List.length_range]

/-- The L2CAP encoder stores the packet of the model and answers its length. -/
theorem makeL2capPacketIn_eq (buf : ℤ) (len : UInt16) :
    makeL2capPacketIn buffer buf channelID data len =
      (kL2CapHeaderLen + len,
        buffer.storeAll buf (makeL2capPacket channelID (payloadBytes data len.toNat) len)) := by
  have htake : (payloadBytes data len.toNat).take len.toNat = payloadBytes data len.toNat :=
    List.take_of_length_le (Nat.le_of_eq (length_payloadBytes data _))
  rw [makeL2capPacketIn, makeL2capPacket, htake]
  simp only [PacketWriter.streamU16ToLe_eq, PacketWriter.streamArray_eq, PacketWriter.streamAll_append]
  rfl

/-- The bytes in front of the L2CAP packet. -/
def aclPreamble (l2capLen : UInt16) : List UInt8 :=
  h4Acl :: [(ch &&& 0xFF).toUInt8,
    ((ch >>> 8) &&& 0x0F).toUInt8 ||| (control.packetBoundaryFlag <<< 4) |||
      (control.broadcastFlag <<< 6)] ++ streamU16ToLe l2capLen

/-- The L2CAP packet is written first, and the preamble in front of it. -/
theorem makeAclL2capPacketIn_eq (len : UInt8) :
    makeAclL2capPacketIn buffer ch control channelID data len =
      (kHciH4AclPreambleSize + (kL2CapHeaderLen + len.toUInt16),
        (buffer.storeAll 5
          (makeL2capPacket channelID (payloadBytes data len.toNat) len.toUInt16)).storeAll 0
          (aclPreamble ch control (kL2CapHeaderLen + len.toUInt16))) := by
  rw [makeAclL2capPacketIn, makeL2capPacketIn_eq]
  simp only [PacketWriter.streamU16ToLe_eq, PacketWriter.streamU8ToLe_eq, PacketWriter.streamAll_append]
  rfl

/-- An ACL packet is its preamble and the L2CAP packet. -/
theorem makeAclL2capPacket_eq (len : UInt8) :
    makeAclL2capPacket ch control channelID (payloadBytes data len.toNat) len =
      aclPreamble ch control (kL2CapHeaderLen + len.toUInt16) ++
        makeL2capPacket channelID (payloadBytes data len.toNat) len.toUInt16 := rfl

/-- An L2CAP packet is four bytes longer than its payload. -/
theorem length_makeL2capPacket (len : UInt8) :
    (makeL2capPacket channelID (payloadBytes data len.toNat) len.toUInt16).length = 4 + len.toNat := by
  rw [makeL2capPacket, List.length_append, List.length_take, UInt8.toNat_toUInt16, length_payloadBytes,
    Nat.min_self]
  rfl

/-- An ACL packet is nine bytes longer than its payload, without overflow. -/
theorem toNat_packetLen (len : UInt8) :
    (kHciH4AclPreambleSize + (kL2CapHeaderLen + len.toUInt16)).toNat = 9 + len.toNat := by
  have hlen := len.toNat_lt
  rw [UInt16.toNat_add, UInt16.toNat_add, UInt8.toNat_toUInt16]
  change (5 + (4 + len.toNat) % 2 ^ 16) % 2 ^ 16 = 9 + len.toNat
  omega

/-- The offsets that are written to: those of the L2CAP packet, and then those in front of it. -/
def writtenOffsets (len : ℕ) : List ℤ :=
  ((List.range (4 + len)).map fun k : ℕ => (5 : ℤ) + k) ++ (List.range 5).map fun k : ℕ => (0 : ℤ) + k

/-- The encoder stores at the offsets of the packet and nowhere else. -/
theorem stores_makeAclL2capPacketIn (len : UInt8) :
    (makeAclL2capPacketIn buffer ch control channelID data len).2.stores =
      buffer.stores ++ writtenOffsets len.toNat := by
  rw [makeAclL2capPacketIn_eq]
  dsimp only
  rw [Memory.stores_storeAll, Memory.stores_storeAll, length_makeL2capPacket, List.append_assoc]
  rfl

/-- No byte is written twice. -/
theorem nodup_writtenOffsets (len : ℕ) : (writtenOffsets len).Nodup := by
  have hinjective (base : ℤ) : Function.Injective fun k : ℕ => base + k := fun j k h => by
    have hjk : base + (j : ℤ) = base + k := h
    omega
  rw [writtenOffsets, List.nodup_append]
  refine ⟨List.nodup_range.map (hinjective 5), List.nodup_range.map (hinjective 0), ?_⟩
  intro i hi j hj
  obtain ⟨k, -, rfl⟩ := List.mem_map.mp hi
  obtain ⟨l, hl, rfl⟩ := List.mem_map.mp hj
  rw [List.mem_range] at hl
  omega

/-- It stores as many bytes as the packet has. -/
theorem length_writtenOffsets (len : ℕ) : (writtenOffsets len).length = 9 + len := by
  rw [writtenOffsets, List.length_append, List.length_map, List.length_map, List.length_range,
    List.length_range]
  omega

/-- The offsets are those from the buffer's start to the packet's end. -/
theorem mem_writtenOffsets {len : ℕ} {i : ℤ} : i ∈ writtenOffsets len ↔ 0 ≤ i ∧ i < 9 + len := by
  rw [writtenOffsets, List.mem_append, List.mem_map, List.mem_map]
  constructor
  · rintro (⟨k, hk, rfl⟩ | ⟨k, hk, rfl⟩)
    · rw [List.mem_range] at hk
      omega
    · rw [List.mem_range] at hk
      omega
  · rintro ⟨hlow, hhigh⟩
    obtain ⟨k, rfl⟩ := Int.eq_ofNat_of_zero_le hlow
    by_cases hk : k < 5
    · exact Or.inr ⟨k, List.mem_range.mpr hk, Int.zero_add _⟩
    · exact Or.inl ⟨k - 5, List.mem_range.mpr (by omega), by omega⟩

/-- What is in the memory behind the call is the packet of the encoders on lists. -/
theorem load_makeAclL2capPacketIn (len : UInt8) :
    (makeAclL2capPacketIn buffer ch control channelID data len).2.load (9 + len.toNat) =
      makeAclL2capPacket ch control channelID (payloadBytes data len.toNat) len := by
  have hload := buffer.load_storeAll_front (aclPreamble ch control (kL2CapHeaderLen + len.toUInt16))
    (makeL2capPacket channelID (payloadBytes data len.toNat) len.toUInt16)
  have hlength : (aclPreamble ch control (kL2CapHeaderLen + len.toUInt16) ++
      makeL2capPacket channelID (payloadBytes data len.toNat) len.toUInt16).length =
        9 + len.toNat := by
    rw [List.length_append, length_makeL2capPacket]
    change 5 + (4 + len.toNat) = 9 + len.toNat
    omega
  rw [hlength] at hload
  rw [makeAclL2capPacketIn_eq, makeAclL2capPacket_eq]
  exact hload

end Packet

/-! ## The guard -/

/-- The packet of a call that is not refused lies in the buffer, and its length is the number of bytes
that were written. -/
def FitsBuffer (tmpQueueData : Memory UInt8) (outcome : Option UInt16 × Memory UInt8) : Prop :=
  ∀ kPacketLen ∈ outcome.1, StoresInside packetBufferSize tmpQueueData outcome.2 ∧
    ∃ written, outcome.2.stores = tmpQueueData.stores ++ written ∧ written.Nodup ∧
      written.length = kPacketLen.toNat

section Guard

variable {tmpQueueData : Memory UInt8} {ch remoteCID : UInt16} {payload : ℕ → UInt8}

/-- Without a callback, or with too long a payload, nothing is stored. -/
theorem sendAclL2capPacketIn_refused {sendCallback : Bool} {payloadLen : UInt16}
    (h : sendCallback = false ∨ 255 < payloadLen) :
    sendAclL2capPacketIn sendCallback ch remoteCID payload payloadLen tmpQueueData =
      (none, tmpQueueData) := by
  rw [sendAclL2capPacketIn]
  by_cases hcallback : sendCallback = false
  · rw [if_pos hcallback]
  · rw [if_neg hcallback, if_pos (h.resolve_left hcallback)]

/-- Otherwise the packet is encoded in the buffer. -/
theorem sendAclL2capPacketIn_accepted {payloadLen : UInt16} (h : payloadLen ≤ 255) :
    sendAclL2capPacketIn true ch remoteCID payload payloadLen tmpQueueData =
      (some (kHciH4AclPreambleSize + (kL2CapHeaderLen + payloadLen.toUInt8.toUInt16)),
        (makeAclL2capPacketIn tmpQueueData ch ⟨0b10, 0b00⟩ remoteCID payload
          payloadLen.toUInt8).2) := by
  rw [sendAclL2capPacketIn, if_neg Bool.noConfusion, if_neg (UInt16.not_lt.mpr h)]
  dsimp only
  rw [makeAclL2capPacketIn_eq]

/-- An accepted packet is in the buffer exactly when its headers and its payload are. -/
theorem fitsBuffer_accepted_iff {payloadLen : UInt16} (h : payloadLen ≤ 255) :
    FitsBuffer tmpQueueData
        (sendAclL2capPacketIn true ch remoteCID payload payloadLen tmpQueueData) ↔
      payloadLen ≤ 247 := by
  have hlen : payloadLen.toNat ≤ 255 := UInt16.le_iff_toNat_le.mp h
  have hnarrow : payloadLen.toUInt8.toNat = payloadLen.toNat := by
    rw [UInt16.toNat_toUInt8]
    omega
  have hstores := stores_makeAclL2capPacketIn tmpQueueData ch remoteCID ⟨0b10, 0b00⟩ payload
    payloadLen.toUInt8
  have hreported := toNat_packetLen payloadLen.toUInt8
  rw [sendAclL2capPacketIn_accepted h, UInt16.le_iff_toNat_le]
  rw [hnarrow] at hstores hreported
  constructor
  · intro hfits
    obtain ⟨⟨added, hadded, hinside⟩, -⟩ := hfits _ rfl
    -- the last byte of the payload
    have hlast : (8 + payloadLen.toNat : ℤ) ∈ writtenOffsets payloadLen.toNat :=
      mem_writtenOffsets.mpr (by omega)
    rw [List.append_cancel_left (hadded.symm.trans hstores)] at hinside
    have hbound := (hinside _ hlast).2
    change (8 + payloadLen.toNat : ℤ) < 256 at hbound
    change payloadLen.toNat ≤ 247
    omega
  · rintro hfits _ ⟨⟩
    change payloadLen.toNat ≤ 247 at hfits
    refine ⟨⟨_, hstores, fun i hi => ?_⟩, _, hstores, nodup_writtenOffsets _, ?_⟩
    · have hoffset := mem_writtenOffsets.mp hi
      change 0 ≤ i ∧ i < 256
      omega
    · rw [length_writtenOffsets, hreported]

/-- Nothing is written behind the buffer for a payload the buffer has room for. -/
theorem storesInside_sendAclL2capPacketIn {sendCallback : Bool} {payloadLen : UInt16}
    (h : payloadLen ≤ 247) : StoresInside packetBufferSize tmpQueueData
      (sendAclL2capPacketIn sendCallback ch remoteCID payload payloadLen tmpQueueData).2 := by
  have haccepted : payloadLen ≤ 255 := UInt16.le_trans h (by decide)
  cases sendCallback with
  | false =>
    rw [sendAclL2capPacketIn_refused (Or.inl rfl)]
    exact refl_of _ tmpQueueData
  | true =>
    have hfits : FitsBuffer tmpQueueData
        (sendAclL2capPacketIn true ch remoteCID payload payloadLen tmpQueueData) :=
      (fitsBuffer_accepted_iff haccepted).mpr h
    rw [sendAclL2capPacketIn_accepted haccepted] at hfits ⊢
    exact (hfits _ rfl).1

end Guard

/-- A call is refused, or its packet is in the buffer, or its payload is one of the eight lengths that
the guard lets through and the buffer has no room for. -/
theorem sendAclL2capPacketIn_fits_iff (sendCallback : Bool) (ch remoteCID : UInt16)
    (payload : ℕ → UInt8) (payloadLen : UInt16) (tmpQueueData : Memory UInt8) :
    FitsBuffer tmpQueueData
        (sendAclL2capPacketIn sendCallback ch remoteCID payload payloadLen tmpQueueData) ↔
      sendCallback = false ∨ 255 < payloadLen ∨ payloadLen ≤ 247 := by
  by_cases hrefused : sendCallback = false ∨ 255 < payloadLen
  · rw [sendAclL2capPacketIn_refused hrefused]
    refine iff_of_true (fun _ h => by cases h) ?_
    rcases hrefused with hcallback | hlong
    · exact Or.inl hcallback
    · exact Or.inr (Or.inl hlong)
  · rw [not_or, Bool.not_eq_false, UInt16.not_lt] at hrefused
    obtain ⟨rfl, hlen⟩ := hrefused
    rw [fitsBuffer_accepted_iff hlen]
    constructor
    · intro hfits
      exact Or.inr (Or.inr hfits)
    · rintro (hcallback | hlong | hfits)
      · cases hcallback
      · exact absurd hlen (UInt16.not_le.mpr hlong)
      · exact hfits

/-- The shortest payload that is accepted and does not fit. -/
theorem sendAclL2capPacketIn_not_fits :
    ¬FitsBuffer ⟨fun _ => 0, []⟩
      (sendAclL2capPacketIn true 0x0001 0x0041 (fun _ => 0xA2) 248 ⟨fun _ => 0, []⟩) := by
  rw [fitsBuffer_accepted_iff (by decide)]
  decide

end Esp32Wiimote.Bluetooth
