import Esp32Wiimote.Bluetooth.LinkState
import Esp32Wiimote.Bluetooth.PacketFormat

/-!
# A frame that is sent and received again

The sender puts the handle with the flags, two lengths and the channel in front of a payload, and
the receiver reads them back at offsets of its own. What one hands over the other takes apart into
the same handle, the same channel and the same payload.
-/

namespace Esp32Wiimote.Bluetooth

open StateProgram

/-! ## The handle and the flags -/

/-- A handle below `0x1000` has four bits in its high byte. -/
theorem shiftRight_and_15 {ch : UInt16} (hch : ch < 0x1000) :
    (ch >>> 8) &&& (0x0F : UInt16) = ch >>> 8 := by
  apply UInt16.toNat_inj.mp
  have hlt : ch.toNat < 4096 := hch
  have hshift : (ch >>> 8).toNat = ch.toNat / 256 := by
    rw [UInt16.toNat_shiftRight]
    exact Nat.shiftRight_eq_div_pow ch.toNat 8
  have hmod : (ch >>> 8).toNat &&& 15 = (ch >>> 8).toNat % 16 :=
    Nat.and_two_pow_sub_one_eq_mod _ 4
  rw [UInt16.toNat_and]
  change (ch >>> 8).toNat &&& 15 = (ch >>> 8).toNat
  rw [hmod, hshift]
  omega

/-- The flags of a packet that is a first one and no broadcast, above four bits of the handle. -/
theorem aclFlags (upper : UInt8) (hupper : upper < 16) :
    let flags := upper ||| ((0b10 : UInt8) <<< 4) ||| ((0b00 : UInt8) <<< 6)
    (flags &&& 0x30) >>> 4 = 0b10 ∧ (flags &&& 0xC0) >>> 6 = 0b00 ∧ flags &&& 0x0F = upper := by
  have hall : ∀ n : Fin 16, let flags := UInt8.ofNat n ||| ((0b10 : UInt8) <<< 4) ||| ((0b00 : UInt8) <<< 6)
      (flags &&& 0x30) >>> 4 = 0b10 ∧ (flags &&& 0xC0) >>> 6 = 0b00 ∧
        flags &&& 0x0F = UInt8.ofNat n := by decide
  have hvalue := hall ⟨upper.toNat, hupper⟩
  rwa [UInt8.ofNat_toNat] at hvalue

/-! ## Sending and receiving -/

/-- The bytes were received at the start of this memory. -/
def ReceivedIn (packet : List UInt8) (mem : Nat → UInt8) : Prop :=
  ∀ (i : Nat) (hi : i < packet.length), mem i = packet[i]

/-- Given to `handleHciData`, a packet of so many bytes passes all checks and comes to the receiver
of frames, which `handleL2capData` is, with this handle and channel and with this payload. -/
def ReachesL2cap (mem : Nat → UInt8) (len : Nat) (ch cid : UInt16) (payload : List UInt8) : Prop :=
  ∃ (data : BytePtr) (l2capLen : UInt16), l2capLen.toNat = payload.length ∧
    (∀ (i : Nat) (hi : i < payload.length), data.at i = payload[i]) ∧
    handleHciData = handleHciDataWith handleL2capData ∧
    ∀ receive w, ∃ offsets, exec (handleHciDataWith receive (some mem) len) w =
      exec (receive ⟨ch, cid⟩ data l2capLen) (w.noteReads offsets)

section Packet

variable {ch cid : UInt16} {payload : List UInt8} {mem : Nat → UInt8}

/-- The packet `sendAclL2capPacket` builds. -/
abbrev sentPacket (ch cid : UInt16) (payload : List UInt8) : List UInt8 :=
  makeAclL2capPacket ch ⟨0b10, 0b00⟩ cid payload payload.length.toUInt8

/-- The length of a payload that fits a frame survives the casts to 8 and to 16 bits. -/
theorem toNat_length_toUInt8 (hlen : payload.length ≤ 247) :
    payload.length.toUInt8.toUInt16.toNat = payload.length := by
  rw [UInt8.toNat_toUInt16, Nat.toUInt8, UInt8.toNat_ofNat']
  omega

/-- Nine bytes stand in front of the payload. -/
theorem sentPacket_eq (hlen : payload.length ≤ 247) : sentPacket ch cid payload =
    [h4Acl, ch.toUInt8, ((ch >>> 8) &&& 0x0F).toUInt8 ||| ((0b10 : UInt8) <<< 4) ||| ((0b00 : UInt8) <<< 6)] ++
      streamU16ToLe (4 + payload.length.toUInt8.toUInt16) ++
      streamU16ToLe payload.length.toUInt8.toUInt16 ++ streamU16ToLe cid ++ payload := by
  simp only [sentPacket, makeAclL2capPacket, makeL2capPacket, and_255_toUInt8, toNat_length_toUInt8 hlen,
    List.take_length, List.append_assoc, List.cons_append, List.nil_append]

/-- A frame is its nine header bytes and its payload. -/
theorem length_sentPacket (hlen : payload.length ≤ 247) :
    (sentPacket ch cid payload).length = 9 + payload.length := by
  rw [sentPacket_eq hlen]
  simp [streamU16ToLe]
  omega

/-- The first byte of the handle and its upper four bits make the handle again. -/
theorem handle_split (hch : ch < 0x1000) :
    (((ch >>> 8) &&& (0x0F : UInt16)).toUInt8.toUInt16 <<< 8) ||| ch.toUInt8.toUInt16 = ch := by
  rw [shiftRight_and_15 hch]
  exact uint16OfLe_split ch

/-- The upper bits of a connection handle fit the four bits the header has for them. -/
theorem upper_lt (ch : UInt16) : ((ch >>> 8) &&& (0x0F : UInt16)).toUInt8 < 16 := by
  apply UInt8.lt_iff_toNat_lt.mpr
  have hmod : (ch >>> 8).toNat &&& 15 = (ch >>> 8).toNat % 16 := Nat.and_two_pow_sub_one_eq_mod _ 4
  rw [UInt16.toNat_toUInt8, UInt16.toNat_and]
  change ((ch >>> 8).toNat &&& 15) % 256 < 16
  omega

/-- The frame of the packet, wherever the packet is received. -/
theorem aclFrame_sentPacket (hch : ch < 0x1000) (hlen : payload.length ≤ 247)
    (hmem : ReceivedIn (sentPacket ch cid payload) mem) :
    aclFrame (some mem) (sentPacket ch cid payload).length =
      some ⟨ch, cid, ⟨mem, (sentPacket ch cid payload).length, 9⟩, payload.length.toUInt8.toUInt16⟩ := by
  have hlength : (sentPacket ch cid payload).length = _ := length_sentPacket hlen
  have hbyte (i : Nat) (hi : i < 9) : some (mem i) = (sentPacket ch cid payload)[i]? := by
    rw [hmem i (by omega), List.getElem?_eq_getElem]
  simp only [sentPacket_eq hlen, streamU16ToLe, List.cons_append, List.nil_append] at hbyte
  have htype : mem 0 = h4Acl := Option.some.inj (hbyte 0 (by decide))
  have hlow : mem 1 = ch.toUInt8 := Option.some.inj (hbyte 1 (by decide))
  have hhigh : mem 2 = _ := Option.some.inj (hbyte 2 (by decide))
  have hl2capLen : uint16OfLe (mem 5) (mem 6) = payload.length.toUInt8.toUInt16 := by
    rw [Option.some.inj (hbyte 5 (by decide)), Option.some.inj (hbyte 6 (by decide)), uint16OfLe_split]
  have hchannel : uint16OfLe (mem 7) (mem 8) = cid := by
    rw [Option.some.inj (hbyte 7 (by decide)), Option.some.inj (hbyte 8 (by decide)), uint16OfLe_split]
  obtain ⟨hpbf, hbf, hupper⟩ := aclFlags _ (upper_lt ch)
  have hfits : 9 + payload.length.toUInt8.toUInt16.toNat ≤ (sentPacket ch cid payload).length := by
    rw [toNat_length_toUInt8 hlen]
    exact Nat.le_of_eq hlength.symm
  simp only [aclFrame]
  rw [if_pos ⟨htype, by omega, by rw [hhigh, hpbf], by rw [hhigh, hbf], hl2capLen ▸ hfits⟩,
    hhigh, hlow, hupper, handle_split hch, hchannel, hl2capLen]
  rfl

/-- A packet that is received comes to the receiver of frames with its payload. -/
theorem reachesL2cap_sentPacket (hch : ch < 0x1000) (hlen : payload.length ≤ 247)
    (hmem : ReceivedIn (sentPacket ch cid payload) mem) :
    ReachesL2cap mem (sentPacket ch cid payload).length ch cid payload := by
  refine ⟨_, _, toNat_length_toUInt8 hlen, fun i hi => ?_, rfl, fun receive =>
    exec_handleHciDataWith_of_aclFrame receive (aclFrame_sentPacket hch hlen hmem)⟩
  have hlength : (sentPacket ch cid payload).length = _ := length_sentPacket hlen
  have hbyte : some (mem (9 + i)) = (sentPacket ch cid payload)[9 + i]? := by
    rw [hmem (9 + i) (by omega), List.getElem?_eq_getElem]
  simp only [sentPacket_eq hlen, streamU16ToLe, List.cons_append, List.nil_append, Nat.add_comm 9 i,
    List.getElem?_cons_succ, List.getElem?_eq_getElem hi] at hbyte
  rw [Nat.add_comm i 9] at hbyte
  exact Option.some.inj hbyte

end Packet

/-! ## The round trip -/

/-- For every handle below `0x1000`, every channel and every payload of at most 247 bytes, the one
packet that `sendAclL2capPacket` hands to its callback gets, when it is received, to
`handleL2capData` with this handle, this channel and this payload. -/
theorem sendAclL2capPacket_received (ch cid : UInt16) (payload : List UInt8) (hch : ch < 0x1000)
    (hlen : payload.length ≤ 247) (w : TwWorld) :
    ∃ packets, exec (sendAclL2capPacket ch cid payload) w = ((), w.noteSent packets) ∧
      (packets.length =
        if w.gRuntime.packetSender ∧ w.gRuntime.hciInterface.hciSendPacket then 1 else 0) ∧
      ∀ packet ∈ packets, ∀ mem, ReceivedIn packet mem →
        ReachesL2cap mem packet.length ch cid payload := by
  have hfits : payload.length ≤ 255 := by omega
  refine ⟨_, exec_sendAclL2capPacket ch cid hfits w, ?_, fun packet hpacket mem hmem => ?_⟩
  · split <;> rfl
  · split at hpacket
    · obtain rfl := List.mem_singleton.mp hpacket
      exact reachesL2cap_sentPacket hch hlen hmem
    · cases hpacket

/-- After the initialisation a report that sets the lights is sent as one packet. -/
theorem sendAclL2capPacket_received_setLeds :
    let w := ({} : TwWorld).afterInit ⟨true⟩
    let payload : List UInt8 := [0xA2, 0x11, 0x10]
    (0x0FFF : UInt16) < 0x1000 ∧ payload.length ≤ 247 ∧
      ∃ packets, exec (sendAclL2capPacket 0x0FFF 0x0041 payload) w = ((), w.noteSent packets) ∧
        (packets.length =
          if w.gRuntime.packetSender ∧ w.gRuntime.hciInterface.hciSendPacket then 1 else 0) ∧
        ∀ packet ∈ packets, ∀ mem, ReceivedIn packet mem →
          ReachesL2cap mem packet.length 0x0FFF 0x0041 payload :=
  ⟨by decide, by decide, sendAclL2capPacket_received 0x0FFF 0x0041 _ (by decide) (by decide) _⟩

end Esp32Wiimote.Bluetooth
