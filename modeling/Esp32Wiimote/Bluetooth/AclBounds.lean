import Esp32Wiimote.Bluetooth.OutputReport
import Esp32Wiimote.Bluetooth.PacketBuffer
import Mathlib.Data.List.GetD

/-!
# ACL data is handled within bounds

The lengths of an ACL packet are nested, and each handler asks for another minimum of its own.
The handling of a packet is followed as a sequence of single accesses: the bytes of the received
packet that are read, and the offsets that are written in the slot of a report, in a payload
buffer and in the buffer of the packet sender. The writes are those that the copy, the payload
builder and the encoders leave in the record of a memory without bounds. Whatever is received and
in whatever state, all of them lie inside.
-/

namespace Esp32Wiimote.Bluetooth

open StateProgram LoggedMemory

/-! ## Writing to memory -/

/-- The memory around an object nothing was written to yet. -/
def unwritten : Memory UInt8 := ⟨fun _ => 0, []⟩

/-- The memory around the data of a report slot. -/
def TinyWiimoteData.memory (slot : TinyWiimoteData) : Memory UInt8 :=
  ⟨fun i => slot.data.toList.getD i.toNat 0, []⟩

/-- The slot of a report, as it is in the ring. -/
def WiimoteReports.slot (reports : WiimoteReports) (index : Fin receivedDataMaxNum) : TinyWiimoteData :=
  reports.reportBuffer.get index

/-- The copy of `put` to the data of its slot. -/
def WiimoteReports.putIn (target : Memory UInt8) (data : BytePtr) (len : UInt8) : Memory UInt8 :=
  target.storeAll 0 ((List.range (boundedLen len)).map data.at)

/-- The bytes of a payload, appended to a `payload_` one by one. -/
def appendPayload (payload_ : Memory UInt8) (bytes : List UInt8) : BufferWriter :=
  bytes.foldl BufferWriter.append { buffer := payload_, capacity := payloadSize }

/-- The packet around a payload is built from the buffer the payload was appended to. -/
def aclPacketIn (sendCallback : Bool) (ch cid : UInt16) (payload_ : BufferWriter) :
    Option UInt16 × Memory UInt8 :=
  sendAclL2capPacketIn sendCallback ch cid (fun i => payload_.buffer.cell i)
    payload_.length.toUInt16 unwritten

/-- The slot holds what the copy leaves in its memory. -/
theorem WiimoteReports.load_putIn (reports : WiimoteReports) (number : UInt8) (data : BytePtr)
    (len : UInt8) (hroom : reports.itemCount.val < receivedDataMaxNum) :
    (putIn (reports.slot reports.writeIndex).memory data len).load receivedDataMaxLen =
      ((reports.put number data len).slot reports.writeIndex).data.toList := by
  have hslot : (reports.put number data len).slot reports.writeIndex =
      { number
        data := .ofFn fun i =>
          if i.val < boundedLen len then data.at i else (reports.slot reports.writeIndex).data.get i
        len := (boundedLen len).toUInt8 } := by
    rw [slot, put, dif_pos hroom]
    exact Vector.getElem_set_self reports.writeIndex.isLt
  rw [hslot]
  apply List.ext_getElem
  · rw [Memory.length_load, Vector.length_toList]
  · intro i hi _
    rw [Memory.length_load] at hi
    simp only [Memory.load, List.getElem_map, List.getElem_range, Vector.getElem_toList,
      Vector.getElem_ofFn, putIn]
    by_cases hcopied : i < boundedLen len
    · have hcell := (reports.slot reports.writeIndex).memory.cell_storeAll_inside 0
        ((List.range (boundedLen len)).map data.at) i (by simpa using hcopied)
      rw [Int.zero_add] at hcell
      rw [if_pos hcopied, hcell, List.getElem_map, List.getElem_range]
    · rw [if_neg hcopied, Memory.cell_storeAll_outside _ _ _ (by simp; omega)]
      have hkept : i < (reports.slot reports.writeIndex).data.toList.length :=
        Nat.lt_of_lt_of_eq hi Vector.length_toList.symm
      change (reports.slot reports.writeIndex).data.toList.getD i 0 = _
      rw [List.getD_eq_getElem _ _ hkept, Vector.getElem_toList]
      rfl

/-- Only bytes of the slot are written. -/
theorem WiimoteReports.storesInside_putIn (target : Memory UInt8) (data : BytePtr) (len : UInt8) :
    StoresInside receivedDataMaxLen target (putIn target data len) := by
  have hslot : boundedLen len ≤ receivedDataMaxLen := Nat.min_le_right _ _
  refine Memory.storesInside_storeAll _ _ _ (Int.le_refl 0) ?_
  rw [List.length_map, List.length_range]
  omega

section AppendPayload

variable {capacity : Nat} {before : Memory UInt8}

/-- Appending byte by byte, in the buffer and in the packet model. -/
theorem BufferWriter.Holds.foldl_append {pb : BufferWriter} {spec : PayloadBuilder capacity}
    (h : pb.Holds before spec) (bytes : List UInt8) :
    (bytes.foldl BufferWriter.append pb).Holds before (bytes.foldl PayloadBuilder.append spec) := by
  induction bytes generalizing pb spec with
  | nil => exact h
  | cons byte rest ih => exact ih (h.append byte)

/-- Bytes that fit are all appended. -/
theorem PayloadBuilder.bytes_foldl_append (spec : PayloadBuilder capacity) (bytes : List UInt8)
    (hfits : spec.bytes.length + bytes.length ≤ capacity) :
    (bytes.foldl PayloadBuilder.append spec).bytes = spec.bytes ++ bytes := by
  induction bytes generalizing spec with
  | nil => exact (List.append_nil _).symm
  | cons byte rest ih =>
    rw [List.length_cons] at hfits
    have happend : (spec.append byte).bytes = spec.bytes ++ [byte] := by
      rw [bytes_append, List.take_of_length_le]
      rw [List.length_append, List.length_singleton]
      omega
    rw [List.foldl_cons, ih _ (by rw [happend, List.length_append, List.length_singleton]; omega),
      happend, List.append_assoc]
    rfl

variable (ch cid : UInt16) (pb : PayloadBuilder payloadSize)

/-- The buffer holds the payload. -/
theorem holds_appendPayload (payload_ : Memory UInt8) :
    (appendPayload payload_ pb.bytes).Holds payload_ pb := by
  have hbytes : pb.bytes.foldl PayloadBuilder.append .empty = pb := by
    cases pb with
    | mk bytes length_le =>
      have h := PayloadBuilder.bytes_foldl_append (.empty : PayloadBuilder payloadSize) bytes
        ((Nat.zero_add bytes.length).symm ▸ length_le)
      generalize bytes.foldl PayloadBuilder.append (.empty : PayloadBuilder payloadSize) = built at h
      cases built with
      | mk _ _ =>
        cases h
        rfl
  have hholds := (BufferWriter.holds_empty payload_ payloadSize).foldl_append pb.bytes
  rwa [hbytes] at hholds

/-- The length of a payload is far from overflowing its 16 bits. -/
theorem toNat_length_appendPayload (payload_ : Memory UInt8) :
    (appendPayload payload_ pb.bytes).length.toUInt16.toNat = pb.bytes.length := by
  have hlen := pb.length_le
  simp only [payloadSize] at hlen
  rw [BufferWriter.length, (holds_appendPayload pb payload_).position_eq, Nat.toUInt16,
    UInt16.toNat_ofNat']
  omega

/-- The packet that is handed to the controller is the one in the memory of the sender. -/
theorem sendAclL2capPacket_eq : sendAclL2capPacket ch cid pb.bytes = (do
    let r ← getRuntime
    let packet := aclPacketIn r.packetSender ch cid (appendPayload unwritten pb.bytes)
    match packet.1 with
    | some packetLen => sendHciPacketRaw (packet.2.load packetLen.toNat)
    | none => pure ()) := by
  have hlen := toNat_length_appendPayload pb unwritten
  have hcap := pb.length_le
  have hbytes := (holds_appendPayload pb unwritten).bytes_eq
  simp only [payloadSize] at hcap
  have hshort : (appendPayload unwritten pb.bytes).length.toUInt16 ≤ 255 := by
    rw [UInt16.le_iff_toNat_le, hlen]
    exact Nat.le_trans hcap (by decide)
  have hbyte : (appendPayload unwritten pb.bytes).length.toUInt16.toUInt8 = pb.bytes.length.toUInt8 := by
    rw [← UInt8.toNat_inj, UInt16.toNat_toUInt8, hlen, toNat_payloadLength]
    omega
  have hpayload : payloadBytes (fun i => (appendPayload unwritten pb.bytes).buffer.cell i)
      pb.bytes.length = pb.bytes := by
    refine Eq.trans ?_ hbytes
    rw [BufferWriter.bytes, BufferWriter.length, (holds_appendPayload pb unwritten).position_eq]
    rfl
  rw [sendAclL2capPacket]
  refine bind_congr fun r => ?_
  dsimp only [aclPacketIn]
  cases hsender : r.packetSender with
  | false => simp [sendAclL2capPacketIn_refused (Or.inl rfl)]
  | true =>
    rw [sendAclL2capPacketIn_accepted hshort, hbyte]
    dsimp only
    rw [toNat_packetLen, load_makeAclL2capPacketIn, toNat_payloadLength, hpayload,
      if_pos ⟨rfl, by omega⟩]

end AppendPayload

/-! ## Accesses -/

/-- An access by the offset in what it touches. -/
inductive Access where
  /-- A byte of the received packet is read. -/
  | received (offset : Nat)
  /-- A byte of `data` of this report slot is written. -/
  | reportSlot (slot : Fin receivedDataMaxNum) (offset : ℤ)
  /-- A byte of a `payload_` is written. -/
  | payload (offset : ℤ)
  /-- A byte of `tmpQueueData_` is written. -/
  | tmpQueueData (offset : ℤ)

/-- The access lies inside, where `len` bytes were received. -/
def Access.InBounds (len : Nat) : Access → Prop
  | .received offset => offset < len
  | .reportSlot _ offset => 0 ≤ offset ∧ offset < receivedDataMaxLen
  | .payload offset => 0 ≤ offset ∧ offset < payloadSize
  | .tmpQueueData offset => 0 ≤ offset ∧ offset < tmpQueueDataSize

/-- The byte of the received packet the access reads. -/
def Access.read? : Access → Option Nat
  | .received offset => some offset
  | _ => none

/-- The stores of building a payload, and of the packet around it. -/
def sendAccesses (sendCallback : Bool) (ch cid : UInt16) (pb : PayloadBuilder payloadSize) :
    List Access :=
  let payload_ := appendPayload unwritten pb.bytes
  payload_.buffer.stores.map .payload ++
    (aclPacketIn sendCallback ch cid payload_).2.stores.map .tmpQueueData

/-- The stores of copying the first bytes of a report into its slot, which are read before. -/
def putAccesses (reports : WiimoteReports) (data : BytePtr) (len : UInt8) : List Access :=
  ((List.range (WiimoteReports.boundedLen len)).map (data.off + ·)).map .received ++
    (WiimoteReports.putIn (reports.slot reports.writeIndex).memory data len).stores.map
      (.reportSlot reports.writeIndex)

/-- The handling of ACL data from one world to another, with its accesses. The queue of reports
changes by queueing a report only, and packets are sent by the packet sender only. -/
inductive AclTrace : TwWorld → List Access → TwWorld → Prop
  | refl (w : TwWorld) : AclTrace w [] w
  | trans {r s t : TwWorld} {first second : List Access} :
    AclTrace r first s → AclTrace s second t → AclTrace r (first ++ second) t
  | read (w : TwWorld) (offsets : List Nat) :
    AclTrace w (offsets.map .received) (w.noteReads offsets)
  | fields (w : TwWorld) (r : TinyWiimoteRuntime)
    (h : r.wiimoteReports = w.gRuntime.wiimoteReports) : AclTrace w [] (w.mapRuntime fun _ => r)
  | send (w : TwWorld) (ch cid : UInt16) (pb : PayloadBuilder payloadSize) :
    AclTrace w (sendAccesses w.gRuntime.packetSender ch cid pb)
      (exec (sendAclL2capPacket ch cid pb.bytes) w).2
  | put (w : TwWorld) (number : UInt8) (data : BytePtr) (len : UInt8)
    (hroom : w.gRuntime.wiimoteReports.itemCount.val < receivedDataMaxNum) :
    AclTrace w (putAccesses w.gRuntime.wiimoteReports data len) (exec (putReport number data len) w).2

/-- Sending a packet reads nothing of what was received. -/
theorem reads_sendAclL2capPacket (ch cid : UInt16) (payload : List UInt8) (w : TwWorld) :
    (exec (sendAclL2capPacket ch cid payload) w).2.reads = w.reads := by
  simp only [sendAclL2capPacket, exec_getRuntime_bind, exec_ite, exec_sendHciPacketRaw, exec_pure]
  split <;> rfl

/-- Where there is room, the first bytes of a report are read and put into the queue. -/
theorem exec_putReport {w : TwWorld} (number : UInt8) (data : BytePtr) (len : UInt8)
    (hroom : w.gRuntime.wiimoteReports.itemCount.val < receivedDataMaxNum) :
    exec (putReport number data len) w =
      ((), (w.noteReads ((List.range (WiimoteReports.boundedLen len)).map (data.off + ·))).mapRuntime
        fun r => { r with wiimoteReports := r.wiimoteReports.put number data len }) := by
  simp only [putReport, exec_getRuntime_bind, hroom, if_true, exec_then, exec_readBytes,
    exec_modifyRuntime]

/-- The accesses of a trace name every byte that was read. -/
theorem AclTrace.reads {w t : TwWorld} {log : List Access} (h : AclTrace w log t) :
    t.reads = w.reads ++ log.filterMap Access.read? := by
  have hreceived : ∀ offsets : List Nat, (offsets.map Access.received).filterMap Access.read? = offsets := by
    intro offsets
    simp [List.filterMap_map, Function.comp_def, Access.read?]
  induction h with
  | refl w => simp
  | trans _ _ ihFirst ihSecond =>
    rw [ihSecond, ihFirst, List.filterMap_append, List.append_assoc]
  | read w offsets => rw [hreceived, TwWorld.reads_noteReads]
  | fields w r h => simp
  | send w ch cid pb =>
    rw [reads_sendAclL2capPacket]
    simp [sendAccesses, List.filterMap_map, Function.comp_def, Access.read?]
  | put w number data len hroom =>
    rw [exec_putReport number data len hroom, putAccesses, List.filterMap_append, hreceived]
    simp [List.filterMap_map, Function.comp_def, Access.read?]

/-! ## Bounded programs -/

/-- The world was changed by accesses inside, where `len` bytes were received. -/
def Bounded (len : Nat) (w t : TwWorld) : Prop :=
  ∃ log, AclTrace w log t ∧ ∀ access ∈ log, access.InBounds len

section Bounded

variable {n : Nat}

instance : IsPreorder TwWorld (Bounded n) where
  refl w := ⟨[], .refl w, by simp⟩
  trans := by
    rintro r s t ⟨first, hfirst, hin⟩ ⟨second, hsecond, hin'⟩
    refine ⟨first ++ second, hfirst.trans hsecond, fun access hmem => ?_⟩
    rcases List.mem_append.mp hmem with hmem | hmem
    · exact hin access hmem
    · exact hin' access hmem

/-- What is stored to a memory without a record lies inside, if all new stores do. -/
theorem stores_inside {size : ℕ} {before after : Memory UInt8} (hbefore : before.stores = [])
    (h : StoresInside size before after) : ∀ i ∈ after.stores, 0 ≤ i ∧ i < size := by
  obtain ⟨added, hadded, hin⟩ := h
  rw [hadded, hbefore]
  exact hin

/-- The payload fits its buffer, and the packet around it fits that of the sender. -/
theorem sendAccesses_inBounds (sendCallback : Bool) (ch cid : UInt16)
    (pb : PayloadBuilder payloadSize) :
    ∀ access ∈ sendAccesses sendCallback ch cid pb, access.InBounds n := by
  have hfits : (appendPayload unwritten pb.bytes).length.toUInt16 ≤ 247 := by
    rw [UInt16.le_iff_toNat_le, toNat_length_appendPayload]
    exact Nat.le_trans pb.length_le (by decide)
  intro access hmem
  rcases List.mem_append.mp hmem with hmem | hmem
  · obtain ⟨i, hi, rfl⟩ := List.mem_map.mp hmem
    exact stores_inside rfl (holds_appendPayload pb unwritten).stores i hi
  · obtain ⟨i, hi, rfl⟩ := List.mem_map.mp hmem
    exact stores_inside rfl (storesInside_sendAclL2capPacketIn hfits) i hi

instance : LinkRelation (Bounded n) where
  sendPacket ch cid pb := ⟨fun w => ⟨_, .send w ch cid pb, sendAccesses_inBounds _ ch cid pb⟩⟩
  setFields w r _ hlink := ⟨[], .fields w r (congrArg LinkRuntime.wiimoteReports hlink), by simp⟩
  opened w _ table _ := ⟨[], .fields w { w.gRuntime with l2capConnections := table } rfl, by simp⟩
  detected w _ := ⟨[], .fields w w.gRuntime.detected rfl, by simp⟩

/-- Reads inside the received bytes are bounded. -/
theorem bounded_noteReads {w : TwWorld} {offsets : List Nat} (h : ∀ i ∈ offsets, i < n) :
    Bounded n w (w.noteReads offsets) := by
  refine ⟨_, .read w offsets, fun access hmem => ?_⟩
  obtain ⟨i, hi, rfl⟩ := List.mem_map.mp hmem
  exact h i hi

/-- A byte is read at an offset that was received. -/
theorem bounded_readByte {p : BytePtr} {i : Nat} (h : p.off + i < n) :
    Within (Bounded n) (readByte p i) :=
  ⟨fun _ => bounded_noteReads (by simpa using h)⟩

/-- So are both bytes of a field. -/
theorem bounded_readUInt16Le {p : BytePtr} (h : p.off + 1 < n) :
    Within (Bounded n) (readUInt16Le p) := by
  refine ⟨fun w => ?_⟩
  rw [exec_readUInt16Le]
  apply bounded_noteReads
  simp only [List.forall_mem_cons]
  exact ⟨h, by omega, by simp⟩

/-- So are the bytes of a stretch that was received. -/
theorem bounded_readBytes {p : BytePtr} {count : Nat} (h : p.off + count ≤ n) :
    Within (Bounded n) (readBytes p count) := by
  refine ⟨fun w => ?_⟩
  rw [exec_readBytes]
  apply bounded_noteReads
  intro i hi
  obtain ⟨j, hj, rfl⟩ := List.mem_map.mp hi
  have hj' := List.mem_range.mp hj
  omega

/-- No more is copied into a slot than it holds, and no more than was received. -/
theorem bounded_putReport (number : UInt8) {data : BytePtr} {len : UInt8}
    (h : data.off + len.toNat ≤ n) : Within (Bounded n) (putReport number data len) := by
  refine ⟨fun w => ?_⟩
  by_cases hroom : w.gRuntime.wiimoteReports.itemCount.val < receivedDataMaxNum
  · refine ⟨_, .put w number data len hroom, fun access hmem => ?_⟩
    have hlen : WiimoteReports.boundedLen len ≤ len.toNat := Nat.min_le_left _ _
    rcases List.mem_append.mp hmem with hmem | hmem
    · obtain ⟨i, hi, rfl⟩ := List.mem_map.mp hmem
      obtain ⟨j, hj, rfl⟩ := List.mem_map.mp hi
      have hj' := List.mem_range.mp hj
      simp only [Access.InBounds]
      omega
    · obtain ⟨i, hi, rfl⟩ := List.mem_map.mp hmem
      exact stores_inside rfl (WiimoteReports.storesInside_putIn _ data len) i hi
  · simp only [putReport, exec_getRuntime_bind, hroom, if_false, exec_pure]
    exact refl_of _ w

end Bounded

/-! ## Handlers -/

/-- What a test of a length that was passed says. -/
theorem toNat_le_of_not_lt {len bound : UInt16} (h : ¬len < bound) : bound.toNat ≤ len.toNat :=
  UInt16.le_iff_toNat_le.mp (UInt16.not_lt.mp h)

section Handlers

variable {n : Nat} {data : BytePtr} {len : UInt16} (hin : data.off + len.toNat ≤ n)
include hin

/-- A connection response is read up to the twelve bytes that were asked for. -/
theorem bounded_handleConnectionResponse (ch : UInt16) :
    Within (Bounded n) (L2capSignaling.handleConnectionResponse ch data len) := by
  refine ⟨fun w => ?_⟩
  simp only [L2capSignaling.handleConnectionResponse, exec_getRuntime_bind, exec_ite, exec_pure,
    exec_readUInt16Le_bind, TwWorld.noteReads_noteReads]
  generalize hoffsets : [(data + 4).off + 1, (data + 4).off] ++ [(data + 8).off + 1, (data + 8).off] =
    offsets
  split
  · exact refl_of _ w
  next hlen =>
    have hmin : 12 ≤ len.toNat := toNat_le_of_not_lt fun h => hlen (.inl h)
    have hreads : Bounded n w (w.noteReads offsets) := by
      apply bounded_noteReads
      intro i hi
      simp only [← hoffsets, BytePtr.off_add, List.cons_append, List.nil_append, List.mem_cons,
        List.not_mem_nil, or_false] at hi
      omega
    split
    · exact hreads
    · exact trans_of _ hreads (aclEffect_openConnection ch _ (w.noteReads offsets))

/-- A configuration request is read up to the twelve bytes that were asked for. -/
theorem bounded_handleConfigurationRequest (ch : UInt16) :
    Within (Bounded n) (L2capSignaling.handleConfigurationRequest ch data len) := by
  refine aclEffect_getRuntime_bind fun r => Within.ite _ (fun _ => Within.pure _) fun hlen => ?_
  have hmin : 12 ≤ len.toNat := toNat_le_of_not_lt fun h => hlen (.inl h)
  refine Within.bind (bounded_readByte (by omega)) fun identifier => ?_
  refine Within.bind (bounded_readUInt16Le (by simp only [BytePtr.off_add]; omega)) fun dataLen => ?_
  refine Within.bind (bounded_readUInt16Le (by simp only [BytePtr.off_add]; omega)) fun flags => ?_
  refine Within.ite _ (fun _ => Within.pure _) fun _ => ?_
  refine Within.bind (bounded_readByte (by omega)) fun option => ?_
  refine Within.ite _ (fun _ => Within.pure _) fun _ => ?_
  refine Within.bind (bounded_readByte (by omega)) fun optionLength => ?_
  refine Within.ite _ (fun _ => Within.pure _) fun _ => ?_
  refine Within.bind (bounded_readUInt16Le (by simp only [BytePtr.off_add]; omega)) fun mtu => ?_
  exact aclEffect_answerConfigurationRequest ..

/-- The report number is logged only where it was received. -/
theorem bounded_logInputReport : Within (Bounded n) (logInputReport data len) := by
  refine Within.ite _ (fun hlen => ?_) fun _ => Within.pure _
  have hmin : 1 < len.toNat := UInt16.lt_iff_toNat_lt.mp hlen
  exact (bounded_readByte (by omega)).discard

/-- An acknowledgement is read up to its six bytes. -/
theorem bounded_readWriteAck : Within (Bounded n) (WiimoteExtensions.readWriteAck data len) := by
  refine Within.ite _ (fun _ => Within.pure _) fun hlen => ?_
  have hmin : 6 ≤ len.toNat := toNat_le_of_not_lt hlen
  refine Within.bind (bounded_readByte (by omega)) fun report => ?_
  refine Within.ite _ (fun _ => Within.pure _) fun _ => ?_
  refine Within.bind (bounded_readByte (by omega)) fun acknowledged => ?_
  refine Within.ite _ (fun _ => Within.pure _) fun _ => ?_
  exact Within.bind (bounded_readByte (by omega)) fun error => Within.pure _

/-- What follows an acknowledgement is bounded if the next access is. -/
theorem bounded_onWriteAck {next : TwM Unit} (hnext : Within (Bounded n) next) :
    Within (Bounded n) (do
      match ← WiimoteExtensions.readWriteAck data len with
      | none => pure ()
      | some error => if error = 0x00 then next else WiimoteExtensions.setState .init) := by
  refine Within.bind (bounded_readWriteAck hin) fun ack => ?_
  cases ack with
  | none => exact Within.pure _
  | some error => exact Within.ite _ (fun _ => hnext) fun _ => aclEffect_setState _

/-- The battery level is byte 7 of a status report. -/
theorem bounded_handleStatusReport (hmin : 8 ≤ len.toNat) (protocol : WiimoteProtocol) (ch : UInt16) :
    Within (Bounded n) (WiimoteExtensions.handleStatusReport protocol ch data) := by
  refine Within.bind (bounded_readByte (by omega)) fun rawBattery => ?_
  refine Within.bind (aclEffect_modifyWiimoteState fun _ => rfl) fun _ => ?_
  refine Within.bind (bounded_readByte (by omega)) fun flags =>
    Within.ite _ (fun _ => ?_) fun _ => ?_
  · exact Within.bind (aclEffect_writeMemory ..) fun _ => aclEffect_setState _
  · exact Within.bind (aclEffect_modifyWiimoteState fun _ => rfl) fun _ =>
      aclEffect_getRuntime_bind fun r => aclEffect_sendReport ..

/-- The identifier ends at byte 13. -/
theorem bounded_handleReadResponse (hmin : 13 ≤ len.toNat) (protocol : WiimoteProtocol) (ch : UInt16) :
    Within (Bounded n) (WiimoteExtensions.handleReadResponse protocol ch data) := by
  have haddress : Within (Bounded n) (WiimoteExtensions.memcmpEqual (data + 5) [0x00, 0xFA]) :=
    Within.bind (bounded_readBytes (show data.off + 5 + 2 ≤ n by omega)) fun _ => Within.pure _
  have hidentifier : Within (Bounded n)
      (WiimoteExtensions.memcmpEqual (data + 7) WiimoteExtensions.nunchukIdentifier) :=
    Within.bind (bounded_readBytes (show data.off + 7 + 6 ≤ n by omega)) fun _ => Within.pure _
  refine Within.bind haddress fun address => Within.ite _ (fun _ => ?_) fun _ => Within.pure _
  refine Within.bind ?_ fun _ => aclEffect_setState _
  refine Within.bind hidentifier fun identifier => Within.ite _ (fun _ => ?_) fun _ => Within.pure _
  exact Within.bind (aclEffect_modifyWiimoteState fun _ => rfl) fun _ =>
    aclEffect_getRuntime_bind fun r => aclEffect_sendReport ..

/-- Each phase of the handshake asks for the bytes that it reads. -/
theorem bounded_handleReport (ch : UInt16) :
    Within (Bounded n) (WiimoteExtensions.handleReport ch data len) := by
  refine aclEffect_getRuntime_bind fun r => Within.ite _ (fun _ => Within.pure _) fun hlen => ?_
  have hmin : 8 ≤ len.toNat := toNat_le_of_not_lt fun h => hlen (.inr h)
  cases r.wiimoteExtensions.controllerReportState with
  | init =>
    exact Within.bind (bounded_readByte (by omega)) fun report =>
      Within.ite _ (fun _ => bounded_handleStatusReport hin hmin ..) fun _ => Within.pure _
  | waitAckOutReport =>
    exact bounded_onWriteAck hin (Within.bind (aclEffect_writeMemory ..) fun _ => aclEffect_setState _)
  | waitReadControllerType =>
    exact bounded_onWriteAck hin (Within.bind (aclEffect_readMemory ..) fun _ => aclEffect_setState _)
  | waitReadResponse =>
    refine Within.ite _ (fun _ => Within.pure _) fun hlong => ?_
    have hmin' : 13 ≤ len.toNat := toNat_le_of_not_lt hlong
    exact Within.bind (bounded_readByte (by omega)) fun report =>
      Within.ite _ (fun _ => bounded_handleReadResponse hin hmin' ..) fun _ => Within.pure _

/-- The length given to the queue is cut to a byte, which makes it no longer. -/
theorem bounded_handleInputReport (ch : UInt16) :
    Within (Bounded n) (handleInputReport ch data len) := by
  have hcut : len.toUInt8.toNat ≤ len.toNat := by
    rw [UInt16.toNat_toUInt8]
    exact Nat.mod_le _ _
  refine Within.bind (bounded_logInputReport hin) fun _ => ?_
  refine Within.bind (aclEffect_detectWiimote ch) fun _ => ?_
  exact Within.bind (bounded_handleReport hin ch) fun _ => bounded_putReport 0 (by omega)

/-- Every kind of frame is handled within the data of the frame. -/
theorem bounded_handleL2capData (header : L2capFrameHeader) :
    Within (Bounded n) (handleL2capData header data len) := by
  refine Within.ite _ (fun _ => Within.pure _) fun hlen => ?_
  have hmin : len.toNat ≠ 0 := fun h => hlen (UInt16.toNat_inj.mp h)
  refine Within.bind (bounded_readByte (by omega)) fun code => ?_
  refine Within.ite _ (fun _ => ?_) fun _ => ?_
  · exact Within.ite _ (fun _ => Within.pure _) fun _ => bounded_handleConnectionResponse hin _
  refine Within.ite _ (fun _ => ?_) fun _ => ?_
  · exact Within.ite _ (fun _ => Within.pure _) fun _ => bounded_handleConfigurationRequest hin _
  refine Within.ite _ (fun _ => Within.pure _) fun _ => ?_
  refine Within.ite _ (fun _ => bounded_handleInputReport hin _) fun _ => ?_
  have hlog : min len.toNat formatHexMaxBytes ≤ len.toNat := Nat.min_le_left _ _
  exact bounded_readBytes (by omega)

end Handlers

/-- The declared L2CAP length was compared with what was received. -/
theorem bounded_handleAclData {n len : Nat} {data : BytePtr} (hin : data.off + len ≤ n) :
    Within (Bounded n) (handleAclData data len) := by
  refine Within.ite _ (fun _ => Within.pure _) fun hlen => ?_
  refine Within.bind (bounded_readByte (by omega)) fun high => ?_
  refine Within.bind (bounded_readByte (by omega)) fun low => ?_
  refine Within.ite _ (fun _ => Within.pure _) fun _ => ?_
  refine Within.bind (bounded_readUInt16Le (by simp only [BytePtr.off_add]; omega)) fun l2capLen => ?_
  refine Within.bind (bounded_readUInt16Le (by simp only [BytePtr.off_add]; omega)) fun channelId => ?_
  refine Within.ite _ (fun _ => Within.pure _) fun hfits => ?_
  apply bounded_handleL2capData
  simp only [BytePtr.off_add]
  omega

/-- A received packet of another type than an event. -/
theorem bounded_handleHciData {mem : Nat → UInt8} (len : Nat) (htype : mem 0 = h4Acl) :
    Within (Bounded len) (handleHciData (some mem) len) := by
  refine Within.ite _ (fun _ => Within.pure _) fun hlen => ⟨fun w => ?_⟩
  have hread : BytePtr.at { mem, len } 0 = h4Acl := by simpa [BytePtr.at] using htype
  rw [exec_readByte_bind, hread]
  refine trans_of _ (bounded_noteReads (by simp; omega)) (Within.rel ?_ _)
  have hacl : ¬h4Acl = h4Event := by decide
  simp only [hacl, if_true, if_false]
  refine Within.ite _ (fun htwo => ?_) fun _ => Within.pure _
  apply bounded_handleAclData
  simp only [BytePtr.off_add]
  omega

/-! ## The packet as a whole -/

/-- Whatever is received as an ACL packet, in whatever state: the packet is handled by accesses
inside the received bytes, the report slot, the payload buffer and the packet buffer; all bytes
it reads were received; and every output report is built inside its payload buffer, with the area
that is cleared at once and the data that are copied over it. -/
theorem acl_packet_in_bounds (w : TwWorld) (mem : Nat → UInt8) (len : Nat) (millis : UInt32)
    (logLevel : UInt8) (htype : mem 0 = h4Acl) :
    let e : TwEvent := ⟨.hci (some mem) len, millis, logLevel⟩
    (∃ log, AclTrace (w.enter e) log (w.step e) ∧ ∀ access ∈ log, access.InBounds len) ∧
      (∀ i ∈ (w.step e).reads, i < len) ∧
      ∀ (command : OutputCommand) (payload_ : Memory UInt8), command.isValid →
        StoresInside payloadSize payload_
          (command.build { buffer := payload_, capacity := payloadSize }).buffer := by
  intro e
  obtain ⟨log, htrace, hin⟩ := (bounded_handleHciData len htype).rel (w.enter e)
  have hreads : (w.step e).reads = [] ++ log.filterMap Access.read? := htrace.reads
  refine ⟨⟨log, htrace, hin⟩, fun i hi => ?_, fun command payload_ hvalid =>
    (command.holds_build payload_ hvalid).stores⟩
  rw [hreads] at hi
  obtain hi | hi := List.mem_append.mp hi
  · exact absurd hi List.not_mem_nil
  obtain ⟨access, hmem, hread⟩ := List.mem_filterMap.mp hi
  have haccess := hin access hmem
  cases access with
  | received offset =>
    cases hread
    exact haccess
  | reportSlot slot offset => cases hread
  | payload offset => cases hread
  | tmpQueueData offset => cases hread

/-- An input report that is longer than a slot. -/
def longReport : TwEvent :=
  ⟨.received ([0x02, 0x40, 0x20, 0x44, 0x00, 0x40, 0x00, 0x45, 0x00, 0xA1, 0x30] ++ List.replicate 62 0x00),
    30, 2⟩

/-- The report is cut where the slot ends. -/
theorem acl_packet_in_bounds_longReport :
    ∃ log, AclTrace ((({} : TwWorld).afterInit ⟨true⟩).enter longReport) log
      ((({} : TwWorld).afterInit ⟨true⟩).step longReport) ∧ ∀ access ∈ log, access.InBounds 73 :=
  (acl_packet_in_bounds (({} : TwWorld).afterInit ⟨true⟩) _ _ 30 2 rfl).1

end Esp32Wiimote.Bluetooth
