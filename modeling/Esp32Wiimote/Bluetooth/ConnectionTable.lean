import Esp32Wiimote.Bluetooth.LinkState
import Esp32Wiimote.Bluetooth.PacketFormat
import Mathlib.Data.List.Nodup
import Mathlib.Logic.Function.Basic

/-!
# The connection table as a map

What a lookup in the table should give is the channel of the last connection response that succeeded on
the handle. A response adds an entry, whether its handle has one or not, and a lookup finds the first:
for a second response on a handle the table and the map part.
-/

namespace Esp32Wiimote.Bluetooth

open StateProgram TransitionRun

/-! ## The table as it should be -/

/-- A function of `L2capSignaling`, or a clear of the table. -/
inductive TableAction where
  | call (c : SignalingCall)
  | clear

/-- The connection a response reports. -/
def SignalingCall.opens : SignalingCall → Option L2capConnection
  | .handleConnectionResponse ch data len =>
    if 12 ≤ len ∧ uint16OfLe (data.at 8) (data.at 9) = 0x0000 then
      some ⟨ch, uint16OfLe (data.at 4) (data.at 5)⟩
    else none
  | _ => none

/-- For each handle the channel of the last successful response on it since the last clear, and the
handles that have one. -/
structure LatestCids where
  cid : UInt16 → Option UInt16 := fun _ => none
  handles : List UInt16 := []

/-- The latest channels after an action. -/
def LatestCids.next (latest : LatestCids) : TableAction → LatestCids
  | .clear => {}
  | .call c =>
    match c.opens with
    | none => latest
    | some connection =>
      ⟨Function.update latest.cid connection.ch (some connection.remoteCID),
        latest.handles.insert connection.ch⟩

/-- A packet that carries a Configuration Response. -/
def IsConfigurationResponse (packet : List UInt8) : Prop :=
  u16At packet 7 = some l2capCidSignaling ∧ packet[9]? = some codeConfigurationResponse

/-- The packet answers a request with these bytes: it has the identifier and the MTU of the request,
and this source channel. -/
structure AnswersRequest (packet : List UInt8) (data : BytePtr) (cid : UInt16) : Prop where
  identifier : packet[10]? = some (data.at 1)
  sourceCid : u16At packet 13 = some cid
  mtu : u16At packet 21 = some (uint16OfLe (data.at 10) (data.at 11))

/-- The state of the runtime beside the map; what a step sends is in `sent`. -/
structure Tabled where
  world : TwWorld
  latest : LatestCids

namespace Tabled

/-- The table after an initialisation, and nothing recorded. -/
def start (w : TwWorld) (hciInterface : TwHciInterface) : Tabled := ⟨w.afterInit hciInterface, {}⟩

/-- The call, or the clearing of the table. -/
def run : TableAction → TwM Unit
  | .call c => c.run
  | .clear => modifyRuntime fun r => { r with l2capConnections := .empty }

/-- The record follows the world. -/
def step (s : Tabled) (a : TableAction) : Tabled where
  world := (exec (run a) { s.world with sent := [] }).2
  latest := s.latest.next a

/-- The table of the runtime. -/
abbrev table (s : Tabled) : L2capConnectionTable := s.world.gRuntime.l2capConnections

/-- A lookup gives the latest channel, and no handle is there twice. -/
structure IsMap (s : Tabled) : Prop where
  lookup : ∀ ch, s.table.getRemoteCid ch = s.latest.cid ch
  distinct : (s.table.list.map (·.ch)).Nodup

/-- Every Configuration Response the step sends answers the request it handles, with the latest channel
of its handle. -/
def AnswersLatest (s : Tabled) (a : TableAction) : Prop :=
  ∀ packet ∈ (s.step a).world.sent, IsConfigurationResponse packet →
    ∃ ch data len cid, a = .call (.handleConfigurationRequest ch data len) ∧ s.latest.cid ch = some cid ∧
      AnswersRequest packet data cid

/-- At most as many handles have a channel as the table has entries. -/
def Fits (s : Tabled) : Prop := s.latest.handles.length ≤ l2capConnectionListSize

instance (s : Tabled) : Decidable s.Fits := inferInstanceAs (Decidable (_ ≤ _))

/-- A response that succeeds is for a handle without an entry. With no room left, it repeats the channel
its handle has. -/
def IsFresh (s : Tabled) (a : TableAction) : Prop :=
  match a with
  | .clear => True
  | .call c => ∀ connection ∈ c.opens,
    s.table.getRemoteCid connection.ch =
      if s.table.list.length < l2capConnectionListSize then none else some connection.remoteCID

end Tabled

/-! ## Lookups -/

section Lookup

variable (table : L2capConnectionTable)

/-- A handle without an entry has no channel. -/
theorem getRemoteCid_eq_none_iff {ch : UInt16} :
    table.getRemoteCid ch = none ↔ ch ∉ table.list.map (·.ch) := by
  simp [L2capConnectionTable.getRemoteCid, L2capConnectionTable.findConnection]

/-- A connection is added at the end. -/
theorem list_of_addConnection {connection : L2capConnection} {table' : L2capConnectionTable}
    (hadd : table.addConnection connection = some table') : table'.list = table.list ++ [connection] := by
  rw [L2capConnectionTable.addConnection] at hadd
  split at hadd
  · cases hadd
    rfl
  · cases hadd

/-- The first entry of a handle stays the one that is found. -/
theorem getRemoteCid_addConnection {connection : L2capConnection} {table' : L2capConnectionTable}
    (hadd : table.addConnection connection = some table') (ch : UInt16) : table'.getRemoteCid ch =
      (table.getRemoteCid ch).or (if connection.ch = ch then some connection.remoteCID else none) := by
  simp only [L2capConnectionTable.getRemoteCid, L2capConnectionTable.findConnection,
    list_of_addConnection table hadd, List.find?_append, List.find?_singleton]
  cases table.list.find? (·.ch == ch) with
  | some found => rfl
  | none => by_cases hsame : connection.ch = ch <;> simp [hsame]

end Lookup

/-! ## What a function of the signaling does -/

/-- The table after a function that can signal. -/
def SignalingCall.nextTable (c : SignalingCall) (table : L2capConnectionTable) : L2capConnectionTable :=
  match c.opens with
  | none => table
  | some connection => (table.addConnection connection).getD table

/-- The function changes at most the table, and answers only with what the table has. -/
structure SignalingCall.Signaled (c : SignalingCall) (w t : TwWorld) : Prop where
  signaling : t.gRuntime.l2capSignaling = w.gRuntime.l2capSignaling
  table : t.gRuntime.l2capConnections = c.nextTable w.gRuntime.l2capConnections
  answers : Grown TwWorld.sent (fun packet => IsConfigurationResponse packet →
    ∃ ch data len cid, c = .handleConfigurationRequest ch data len ∧
      w.gRuntime.l2capConnections.getRemoteCid ch = some cid ∧ AnswersRequest packet data cid) w t

section Sending

variable {ch : UInt16} {pb : PayloadBuilder payloadSize}

/-- A configuration response has its code in front. -/
theorem code_of_isConfigurationResponse {control : AclPacketControl} {cid : UInt16}
    (h : IsConfigurationResponse (aclPacket ch control cid pb)) :
    pb.bytes[0]? = some codeConfigurationResponse :=
  (getElem?_aclPacket_payload ch control cid pb 0).symm.trans h.2

/-- The answer that is built has what the request has. -/
theorem answersRequest_configurationResponse (control : AclPacketControl) (data : BytePtr) (cid : UInt16) :
    AnswersRequest (aclPacket ch control l2capCidSignaling (L2capSignaling.configurationResponse (data.at 1) cid
      (uint16OfLe (data.at 10) (data.at 11)))) data cid := by
  have hbytes := bytes_configurationResponse (data.at 1) cid (uint16OfLe (data.at 10) (data.at 11))
  refine ⟨?_, ?_, ?_⟩
  · rw [getElem?_aclPacket_payload ch control l2capCidSignaling _ 1, hbytes]
    rfl
  · rw [u16At_aclPacket_payload ch control l2capCidSignaling _ 4, hbytes, and_255_toUInt8]
    exact congrArg some (uint16OfLe_split cid)
  · rw [u16At_aclPacket_payload ch control l2capCidSignaling _ 12, hbytes, and_255_toUInt8 (uint16OfLe _ _)]
    exact congrArg some (uint16OfLe_split _)

end Sending

section Signaling

variable {w : TwWorld}

/-- A function that only reads leaves the table as it is. -/
theorem signaled_noteReads {c : SignalingCall} (hopens : c.opens = none) (offsets : List Nat) :
    c.Signaled w (w.noteReads offsets) := by
  refine ⟨rfl, ?_, .of_eq rfl⟩
  rw [SignalingCall.nextTable, hopens]
  rfl

/-- A payload may be sent that is an answer only where it should be one. -/
theorem SignalingCall.Signaled.send {c : SignalingCall} {v : TwWorld} (h : c.Signaled w v) (ch : UInt16)
    (pb : PayloadBuilder payloadSize)
    (hanswers : ∀ control, IsConfigurationResponse (aclPacket ch control l2capCidSignaling pb) →
      ∃ ch' data len cid, c = .handleConfigurationRequest ch' data len ∧
        w.gRuntime.l2capConnections.getRemoteCid ch' = some cid ∧
        AnswersRequest (aclPacket ch control l2capCidSignaling pb) data cid) :
    c.Signaled w (exec (sendAclL2capPacket ch l2capCidSignaling pb.bytes) v).2 := by
  have hlen := pb.length_le
  simp only [payloadSize] at hlen
  rw [exec_sendAclL2capPacket ch l2capCidSignaling (by omega)]
  refine ⟨h.signaling, h.table, trans_of _ h.answers ⟨_, rfl, fun packet hpacket hresponse => ?_⟩⟩
  split at hpacket
  · obtain rfl := List.mem_singleton.mp hpacket
    exact hanswers _ hresponse
  · cases hpacket

/-- A connection request leaves the table as it is. -/
theorem signaled_sendConnectionRequest (ch psm cid : UInt16) :
    (SignalingCall.sendConnectionRequest ch psm cid).Signaled w
      (exec (L2capSignaling.sendConnectionRequest ch psm cid) w).2 := by
  have hreads := signaled_noteReads (w := w) (c := .sendConnectionRequest ch psm cid) rfl []
  rw [TwWorld.noteReads_nil] at hreads
  simp only [L2capSignaling.sendConnectionRequest, exec_getRuntime_bind, exec_ite, exec_pure]
  split
  · refine hreads.send ch _ fun control hresponse => ?_
    have hcode := code_of_isConfigurationResponse hresponse
    simp [PayloadBuilder.appendU16LE, PayloadBuilder.bytes_append, PayloadBuilder.empty, payloadSize,
      codeConnectionRequest, codeConfigurationResponse] at hcode
  · exact hreads

/-- A response that reports a connection enters it, and where there was room a request follows. -/
theorem exec_handleConnectionResponse (hw : w.gRuntime.canSignal) (ch : UInt16) (data : BytePtr)
    (len : UInt16) : ∃ offsets, exec (L2capSignaling.handleConnectionResponse ch data len) w =
      match (SignalingCall.handleConnectionResponse ch data len).opens with
      | none => ((), w.noteReads offsets)
      | some connection =>
        match w.gRuntime.l2capConnections.addConnection connection with
        | none => ((), w.noteReads offsets)
        | some table =>
          exec (sendAclL2capPacket ch l2capCidSignaling
              (L2capSignaling.configurationRequest connection.remoteCID).bytes)
            ((w.noteReads offsets).mapRuntime fun r => { r with l2capConnections := table }) := by
  have hwired : (w.gRuntime.l2capSignaling.connections && w.gRuntime.l2capSignaling.sender) = true := hw
  simp only [L2capSignaling.handleConnectionResponse, SignalingCall.opens, exec_getRuntime_bind, hwired,
    Bool.not_true, Bool.false_eq_true, or_false, exec_ite, exec_pure, exec_readUInt16Le_bind, BytePtr.at_add,
    TwWorld.noteReads_noteReads, ← UInt16.not_lt]
  by_cases hlen : len < 12
  · exact ⟨[], by simp [hlen]⟩
  by_cases hresult : uint16OfLe (data.at 8) (data.at 9) = 0x0000
  · simp only [hlen, not_false_eq_true, hresult, and_self, if_true, if_false, ne_eq, not_true_eq_false]
    cases w.gRuntime.l2capConnections.addConnection ⟨ch, uint16OfLe (data.at 4) (data.at 5)⟩ with
    | none => exact ⟨_, rfl⟩
    | some table => exact ⟨_, rfl⟩
  · simp only [hlen, hresult, and_false, if_true, if_false, ne_eq, not_false_eq_true]
    exact ⟨_, rfl⟩

/-- A connection response adds its channel and asks for a configuration. -/
theorem signaled_handleConnectionResponse (hw : w.gRuntime.canSignal) (ch : UInt16) (data : BytePtr)
    (len : UInt16) : (SignalingCall.handleConnectionResponse ch data len).Signaled w
      (exec (L2capSignaling.handleConnectionResponse ch data len) w).2 := by
  obtain ⟨offsets, hexec⟩ := exec_handleConnectionResponse hw ch data len
  cases hopens : (SignalingCall.handleConnectionResponse ch data len).opens with
  | none =>
    simp only [hopens] at hexec
    rw [hexec]
    exact signaled_noteReads hopens offsets
  | some connection =>
    have hnext : (SignalingCall.handleConnectionResponse ch data len).nextTable w.gRuntime.l2capConnections =
        (w.gRuntime.l2capConnections.addConnection connection).getD w.gRuntime.l2capConnections := by
      rw [SignalingCall.nextTable, hopens]
    cases hadd : w.gRuntime.l2capConnections.addConnection connection with
    | none =>
      simp only [hopens, hadd] at hexec
      rw [hadd] at hnext
      rw [hexec]
      exact ⟨rfl, hnext.symm, .of_eq rfl⟩
    | some table =>
      simp only [hopens, hadd] at hexec
      rw [hadd] at hnext
      rw [hexec]
      have hentered : (SignalingCall.handleConnectionResponse ch data len).Signaled w
          ((w.noteReads offsets).mapRuntime fun r => { r with l2capConnections := table }) :=
        ⟨rfl, hnext.symm, .of_eq rfl⟩
      refine hentered.send ch _ fun control hresponse => ?_
      have hcode := code_of_isConfigurationResponse hresponse
      simp [bytes_configurationRequest, codeConfigurationRequest, codeConfigurationResponse] at hcode

/-- The answer to a request is sent after reads, or there is none. -/
theorem exec_handleConfigurationRequest (hw : w.gRuntime.canSignal) (ch : UInt16) (data : BytePtr)
    (len : UInt16) : ∃ offsets,
      exec (L2capSignaling.handleConfigurationRequest ch data len) w = ((), w.noteReads offsets) ∨
      ∃ cid, w.gRuntime.l2capConnections.getRemoteCid ch = some cid ∧
        exec (L2capSignaling.handleConfigurationRequest ch data len) w =
          exec (sendAclL2capPacket ch l2capCidSignaling (L2capSignaling.configurationResponse (data.at 1) cid
            (uint16OfLe (data.at 10) (data.at 11))).bytes) (w.noteReads offsets) := by
  have hwired : (w.gRuntime.l2capSignaling.connections && w.gRuntime.l2capSignaling.sender) = true := hw
  simp only [L2capSignaling.handleConfigurationRequest, L2capSignaling.answerConfigurationRequest,
    exec_getRuntime_bind, hwired, Bool.not_true, Bool.false_eq_true, or_false, exec_ite, exec_pure,
    exec_readByte_bind, exec_readUInt16Le_bind, BytePtr.at_add, TwWorld.noteReads_noteReads,
    TwWorld.gRuntime_noteReads]
  split
  · exact ⟨[], .inl (by rw [TwWorld.noteReads_nil])⟩
  split
  · exact ⟨_, .inl rfl⟩
  split
  · exact ⟨_, .inl rfl⟩
  split
  · exact ⟨_, .inl rfl⟩
  cases w.gRuntime.l2capConnections.getRemoteCid ch with
  | none => exact ⟨_, .inl rfl⟩
  | some cid => exact ⟨_, .inr ⟨cid, rfl, rfl⟩⟩

/-- A configuration request is answered with the channel of the table. -/
theorem signaled_handleConfigurationRequest (hw : w.gRuntime.canSignal) (ch : UInt16) (data : BytePtr)
    (len : UInt16) : (SignalingCall.handleConfigurationRequest ch data len).Signaled w
      (exec (L2capSignaling.handleConfigurationRequest ch data len) w).2 := by
  obtain ⟨offsets, hexec | ⟨cid, hcid, hexec⟩⟩ := exec_handleConfigurationRequest hw ch data len
  · rw [hexec]
    exact signaled_noteReads rfl offsets
  · rw [hexec]
    exact (signaled_noteReads rfl offsets).send ch _ fun control _ =>
      ⟨ch, data, len, cid, rfl, hcid, answersRequest_configurationResponse control data cid⟩

/-- Every signaling call does what it is said to. -/
theorem SignalingCall.signaled (hw : w.gRuntime.canSignal) (c : SignalingCall) :
    c.Signaled w (exec c.run w).2 := by
  cases c with
  | sendConnectionRequest ch psm cid => exact signaled_sendConnectionRequest ch psm cid
  | handleConnectionResponse ch data len => exact signaled_handleConnectionResponse hw ch data len
  | handleConfigurationRequest ch data len => exact signaled_handleConfigurationRequest hw ch data len
  | handleConfigurationResponse data len =>
    have hreads := signaled_noteReads (w := w) (c := .handleConfigurationResponse data len) rfl []
    rwa [TwWorld.noteReads_nil] at hreads

end Signaling

/-! ## Steps -/

namespace Tabled

variable {s : Tabled} {a : TableAction}

/-- The table after a call is read off the call. -/
theorem table_step_call (hs : s.world.gRuntime.canSignal) (c : SignalingCall) :
    (s.step (.call c)).table = c.nextTable s.table :=
  (c.signaled (w := { s.world with sent := [] }) hs).table

/-- Nothing here unwires the signaling. -/
theorem canSignal_step (hs : s.world.gRuntime.canSignal) (a : TableAction) :
    (s.step a).world.gRuntime.canSignal := by
  cases a with
  | clear => exact hs
  | call c =>
    have hsame := (c.signaled (w := { s.world with sent := [] }) hs).signaling
    simp only [step, run, TinyWiimoteRuntime.canSignal, hsame]
    exact hs

/-- What is answered is what the table has. -/
theorem answersLatest_of_isMap (hs : s.world.gRuntime.canSignal) (hmap : s.IsMap) (a : TableAction) :
    s.AnswersLatest a := by
  cases a with
  | clear => exact fun packet hpacket => absurd hpacket List.not_mem_nil
  | call c =>
    have hanswers := (c.signaled (w := { s.world with sent := [] }) hs).answers
    intro packet hpacket hresponse
    obtain ⟨ch, data, len, cid, rfl, hcid, hanswer⟩ :=
      hanswers.forall_mem (fun _ hnone => absurd hnone List.not_mem_nil) packet hpacket hresponse
    exact ⟨ch, data, len, cid, rfl, (hmap.lookup ch).symm.trans hcid, hanswer⟩

section Entry

variable {t : Tabled} {connection : L2capConnection}

/-- With room a response keeps the table a map exactly when its handle has no entry. -/
theorem isMap_iff_of_room {table : L2capConnectionTable} (hmap : s.IsMap)
    (hadd : s.table.addConnection connection = some table) (htable : t.table = table)
    (hcid : t.latest.cid = Function.update s.latest.cid connection.ch (some connection.remoteCID)) :
    t.IsMap ↔ s.table.getRemoteCid connection.ch = none := by
  have hhandles : t.table.list.map (·.ch) = s.table.list.map (·.ch) ++ [connection.ch] := by
    rw [htable, list_of_addConnection _ hadd, List.map_append, List.map_singleton]
  constructor
  · intro h
    have hdistinct := h.distinct
    rw [hhandles, List.nodup_append] at hdistinct
    refine (getRemoteCid_eq_none_iff _).mpr fun hmem => ?_
    exact hdistinct.2.2 _ hmem _ (List.mem_singleton_self _) rfl
  · intro hnone
    refine ⟨fun ch => ?_, ?_⟩
    · rw [htable, getRemoteCid_addConnection _ hadd, hcid]
      by_cases hsame : connection.ch = ch
      · subst hsame
        rw [hnone, Function.update_self, if_pos rfl]
        rfl
      · rw [Function.update_of_ne (Ne.symm hsame), if_neg hsame, Option.or_none, hmap.lookup]
    · rw [hhandles]
      rw [← List.concat_eq_append]
      exact List.Nodup.concat ((getRemoteCid_eq_none_iff _).mp hnone) hmap.distinct

/-- Without room a response keeps the table a map exactly when it repeats what its handle has. -/
theorem isMap_iff_of_full (hmap : s.IsMap) (htable : t.table = s.table)
    (hcid : t.latest.cid = Function.update s.latest.cid connection.ch (some connection.remoteCID)) :
    t.IsMap ↔ s.table.getRemoteCid connection.ch = some connection.remoteCID := by
  constructor
  · intro h
    rw [← htable, h.lookup, hcid, Function.update_self]
  · intro hrepeated
    refine ⟨fun ch => ?_, htable ▸ hmap.distinct⟩
    rw [htable, hcid]
    by_cases hsame : ch = connection.ch
    · rw [hsame, Function.update_self, hrepeated]
    · rw [Function.update_of_ne hsame, hmap.lookup]

end Entry

/-- A step keeps the table a map exactly when the response it is, if it is one, is fresh. -/
theorem isMap_step_iff (hs : s.world.gRuntime.canSignal) (hmap : s.IsMap) (a : TableAction) :
    (s.step a).IsMap ↔ s.IsFresh a := by
  cases a with
  | clear => exact iff_of_true ⟨fun _ => rfl, List.nodup_nil⟩ trivial
  | call c =>
    have htable := table_step_call hs c
    have hlatest : (s.step (.call c)).latest = s.latest.next (.call c) := rfl
    rw [SignalingCall.nextTable] at htable
    simp only [LatestCids.next] at hlatest
    rw [IsFresh]
    cases hopens : c.opens with
    | none =>
      rw [hopens] at htable hlatest
      refine iff_of_true ⟨fun ch => ?_, htable ▸ hmap.distinct⟩ (by simp)
      rw [htable, hlatest, hmap.lookup]
    | some connection =>
      simp only [hopens] at htable hlatest
      have hcid := congrArg LatestCids.cid hlatest
      simp only [Option.mem_def, Option.some.injEq, forall_eq']
      by_cases hroom : s.table.list.length < l2capConnectionListSize
      · have hadd : s.table.addConnection connection = some _ := dif_pos hroom
        rw [hadd] at htable
        rw [if_pos hroom, isMap_iff_of_room hmap hadd htable hcid]
      · have hadd : s.table.addConnection connection = none := dif_neg hroom
        rw [hadd] at htable
        rw [if_neg hroom, isMap_iff_of_full hmap htable hcid]

/-- An empty table is a map. -/
theorem isMap_start (w : TwWorld) (hciInterface : TwHciInterface) : (start w hciInterface).IsMap :=
  ⟨fun _ => rfl, List.nodup_nil⟩

/-- The table stays a map with the latest channels exactly where the action is fresh. -/
theorem isMap_and_answersLatest_iff (hs : s.world.gRuntime.canSignal) (hmap : s.IsMap) (a : TableAction) :
    (s.step a).IsMap ∧ s.AnswersLatest a ↔ s.IsFresh a := by
  rw [isMap_step_iff hs hmap, and_iff_left (answersLatest_of_isMap hs hmap a)]

end Tabled

/-- In a run the table stays a map, and answers are those of the map, exactly when each response that
succeeds is for a handle without an entry or, with the table full, repeats the channel its handle has. -/
theorem connection_table_map_iff (w : TwWorld) (hciInterface : TwHciInterface) (actions : List TableAction) :
    EveryStep (fun s a => (s.step a).IsMap ∧ s.AnswersLatest a) Tabled.step (.start w hciInterface) actions ↔
      EveryStep Tabled.IsFresh Tabled.step (.start w hciInterface) actions :=
  everyStep_property_iff (I := Tabled.IsMap) (J := fun s => s.world.gRuntime.canSignal)
    (fun _ a _ hs => Tabled.canSignal_step hs a) (fun _ _ h => h.1)
    (fun _ a _ hs hmap => Tabled.isMap_and_answersLatest_iff hs hmap a) rfl (Tabled.isMap_start w hciInterface)

/-- A response that reports this channel on a handle. -/
def successfulResponse (ch cid : UInt16) : TableAction :=
  let bytes := [codeConnectionResponse, 0x01, 0x08, 0x00] ++ streamU16ToLe cid ++ [0, 0, 0, 0, 0, 0]
  .call (.handleConnectionResponse ch ⟨fun i => bytes.getD i 0, 12, 0⟩ 12)

/-- A handle is given a second channel, and the lookup still gives the first. -/
theorem connection_table_not_always_map :
    ¬∀ (w : TwWorld) (hciInterface : TwHciInterface) (actions : List TableAction),
      EveryStep (fun s a => (s.step a).Fits) Tabled.step (.start w hciInterface) actions →
        EveryStep (fun s a => (s.step a).IsMap ∧ s.AnswersLatest a) Tabled.step (.start w hciInterface)
          actions := by
  intro h
  have hrun := h {} ⟨true⟩ [successfulResponse 0x0040 0x0041, successfulResponse 0x0040 0x0042]
    (by decide +kernel)
  have hlookup := hrun.2.1.1.lookup 0x0040
  exact absurd hlookup (by decide +kernel)

end Esp32Wiimote.Bluetooth
