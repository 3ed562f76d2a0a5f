import Esp32Wiimote.Library.TransitionRun
import Esp32Wiimote.Web.EventStream

/-!
# The event streams as unbounded logs

Each channel follows a log of the frames its publishes stored, which is never cut: the buffer
holds the end of the log, and a replay sends what the log has after a sequence number, unless
some of it is no longer in the buffer.
-/

namespace Esp32Wiimote.Web

open CText RingLog TransitionRun WebEventStream

/-! ## Logs -/

/-- A frame as it is buffered, by its position in the log. -/
def logEntry (index : ℕ) (frame : List UInt8) : WebEventStreamFrame :=
  { used := true, seq := UInt32.ofNat (index + 1), frame, frameLen := frame.length }

/-- The entries of a log, numbered from one. -/
def logEntries (log : List (List UInt8)) : List WebEventStreamFrame := log.mapIdx logEntry

/-- There are as many as frames. -/
@[simp] theorem length_logEntries (log : List (List UInt8)) : (logEntries log).length = log.length :=
  List.length_mapIdx

/-- The next frame gets the next number. -/
theorem logEntries_append (log : List (List UInt8)) (frame : List UInt8) :
    logEntries (log ++ [frame]) = logEntries log ++ [logEntry log.length frame] := by
  simp [logEntries]

/-- The frame a publish of this payload stores, if it stores one. -/
def storedFrame (format : FrameFormat) (seq : UInt32) (eventType : CString) (buf : Option ℕ)
    (serialized : ℕ → WebSerializeResult × Option CString) : Option (List UInt8) :=
  buf.bind fun bufSize =>
    match serialized bufSize with
    | (.Ok, some payload) =>
      (buildEventFrame format bufSize seq eventType payload).filter (·.length < kWebEventStreamMaxFrameLen)
    | _ => none

/-- The frame the call stores, if it stores one. -/
def WebEventStreamCall.stored (format : FrameFormat) (stream : WebEventStream) :
    WebEventStreamCall → Option (List UInt8)
  | .connect _ _ _ | .disconnect _ => none
  | .publishInput snapshot buf =>
    storedFrame format (stream.channels .Input).nextSeq kInputEventType buf (serializeWiimoteInput · snapshot)
  | .publishStatus snapshot buf =>
    storedFrame format (stream.channels .Status).nextSeq kStatusEventType buf
      (serializeWiimoteStatus · snapshot)

/-- The streams, and for each channel the frames that were stored so far. -/
structure LoggedStream where
  stream : WebEventStream
  log : WebEventStreamChannel → List (List UInt8)

/-- A call, with the frame it stores recorded in the log of its channel. -/
def LoggedStream.step (format : FrameFormat) (s : LoggedStream) (call : WebEventStreamCall) :
    LoggedStream where
  stream := call.run format s.stream
  log :=
    match call.stored format s.stream with
    | none => s.log
    | some frame => Function.update s.log call.channel (s.log call.channel ++ [frame])

/-- The streams after `webEventStreamInit`, and nothing stored. -/
def WebEventStream.logged (stream : WebEventStream) : LoggedStream :=
  ⟨stream.webEventStreamInit, fun _ => []⟩

/-! ## Storing a frame -/

/-- The ring of a channel. -/
def WebEventStreamChannelState.ring (state : WebEventStreamChannelState) :
    Ring WebEventStreamFrame kWebEventStreamBufferCapacity :=
  ⟨state.buffer, state.head, state.count⟩

/-- Making room does not change the next number. -/
@[simp] theorem nextSeq_makeRoom (state : WebEventStreamChannelState) :
    state.makeRoom.nextSeq = state.nextSeq := by
  rw [WebEventStreamChannelState.makeRoom]
  split <;> rfl

/-- Making room and inserting is a push. -/
theorem push_ring (state : WebEventStreamChannelState) (entry : WebEventStreamFrame) :
    state.ring.push entry = state.makeRoom.ring.insert entry := by
  by_cases hfull : state.count = kWebEventStreamBufferCapacity
  · have hpush : state.ring.push entry = state.ring.dropOldest.insert entry := if_pos hfull
    rw [hpush, WebEventStreamChannelState.makeRoom, if_pos hfull]
    rfl
  · have hpush : state.ring.push entry = state.ring.insert entry := if_neg hfull
    rw [hpush, WebEventStreamChannelState.makeRoom, if_neg hfull]

/-- A frame that fits is pushed to the ring under the next sequence number. -/
theorem appendFrame_of_fits (state : WebEventStreamChannelState) {frame : List UInt8}
    (hpos : 0 < frame.length) (hfits : frame.length < kWebEventStreamMaxFrameLen) :
    ∃ state', state.appendFrame frame = some (state.nextSeq, state') ∧
      state'.ring = state.ring.push ⟨true, state.nextSeq, frame, frame.length⟩ ∧
      state'.nextSeq = state.nextSeq + 1 := by
  refine ⟨_, if_neg (by omega), ?_, ?_⟩
  · exact (push_ring { state with nextSeq := state.nextSeq + 1 } _).symm
  · exact nextSeq_makeRoom _

/-- A frame is not empty. -/
theorem buildEventFrame_pos {format : FrameFormat} {outSize : ℕ} {seq : UInt32}
    {eventType payloadJson : CString} {frame : List UInt8}
    (h : buildEventFrame format outSize seq eventType payloadJson = some frame) : 0 < frame.length := by
  simp only [buildEventFrame] at h
  split at h
  · cases h
  split at h
  next hwritten =>
    cases h
    simp only [List.length_map, List.length_range]
    omega
  · cases h

/-- What a channel becomes when it stores a frame, or none. -/
structure Stores (state state' : WebEventStreamChannelState) (stored : Option (List UInt8)) : Prop where
  ring : state'.ring = stored.elim state.ring fun frame =>
    state.ring.push ⟨true, state.nextSeq, frame, frame.length⟩
  nextSeq : state'.nextSeq = stored.elim state.nextSeq fun _ => state.nextSeq + 1

section Publish

variable {format : FrameFormat} {stream : WebEventStream} {channel other : WebEventStreamChannel}

/-- An event that is published stores its frame, if it fits. -/
theorem publishEvent_stores (eventType payloadJson : CString) (size : ℕ) :
    Stores (stream.channels channel)
      ((publishEvent format stream channel eventType payloadJson size).1.channels channel)
      ((buildEventFrame format size (stream.channels channel).nextSeq eventType payloadJson).filter
        (·.length < kWebEventStreamMaxFrameLen)) := by
  simp only [publishEvent]
  split
  next hzero =>
    rw [buildEventFrame, if_pos hzero]
    exact ⟨rfl, rfl⟩
  cases hbuild : buildEventFrame format size (stream.channels channel).nextSeq eventType payloadJson with
  | none => exact ⟨rfl, rfl⟩
  | some frame =>
    have hpos := buildEventFrame_pos hbuild
    by_cases hfits : frame.length < kWebEventStreamMaxFrameLen
    · obtain ⟨state', happend, hring, hseq⟩ :=
        appendFrame_of_fits (stream.channels channel) hpos hfits
      have hstores : Stores (stream.channels channel)
          ((stream.setChannel channel state').channels channel) (some frame) := by
        rw [show (stream.setChannel channel state').channels channel = state' from
          Function.update_self ..]
        exact ⟨hring, hseq⟩
      simp only [Option.filter_some, hfits, decide_true, if_true, happend, ne_eq, not_true_eq_false, if_false]
      split <;> exact hstores
    · have happend : (stream.channels channel).appendFrame frame = none := if_pos (by omega)
      simp only [Option.filter_some, hfits, decide_false, Bool.false_eq_true, if_false, happend]
      exact ⟨rfl, rfl⟩

/-- The other channel does not change. -/
theorem publishEvent_other (hother : other ≠ channel) (eventType payloadJson : CString) (size : ℕ) :
    (publishEvent format stream channel eventType payloadJson size).1.channels other =
      stream.channels other := by
  simp only [publishEvent]
  repeat' split
  all_goals first
    | rfl
    | exact Function.update_of_ne hother _ _

/-- A snapshot that is published stores its frame, if it fits. -/
theorem publishSerialized_stores (eventType : CString) (buf : Option ℕ)
    (serialized : ℕ → WebSerializeResult × Option CString) :
    Stores (stream.channels channel)
      ((publishSerialized format stream channel eventType buf serialized).1.channels channel)
      (storedFrame format (stream.channels channel).nextSeq eventType buf serialized) := by
  simp only [publishSerialized, storedFrame]
  cases buf with
  | none => exact ⟨rfl, rfl⟩
  | some size =>
    simp only [Option.bind_some]
    obtain ⟨result, written⟩ := serialized size
    by_cases hzero : size = 0
    · subst hzero
      cases result <;> cases written <;> exact ⟨rfl, rfl⟩
    · rw [if_neg hzero]
      cases result with
      | Ok =>
        cases written with
        | some payload => exact publishEvent_stores eventType payload size
        | none => exact ⟨rfl, rfl⟩
      | BufferTooSmall => exact ⟨rfl, rfl⟩

/-- The other channel does not change. -/
theorem publishSerialized_other (hother : other ≠ channel) (eventType : CString) (buf : Option ℕ)
    (serialized : ℕ → WebSerializeResult × Option CString) :
    (publishSerialized format stream channel eventType buf serialized).1.channels other =
      stream.channels other := by
  simp only [publishSerialized]
  repeat' split
  all_goals first
    | rfl
    | exact publishEvent_other hother ..

end Publish

/-! ## Calls -/

section Calls

variable {format : FrameFormat} {stream : WebEventStream}

/-- A new client stores nothing. -/
theorem setChannel_stores (channel : WebEventStreamChannel) (client : WebEventStreamClient) :
    Stores (stream.channels channel)
      ((stream.setChannel channel { stream.channels channel with client }).channels channel) none := by
  rw [show (stream.setChannel channel _).channels channel = _ from Function.update_self ..]
  exact ⟨rfl, rfl⟩

/-- Every call stores the frame it is said to store. -/
theorem run_stores (call : WebEventStreamCall) : Stores (stream.channels call.channel)
    ((call.run format stream).channels call.channel) (call.stored format stream) := by
  cases call with
  | connect channel sendFn userData =>
    simp only [WebEventStreamCall.run, webEventStreamConnect]
    split
    · exact ⟨rfl, rfl⟩
    · exact setChannel_stores ..
  | disconnect channel => exact setChannel_stores ..
  | publishInput snapshot buf => exact publishSerialized_stores ..
  | publishStatus snapshot buf => exact publishSerialized_stores ..

/-- A call leaves the channels alone that it is not for. -/
theorem run_other {call : WebEventStreamCall} {other : WebEventStreamChannel}
    (hother : other ≠ call.channel) : (call.run format stream).channels other = stream.channels other := by
  cases call with
  | connect channel sendFn userData =>
    simp only [WebEventStreamCall.run, webEventStreamConnect]
    split
    · rfl
    · exact Function.update_of_ne hother _ _
  | disconnect channel => exact Function.update_of_ne hother _ _
  | publishInput snapshot buf => exact publishSerialized_other hother ..
  | publishStatus snapshot buf => exact publishSerialized_other hother ..

end Calls

/-! ## Runs -/

/-- The channel is at the end of the log. -/
structure FollowsLog (state : WebEventStreamChannelState) (log : List (List UInt8)) : Prop where
  keeps : state.ring.Keeps (logEntries log)
  nextSeq : state.nextSeq = UInt32.ofNat (log.length + 1)

/-- Storing a frame extends the log. -/
theorem FollowsLog.stores {state state' : WebEventStreamChannelState} {log : List (List UInt8)}
    (h : FollowsLog state log) {stored : Option (List UInt8)} (hstores : Stores state state' stored) :
    FollowsLog state' (stored.elim log fun frame => log ++ [frame]) := by
  cases stored with
  | none => exact ⟨hstores.ring ▸ h.keeps, hstores.nextSeq.trans h.nextSeq⟩
  | some frame =>
    have hring : state'.ring = state.ring.push (logEntry log.length frame) := by
      rw [hstores.ring, h.nextSeq]
      rfl
    constructor
    · rw [hring, Option.elim_some, logEntries_append]
      exact h.keeps.push _
    · rw [hstores.nextSeq, Option.elim_some, Option.elim_some, h.nextSeq, List.length_append]
      exact UInt32.ofNat_add (log.length + 1) 1 |>.symm

/-- The log of a step has the frame that was stored. -/
theorem log_step (format : FrameFormat) (s : LoggedStream) (call : WebEventStreamCall) :
    (s.step format call).log call.channel =
      (call.stored format s.stream).elim (s.log call.channel) fun frame =>
        s.log call.channel ++ [frame] := by
  simp only [LoggedStream.step]
  cases call.stored format s.stream with
  | none => rfl
  | some frame => exact Function.update_self ..

/-- The log of the other channel does not change. -/
theorem log_step_other (format : FrameFormat) (s : LoggedStream) {call : WebEventStreamCall}
    {other : WebEventStreamChannel} (hother : other ≠ call.channel) :
    (s.step format call).log other = s.log other := by
  simp only [LoggedStream.step]
  cases call.stored format s.stream with
  | none => rfl
  | some frame => exact Function.update_of_ne hother _ _

/-- Every call keeps every channel at the end of its log. -/
theorem followsLog_step (format : FrameFormat) {s : LoggedStream}
    (h : ∀ channel, FollowsLog (s.stream.channels channel) (s.log channel)) (call : WebEventStreamCall)
    (channel : WebEventStreamChannel) :
    FollowsLog ((s.step format call).stream.channels channel) ((s.step format call).log channel) := by
  by_cases hchannel : channel = call.channel
  · subst hchannel
    rw [log_step]
    exact (h call.channel).stores (run_stores call)
  · rw [log_step_other format s hchannel]
    exact (run_other hchannel : (s.step format call).stream.channels channel = _) ▸ h channel

/-- After every run each channel follows its log. -/
theorem followsLog_run (format : FrameFormat) (stream : WebEventStream) (calls : List WebEventStreamCall)
    (channel : WebEventStreamChannel) :
    let s := runFrom (LoggedStream.step format) stream.logged calls
    FollowsLog (s.stream.channels channel) (s.log channel) := by
  apply invariant_of_step
    (I := fun s : LoggedStream => ∀ channel, FollowsLog (s.stream.channels channel) (s.log channel))
  · exact fun s call h => followsLog_step format h call
  · exact fun channel => ⟨Ring.keeps_nil rfl, rfl⟩

/-- The call publishes on the channel. -/
def WebEventStreamCall.publishes (channel : WebEventStreamChannel) : WebEventStreamCall → Bool
  | .connect _ _ _ | .disconnect _ => false
  | .publishInput _ _ => channel = .Input
  | .publishStatus _ _ => channel = .Status

/-- Only a call that publishes stores a frame. -/
theorem publishes_of_stored {format : FrameFormat} {stream : WebEventStream} {call : WebEventStreamCall}
    {frame : List UInt8} (h : call.stored format stream = some frame) :
    call.publishes call.channel = true := by
  cases call with
  | connect channel sendFn userData => cases h
  | disconnect channel => cases h
  | publishInput snapshot buf => rfl
  | publishStatus snapshot buf => rfl

/-- A step adds one frame at most. -/
theorem length_log_step (format : FrameFormat) (s : LoggedStream) (call : WebEventStreamCall)
    (channel : WebEventStreamChannel) : ((s.step format call).log channel).length ≤
      (s.log channel).length + if call.publishes channel then 1 else 0 := by
  by_cases hchannel : channel = call.channel
  · subst hchannel
    rw [log_step]
    cases hstored : call.stored format s.stream with
    | none => exact Nat.le_add_right _ _
    | some frame => rw [if_pos (publishes_of_stored hstored), Option.elim_some, List.length_append]; rfl
  · rw [log_step_other format s hchannel]
    exact Nat.le_add_right _ _

/-- No more frames are stored than published. -/
theorem length_log_run (format : FrameFormat) (s : LoggedStream) (calls : List WebEventStreamCall)
    (channel : WebEventStreamChannel) :
    ((runFrom (LoggedStream.step format) s calls).log channel).length ≤
      (s.log channel).length + calls.countP (·.publishes channel) := by
  induction calls generalizing s with
  | nil => exact Nat.le_add_right _ _
  | cons call rest ih =>
    have hstep := length_log_step format s call channel
    have hrest := ih (s.step format call)
    simp only [runFrom, List.foldl_cons, List.countP_cons] at hrest ⊢
    omega

/-! ## Replay -/

/-- There are sequence numbers for all of the log. -/
abbrev Numbered (log : List (List UInt8)) : Prop := log.length < 2 ^ 32 - 1

section Replay

variable {log : List (List UInt8)} {state : WebEventStreamChannelState} {entry : WebEventStreamFrame}

/-- The entries of the log are numbered from 1. -/
theorem logEntries_getElem? (hlog : Numbered log) {index : ℕ} (h : (logEntries log)[index]? = some entry) :
    index < log.length ∧ entry.seq.toNat = index + 1 ∧ entry.used = true := by
  simp only [logEntries, List.getElem?_mapIdx, Option.map_eq_some_iff] at h
  obtain ⟨frame, hframe, rfl⟩ := h
  have hindex : index < log.length := (List.getElem?_eq_some_iff.mp hframe).1
  refine ⟨hindex, ?_, rfl⟩
  rw [logEntry, UInt32.toNat_ofNat']
  exact Nat.mod_eq_of_lt (by omega)

/-- The count is the length of the log, or the capacity. -/
theorem FollowsLog.count_eq (h : FollowsLog state log) :
    state.count = min kWebEventStreamBufferCapacity log.length :=
  h.keeps.count_eq.trans (by rw [length_logEntries])

/-- The frames in the buffer are the end of the log. -/
theorem FollowsLog.buffered_eq (h : FollowsLog state log) :
    state.bufferedFrames = (logEntries log).drop (log.length - kWebEventStreamBufferCapacity) :=
  h.keeps.contents_eq.trans (by rw [latest, length_logEntries])

/-- The sequence numbers in the buffer go on from those that were dropped. -/
theorem FollowsLog.seq_eq (h : FollowsLog state log) (hlog : Numbered log) {offset : ℕ}
    (hoffset : offset < state.count) : (state.channelFrameAt offset).seq.toNat =
      log.length - kWebEventStreamBufferCapacity + offset + 1 := by
  have hentry : state.bufferedFrames[offset]? = some (state.channelFrameAt offset) :=
    Ring.getElem?_contents (r := state.ring) hoffset
  rw [h.buffered_eq, List.getElem?_drop] at hentry
  exact (logEntries_getElem? hlog hentry).2.1

/-- The latest number is the length of the log. -/
theorem FollowsLog.latestSeq_eq (h : FollowsLog state log) (hlog : Numbered log) :
    state.latestSeqFromChannel.toNat = log.length := by
  have hcount := h.count_eq
  simp only [kWebEventStreamBufferCapacity] at hcount
  rw [WebEventStreamChannelState.latestSeqFromChannel]
  split
  · rw [UInt32.toNat_zero]
    omega
  · rw [h.seq_eq hlog (by omega), kWebEventStreamBufferCapacity]
    omega

/-- The next number is one more. -/
theorem FollowsLog.nextSeq_eq (h : FollowsLog state log) (hlog : Numbered log) :
    state.nextSeq.toNat = log.length + 1 := by
  rw [h.nextSeq, UInt32.toNat_ofNat']
  exact Nat.mod_eq_of_lt (by omega)

/-- An entry has left the buffer exactly when it is not among the latest. -/
theorem FollowsLog.mem_buffered_iff (h : FollowsLog state log) (hlog : Numbered log) {index : ℕ}
    (hentry : (logEntries log)[index]? = some entry) :
    entry ∈ state.bufferedFrames ↔ log.length - kWebEventStreamBufferCapacity ≤ index := by
  have hseq := (logEntries_getElem? hlog hentry).2.1
  rw [h.buffered_eq, List.mem_iff_getElem?]
  constructor
  · rintro ⟨offset, hoffset⟩
    rw [List.getElem?_drop] at hoffset
    have hseq' := (logEntries_getElem? hlog hoffset).2.1
    omega
  · intro hle
    refine ⟨index - (log.length - kWebEventStreamBufferCapacity), ?_⟩
    rw [List.getElem?_drop, Nat.add_sub_cancel' hle, hentry]

/-- Where nothing is missing, the loop sends what the log has after the sequence number. -/
theorem FollowsLog.replayed_eq (h : FollowsLog state log) (hlog : Numbered log) {afterSeq : UInt32}
    (hkept : log.length - kWebEventStreamBufferCapacity ≤ afterSeq.toNat) :
    replayedFrames state afterSeq = (logEntries log).filter (afterSeq < ·.seq) := by
  have hdropped : ((logEntries log).take (log.length - kWebEventStreamBufferCapacity)).filter
      (afterSeq < ·.seq) = [] := by
    rw [List.filter_eq_nil_iff]
    intro entry hmem
    obtain ⟨index, hindex⟩ := List.mem_iff_getElem?.mp hmem
    rw [List.getElem?_take, Option.ite_none_right_eq_some] at hindex
    have hseq := (logEntries_getElem? hlog hindex.2).2.1
    simp only [decide_eq_true_eq, UInt32.not_lt, UInt32.le_iff_toNat_le]
    omega
  have hused : ∀ entry ∈ state.bufferedFrames,
      (entry.used && decide (afterSeq < entry.seq)) = decide (afterSeq < entry.seq) := by
    intro entry hmem
    rw [h.buffered_eq] at hmem
    obtain ⟨index, hindex⟩ := List.mem_iff_getElem?.mp (List.mem_of_mem_drop hmem)
    rw [(logEntries_getElem? hlog hindex).2.2, Bool.true_and]
  rw [replayedFrames, List.filter_congr hused, h.buffered_eq]
  conv_rhs => rw [← List.take_append_drop (log.length - kWebEventStreamBufferCapacity) (logEntries log)]
  rw [List.filter_append, hdropped, List.nil_append]

/-- What a replay answers and sends for a log, of which these frames are still buffered. -/
structure ReplaysLog (log : List (List UInt8)) (buffered : List WebEventStreamFrame) (afterSeq : UInt32)
    (sendFn userData : ℕ) (result : WebEventStreamReplayResult) (sends : List WebEventStreamSend) :
    Prop where
  latestSeq : result.latestSeq.toNat = log.length
  nextSeq : result.nextSeq.toNat = log.length + 1
  recovery : result.requiresSnapshotRecovery = true ↔
    ∃ entry ∈ logEntries log, afterSeq < entry.seq ∧ entry ∉ buffered
  sends_eq : sends =
    if result.requiresSnapshotRecovery then []
    else ((logEntries log).filter (afterSeq < ·.seq)).map fun entry =>
      { sendFn, frame := entry.frame, frameLen := entry.frameLen, userData }
  replayedCount : result.replayedCount = sends.length

/-- The test of the code: an event after the sequence number was dropped. -/
theorem FollowsLog.recovery_iff (h : FollowsLog state log) (hlog : Numbered log) (afterSeq : UInt32) :
    (∃ entry ∈ logEntries log, afterSeq < entry.seq ∧ entry ∉ state.bufferedFrames) ↔
      afterSeq.toNat < log.length - kWebEventStreamBufferCapacity := by
  constructor
  · rintro ⟨entry, hmem, hafter, hdropped⟩
    obtain ⟨index, hindex⟩ := List.mem_iff_getElem?.mp hmem
    rw [h.mem_buffered_iff hlog hindex] at hdropped
    have hseq := (logEntries_getElem? hlog hindex).2.1
    rw [UInt32.lt_iff_toNat_lt] at hafter
    omega
  · intro hlt
    -- the event right after the sequence number
    have hindex : afterSeq.toNat < (logEntries log).length := by
      rw [length_logEntries]
      omega
    have hentry := List.getElem?_eq_getElem hindex
    have hseq := (logEntries_getElem? hlog hentry).2.1
    refine ⟨_, List.getElem_mem hindex, ?_, ?_⟩
    · rw [UInt32.lt_iff_toNat_lt, hseq]
      exact Nat.lt_succ_self _
    · rw [h.mem_buffered_iff hlog hentry]
      omega

/-- A replay sends what the log has behind the number, as far as it is buffered. -/
theorem FollowsLog.replay (h : FollowsLog state log) (hlog : Numbered log) {stream : WebEventStream}
    {channel : WebEventStreamChannel} (hchannel : stream.channels channel = state) {afterSeq : UInt32}
    (hafter : afterSeq.toNat < 2 ^ 32 - 1) (sendFn userData : ℕ) :
    ∃ result sends, stream.webEventStreamReplaySince channel afterSeq (some sendFn) userData =
      some (result, sends) ∧ ReplaysLog log state.bufferedFrames afterSeq sendFn userData result sends := by
  have hcount := h.count_eq
  have hlatest := h.latestSeq_eq hlog
  have hnext := h.nextSeq_eq hlog
  have hrecovery := h.recovery_iff hlog afterSeq
  simp only [webEventStreamReplaySince, hchannel]
  split
  next hzero =>
    have hempty : log = [] := by
      rw [hzero] at hcount
      exact List.length_eq_zero_iff.mp (by simp only [kWebEventStreamBufferCapacity] at hcount; omega)
    subst hempty
    refine ⟨_, _, rfl, hlatest, hnext, ?_, rfl, rfl⟩
    simp [logEntries]
  next hzero =>
    have holdest : state.oldestSeqFromChannel.toNat = log.length - kWebEventStreamBufferCapacity + 1 := by
      rw [WebEventStreamChannelState.oldestSeqFromChannel, if_neg hzero,
        h.seq_eq hlog (Nat.pos_of_ne_zero hzero), Nat.add_zero]
    have hsucc : (afterSeq + 1).toNat = afterSeq.toNat + 1 := by
      rw [UInt32.toNat_add, UInt32.toNat_one]
      exact Nat.mod_eq_of_lt (by omega)
    split
    next hgap =>
      rw [UInt32.lt_iff_toNat_lt, hsucc, holdest] at hgap
      refine ⟨_, _, rfl, hlatest, hnext, ?_, rfl, rfl⟩
      exact iff_of_true rfl (hrecovery.mpr (by omega))
    next hgap =>
      rw [UInt32.lt_iff_toNat_lt, hsucc, holdest] at hgap
      refine ⟨_, _, rfl, hlatest, hnext, ?_, ?_, (List.length_map _).symm⟩
      · exact iff_of_false Bool.false_ne_true fun hdropped => absurd (hrecovery.mp hdropped) (by omega)
      · rw [if_neg Bool.false_ne_true, h.replayed_eq hlog (by omega)]

/-- The channel is what is left of the log, and replays it. -/
structure RefinesLog (stream : WebEventStream) (channel : WebEventStreamChannel)
    (log : List (List UInt8)) : Prop where
  buffer : (stream.channels channel).bufferedFrames = latest kWebEventStreamBufferCapacity (logEntries log)
  frames : (stream.channels channel).bufferedFrames.map (·.frame) =
    latest kWebEventStreamBufferCapacity log
  seqs : (logEntries log).map (·.seq.toNat) = List.range' 1 log.length
  replay : ∀ afterSeq sendFn userData, afterSeq.toNat < 2 ^ 32 - 1 →
    ∃ result sends, stream.webEventStreamReplaySince channel afterSeq (some sendFn) userData =
      some (result, sends) ∧
      ReplaysLog log (stream.channels channel).bufferedFrames afterSeq sendFn userData result sends

/-- The entries are numbered from one. -/
theorem seqs_logEntries (hlog : Numbered log) :
    (logEntries log).map (·.seq.toNat) = List.range' 1 log.length := by
  apply List.ext_getElem
  · simp
  · intro index hindex _
    rw [List.length_map] at hindex
    rw [List.getElem_map, List.getElem_range',
      (logEntries_getElem? hlog (List.getElem?_eq_getElem hindex)).2.1]
    omega

/-- The frames of the entries are the log. -/
theorem frames_logEntries (log : List (List UInt8)) : (logEntries log).map (·.frame) = log := by
  apply List.ext_getElem
  · simp
  · intro index _ _
    simp [logEntries, logEntry]

/-- A channel that follows its log refines it. -/
theorem FollowsLog.refines {stream : WebEventStream} {channel : WebEventStreamChannel}
    (h : FollowsLog (stream.channels channel) log) (hlog : Numbered log) : RefinesLog stream channel log where
  buffer := h.keeps.contents_eq
  frames := by
    rw [show (stream.channels channel).bufferedFrames = _ from h.keeps.contents_eq, map_latest,
      frames_logEntries]
  seqs := seqs_logEntries hlog
  replay := fun _ sendFn userData hafter => h.replay hlog rfl hafter sendFn userData

end Replay

/-! ## The law -/

/-- After any calls with fewer than `2 ^ 32 - 1` publishes on each channel, every channel refines
the log of the frames its publishes stored, and a call leaves the other channel and its log
alone. -/
theorem event_streams_refine_logs (format : FrameFormat) (stream : WebEventStream)
    (calls : List WebEventStreamCall)
    (hpublishes : ∀ channel, calls.countP (·.publishes channel) < 2 ^ 32 - 1) :
    let s := runFrom (LoggedStream.step format) stream.logged calls
    (∀ channel, RefinesLog s.stream channel (s.log channel)) ∧
      ∀ (call : WebEventStreamCall) (other : WebEventStreamChannel), other ≠ call.channel →
        (s.step format call).stream.channels other = s.stream.channels other ∧
          (s.step format call).log other = s.log other := by
  intro s
  constructor
  · intro channel
    apply (followsLog_run format stream calls channel).refines
    have hlength := length_log_run format stream.logged calls channel
    have hcalls := hpublishes channel
    simp only [WebEventStream.logged, List.length_nil] at hlength ⊢
    omega
  · exact fun call other hother => ⟨run_other hother, log_step_other format s hother⟩

/-- The payload is read after the text in front of it was written over it. -/
def overlappingFormat : FrameFormat := fun _ seq eventType payloadJson =>
  let before := ascii "\x7b\"seq\":" ++ decimal seq.toNat ++ ascii ",\"event\":\"" ++ eventType ++
    ascii "\",\"payload\":"
  let text := before ++ (before ++ payloadJson.drop before.length).take payloadJson.length ++ ascii "\x7d"
  (text.length, fun i => text.getD i 0)

/-- A status event for a client that is connected, and two input events. -/
def publishedCalls : List WebEventStreamCall :=
  [.connect .Status (some 7) 1, .publishStatus ⟨true, 100⟩ (some 512),
    .publishInput ⟨8, 128, 128, 128, 0, 0⟩ (some 512), .publishInput ⟨0, 128, 128, 128, 0, 0⟩ (some 512)]

/-- A stream whose memory is zero. -/
def emptyStream : WebEventStream :=
  ⟨fun _ => ⟨⟨false, none, 0⟩, 0, 0, 0, .replicate _ ⟨false, 0, [], 0⟩⟩⟩

/-- Both channels of the run refine their logs. -/
theorem publishedCalls_refine_logs :
    let s := runFrom (LoggedStream.step overlappingFormat) emptyStream.logged publishedCalls
    (s.log .Input).length = 2 ∧ RefinesLog s.stream .Input (s.log .Input) :=
  ⟨by decide +kernel, (event_streams_refine_logs overlappingFormat emptyStream publishedCalls
    (by intro channel; cases channel <;> decide)).1 .Input⟩

end Esp32Wiimote.Web
