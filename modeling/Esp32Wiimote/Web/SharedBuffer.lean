import Esp32Wiimote.Library.OverlappingOutput
import Esp32Wiimote.Web.EventLog

/-!
# Event frames in the buffer of their payload

A publish serializes its payload into the caller's buffer and formats the frame into the same one,
with the payload as an argument. What C leaves open is read here from left to right: the frame's own
text replaces the payload and its NUL before the payload is read, so no frame ever fits and nothing
is stored or sent. A library that measures the payload first stores a frame with another payload.
-/

namespace Esp32Wiimote.Web

open CText OverlappingOutput TransitionRun WebEventStream

/-! ## Frames -/

/-- What stands in front of the payload. -/
def frameHead (seq : UInt32) (eventType : CString) : CString :=
  ascii "\x7b\"seq\":" ++ decimal seq.toNat ++ ascii ",\"event\":\"" ++ eventType ++
    ascii "\",\"payload\":"

/-- The frame of a payload. -/
def eventFrame (seq : UInt32) (eventType payloadJson : CString) : CString :=
  frameHead seq eventType ++ payloadJson ++ ascii "\x7d"

/-- The buffer after the payload was serialized into it, with anything behind it. -/
def bufferHolding (payloadJson : CString) (rest : ℕ → UInt8) (i : ℕ) : UInt8 :=
  if i < payloadJson.length then payloadJson.getD i 0 else if i = payloadJson.length then 0 else rest i

/-- `snprintf` into the buffer of the payload, from left to right. -/
def sharedBufferFormat (rest : ℕ → UInt8) : FrameFormat := fun outSize seq eventType payloadJson =>
  emitAround outSize (bufferHolding payloadJson rest) (frameHead seq eventType) (ascii "\x7d")

/-! ## Publishing -/

/-- A publish stored this frame under the next sequence number and sent it to a connected client. -/
structure PublishesFrame (stream : WebEventStream) (channel : WebEventStreamChannel)
    (frame : List UInt8) (published : WebEventStream × Option WebEventStreamSend) : Prop where
  nextSeq : (published.1.channels channel).nextSeq = (stream.channels channel).nextSeq + 1
  stored : (published.1.channels channel).bufferedFrames.getLast? =
    some { used := true, seq := (stream.channels channel).nextSeq, frame, frameLen := frame.length }
  sent : published.2 =
    if (stream.channels channel).client.connected then
      (stream.channels channel).client.sendFn.map fun sendFn =>
        { sendFn, frame, frameLen := frame.length
          userData := (stream.channels channel).client.userData }
    else none

section Publish

variable (rest : ℕ → UInt8) (stream : WebEventStream) (channel : WebEventStreamChannel)
  {eventType : CString} (heventType : 0 ∉ eventType)

include heventType

/-- There is no NUL in front of the payload. -/
theorem zero_notMem_frameHead (seq : UInt32) : 0 ∉ frameHead seq eventType := by
  have hdecimal := zero_notMem_decimal seq.toNat
  simp only [frameHead, List.mem_append, not_or]
  exact ⟨⟨⟨⟨by decide, hdecimal⟩, by decide⟩, heventType⟩, by decide⟩

/-- No frame ever fits the buffer its payload lies in. -/
theorem buildEventFrame_shared (outSize : ℕ) (seq : UInt32) (payloadJson : CString) :
    buildEventFrame (sharedBufferFormat rest) outSize seq eventType payloadJson = none := by
  have hhead : frameHead seq eventType ≠ [] := List.cons_ne_nil _ _
  have hfits := emitAround_not_fits outSize (bufferHolding payloadJson rest)
    (zero_notMem_frameHead heventType seq) hhead (ascii "\x7d")
  rw [buildEventFrame]
  split
  · rfl
  · exact if_neg hfits

/-- A publish into one buffer leaves the streams as they are and sends nothing. -/
theorem publishSerialized_shared (buf : Option ℕ)
    (serialized : ℕ → WebSerializeResult × Option CString) :
    publishSerialized (sharedBufferFormat rest) stream channel eventType buf serialized =
      (stream, none) := by
  cases buf with
  | none => rfl
  | some size =>
    rw [publishSerialized]
    split
    · rfl
    · split
      · rw [publishEvent]
        split
        · rfl
        · simp only [buildEventFrame_shared rest heventType]
      · rfl

end Publish

/-- To store and to send nothing is not to publish. -/
theorem not_publishesFrame_unchanged (stream : WebEventStream) (channel : WebEventStreamChannel)
    (frame : List UInt8) : ¬PublishesFrame stream channel frame (stream, none) := by
  intro h
  have hseq := congrArg UInt32.toBitVec h.nextSeq
  simp at hseq

/-- For every snapshot, every buffer and every stream nothing is stored and nothing is sent where the
format is written from left to right, so no frame of any payload is published. -/
theorem event_frames_never_published (rest : ℕ → UInt8) (stream : WebEventStream) (buf : Option ℕ) :
    (∀ snapshot payload, ¬PublishesFrame stream .Input
        (eventFrame (stream.channels .Input).nextSeq kInputEventType payload)
        (stream.webEventStreamPublishInput (sharedBufferFormat rest) snapshot buf)) ∧
      ∀ snapshot payload, ¬PublishesFrame stream .Status
        (eventFrame (stream.channels .Status).nextSeq kStatusEventType payload)
        (stream.webEventStreamPublishStatus (sharedBufferFormat rest) snapshot buf) := by
  constructor
  · intro snapshot payload
    rw [webEventStreamPublishInput, publishSerialized_shared rest stream .Input (by decide)]
    exact not_publishesFrame_unchanged stream .Input _
  · intro snapshot payload
    rw [webEventStreamPublishStatus, publishSerialized_shared rest stream .Status (by decide)]
    exact not_publishesFrame_unchanged stream .Status _

/-- A connected client is not sent the status, though its frame fits the buffer. -/
theorem status_event_not_published :
    ¬∀ (rest : ℕ → UInt8) (calls : List WebEventStreamCall) (size : ℕ)
        (snapshot : WebWiimoteStatusSnapshot) (payload : CString),
      let stream := runFrom (fun stream call => call.run (sharedBufferFormat rest) stream)
        emptyStream.webEventStreamInit calls
      let frame := eventFrame (stream.channels .Status).nextSeq kStatusEventType payload
      serializeWiimoteStatus size snapshot = (.Ok, some payload) → frame.length < size →
        PublishesFrame stream .Status frame
          (stream.webEventStreamPublishStatus (sharedBufferFormat rest) snapshot (some size)) := by
  intro h
  have hpublished := h (fun _ => 0) [.connect .Status (some 7) 1] 128 ⟨true, 100⟩
    (ascii "\x7b\"connected\":true,\"batteryLevel\":100\x7d") (by decide +kernel) (by decide +kernel)
  rw [webEventStreamPublishStatus, publishSerialized_shared _ _ .Status (by decide)] at hpublished
  exact not_publishesFrame_unchanged _ .Status _ hpublished

end Esp32Wiimote.Web
