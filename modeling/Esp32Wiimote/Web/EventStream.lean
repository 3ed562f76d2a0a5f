import Esp32Wiimote.Library.RingLog
import Esp32Wiimote.Web.RouteHandlers
import Mathlib.Logic.Function.Basic

/-!
# The web event streams

Two channels, each with a client and a ring of the latest frames. `publishEvent` is given one
buffer for the payload and for the frame, so the text that `snprintf` makes of them is a
parameter: the C standard leaves it undefined to copy between overlapping objects.
-/

namespace Esp32Wiimote.Web

open CText RingLog

/-- How many frames a channel keeps. -/
def kWebEventStreamBufferCapacity : ℕ := 16

/-- The size of a frame's buffer. -/
def kWebEventStreamMaxFrameLen : ℕ := 224

instance : NeZero kWebEventStreamBufferCapacity := ⟨by decide⟩

/-- The address of a send function, `none` being null, and the user data it is called with. -/
structure WebEventStreamClient where
  connected : Bool
  sendFn : Option ℕ
  userData : ℕ
  deriving DecidableEq

/-- `frame` up to its terminator. -/
structure WebEventStreamFrame where
  used : Bool
  seq : UInt32
  frame : List UInt8
  frameLen : ℕ
  deriving DecidableEq

/-- A channel: its client, the next number and the ring of frames. -/
structure WebEventStreamChannelState where
  client : WebEventStreamClient
  nextSeq : UInt32
  head : ℕ
  count : ℕ
  buffer : Vector WebEventStreamFrame kWebEventStreamBufferCapacity
  deriving DecidableEq

/-- The two channels. -/
structure WebEventStream where
  channels : WebEventStreamChannel → WebEventStreamChannelState

/-- What a replay answers. -/
structure WebEventStreamReplayResult where
  replayedCount : ℕ
  latestSeq : UInt32
  nextSeq : UInt32
  requiresSnapshotRecovery : Bool
  deriving DecidableEq

/-- A call of a send function. -/
structure WebEventStreamSend where
  sendFn : ℕ
  frame : List UInt8
  frameLen : ℕ
  userData : ℕ
  deriving DecidableEq

/-- What `snprintf` returns for a frame of this size, sequence number, event type and payload,
and the buffer afterwards. -/
abbrev FrameFormat := ℕ → UInt32 → CString → CString → ℤ × (ℕ → UInt8)

/-! ## Channels -/

namespace WebEventStreamChannelState

/-- The frame at an offset from the oldest. -/
def channelFrameAt (state : WebEventStreamChannelState) (offset : ℕ) : WebEventStreamFrame :=
  state.buffer[Fin.ofNat kWebEventStreamBufferCapacity (state.head + offset)]

/-- The frames of the buffer, oldest first. -/
def bufferedFrames (state : WebEventStreamChannelState) : List WebEventStreamFrame :=
  (List.range state.count).map state.channelFrameAt

/-- A channel without client and frames, whose next number is one. -/
def resetChannel (state : WebEventStreamChannelState) : WebEventStreamChannelState :=
  { state with
    client := { connected := false, sendFn := none, userData := 0 }
    nextSeq := 1
    head := 0
    count := 0
    buffer := .replicate _ { used := false, seq := 0, frame := [], frameLen := 0 } }

/-- Drop the oldest frame of a full buffer. -/
def makeRoom (state : WebEventStreamChannelState) : WebEventStreamChannelState :=
  if state.count = kWebEventStreamBufferCapacity then
    { state with
      head := (state.head + 1) % kWebEventStreamBufferCapacity
      count := state.count - 1 }
  else state

/-- The sequence number of the new entry, `none` where the frame is refused. -/
def appendFrame (state : WebEventStreamChannelState) (frame : List UInt8) :
    Option (UInt32 × WebEventStreamChannelState) :=
  if frame.length = 0 ∨ kWebEventStreamMaxFrameLen ≤ frame.length then none
  else
    let seq := state.nextSeq
    let state := { state with nextSeq := state.nextSeq + 1 }.makeRoom
    let insertIdx := Fin.ofNat kWebEventStreamBufferCapacity (state.head + state.count)
    let entry : WebEventStreamFrame := { used := true, seq, frame, frameLen := frame.length }
    some (seq, { state with buffer := state.buffer.set insertIdx entry, count := state.count + 1 })

/-- The number of the newest frame, 0 without one. -/
def latestSeqFromChannel (state : WebEventStreamChannelState) : UInt32 :=
  if state.count = 0 then 0 else (state.channelFrameAt (state.count - 1)).seq

/-- The number of the oldest frame, 0 without one. -/
def oldestSeqFromChannel (state : WebEventStreamChannelState) : UInt32 :=
  if state.count = 0 then 0 else (state.channelFrameAt 0).seq

end WebEventStreamChannelState

namespace WebEventStream

/-- The stream with a changed channel. -/
def setChannel (stream : WebEventStream) (channel : WebEventStreamChannel)
    (state : WebEventStreamChannelState) : WebEventStream :=
  { stream with channels := Function.update stream.channels channel state }

/-- Both channels are reset. -/
def webEventStreamInit (stream : WebEventStream) : WebEventStream :=
  { stream with channels := fun channel => (stream.channels channel).resetChannel }

/-- Without a send function nobody is connected. -/
def webEventStreamConnect (stream : WebEventStream) (channel : WebEventStreamChannel)
    (sendFn : Option ℕ) (userData : ℕ) : WebEventStream :=
  if sendFn.isNone then stream
  else
    stream.setChannel channel
      { stream.channels channel with client := { connected := true, sendFn, userData } }

/-- The client is gone, the frames stay. -/
def webEventStreamDisconnect (stream : WebEventStream) (channel : WebEventStreamChannel) :
    WebEventStream :=
  stream.setChannel channel
    { stream.channels channel with
      client := { connected := false, sendFn := none, userData := 0 } }

/-- The number of the newest frame of a channel. -/
def webEventStreamLatestSeq (stream : WebEventStream) (channel : WebEventStreamChannel) : UInt32 :=
  (stream.channels channel).latestSeqFromChannel

/-! ## Publishing -/

/-- The frame, `none` where it does not fit the buffer. -/
def buildEventFrame (format : FrameFormat) (outSize : ℕ) (seq : UInt32)
    (eventType payloadJson : CString) : Option (List UInt8) :=
  if outSize = 0 then none
  else
    let written := format outSize seq eventType payloadJson
    if 0 < written.1 ∧ written.1 < outSize then
      some ((List.range written.1.toNat).map written.2)
    else none

/-- The stream afterwards, and the call of the send function of the client, if it is made. -/
def publishEvent (format : FrameFormat) (stream : WebEventStream) (channel : WebEventStreamChannel)
    (eventType payloadJson : CString) (frameBufSize : ℕ) :
    WebEventStream × Option WebEventStreamSend :=
  if frameBufSize = 0 then (stream, none)
  else
    let state := stream.channels channel
    let seq := state.nextSeq
    match buildEventFrame format frameBufSize seq eventType payloadJson with
    | none => (stream, none)
    | some frame =>
      match state.appendFrame frame with
      | none => (stream, none)
      | some (appendedSeq, state) =>
        let stream := stream.setChannel channel state
        if appendedSeq ≠ seq then (stream, none)
        else if state.client.connected then
          (stream, state.client.sendFn.map fun sendFn =>
            { sendFn, frame, frameLen := frame.length, userData := state.client.userData })
        else (stream, none)

/-- Publish a payload that was serialized into the buffer. The buffer is given by its size, and
is `none` where it is null. -/
def publishSerialized (format : FrameFormat) (stream : WebEventStream)
    (channel : WebEventStreamChannel) (eventType : CString) (buf : Option ℕ)
    (serialized : ℕ → WebSerializeResult × Option CString) :
    WebEventStream × Option WebEventStreamSend :=
  match buf with
  | none => (stream, none)
  | some bufSize =>
    if bufSize = 0 then (stream, none)
    else
      match serialized bufSize with
      | (.Ok, some payload) => publishEvent format stream channel eventType payload bufSize
      | _ => (stream, none)

/-- The type of an input event. -/
def kInputEventType : CString := ascii "input"

/-- The type of a status event. -/
def kStatusEventType : CString := ascii "status"

/-- Publishes an input snapshot. -/
def webEventStreamPublishInput (format : FrameFormat) (stream : WebEventStream)
    (snapshot : WebWiimoteInputSnapshot) (buf : Option ℕ) : WebEventStream × Option WebEventStreamSend :=
  publishSerialized format stream .Input kInputEventType buf (serializeWiimoteInput · snapshot)

/-- Publishes a status snapshot. -/
def webEventStreamPublishStatus (format : FrameFormat) (stream : WebEventStream)
    (snapshot : WebWiimoteStatusSnapshot) (buf : Option ℕ) : WebEventStream × Option WebEventStreamSend :=
  publishSerialized format stream .Status kStatusEventType buf (serializeWiimoteStatus · snapshot)

/-! ## Replay -/

/-- The frames the loop does not skip. -/
def replayedFrames (state : WebEventStreamChannelState) (afterSeq : UInt32) : List WebEventStreamFrame :=
  state.bufferedFrames.filter fun entry => entry.used && decide (afterSeq < entry.seq)

/-- The result and the calls of the send function, in order; `none` where the call is refused. -/
def webEventStreamReplaySince (stream : WebEventStream) (channel : WebEventStreamChannel)
    (afterSeq : UInt32) (sendFn : Option ℕ) (userData : ℕ) :
    Option (WebEventStreamReplayResult × List WebEventStreamSend) :=
  match sendFn with
  | none => none
  | some sendFn =>
    let state := stream.channels channel
    let result : WebEventStreamReplayResult :=
      { replayedCount := 0
        latestSeq := state.latestSeqFromChannel
        nextSeq := state.nextSeq
        requiresSnapshotRecovery := false }
    if state.count = 0 then some (result, [])
    else if afterSeq + 1 < state.oldestSeqFromChannel then
      some ({ result with requiresSnapshotRecovery := true }, [])
    else
      let frames := replayedFrames state afterSeq
      some ({ result with replayedCount := frames.length },
        frames.map fun entry =>
          { sendFn, frame := entry.frame, frameLen := entry.frameLen, userData })

end WebEventStream

/-! ## Calls -/

/-- A call that changes the streams. -/
inductive WebEventStreamCall where
  | connect (channel : WebEventStreamChannel) (sendFn : Option ℕ) (userData : ℕ)
  | disconnect (channel : WebEventStreamChannel)
  | publishInput (snapshot : WebWiimoteInputSnapshot) (buf : Option ℕ)
  | publishStatus (snapshot : WebWiimoteStatusSnapshot) (buf : Option ℕ)

/-- The channel a call is about. -/
def WebEventStreamCall.channel : WebEventStreamCall → WebEventStreamChannel
  | .connect channel _ _ | .disconnect channel => channel
  | .publishInput _ _ => .Input
  | .publishStatus _ _ => .Status

/-- The function a call stands for. -/
def WebEventStreamCall.run (format : FrameFormat) (stream : WebEventStream) :
    WebEventStreamCall → WebEventStream
  | .connect channel sendFn userData => stream.webEventStreamConnect channel sendFn userData
  | .disconnect channel => stream.webEventStreamDisconnect channel
  | .publishInput snapshot buf => (stream.webEventStreamPublishInput format snapshot buf).1
  | .publishStatus snapshot buf => (stream.webEventStreamPublishStatus format snapshot buf).1

end Esp32Wiimote.Web
