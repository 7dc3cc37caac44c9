import Mathlib.Algebra.Group.Nat.Defs
import OpenaiAudioStream.AudioQueueCore
import OpenaiAudioStream.BoundedFifo
import OpenaiAudioStream.Runs

/-!
The playback side of a stream as a step machine. The WebSocket thread runs the
handler of one message at a time, the media thread runs `write_frame`, and API
commands store flags; a schedule picks which of them takes its next atomic step.
Bytes are of an arbitrary type: nothing here looks at their value.
-/

namespace OpenaiAudioStream

def playbackBuflen : Nat := 128000

structure PlaybackConfig where
  outSampleRate : Nat
  automaticReconnection : Bool
  deriving DecidableEq, Repr

def maxPlaybackQueueSamples (config : PlaybackConfig) : Nat :=
  config.outSampleRate * maxPlaybackQueueSeconds

structure WriteFrame where
  datalen : Nat
  samples : Nat
  buflen : Nat
  deriving DecidableEq, Repr

namespace WriteFrame

def bytesNeeded (frame : WriteFrame) : Nat :=
  if frame.datalen > frame.buflen then frame.buflen else frame.datalen

def bytesPerSample (frame : WriteFrame) : Nat := frame.datalen / frame.samples

def refillThreshold (frame : WriteFrame) : Nat := frame.bytesNeeded * 2 % 2 ^ 32

end WriteFrame

structure WriteCall where
  frame : WriteFrame
  inuse : Nat
  chunkEnqueued : Bool := false
  terminalClose : Bool := false
  deriving DecidableEq, Repr

def WriteCall.outputSize (call : WriteCall) : Nat :=
  if call.inuse > call.frame.bytesNeeded then call.frame.bytesNeeded else call.inuse

/-- Where the media thread stands inside `write_frame`. -/
inductive WriteFramePc (β : Type*) where
  | idle
  | consumePlaybackClear (call : WriteCall)
  | snapshotTerminalClose (call : WriteCall)
  | popChunk (call : WriteCall)
  | writeChunk (call : WriteCall) (chunk : List (Sample β))
  | drained (call : WriteCall)
  | terminalCheck (call : WriteCall)
  | output (call : WriteCall)
  deriving DecidableEq, Repr

inductive WsAction (β : Type*) where
  | clearAudioQueue
  | requestPlaybackClear
  | storeResponseAudioDone (done : Bool)
  | pushAudioQueue (audio : List (Sample β))
  | storeTerminalClose
  | requestMediaBugClose
  deriving DecidableEq, Repr

/-- A callback of the WebSocket, with audio already through `convertRawAudio`. -/
inductive WsMessage (β : Type*) where
  | binaryAudio (converted : List (Sample β))
  | audioDelta (converted : List (Sample β))
  | audioDone
  | speechStarted
  | otherMessage
  | opened
  | errored
  | closed
  deriving DecidableEq, Repr

/-- A byte of the frame that is handed back: untouched, audio, or padding. -/
inductive FrameByte (β : Type*) where
  | original
  | audio (value : β)
  | silence
  deriving DecidableEq, Repr

inductive PlaybackEvent (β : Type*) where
  | connectionClosed
  | accepted (bytes : List β)
  | rejected
  | queueCleared (bytes : List β)
  | clearRequested
  | doneStored (done : Bool)
  | terminalStored
  | callStarted (frame : WriteFrame)
  | clearConsumed (requested : Bool)
  | bufferZeroed (bytes : List β)
  | popFailed
  | chunkDropped (bytes : List β)
  | tossed (bytes : List β)
  | frameReplaced (audio : List β) (data : List (FrameByte β)) (samples : Nat)
  | speechStarted (notified : Bool)
  | speechStopped (notified : Bool)
  | closeRequested
  deriving DecidableEq, Repr

structure PlaybackState (β : Type*) where
  audioQueue : AudioQueue β := {}
  playbackClearGen : Nat := 0
  playbackClearGenSeen : Nat := 0
  openaiSpeaking : Bool := false
  responseAudioDone : Bool := false
  terminalClose : Bool := false
  playbackBuffer : BoundedFifo β := .create playbackBuflen
  audioPaused : Bool := false
  openaiAudioMuted : Bool := false
  closeRequested : Bool := false
  -- what is left of the handler that the WebSocket thread is running
  handler : List (WsAction β) := []
  media : WriteFramePc β := .idle
  deriving DecidableEq

inductive PlaybackStep (β : Type*) where
  | message (located : Bool) (received : WsMessage β)
  | webSocket
  | pauseresume (pause : Bool)
  | setOpenaiMute (mute : Bool)
  | writeFrame (frame : WriteFrame)
  | media (located : Bool)
  deriving DecidableEq, Repr

section

variable {β : Type*}

/-- The handler of a message, in program order. `located` says whether
`switch_core_session_locate` finds the session; binary audio does not ask. -/
def WsMessage.handler (config : PlaybackConfig) (located : Bool) : WsMessage β → List (WsAction β)
  | .binaryAudio converted =>
      if converted.isEmpty then [] else [.storeResponseAudioDone false, .pushAudioQueue converted]
  | .audioDelta converted =>
      if !located then []
      else .storeResponseAudioDone false ::
        if converted.isEmpty then [] else [.pushAudioQueue converted]
  | .audioDone => if located then [.storeResponseAudioDone true] else []
  | .speechStarted => if located then [.clearAudioQueue, .requestPlaybackClear] else []
  | .otherMessage => []
  | .opened => []
  | .errored =>
      if located && !config.automaticReconnection then [.requestMediaBugClose] else []
  | .closed =>
      -- m_terminal_close is stored last: whoever sees it also sees the done flag
      if located && !config.automaticReconnection then
        [.storeResponseAudioDone true, .storeTerminalClose]
      else []

def WsMessage.announcement : WsMessage β → List (PlaybackEvent β)
  | .closed => [.connectionClosed]
  | _ => []

def webSocketStep (config : PlaybackConfig) (state : PlaybackState β) :
    Option (PlaybackState β × List (PlaybackEvent β)) :=
  match state.handler with
  | [] => none
  | .clearAudioQueue :: rest =>
      some ({ state with audioQueue := state.audioQueue.clearAudioQueue, handler := rest },
        [.queueCleared state.audioQueue.bytes])
  | .requestPlaybackClear :: rest =>
      some ({ state with playbackClearGen := state.playbackClearGen + 1, handler := rest },
        [.clearRequested])
  | .storeResponseAudioDone done :: rest =>
      some ({ state with responseAudioDone := done, handler := rest }, [.doneStored done])
  | .pushAudioQueue audio :: rest =>
      let limit := maxPlaybackQueueSamples config
      some ({ state with
          audioQueue := state.audioQueue.pushAudioQueue limit audio
          handler := rest },
        if state.audioQueue.accepts limit audio then [.accepted (sampleBytes audio)]
        else [.rejected])
  | .storeTerminalClose :: rest =>
      some ({ state with terminalClose := true, handler := rest }, [.terminalStored])
  | .requestMediaBugClose :: rest =>
      some ({ state with closeRequested := true, handler := rest }, [])

def enterWriteFrame (state : PlaybackState β) (frame : WriteFrame) :
    PlaybackState β × List (PlaybackEvent β) :=
  if state.audioPaused || frame.samples == 0 || frame.datalen == 0 then (state, [])
  else
    ({ state with
        media := .consumePlaybackClear { frame := frame, inuse := state.playbackBuffer.inuse } },
      [.callStarted frame])

def consumePlaybackClear (located : Bool) (state : PlaybackState β) (call : WriteCall) :
    PlaybackState β × List (PlaybackEvent β) :=
  if state.playbackClearGen = state.playbackClearGenSeen then
    ({ state with media := .snapshotTerminalClose call }, [.clearConsumed false])
  else
    ({ state with
        playbackClearGenSeen := state.playbackClearGen
        playbackBuffer := state.playbackBuffer.zero
        openaiSpeaking := false
        media := .snapshotTerminalClose { call with inuse := 0 } },
      [.clearConsumed true, .bufferZeroed state.playbackBuffer.contents] ++
        if state.openaiSpeaking then [.speechStopped located] else [])

def afterRefill (call : WriteCall) : WriteFramePc β :=
  if !call.chunkEnqueued && call.inuse == 0 then .drained call else .output call

def popChunk (config : PlaybackConfig) (state : PlaybackState β) (call : WriteCall) :
    PlaybackState β × List (PlaybackEvent β) :=
  if call.inuse < call.frame.refillThreshold then
    match state.audioQueue.popAudioQueue (maxPlaybackQueueSamples config) with
    | none => ({ state with media := afterRefill call }, [.popFailed])
    | some (chunk, rest) =>
        ({ state with audioQueue := rest, media := .writeChunk call chunk }, [])
  else ({ state with media := afterRefill call }, [])

def writeChunk (state : PlaybackState β) (call : WriteCall) (chunk : List (Sample β)) :
    PlaybackState β × List (PlaybackEvent β) :=
  let written := state.playbackBuffer.write (sampleBytes chunk)
  if written.1 = 0 then
    -- "playback buffer full, dropping audio chunk"
    ({ state with media := afterRefill call }, [.chunkDropped (sampleBytes chunk)])
  else
    ({ state with
        playbackBuffer := written.2
        media := .popChunk { call with inuse := written.2.inuse, chunkEnqueued := true } }, [])

def drainedCheck (located : Bool) (state : PlaybackState β) (call : WriteCall) :
    PlaybackState β × List (PlaybackEvent β) :=
  if state.openaiSpeaking && state.responseAudioDone then
    ({ state with openaiSpeaking := false, media := .terminalCheck call },
      [.speechStopped located])
  else ({ state with media := .terminalCheck call }, [])

def terminalCheck (state : PlaybackState β) (call : WriteCall) :
    PlaybackState β × List (PlaybackEvent β) :=
  if call.terminalClose then
    ({ state with closeRequested := true, media := .idle }, [.closeRequested])
  else ({ state with media := .idle }, [])

def overwrite {γ : Type*} (data : List γ) (offset : Nat) (source : List γ) : List γ :=
  data.take offset ++ source ++ data.drop (offset + source.length)

/-- `frame->data` after the read and the padding, cut to the new `datalen`. -/
def frameData (frame : WriteFrame) (inuse : Nat) (audio : List β) : List (FrameByte β) :=
  let data := overwrite (.replicate frame.buflen .original) 0 (audio.map .audio)
  let padded :=
    if inuse < frame.bytesNeeded then
      overwrite data inuse (.replicate (frame.bytesNeeded - inuse) .silence)
    else data
  padded.take frame.bytesNeeded

def outputFrame (located : Bool) (state : PlaybackState β) (call : WriteCall) :
    Option (PlaybackState β × List (PlaybackEvent β)) :=
  let inuse := call.outputSize
  if state.openaiAudioMuted then
    some ({ state with playbackBuffer := state.playbackBuffer.toss inuse, media := .idle },
      [.tossed (state.playbackBuffer.contents.take inuse)])
  -- `bytes_needed / bytes_per_sample` traps on a frame of less than a byte a sample
  else if call.frame.bytesPerSample = 0 then none
  else
    let taken := state.playbackBuffer.read inuse
    some ({ state with playbackBuffer := taken.2, openaiSpeaking := true, media := .idle },
      (if state.openaiSpeaking then [] else [.speechStarted located]) ++
        [.frameReplaced taken.1 (frameData call.frame inuse taken.1)
          (call.frame.bytesNeeded / call.frame.bytesPerSample)])

def mediaStep (config : PlaybackConfig) (located : Bool) (state : PlaybackState β) :
    Option (PlaybackState β × List (PlaybackEvent β)) :=
  match state.media with
  | .idle => none
  | .consumePlaybackClear call => some (consumePlaybackClear located state call)
  | .snapshotTerminalClose call =>
      some ({ state with media := .popChunk { call with terminalClose := state.terminalClose } },
        [])
  | .popChunk call => some (popChunk config state call)
  | .writeChunk call chunk => some (writeChunk state call chunk)
  | .drained call => some (drainedCheck located state call)
  | .terminalCheck call => some (terminalCheck state call)
  | .output call => outputFrame located state call

def playbackStep (config : PlaybackConfig) (state : PlaybackState β) :
    PlaybackStep β → Option (PlaybackState β × List (PlaybackEvent β))
  | .message located received =>
      if state.handler.isEmpty then
        some ({ state with handler := received.handler config located }, received.announcement)
      else none
  | .webSocket => webSocketStep config state
  | .pauseresume pause => some ({ state with audioPaused := pause }, [])
  | .setOpenaiMute mute => some ({ state with openaiAudioMuted := mute }, [])
  | .writeFrame frame =>
      match state.media with
      | .idle => some (enterWriteFrame state frame)
      | _ => none
  | .media located => mediaStep config located state

end

end OpenaiAudioStream
