import OpenaiAudioStream.PlaybackHistory

/-!
The tags of an observed run are ghosts. The machine does not look at its bytes, so
a map of bytes commutes with every step; erasing the tags of all observed runs
gives exactly the runs of the machine on the bytes that arrive.
-/

namespace OpenaiAudioStream

section

variable {β γ : Type*}

def WriteFramePc.map (f : β → γ) : WriteFramePc β → WriteFramePc γ
  | .idle => .idle
  | .consumePlaybackClear call => .consumePlaybackClear call
  | .snapshotTerminalClose call => .snapshotTerminalClose call
  | .popChunk call => .popChunk call
  | .writeChunk call chunk => .writeChunk call (chunk.map (Prod.map f f))
  | .drained call => .drained call
  | .terminalCheck call => .terminalCheck call
  | .output call => .output call

def WsAction.map (f : β → γ) : WsAction β → WsAction γ
  | .clearAudioQueue => .clearAudioQueue
  | .requestPlaybackClear => .requestPlaybackClear
  | .storeResponseAudioDone done => .storeResponseAudioDone done
  | .pushAudioQueue audio => .pushAudioQueue (audio.map (Prod.map f f))
  | .storeTerminalClose => .storeTerminalClose
  | .requestMediaBugClose => .requestMediaBugClose

def FrameByte.map (f : β → γ) : FrameByte β → FrameByte γ
  | .original => .original
  | .audio value => .audio (f value)
  | .silence => .silence

def PlaybackEvent.map (f : β → γ) : PlaybackEvent β → PlaybackEvent γ
  | .connectionClosed => .connectionClosed
  | .accepted bytes => .accepted (bytes.map f)
  | .rejected => .rejected
  | .queueCleared bytes => .queueCleared (bytes.map f)
  | .clearRequested => .clearRequested
  | .doneStored done => .doneStored done
  | .terminalStored => .terminalStored
  | .callStarted frame => .callStarted frame
  | .clearConsumed requested => .clearConsumed requested
  | .bufferZeroed bytes => .bufferZeroed (bytes.map f)
  | .popFailed => .popFailed
  | .chunkDropped bytes => .chunkDropped (bytes.map f)
  | .tossed bytes => .tossed (bytes.map f)
  | .frameReplaced audio data samples =>
      .frameReplaced (audio.map f) (data.map (FrameByte.map f)) samples
  | .speechStarted notified => .speechStarted notified
  | .speechStopped notified => .speechStopped notified
  | .closeRequested => .closeRequested

def PlaybackState.map (f : β → γ) (state : PlaybackState β) : PlaybackState γ where
  audioQueue := state.audioQueue.map f
  playbackClearGen := state.playbackClearGen
  playbackClearGenSeen := state.playbackClearGenSeen
  openaiSpeaking := state.openaiSpeaking
  responseAudioDone := state.responseAudioDone
  terminalClose := state.terminalClose
  playbackBuffer := state.playbackBuffer.map f
  audioPaused := state.audioPaused
  openaiAudioMuted := state.openaiAudioMuted
  closeRequested := state.closeRequested
  handler := state.handler.map (WsAction.map f)
  media := state.media.map f

def mapOutcome (f : β → γ) (outcome : PlaybackState β × List (PlaybackEvent β)) :
    PlaybackState γ × List (PlaybackEvent γ) :=
  (outcome.1.map f, outcome.2.map (PlaybackEvent.map f))

theorem accepts_map (f : β → γ) (limit : Nat) (queue : AudioQueue β) (audio : List (Sample β)) :
    (queue.map f).accepts limit (audio.map (Prod.map f f)) = queue.accepts limit audio := by
  simp [AudioQueue.accepts, AudioQueue.map]

theorem pushAudioQueue_map (f : β → γ) (limit : Nat) (queue : AudioQueue β)
    (audio : List (Sample β)) :
    (queue.map f).pushAudioQueue limit (audio.map (Prod.map f f)) =
      (queue.pushAudioQueue limit audio).map f := by
  simp only [AudioQueue.pushAudioQueue, accepts_map, List.length_map]
  split
  · simp only [AudioQueue.map, AudioQueue.mk.injEq, and_true]
    split
    · simp
    · simp [rechunk, rechunkFrom_map]
  · rfl

theorem popAudioQueue_map (f : β → γ) (limit : Nat) (queue : AudioQueue β) :
    (queue.map f).popAudioQueue limit = (queue.popAudioQueue limit).map
      (Prod.map (List.map (Prod.map f f)) (AudioQueue.map f)) := by
  obtain ⟨chunks, samples, logged⟩ := queue
  cases chunks with
  | nil => rfl
  | cons chunk rest => simp [AudioQueue.popAudioQueue, AudioQueue.map]

theorem audioQueue_bytes_map (f : β → γ) (queue : AudioQueue β) :
    (queue.map f).bytes = queue.bytes.map f := by
  simp [AudioQueue.bytes, AudioQueue.map, ← sampleBytes_map, List.map_flatten]

theorem handler_map (f : β → γ) (config : PlaybackConfig) (located : Bool)
    (received : WsMessage β) :
    (received.map f).handler config located =
      (received.handler config located).map (WsAction.map f) := by
  cases received with
  | binaryAudio converted =>
      simp only [WsMessage.map, WsMessage.handler, List.isEmpty_map]
      split <;> rfl
  | audioDelta converted =>
      simp only [WsMessage.map, WsMessage.handler, List.isEmpty_map]
      split
      · rfl
      · split <;> rfl
  | otherMessage | opened => rfl
  | audioDone | speechStarted | errored | closed =>
      simp only [WsMessage.map, WsMessage.handler]
      split <;> rfl

theorem webSocketStep_map (f : β → γ) (config : PlaybackConfig) (state : PlaybackState β) :
    webSocketStep config (state.map f) = (webSocketStep config state).map (mapOutcome f) := by
  obtain ⟨_, _, _, _, _, _, _, _, _, _, handler, _⟩ := state
  cases handler with
  | nil => rfl
  | cons action rest =>
      cases action with
      | clearAudioQueue =>
          simp [webSocketStep, PlaybackState.map, WsAction.map, mapOutcome, PlaybackEvent.map,
            audioQueue_bytes_map]
          rfl
      | pushAudioQueue audio =>
          simp only [webSocketStep, PlaybackState.map, WsAction.map, List.map_cons, accepts_map,
            pushAudioQueue_map]
          split <;> simp [mapOutcome, PlaybackState.map, PlaybackEvent.map, sampleBytes_map]
      | _ => rfl

theorem enterWriteFrame_map (f : β → γ) (state : PlaybackState β) (frame : WriteFrame) :
    enterWriteFrame (state.map f) frame = mapOutcome f (enterWriteFrame state frame) := by
  cases skipped : state.audioPaused || frame.samples == 0 || frame.datalen == 0 with
  | true =>
      simp only [enterWriteFrame, PlaybackState.map, skipped, if_true, mapOutcome, List.map_nil]
  | false =>
      simp only [enterWriteFrame, PlaybackState.map, skipped, Bool.false_eq_true, if_false,
        mapOutcome, BoundedFifo.inuse_map]
      rfl

theorem afterRefill_map (f : β → γ) (call : WriteCall) :
    (afterRefill call : WriteFramePc β).map f = afterRefill call := by
  unfold afterRefill
  split <;> rfl

theorem consumePlaybackClear_map (f : β → γ) (located : Bool) (state : PlaybackState β)
    (call : WriteCall) :
    consumePlaybackClear located (state.map f) call =
      mapOutcome f (consumePlaybackClear located state call) := by
  by_cases seen : state.playbackClearGen = state.playbackClearGenSeen
  · simp [consumePlaybackClear, PlaybackState.map, seen, mapOutcome, PlaybackEvent.map,
      WriteFramePc.map]
  · cases speaking : state.openaiSpeaking <;>
      simp [consumePlaybackClear, PlaybackState.map, seen, speaking, mapOutcome,
        PlaybackEvent.map, WriteFramePc.map, BoundedFifo.zero_map]

theorem popChunk_map (f : β → γ) (config : PlaybackConfig) (state : PlaybackState β)
    (call : WriteCall) :
    popChunk config (state.map f) call = mapOutcome f (popChunk config state call) := by
  by_cases refills : call.inuse < call.frame.refillThreshold
  · simp only [popChunk, PlaybackState.map, popAudioQueue_map, if_pos refills]
    cases state.audioQueue.popAudioQueue (maxPlaybackQueueSamples config) with
    | none => simp [mapOutcome, PlaybackState.map, PlaybackEvent.map, afterRefill_map]
    | some popped => rfl
  · simp [popChunk, refills, mapOutcome, PlaybackState.map, afterRefill_map]

theorem writeChunk_map (f : β → γ) (state : PlaybackState β) (call : WriteCall)
    (chunk : List (Sample β)) :
    writeChunk (state.map f) call (chunk.map (Prod.map f f)) =
      mapOutcome f (writeChunk state call chunk) := by
  by_cases full : (state.playbackBuffer.write (sampleBytes chunk)).1 = 0
  · simp [writeChunk, PlaybackState.map, sampleBytes_map, BoundedFifo.write_map, full,
      mapOutcome, PlaybackEvent.map, afterRefill_map]
  · simp [writeChunk, PlaybackState.map, sampleBytes_map, BoundedFifo.write_map, full,
      mapOutcome, WriteFramePc.map, BoundedFifo.inuse_map]

theorem drainedCheck_map (f : β → γ) (located : Bool) (state : PlaybackState β)
    (call : WriteCall) :
    drainedCheck located (state.map f) call = mapOutcome f (drainedCheck located state call) := by
  cases stops : state.openaiSpeaking && state.responseAudioDone with
  | true =>
      simp [drainedCheck, PlaybackState.map, stops, mapOutcome, PlaybackEvent.map,
        WriteFramePc.map]
  | false => simp [drainedCheck, PlaybackState.map, stops, mapOutcome, WriteFramePc.map]

theorem terminalCheck_map (f : β → γ) (state : PlaybackState β) (call : WriteCall) :
    terminalCheck (state.map f) call = mapOutcome f (terminalCheck state call) := by
  simp only [terminalCheck]
  cases call.terminalClose <;> rfl

theorem frameData_map (f : β → γ) (frame : WriteFrame) (inuse : Nat) (audio : List β) :
    frameData frame inuse (audio.map f) =
      (frameData frame inuse audio).map (FrameByte.map f) := by
  have values : FrameByte.map f ∘ FrameByte.audio = FrameByte.audio ∘ f := rfl
  by_cases short : inuse < frame.bytesNeeded
  · simp [frameData, short, overwrite, List.map_take, List.map_drop, FrameByte.map, values]
  · simp [frameData, short, overwrite, List.map_take, FrameByte.map, values]

theorem outputFrame_map (f : β → γ) (located : Bool) (state : PlaybackState β)
    (call : WriteCall) :
    outputFrame located (state.map f) call =
      (outputFrame located state call).map (mapOutcome f) := by
  cases muted : state.openaiAudioMuted with
  | true =>
      simp [outputFrame, PlaybackState.map, muted, BoundedFifo.toss_map, mapOutcome,
        PlaybackEvent.map, WriteFramePc.map, List.map_take]
  | false =>
      have taken : (state.playbackBuffer.map f).contents.take call.outputSize =
          (state.playbackBuffer.contents.take call.outputSize).map f := by
        simp [List.map_take]
      simp only [outputFrame, PlaybackState.map, muted, BoundedFifo.read, BoundedFifo.toss_map,
        taken, frameData_map, Bool.false_eq_true, if_false]
      split
      · rfl
      · cases state.openaiSpeaking <;> rfl

theorem mediaStep_map (f : β → γ) (config : PlaybackConfig) (located : Bool)
    (state : PlaybackState β) :
    mediaStep config located (state.map f) =
      (mediaStep config located state).map (mapOutcome f) := by
  have media : (state.map f).media = state.media.map f := rfl
  unfold mediaStep
  rw [media]
  cases state.media with
  | idle => rfl
  | consumePlaybackClear call => exact congrArg some (consumePlaybackClear_map f located state call)
  | snapshotTerminalClose call => rfl
  | popChunk call => exact congrArg some (popChunk_map f config state call)
  | writeChunk call chunk => exact congrArg some (writeChunk_map f state call chunk)
  | drained call => exact congrArg some (drainedCheck_map f located state call)
  | terminalCheck call => exact congrArg some (terminalCheck_map f state call)
  | output call => exact outputFrame_map f located state call

theorem playbackStep_map (f : β → γ) (config : PlaybackConfig) (state : PlaybackState β)
    (label : PlaybackStep β) :
    playbackStep config (state.map f) (label.map f) =
      (playbackStep config state label).map (mapOutcome f) := by
  cases label with
  | message located received =>
      cases free : state.handler.isEmpty with
      | true =>
          simp only [playbackStep, PlaybackStep.map, PlaybackState.map, List.isEmpty_map, free,
            if_true, handler_map, Option.map_some, mapOutcome]
          cases received <;> rfl
      | false => simp [playbackStep, PlaybackStep.map, PlaybackState.map, free]
  | webSocket => exact webSocketStep_map f config state
  | pauseresume pause => rfl
  | setOpenaiMute mute => rfl
  | writeFrame frame =>
      have media : (state.map f).media = state.media.map f := rfl
      simp only [playbackStep, PlaybackStep.map, media]
      cases state.media with
      | idle => exact congrArg some (enterWriteFrame_map f state frame)
      | _ => rfl
  | media located => exact mediaStep_map f config located state

end

section

variable {β : Type*}

def plainStep (config : PlaybackConfig) (plain : PlaybackState β × List (PlaybackEvent β))
    (label : PlaybackStep β) : Option (PlaybackState β × List (PlaybackEvent β)) :=
  (playbackStep config plain.1 label).map fun outcome =>
    (outcome.1, outcome.2.reverse ++ plain.2)

theorem plainStep_transition {config : PlaybackConfig}
    {plain next : PlaybackState β × List (PlaybackEvent β)} {label : PlaybackStep β}
    (taken : plainStep config plain label = some next) :
    ∃ state events, next = (state, events.reverse ++ plain.2) ∧
      PlaybackTransition config plain.1 label state events := by
  simp only [plainStep, Option.map_eq_some_iff] at taken
  obtain ⟨⟨state, events⟩, found, same⟩ := taken
  exact ⟨state, events, same.symm, playbackStep_transition found⟩

def Observed.erase (observed : Observed β) : PlaybackState β × List (PlaybackEvent β) :=
  mapOutcome Tagged.value (observed.state, observed.history)

theorem erase_tag (history : List (PlaybackEvent (Tagged β))) (label : PlaybackStep β) :
    (label.map (tag history)).map Tagged.value = label := by
  have same : Prod.map Tagged.value Tagged.value ∘ Prod.map (tag history) (tag history) = id := rfl
  cases label with
  | message located received =>
      cases received <;> simp [PlaybackStep.map, WsMessage.map, same]
  | _ => rfl

theorem plainStep_erase (config : PlaybackConfig) (observed : Observed β)
    (label : PlaybackStep β) :
    plainStep config observed.erase label =
      (observedStep config observed label).map Observed.erase := by
  have commutes := playbackStep_map Tagged.value config observed.state
    (label.map (tag observed.history))
  rw [erase_tag] at commutes
  simp only [plainStep, observedStep, Observed.erase, mapOutcome, commutes, Option.map_map]
  congr 1
  funext outcome
  simp [Observed.erase, mapOutcome]

/-- A schedule runs on plain bytes exactly when it runs with tags, to the same state
and history without them. -/
theorem plain_run_erases (config : PlaybackConfig) (labels : List (PlaybackStep β)) :
    Runs.run (plainStep config) ({}, []) labels =
      (Runs.run (observedStep config) .initial labels).map Observed.erase :=
  Runs.run_map Observed.erase (plainStep_erase config) .initial labels

end

end OpenaiAudioStream
