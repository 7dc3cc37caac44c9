import OpenaiAudioStream.PlaybackCore

/-!
Everything one step of the playback machine can do, as one constructor for each
outcome. Invariants are proved by cases on these and never unfold the step.
-/

namespace OpenaiAudioStream

variable {β : Type*}

inductive PlaybackTransition (config : PlaybackConfig) : PlaybackState β → PlaybackStep β →
    PlaybackState β → List (PlaybackEvent β) → Prop
  | message {state} (located received) : state.handler = [] →
      PlaybackTransition config state (.message located received)
        { state with handler := received.handler config located } received.announcement
  | clearQueue {state} (rest) : state.handler = .clearAudioQueue :: rest →
      PlaybackTransition config state .webSocket
        { state with audioQueue := state.audioQueue.clearAudioQueue, handler := rest }
        [.queueCleared state.audioQueue.bytes]
  | requestClear {state} (rest) : state.handler = .requestPlaybackClear :: rest →
      PlaybackTransition config state .webSocket
        { state with playbackClearGen := state.playbackClearGen + 1, handler := rest }
        [.clearRequested]
  | storeDone {state} (done rest) : state.handler = .storeResponseAudioDone done :: rest →
      PlaybackTransition config state .webSocket
        { state with responseAudioDone := done, handler := rest } [.doneStored done]
  | pushAccepted {state} (audio rest) : state.handler = .pushAudioQueue audio :: rest →
      state.audioQueue.accepts (maxPlaybackQueueSamples config) audio = true →
      PlaybackTransition config state .webSocket
        { state with
          audioQueue := state.audioQueue.pushAudioQueue (maxPlaybackQueueSamples config) audio
          handler := rest }
        [.accepted (sampleBytes audio)]
  | pushRejected {state} (audio rest) : state.handler = .pushAudioQueue audio :: rest →
      state.audioQueue.accepts (maxPlaybackQueueSamples config) audio = false →
      PlaybackTransition config state .webSocket
        { state with
          audioQueue := state.audioQueue.pushAudioQueue (maxPlaybackQueueSamples config) audio
          handler := rest }
        [.rejected]
  | storeTerminal {state} (rest) : state.handler = .storeTerminalClose :: rest →
      PlaybackTransition config state .webSocket
        { state with terminalClose := true, handler := rest } [.terminalStored]
  | requestClose {state} (rest) : state.handler = .requestMediaBugClose :: rest →
      PlaybackTransition config state .webSocket
        { state with closeRequested := true, handler := rest } []
  | pauseresume {state} (pause) :
      PlaybackTransition config state (.pauseresume pause) { state with audioPaused := pause } []
  | setOpenaiMute {state} (mute) :
      PlaybackTransition config state (.setOpenaiMute mute)
        { state with openaiAudioMuted := mute } []
  | skipped {state} (frame) : state.media = .idle →
      PlaybackTransition config state (.writeFrame frame) state []
  | entered {state} (frame) : state.media = .idle → state.audioPaused = false →
      frame.samples ≠ 0 → frame.datalen ≠ 0 →
      PlaybackTransition config state (.writeFrame frame)
        { state with
          media := .consumePlaybackClear { frame := frame, inuse := state.playbackBuffer.inuse } }
        [.callStarted frame]
  | clearAbsent {state} (located call) : state.media = .consumePlaybackClear call →
      state.playbackClearGen = state.playbackClearGenSeen →
      PlaybackTransition config state (.media located)
        { state with media := .snapshotTerminalClose call } [.clearConsumed false]
  | clearSeen {state} (located call) : state.media = .consumePlaybackClear call →
      state.playbackClearGen ≠ state.playbackClearGenSeen →
      PlaybackTransition config state (.media located)
        { state with
          playbackClearGenSeen := state.playbackClearGen
          playbackBuffer := state.playbackBuffer.zero
          openaiSpeaking := false
          media := .snapshotTerminalClose { call with inuse := 0 } }
        ([.clearConsumed true, .bufferZeroed state.playbackBuffer.contents] ++
          if state.openaiSpeaking then [.speechStopped located] else [])
  | snapshot {state} (located call) : state.media = .snapshotTerminalClose call →
      PlaybackTransition config state (.media located)
        { state with media := .popChunk { call with terminalClose := state.terminalClose } } []
  | popEmpty {state} (located call) : state.media = .popChunk call →
      call.inuse < call.frame.refillThreshold → state.audioQueue.chunks = [] →
      PlaybackTransition config state (.media located)
        { state with media := afterRefill call } [.popFailed]
  | popped {state} (located call chunk rest) : state.media = .popChunk call →
      call.inuse < call.frame.refillThreshold →
      state.audioQueue.popAudioQueue (maxPlaybackQueueSamples config) = some (chunk, rest) →
      PlaybackTransition config state (.media located)
        { state with audioQueue := rest, media := .writeChunk call chunk } []
  | refilled {state} (located call) : state.media = .popChunk call →
      call.frame.refillThreshold ≤ call.inuse →
      PlaybackTransition config state (.media located)
        { state with media := afterRefill call } []
  | written {state} (located call chunk) : state.media = .writeChunk call chunk →
      (state.playbackBuffer.write (sampleBytes chunk)).1 ≠ 0 →
      PlaybackTransition config state (.media located)
        { state with
          playbackBuffer := (state.playbackBuffer.write (sampleBytes chunk)).2
          media := .popChunk { call with
            inuse := (state.playbackBuffer.write (sampleBytes chunk)).2.inuse
            chunkEnqueued := true } }
        []
  | dropped {state} (located call chunk) : state.media = .writeChunk call chunk →
      (state.playbackBuffer.write (sampleBytes chunk)).1 = 0 →
      PlaybackTransition config state (.media located)
        { state with media := afterRefill call } [.chunkDropped (sampleBytes chunk)]
  | drainedStop {state} (located call) : state.media = .drained call →
      state.openaiSpeaking = true → state.responseAudioDone = true →
      PlaybackTransition config state (.media located)
        { state with openaiSpeaking := false, media := .terminalCheck call }
        [.speechStopped located]
  | drainedSilent {state} (located call) : state.media = .drained call →
      ¬(state.openaiSpeaking = true ∧ state.responseAudioDone = true) →
      PlaybackTransition config state (.media located)
        { state with media := .terminalCheck call } []
  | closeStream {state} (located call) : state.media = .terminalCheck call →
      call.terminalClose = true →
      PlaybackTransition config state (.media located)
        { state with closeRequested := true, media := .idle } [.closeRequested]
  | keepStream {state} (located call) : state.media = .terminalCheck call →
      call.terminalClose = false →
      PlaybackTransition config state (.media located) { state with media := .idle } []
  | tossed {state} (located call) : state.media = .output call →
      state.openaiAudioMuted = true →
      PlaybackTransition config state (.media located)
        { state with
          playbackBuffer := state.playbackBuffer.toss call.outputSize
          media := .idle }
        [.tossed (state.playbackBuffer.contents.take call.outputSize)]
  | emitted {state} (located call) : state.media = .output call →
      state.openaiAudioMuted = false → call.frame.bytesPerSample ≠ 0 →
      PlaybackTransition config state (.media located)
        { state with
          playbackBuffer := state.playbackBuffer.toss call.outputSize
          openaiSpeaking := true
          media := .idle }
        ((if state.openaiSpeaking then [] else [.speechStarted located]) ++
          [.frameReplaced (state.playbackBuffer.contents.take call.outputSize)
            (frameData call.frame call.outputSize
              (state.playbackBuffer.contents.take call.outputSize))
            (call.frame.bytesNeeded / call.frame.bytesPerSample)])

theorem webSocketStep_transition {config : PlaybackConfig} {state next : PlaybackState β}
    {events : List (PlaybackEvent β)} (taken : webSocketStep config state = some (next, events)) :
    PlaybackTransition config state .webSocket next events := by
  unfold webSocketStep at taken
  split at taken
  · simp at taken
  · rename_i rest found
    cases taken
    exact .clearQueue rest found
  · rename_i rest found
    cases taken
    exact .requestClear rest found
  · rename_i done rest found
    cases taken
    exact .storeDone done rest found
  · rename_i audio rest found
    by_cases accepted : state.audioQueue.accepts (maxPlaybackQueueSamples config) audio = true
    · simp only [accepted, if_true] at taken
      cases taken
      exact .pushAccepted audio rest found accepted
    · simp only [accepted] at taken
      cases taken
      exact .pushRejected audio rest found (by simpa using accepted)
  · rename_i rest found
    cases taken
    exact .storeTerminal rest found
  · rename_i rest found
    cases taken
    exact .requestClose rest found

theorem enterWriteFrame_transition (config : PlaybackConfig) {state : PlaybackState β}
    (frame : WriteFrame) (idle : state.media = .idle) :
    PlaybackTransition config state (.writeFrame frame) (enterWriteFrame state frame).1
      (enterWriteFrame state frame).2 := by
  unfold enterWriteFrame
  split
  · exact .skipped frame idle
  · rename_i usable
    simp only [Bool.or_eq_true, beq_iff_eq, not_or, Bool.not_eq_true] at usable
    exact .entered frame idle usable.1.1 usable.1.2 usable.2

theorem consumePlaybackClear_transition (config : PlaybackConfig) {state : PlaybackState β}
    (located : Bool) {call : WriteCall} (standing : state.media = .consumePlaybackClear call) :
    PlaybackTransition config state (.media located) (consumePlaybackClear located state call).1
      (consumePlaybackClear located state call).2 := by
  unfold consumePlaybackClear
  split
  · rename_i same
    exact .clearAbsent located call standing same
  · rename_i different
    exact .clearSeen located call standing different

theorem popChunk_transition (config : PlaybackConfig) {state : PlaybackState β} (located : Bool)
    {call : WriteCall} (standing : state.media = .popChunk call) :
    PlaybackTransition config state (.media located) (popChunk config state call).1
      (popChunk config state call).2 := by
  unfold popChunk
  split
  · rename_i low
    split
    · rename_i failed
      exact .popEmpty located call standing low (AudioQueue.pop_none failed)
    · rename_i chunk rest found
      exact .popped located call chunk rest standing low found
  · rename_i high
    exact .refilled located call standing (by omega)

theorem writeChunk_transition (config : PlaybackConfig) {state : PlaybackState β} (located : Bool)
    {call : WriteCall} {chunk : List (Sample β)} (standing : state.media = .writeChunk call chunk) :
    PlaybackTransition config state (.media located) (writeChunk state call chunk).1
      (writeChunk state call chunk).2 := by
  unfold writeChunk
  simp only
  split
  · rename_i full
    exact .dropped located call chunk standing full
  · rename_i room
    exact .written located call chunk standing room

theorem drainedCheck_transition (config : PlaybackConfig) {state : PlaybackState β}
    (located : Bool) {call : WriteCall} (standing : state.media = .drained call) :
    PlaybackTransition config state (.media located) (drainedCheck located state call).1
      (drainedCheck located state call).2 := by
  unfold drainedCheck
  split
  · rename_i finished
    simp only [Bool.and_eq_true] at finished
    exact .drainedStop located call standing finished.1 finished.2
  · rename_i unfinished
    simp only [Bool.and_eq_true] at unfinished
    exact .drainedSilent located call standing unfinished

theorem terminalCheck_transition (config : PlaybackConfig) {state : PlaybackState β}
    (located : Bool) {call : WriteCall} (standing : state.media = .terminalCheck call) :
    PlaybackTransition config state (.media located) (terminalCheck state call).1
      (terminalCheck state call).2 := by
  unfold terminalCheck
  split
  · rename_i terminal
    exact .closeStream located call standing terminal
  · rename_i open_
    exact .keepStream located call standing (by simpa using open_)

theorem outputFrame_transition (config : PlaybackConfig) {state next : PlaybackState β}
    {located : Bool} {call : WriteCall} {events : List (PlaybackEvent β)}
    (standing : state.media = .output call)
    (taken : outputFrame located state call = some (next, events)) :
    PlaybackTransition config state (.media located) next events := by
  unfold outputFrame at taken
  simp only [BoundedFifo.read_fst, BoundedFifo.read_snd] at taken
  split at taken
  · rename_i muted
    cases taken
    exact .tossed located call standing muted
  · rename_i audible
    split at taken
    · cases taken
    · rename_i divides
      cases taken
      exact .emitted located call standing (by simpa using audible) divides

theorem mediaStep_transition {config : PlaybackConfig} {state next : PlaybackState β}
    {located : Bool} {events : List (PlaybackEvent β)}
    (taken : mediaStep config located state = some (next, events)) :
    PlaybackTransition config state (.media located) next events := by
  unfold mediaStep at taken
  split at taken
  · simp at taken
  · rename_i call standing
    have outcome := consumePlaybackClear_transition config located standing
    simp only [Option.some.injEq] at taken
    rwa [taken] at outcome
  · rename_i call standing
    cases taken
    exact .snapshot located call standing
  · rename_i call standing
    have outcome := popChunk_transition config located standing
    simp only [Option.some.injEq] at taken
    rwa [taken] at outcome
  · rename_i call chunk standing
    have outcome := writeChunk_transition config located standing
    simp only [Option.some.injEq] at taken
    rwa [taken] at outcome
  · rename_i call standing
    have outcome := drainedCheck_transition config located standing
    simp only [Option.some.injEq] at taken
    rwa [taken] at outcome
  · rename_i call standing
    have outcome := terminalCheck_transition config located standing
    simp only [Option.some.injEq] at taken
    rwa [taken] at outcome
  · rename_i call standing
    exact outputFrame_transition config standing taken

/-- The inversion of a step: every step taken is one of the listed transitions. -/
theorem playbackStep_transition {config : PlaybackConfig} {state next : PlaybackState β}
    {label : PlaybackStep β} {events : List (PlaybackEvent β)}
    (taken : playbackStep config state label = some (next, events)) :
    PlaybackTransition config state label next events := by
  cases label with
  | message located received =>
      simp only [playbackStep] at taken
      split at taken
      · rename_i free
        cases taken
        exact .message located received (by simpa using free)
      · simp at taken
  | webSocket => exact webSocketStep_transition taken
  | pauseresume pause =>
      cases taken
      exact .pauseresume pause
  | setOpenaiMute mute =>
      cases taken
      exact .setOpenaiMute mute
  | writeFrame frame =>
      simp only [playbackStep] at taken
      split at taken
      · rename_i idle
        have outcome := enterWriteFrame_transition config frame idle
        simp only [Option.some.injEq] at taken
        rwa [taken] at outcome
      · simp at taken
  | media located => exact mediaStep_transition taken

end OpenaiAudioStream
