import OpenaiAudioStream.PlaybackTransitions

/-!
Runs of the playback machine with their history, newest event first. Each byte
is tagged when it arrives with the number of pushes accepted and of barge-ins
begun before it, so that its origin can be read off wherever it ends up.
-/

namespace OpenaiAudioStream

section

variable {β : Type*}

namespace PlaybackEvent

@[simp] def acceptedBytes : PlaybackEvent β → List β
  | .accepted bytes => bytes
  | _ => []

@[simp] def consumedBytes : PlaybackEvent β → List β
  | .tossed bytes => bytes
  | .frameReplaced audio _ _ => audio
  | _ => []

@[simp] def erasedBytes : PlaybackEvent β → List β
  | .queueCleared bytes => bytes
  | .bufferZeroed bytes => bytes
  | _ => []

@[simp] def droppedBytes : PlaybackEvent β → List β
  | .chunkDropped bytes => bytes
  | _ => []

@[simp] def isAccepted : PlaybackEvent β → Bool
  | .accepted _ => true
  | _ => false

@[simp] def isQueueCleared : PlaybackEvent β → Bool
  | .queueCleared _ => true
  | _ => false

@[simp] def isClearRequested : PlaybackEvent β → Bool
  | .clearRequested => true
  | _ => false

@[simp] def isClearConsumed : PlaybackEvent β → Bool
  | .clearConsumed _ => true
  | _ => false

@[simp] def isDoneStored : PlaybackEvent β → Bool
  | .doneStored true => true
  | _ => false

end PlaybackEvent

def collect (bytes : PlaybackEvent β → List β) : List (PlaybackEvent β) → List β
  | [] => []
  | event :: older => collect bytes older ++ bytes event

abbrev accepted (history : List (PlaybackEvent β)) : List β :=
  collect PlaybackEvent.acceptedBytes history

abbrev consumed (history : List (PlaybackEvent β)) : List β :=
  collect PlaybackEvent.consumedBytes history

abbrev erased (history : List (PlaybackEvent β)) : List β :=
  collect PlaybackEvent.erasedBytes history

abbrev chunksDropped (history : List (PlaybackEvent β)) : List β :=
  collect PlaybackEvent.droppedBytes history

def pushes (history : List (PlaybackEvent β)) : Nat := history.countP (·.isAccepted)

def bargeIns (history : List (PlaybackEvent β)) : Nat := history.countP (·.isQueueCleared)

def requests (history : List (PlaybackEvent β)) : Nat := history.countP (·.isClearRequested)

/-- The increments that came before the latest `consume_playback_clear`. -/
def requestsAtConsume : List (PlaybackEvent β) → Nat
  | [] => 0
  | event :: older => if event.isClearConsumed then requests older else requestsAtConsume older

/-- The pushes accepted before `m_response_audio_done` was last stored true. -/
def pushesAtDone : List (PlaybackEvent β) → Nat
  | [] => 0
  | event :: older => if event.isDoneStored then pushes older else pushesAtDone older

@[simp] theorem collect_nil (bytes : PlaybackEvent β → List β) : collect bytes [] = [] := rfl

@[simp] theorem collect_cons (bytes : PlaybackEvent β → List β) (event : PlaybackEvent β)
    (older : List (PlaybackEvent β)) :
    collect bytes (event :: older) = collect bytes older ++ bytes event := rfl

theorem collect_append (bytes : PlaybackEvent β → List β) (newer older : List (PlaybackEvent β)) :
    collect bytes (newer ++ older) = collect bytes older ++ collect bytes newer := by
  induction newer with
  | nil => simp
  | cons event newer ih => simp [ih]

end

structure Tagged (β : Type*) where
  value : β
  push : Nat
  bargeIn : Nat
  deriving DecidableEq, Repr

structure Observed (β : Type*) where
  state : PlaybackState (Tagged β)
  history : List (PlaybackEvent (Tagged β))
  deriving DecidableEq

section

variable {β γ : Type*}

def tag (history : List (PlaybackEvent (Tagged β))) (value : β) : Tagged β where
  value := value
  push := pushes history
  bargeIn := bargeIns history

def WsMessage.map (f : β → γ) : WsMessage β → WsMessage γ
  | .binaryAudio converted => .binaryAudio (converted.map (Prod.map f f))
  | .audioDelta converted => .audioDelta (converted.map (Prod.map f f))
  | .audioDone => .audioDone
  | .speechStarted => .speechStarted
  | .otherMessage => .otherMessage
  | .opened => .opened
  | .errored => .errored
  | .closed => .closed

def PlaybackStep.map (f : β → γ) : PlaybackStep β → PlaybackStep γ
  | .message located received => .message located (received.map f)
  | .webSocket => .webSocket
  | .pauseresume pause => .pauseresume pause
  | .setOpenaiMute mute => .setOpenaiMute mute
  | .writeFrame frame => .writeFrame frame
  | .media located => .media located

def Observed.initial : Observed β where
  state := {}
  history := []

def observedStep (config : PlaybackConfig) (observed : Observed β) (label : PlaybackStep β) :
    Option (Observed β) :=
  (playbackStep config observed.state (label.map (tag observed.history))).map fun outcome =>
    { state := outcome.1, history := outcome.2.reverse ++ observed.history }

def Reaches (config : PlaybackConfig) (labels : List (PlaybackStep β)) (observed : Observed β) :
    Prop :=
  Runs.run (observedStep config) .initial labels = some observed

theorem observedStep_transition {config : PlaybackConfig} {observed next : Observed β}
    {label : PlaybackStep β} (taken : observedStep config observed label = some next) :
    ∃ state events, next = ⟨state, events.reverse ++ observed.history⟩ ∧
      PlaybackTransition config observed.state (label.map (tag observed.history)) state events := by
  simp only [observedStep, Option.map_eq_some_iff] at taken
  obtain ⟨⟨state, events⟩, found, same⟩ := taken
  exact ⟨state, events, same.symm, playbackStep_transition found⟩

end

/-! Where the audio is: in the playback buffer, in a chunk that was popped and
not yet written, or in the queue. -/

section

variable {β : Type*}

namespace WriteFramePc

def chunkBytes : WriteFramePc β → List β
  | .writeChunk _ chunk => sampleBytes chunk
  | _ => []

def call? : WriteFramePc β → Option WriteCall
  | .idle => none
  | .consumePlaybackClear call => some call
  | .snapshotTerminalClose call => some call
  | .popChunk call => some call
  | .writeChunk call _ => some call
  | .drained call => some call
  | .terminalCheck call => some call
  | .output call => some call

@[simp] theorem chunkBytes_writeChunk (call : WriteCall) (chunk : List (Sample β)) :
    (writeChunk call chunk).chunkBytes = sampleBytes chunk := rfl

@[simp] theorem chunkBytes_eq_nil {pc : WriteFramePc β}
    (elsewhere : ∀ call chunk, pc ≠ .writeChunk call chunk) : pc.chunkBytes = [] := by
  cases pc with
  | writeChunk call chunk => exact absurd rfl (elsewhere call chunk)
  | _ => rfl

end WriteFramePc

@[simp] theorem afterRefill_chunkBytes (call : WriteCall) :
    (afterRefill call : WriteFramePc β).chunkBytes = [] := by
  unfold afterRefill
  split <;> rfl

@[simp] theorem afterRefill_call? (call : WriteCall) :
    (afterRefill call : WriteFramePc β).call? = some call := by
  unfold afterRefill
  split <;> rfl

def pending (state : PlaybackState β) : List β :=
  state.playbackBuffer.contents ++ state.media.chunkBytes ++ state.audioQueue.bytes

/-- One step moves audio in order, apart from bytes that it erases or drops: on
any selection that avoids those, what was pending followed by what is accepted
is what gets consumed followed by what is pending afterwards. -/
theorem transition_flow {config : PlaybackConfig} {state next : PlaybackState β}
    {label : PlaybackStep β} {events : List (PlaybackEvent β)}
    (moved : PlaybackTransition config state label next events) (selected : β → Bool)
    (spared : ∀ byte ∈ erased events.reverse ++ chunksDropped events.reverse,
      selected byte = false) :
    (pending state ++ accepted events.reverse).filter selected =
      (consumed events.reverse ++ pending next).filter selected := by
  have silent (lost : List β) (inside : ∀ byte ∈ lost,
      byte ∈ erased events.reverse ++ chunksDropped events.reverse) :
      lost.filter selected = [] := by
    rw [List.filter_eq_nil_iff]
    intro byte member
    simp [spared byte (inside byte member)]
  cases moved with
  | message located received => cases received <;> simp [pending, WsMessage.announcement]
  | clearQueue rest =>
      have gone := silent state.audioQueue.bytes (by simp)
      simp [pending, gone]
  | pushAccepted audio rest _ taken => simp [pending, AudioQueue.push_bytes_accepted taken]
  | pushRejected audio rest _ refused => simp [pending, AudioQueue.push_bytes_rejected refused]
  | entered frame idle => simp [pending, idle]
  | clearAbsent located call standing => simp [pending, standing]
  | clearSeen located call standing =>
      have gone := silent state.playbackBuffer.contents (by
        cases state.openaiSpeaking <;> simp)
      cases speaking : state.openaiSpeaking <;> simp [pending, standing, gone]
  | snapshot located call standing => simp [pending, standing]
  | popEmpty located call standing => simp [pending, standing]
  | popped located call chunk rest standing _ found =>
      simp [pending, standing, AudioQueue.pop_bytes found]
  | refilled located call standing => simp [pending, standing]
  | written located call chunk standing room =>
      have contents := BoundedFifo.write_contents (BoundedFifo.fits_of_written room)
      simp [pending, standing, contents]
  | dropped located call chunk standing =>
      have gone := silent (sampleBytes chunk) (by simp)
      simp [pending, standing, gone]
  | drainedStop located call standing => simp [pending, standing]
  | drainedSilent located call standing => simp [pending, standing]
  | closeStream located call standing => simp [pending, standing]
  | keepStream located call standing => simp [pending, standing]
  | tossed located call standing =>
      have whole := List.take_append_drop call.outputSize state.playbackBuffer.contents
      simp [pending, standing, ← List.append_assoc, whole]
  | emitted located call standing =>
      have whole := List.take_append_drop call.outputSize state.playbackBuffer.contents
      cases speaking : state.openaiSpeaking <;>
        simp [pending, standing, ← List.append_assoc, whole]
  | _ => simp [pending]

theorem transition_count {config : PlaybackConfig} {state next : PlaybackState β}
    {label : PlaybackStep β} {events : List (PlaybackEvent β)}
    (moved : PlaybackTransition config state label next events) (counted : β → Bool) :
    (pending state).countP counted + (accepted events.reverse).countP counted =
      (consumed events.reverse).countP counted + (erased events.reverse).countP counted +
        (chunksDropped events.reverse).countP counted + (pending next).countP counted := by
  have spared := transition_flow moved
  cases moved with
  | message located received => cases received <;> simp [pending, WsMessage.announcement]
  | clearQueue rest =>
      simp only [pending, List.reverse_cons, List.reverse_nil, List.nil_append, collect_cons,
        collect_nil, List.countP_append, AudioQueue.clear_bytes, PlaybackEvent.acceptedBytes,
        PlaybackEvent.consumedBytes, PlaybackEvent.erasedBytes, PlaybackEvent.droppedBytes,
        List.countP_nil]
      omega
  | clearSeen located call standing =>
      cases speaking : state.openaiSpeaking <;> simp [pending, standing]
  | dropped located call chunk standing =>
      simp only [pending, standing, List.reverse_cons, List.reverse_nil, List.nil_append,
        collect_cons, collect_nil, List.countP_append, WriteFramePc.chunkBytes_writeChunk,
        afterRefill_chunkBytes, PlaybackEvent.acceptedBytes, PlaybackEvent.consumedBytes,
        PlaybackEvent.erasedBytes, PlaybackEvent.droppedBytes, List.countP_nil]
      omega
  | emitted located call standing =>
      have kept := congrArg List.length (spared counted (by
        cases state.openaiSpeaking <;> simp))
      cases speaking : state.openaiSpeaking <;>
        simp_all [pending, List.countP_eq_length_filter]
  | requestClear rest => simp [pending]
  | storeDone done rest => simp [pending]
  | storeTerminal rest => simp [pending]
  | requestClose rest => simp [pending]
  | pauseresume pause => simp [pending]
  | setOpenaiMute mute => simp [pending]
  | skipped frame => simp [pending]
  | _ =>
      have kept := congrArg List.length (spared counted (by simp))
      simpa [List.countP_eq_length_filter] using kept

end

end OpenaiAudioStream
