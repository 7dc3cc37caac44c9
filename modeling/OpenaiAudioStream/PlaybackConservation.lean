import OpenaiAudioStream.PlaybackInvariants

/-!
Playback without a barge-in: the audio handed to frames, what is buffered and
what is queued is the accepted audio, in order, and every frame that is emitted
is complete.
-/

namespace OpenaiAudioStream

section

variable {β : Type*}

def PlaybackStep.isBargeIn : PlaybackStep β → Bool
  | .message located .speechStarted => located
  | _ => false

/-- A write frame of whole 16-bit samples, as FreeSWITCH hands it over for L16. -/
structure L16Frame (frame : WriteFrame) : Prop where
  samples : 0 < frame.samples
  whole : frame.samples ∣ frame.datalen
  even : 2 ∣ frame.datalen
  small : frame.datalen ≤ maxFrameBytes

theorem L16Frame.smallFrame {frame : WriteFrame} (l16 : L16Frame frame) : SmallFrame frame := by
  have small := l16.small
  simp only [SmallFrame, WriteFrame.bytesNeeded]
  split <;> omega

/-! The frame that is handed back. -/

theorem bytesNeeded_eq (frame : WriteFrame) :
    frame.bytesNeeded = min frame.datalen frame.buflen := by
  simp only [WriteFrame.bytesNeeded]
  split <;> omega

theorem outputSize_le (call : WriteCall) : call.outputSize ≤ call.frame.bytesNeeded := by
  simp only [WriteCall.outputSize]
  split <;> omega

theorem outputSize_le_inuse (call : WriteCall) : call.outputSize ≤ call.inuse := by
  simp only [WriteCall.outputSize]
  split <;> omega

theorem overwrite_within {γ : Type*} (data source : List γ) {offset : Nat}
    (inside : offset ≤ data.length) :
    (overwrite data offset source).take (offset + source.length) = data.take offset ++ source := by
  have size : offset + source.length = (data.take offset ++ source).length := by
    simp [Nat.min_eq_left inside]
  rw [overwrite, size, List.take_append_of_le_length (Nat.le_refl _), List.take_length]

theorem frameData_eq (frame : WriteFrame) (audio : List β)
    (fits : audio.length ≤ frame.bytesNeeded) :
    frameData frame audio.length audio =
      audio.map .audio ++ List.replicate (frame.bytesNeeded - audio.length) .silence := by
  have room : frame.bytesNeeded ≤ frame.buflen := by
    rw [bytesNeeded_eq]
    exact Nat.min_le_right _ _
  have filled : (overwrite (List.replicate frame.buflen FrameByte.original) 0
      (audio.map .audio)).take audio.length = audio.map .audio := by
    simpa using overwrite_within (List.replicate frame.buflen FrameByte.original)
      (audio.map .audio) (Nat.zero_le _)
  unfold frameData
  simp only
  split
  · rename_i short
    have inside : audio.length ≤ (overwrite (List.replicate frame.buflen FrameByte.original) 0
        (audio.map .audio)).length := by
      simp [overwrite]
    have padded := overwrite_within _
      (List.replicate (frame.bytesNeeded - audio.length) FrameByte.silence) inside
    rw [filled, List.length_replicate, Nat.add_sub_cancel' (Nat.le_of_lt short)] at padded
    exact padded
  · rename_i full
    have exact : frame.bytesNeeded = audio.length := by omega
    rw [exact, filled]
    simp

/-! The events of the `write_frame` call that is running. -/

def callEvents : List (PlaybackEvent β) → List (PlaybackEvent β)
  | [] => []
  | .callStarted _ :: _ => []
  | event :: older => event :: callEvents older

def loggedFrame : List (PlaybackEvent β) → Option WriteFrame
  | [] => none
  | .callStarted frame :: _ => some frame
  | _ :: older => loggedFrame older

/-- An emitted frame carries the audio that was read, filled up with silence to
the size that was asked for, and silence only after a pop of the same call found
the queue empty. -/
def FrameComplete (older : List (PlaybackEvent β)) : PlaybackEvent β → Prop
  | .frameReplaced audio data _ =>
      ∃ frame, loggedFrame older = some frame ∧
        data = audio.map .audio ++
          List.replicate (min frame.datalen frame.buflen - audio.length) .silence ∧
        data.length = min frame.datalen frame.buflen ∧
        (audio.length < min frame.datalen frame.buflen → .popFailed ∈ callEvents older)
  | _ => True

structure CallLogged (state : PlaybackState β) (history : List (PlaybackEvent β)) : Prop where
  frame : ∀ call, state.media.call? = some call → loggedFrame history = some call.frame
  padded : ∀ call, state.media = .output call → call.inuse < call.frame.bytesNeeded →
    .popFailed ∈ callEvents history

theorem callLogged_afterRefill {state : PlaybackState β} {history : List (PlaybackEvent β)}
    {call : WriteCall} (frame : loggedFrame history = some call.frame)
    (padded : call.inuse < call.frame.bytesNeeded → .popFailed ∈ callEvents history) :
    CallLogged { state with media := afterRefill call } history := by
  refine ⟨by simpa using frame, ?_⟩
  intro other standing
  simp only [afterRefill] at standing
  split at standing
  · simp at standing
  · simp only [WriteFramePc.output.injEq] at standing
    exact standing ▸ padded

theorem callLogged_transition {config : PlaybackConfig} {state next : PlaybackState β}
    {label : PlaybackStep β} {events history : List (PlaybackEvent β)} (playing : Playing state)
    (small : CallFrame SmallFrame state) (logged : CallLogged state history)
    (moved : PlaybackTransition config state label next events) :
    CallLogged next (events.reverse ++ history) := by
  have whole := small_frame_never_drops playing small moved
  obtain ⟨frame, padded⟩ := logged
  cases moved with
  | message located received =>
      cases received <;> exact ⟨by simpa [WsMessage.announcement, loggedFrame] using frame,
        by simpa [WsMessage.announcement, callEvents] using padded⟩
  | entered started => exact ⟨by simp [WriteFramePc.call?, loggedFrame], by simp⟩
  | clearAbsent located call standing =>
      rw [standing] at frame
      exact ⟨by simpa [WriteFramePc.call?, loggedFrame] using frame, by simp⟩
  | clearSeen located call standing =>
      rw [standing] at frame
      refine ⟨?_, by simp⟩
      cases state.openaiSpeaking <;> simpa [WriteFramePc.call?, loggedFrame] using frame
  | snapshot located call standing =>
      rw [standing] at frame
      exact ⟨by simpa [WriteFramePc.call?] using frame, by simp⟩
  | popEmpty located call standing =>
      rw [standing] at frame
      exact callLogged_afterRefill (by simpa [loggedFrame] using frame call rfl)
        (by simp [callEvents])
  | popped located call chunk rest standing =>
      rw [standing] at frame
      exact ⟨by simpa [WriteFramePc.call?] using frame, by simp⟩
  | refilled located call standing high =>
      rw [standing] at frame
      refine callLogged_afterRefill (by simpa using frame call rfl) ?_
      intro short
      -- twice a small frame does not wrap, so the level is above the frame size
      have frameBound : call.frame.bytesNeeded ≤ maxFrameBytes :=
        small call (by simp [standing, WriteFramePc.call?])
      simp only [WriteFrame.refillThreshold, maxFrameBytes] at high frameBound
      omega
  | written located call chunk standing =>
      rw [standing] at frame
      exact ⟨by simpa [WriteFramePc.call?] using frame, by simp⟩
  | dropped located call chunk standing =>
      exact absurd (by simp) (whole (sampleBytes chunk))
  | drainedStop located call standing =>
      rw [standing] at frame
      exact ⟨by simpa [WriteFramePc.call?, loggedFrame] using frame, by simp⟩
  | drainedSilent located call standing =>
      rw [standing] at frame
      exact ⟨by simpa [WriteFramePc.call?] using frame, by simp⟩
  | closeStream => exact ⟨by simp [WriteFramePc.call?], by simp⟩
  | keepStream => exact ⟨by simp [WriteFramePc.call?], by simp⟩
  | tossed => exact ⟨by simp [WriteFramePc.call?], by simp⟩
  | emitted => exact ⟨by simp [WriteFramePc.call?], by simp⟩
  | _ => exact ⟨by simpa [loggedFrame] using frame, by simpa [callEvents] using padded⟩

theorem frameComplete_emitted {state : PlaybackState β} {history : List (PlaybackEvent β)}
    {call : WriteCall} (samples : Nat) (playing : Playing state)
    (logged : CallLogged state history) (standing : state.media = .output call) :
    FrameComplete history (.frameReplaced (state.playbackBuffer.contents.take call.outputSize)
      (frameData call.frame call.outputSize
        (state.playbackBuffer.contents.take call.outputSize)) samples) := by
  have level := playing.call
  simp only [CallConsistent, standing, BoundedFifo.inuse] at level
  have size : (state.playbackBuffer.contents.take call.outputSize).length = call.outputSize := by
    have := outputSize_le_inuse call
    simp only [List.length_take]
    omega
  have data := frameData_eq call.frame (state.playbackBuffer.contents.take call.outputSize)
    (by rw [size]; exact outputSize_le call)
  rw [size, bytesNeeded_eq] at data
  have bound := outputSize_le call
  rw [bytesNeeded_eq] at bound
  refine ⟨call.frame, logged.frame call (by simp [standing, WriteFramePc.call?]), ?_, ?_, ?_⟩
  · rw [size]
    exact data
  · rw [data]
    simp only [List.length_append, List.length_map, List.length_replicate, size]
    omega
  · intro short
    apply logged.padded call standing
    rw [size] at short
    rw [bytesNeeded_eq]
    simp only [WriteCall.outputSize, bytesNeeded_eq] at short
    split at short <;> omega

theorem frameComplete_transition {config : PlaybackConfig} {state next : PlaybackState β}
    {label : PlaybackStep β} {events history : List (PlaybackEvent β)} (playing : Playing state)
    (logged : CallLogged state history)
    (complete : Runs.EveryEvent FrameComplete history)
    (moved : PlaybackTransition config state label next events) :
    Runs.EveryEvent FrameComplete (events.reverse ++ history) := by
  cases moved with
  | message located received =>
      cases received <;>
        simpa [WsMessage.announcement, Runs.EveryEvent, FrameComplete] using complete
  | clearSeen =>
      cases state.openaiSpeaking <;> simpa [Runs.EveryEvent, FrameComplete] using complete
  | emitted located call standing =>
      cases speaking : state.openaiSpeaking with
      | true =>
          have emitted := frameComplete_emitted (call.frame.bytesNeeded /
            call.frame.bytesPerSample) playing logged standing
          simpa [Runs.EveryEvent, complete] using emitted
      | false =>
          have started : CallLogged state (.speechStarted located :: history) :=
            ⟨by simpa [loggedFrame] using logged.frame, by
              intro other position short
              simp [callEvents, logged.padded other position short]⟩
          have emitted := frameComplete_emitted (call.frame.bytesNeeded /
            call.frame.bytesPerSample) playing started standing
          refine ⟨emitted, trivial, complete⟩
  | _ => simpa [Runs.EveryEvent, FrameComplete] using complete

/-! Without a barge-in nothing is erased. -/

structure Undisturbed (state : PlaybackState β) : Prop where
  generation : state.playbackClearGen = state.playbackClearGenSeen
  handler : .clearAudioQueue ∉ state.handler ∧ .requestPlaybackClear ∉ state.handler

theorem handler_undisturbed (config : PlaybackConfig) {located : Bool} {received : WsMessage β}
    (quiet : (PlaybackStep.message located received).isBargeIn = false) :
    .clearAudioQueue ∉ received.handler config located ∧
      .requestPlaybackClear ∉ received.handler config located := by
  cases received with
  | binaryAudio converted =>
      simp only [WsMessage.handler]
      split <;> simp
  | audioDelta converted =>
      simp only [WsMessage.handler]
      split
      · simp
      · split <;> simp
  | errored =>
      simp only [WsMessage.handler]
      split <;> simp
  | closed =>
      simp only [WsMessage.handler]
      split <;> simp
  | audioDone =>
      simp only [WsMessage.handler]
      split <;> simp
  | speechStarted =>
      simp only [PlaybackStep.isBargeIn] at quiet
      simp [WsMessage.handler, quiet]
  | _ => simp [WsMessage.handler]

theorem undisturbed_transition {config : PlaybackConfig} {state next : PlaybackState β}
    {label : PlaybackStep β} {events : List (PlaybackEvent β)} (calm : Undisturbed state)
    (quiet : label.isBargeIn = false)
    (moved : PlaybackTransition config state label next events) :
    Undisturbed next ∧ erased events.reverse = [] := by
  obtain ⟨generation, noClear, noRequest⟩ := calm
  have later {action : WsAction β} {rest : List (WsAction β)}
      (found : state.handler = action :: rest) :
      .clearAudioQueue ∉ rest ∧ .requestPlaybackClear ∉ rest := by
    rw [found] at noClear noRequest
    exact ⟨fun member => noClear (by simp [member]), fun member => noRequest (by simp [member])⟩
  cases moved with
  | message located received =>
      refine ⟨⟨generation, handler_undisturbed config quiet⟩, ?_⟩
      cases received <;> simp [WsMessage.announcement]
  | clearQueue rest found => simp [found] at noClear
  | requestClear rest found => simp [found] at noRequest
  | storeDone done rest found => exact ⟨⟨generation, later found⟩, by simp⟩
  | pushAccepted audio rest found => exact ⟨⟨generation, later found⟩, by simp⟩
  | pushRejected audio rest found => exact ⟨⟨generation, later found⟩, by simp⟩
  | storeTerminal rest found => exact ⟨⟨generation, later found⟩, by simp⟩
  | requestClose rest found => exact ⟨⟨generation, later found⟩, by simp⟩
  | clearSeen located call standing differ => exact absurd generation differ
  | emitted =>
      refine ⟨⟨generation, noClear, noRequest⟩, ?_⟩
      cases state.openaiSpeaking <;> simp
  | _ => exact ⟨⟨generation, noClear, noRequest⟩, by simp⟩

end

section

variable {β γ : Type*}

@[simp] theorem isBargeIn_map (f : β → γ) (label : PlaybackStep β) :
    (label.map f).isBargeIn = label.isBargeIn := by
  cases label with
  | message located received => cases received <;> rfl
  | _ => rfl

theorem map_eq_writeFrame {f : β → γ} {label : PlaybackStep β} {frame : WriteFrame}
    (same : label.map f = .writeFrame frame) : label = .writeFrame frame := by
  cases label <;> simp_all [PlaybackStep.map]

structure Conserving (observed : Observed β) : Prop where
  playing : Playing observed.state
  small : CallFrame SmallFrame observed.state
  logged : CallLogged observed.state observed.history
  calm : Undisturbed observed.state
  whole : ∀ bytes, .chunkDropped bytes ∉ observed.history
  complete : Runs.EveryEvent FrameComplete observed.history
  order : consumed observed.history ++ pending observed.state = accepted observed.history

theorem conserving_initial : Conserving (.initial : Observed β) where
  playing := playing_initial
  small := by simp [CallFrame, Observed.initial, WriteFramePc.call?]
  logged := ⟨by simp [Observed.initial, WriteFramePc.call?], by simp [Observed.initial]⟩
  calm := ⟨rfl, by simp [Observed.initial]⟩
  whole := by simp [Observed.initial]
  complete := trivial
  order := by simp [Observed.initial, pending, AudioQueue.bytes]

theorem conserving_step {config : PlaybackConfig} {observed next : Observed β}
    {label : PlaybackStep β} (held : Conserving observed)
    (met : label.isBargeIn = false ∧ ∀ frame, label = .writeFrame frame → L16Frame frame)
    (taken : observedStep config observed label = some next) : Conserving next := by
  obtain ⟨state, events, rfl, moved⟩ := observedStep_transition taken
  obtain ⟨quiet, frames⟩ := met
  have calm := undisturbed_transition held.calm (by simpa using quiet) moved
  have whole := small_frame_never_drops held.playing held.small moved
  have unbroken : chunksDropped events.reverse = [] :=
    chunksDropped_eq_nil (by simpa using whole)
  have flow := transition_flow moved (fun _ => true) (by simp [calm.2, unbroken])
  simp only [List.filter_true] at flow
  exact {
    playing := playing_transition held.playing moved
    small := callFrame_transition moved
      (fun frame same _ _ => (frames frame (map_eq_writeFrame same)).smallFrame) held.small
    logged := callLogged_transition held.playing held.small held.logged moved
    calm := calm.1
    whole := by
      intro bytes member
      rcases List.mem_append.mp member with new | old
      · exact whole bytes (by simpa using new)
      · exact held.whole bytes old
    complete := frameComplete_transition held.playing held.logged held.complete moved
    order := by
      simp only [consumed, accepted, collect_append] at flow ⊢
      rw [List.append_assoc, ← flow, ← List.append_assoc]
      exact congrArg (· ++ _) held.order
  }

/-- Playback without a barge-in loses, duplicates and reorders nothing, never
takes the branch that drops a chunk, and emits complete frames. -/
theorem playback_conserves {config : PlaybackConfig} {labels : List (PlaybackStep β)}
    {observed : Observed β} (reached : Reaches config labels observed)
    (quiet : ∀ label ∈ labels, label.isBargeIn = false)
    (frames : ∀ frame, .writeFrame frame ∈ labels → L16Frame frame) :
    consumed observed.history ++ observed.state.playbackBuffer.contents ++
        observed.state.media.chunkBytes ++ observed.state.audioQueue.bytes =
      accepted observed.history ∧
    (∀ bytes, .chunkDropped bytes ∉ observed.history) ∧
    Runs.EveryEvent FrameComplete observed.history := by
  have met : ∀ label ∈ labels,
      label.isBargeIn = false ∧ ∀ frame, label = .writeFrame frame → L16Frame frame :=
    fun label member => ⟨quiet label member, fun frame same => frames frame (same ▸ member)⟩
  have final := Runs.along_invariant (fun _ _ _ held met taken => conserving_step held met taken)
    conserving_initial (Runs.along_of_labels met _) reached
  refine ⟨?_, final.whole, final.complete⟩
  have order := final.order
  simpa only [pending, List.append_assoc] using order

def paddedSchedule : List (PlaybackStep Nat) :=
  [.message true (.audioDelta [(1, 2), (3, 4), (5, 6)]), .webSocket, .webSocket,
    .writeFrame ⟨4, 2, 8192⟩, .media true, .media true, .media true, .media true, .media true,
    .media true, .writeFrame ⟨4, 2, 8192⟩, .media true, .media true, .media true,
    .media true]

theorem playback_conserves_padded :
    ∃ observed, Reaches ⟨8000, true⟩ paddedSchedule observed ∧
      consumed observed.history ++ observed.state.playbackBuffer.contents ++
          observed.state.media.chunkBytes ++ observed.state.audioQueue.bytes =
        accepted observed.history ∧
      (∀ bytes, .chunkDropped bytes ∉ observed.history) ∧
      Runs.EveryEvent FrameComplete observed.history := by
  obtain ⟨observed, reached⟩ := Option.isSome_iff_exists.mp
    (by decide : (Runs.run (observedStep ⟨8000, true⟩) .initial paddedSchedule).isSome = true)
  refine ⟨observed, reached, playback_conserves reached (by decide) ?_⟩
  intro frame member
  simp only [paddedSchedule, List.mem_cons, PlaybackStep.writeFrame.injEq, reduceCtorEq,
    List.not_mem_nil, or_false, false_or] at member
  rcases member with rfl | rfl <;> exact ⟨by decide, by decide, by decide, by decide⟩

end

end OpenaiAudioStream
