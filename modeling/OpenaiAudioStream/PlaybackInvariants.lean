import OpenaiAudioStream.PlaybackHistory

/-!
What holds in every state of a playback run: the bounds on chunks, the fill
level that `write_frame` carries in its local variables, and the account of
every accepted byte. For frames of at most 8192 bytes no chunk is ever dropped.
-/

namespace OpenaiAudioStream

section

variable {β : Type*}

def CallConsistent (state : PlaybackState β) : Prop :=
  match state.media with
  | .idle => True
  | .consumePlaybackClear call => call.inuse = state.playbackBuffer.inuse
  | .snapshotTerminalClose call => call.inuse = state.playbackBuffer.inuse
  | .popChunk call => call.inuse = state.playbackBuffer.inuse
  | .writeChunk call chunk =>
      call.inuse = state.playbackBuffer.inuse ∧ call.inuse < call.frame.refillThreshold ∧
        chunk ≠ [] ∧ chunk.length ≤ maxAudioChunkSamples
  | .drained _ => state.playbackBuffer.contents = []
  | .terminalCheck _ => state.playbackBuffer.contents = []
  | .output call => call.inuse = state.playbackBuffer.inuse

structure Playing (state : PlaybackState β) : Prop where
  capacity : state.playbackBuffer.capacity = playbackBuflen
  chunks : state.audioQueue.ChunkBounds
  pushes : ∀ audio, .pushAudioQueue audio ∈ state.handler → audio ≠ []
  call : CallConsistent state

theorem playing_initial : Playing ({} : PlaybackState β) where
  capacity := rfl
  chunks := by simp [AudioQueue.ChunkBounds]
  pushes := by simp
  call := trivial

theorem handler_pushes {config : PlaybackConfig} {located : Bool} {received : WsMessage β}
    {audio : List (Sample β)} (member : .pushAudioQueue audio ∈ received.handler config located) :
    received = .binaryAudio audio ∨ received = .audioDelta audio := by
  cases received with
  | binaryAudio converted =>
      simp only [WsMessage.handler] at member
      split at member <;> simp_all
  | audioDelta converted =>
      simp only [WsMessage.handler] at member
      split at member
      · simp at member
      · split at member <;> simp_all
  | errored =>
      simp only [WsMessage.handler] at member
      split at member <;> simp at member
  | closed =>
      simp only [WsMessage.handler] at member
      split at member <;> simp at member
  | audioDone =>
      simp only [WsMessage.handler] at member
      split at member <;> simp at member
  | speechStarted =>
      simp only [WsMessage.handler] at member
      split at member <;> simp at member
  | _ => simp [WsMessage.handler] at member

theorem handler_pushes_nonempty {config : PlaybackConfig} {located : Bool}
    {received : WsMessage β} {audio : List (Sample β)}
    (member : .pushAudioQueue audio ∈ received.handler config located) : audio ≠ [] := by
  rintro rfl
  rcases handler_pushes member with rfl | rfl
  · simp [WsMessage.handler] at member
  · simp only [WsMessage.handler, List.isEmpty_nil] at member
    split at member <;> simp at member

theorem callConsistent_afterRefill {state : PlaybackState β} {call : WriteCall}
    (level : call.inuse = state.playbackBuffer.inuse) :
    CallConsistent { state with media := afterRefill call } := by
  unfold CallConsistent afterRefill
  split <;> rename_i found
  all_goals split at found <;> simp_all [BoundedFifo.inuse]

theorem playing_transition {config : PlaybackConfig} {state next : PlaybackState β}
    {label : PlaybackStep β} {events : List (PlaybackEvent β)} (playing : Playing state)
    (moved : PlaybackTransition config state label next events) : Playing next := by
  obtain ⟨capacity, chunks, pushes, call⟩ := playing
  have later {action : WsAction β} {rest : List (WsAction β)}
      (found : state.handler = action :: rest) :
      ∀ audio, .pushAudioQueue audio ∈ rest → audio ≠ [] :=
    fun audio member => pushes audio (by simp [found, member])
  cases moved with
  | message located received =>
      exact ⟨capacity, chunks, fun audio member => handler_pushes_nonempty member, call⟩
  | clearQueue rest found =>
      exact ⟨capacity, state.audioQueue.clear_chunkBounds, later found, call⟩
  | pushAccepted audio rest found =>
      have nonempty := pushes audio (by simp [found])
      exact ⟨capacity, AudioQueue.push_chunkBounds chunks nonempty, later found, call⟩
  | pushRejected audio rest found =>
      have nonempty := pushes audio (by simp [found])
      exact ⟨capacity, AudioQueue.push_chunkBounds chunks nonempty, later found, call⟩
  | requestClear rest found => exact ⟨capacity, chunks, later found, call⟩
  | storeDone done rest found => exact ⟨capacity, chunks, later found, call⟩
  | storeTerminal rest found => exact ⟨capacity, chunks, later found, call⟩
  | requestClose rest found => exact ⟨capacity, chunks, later found, call⟩
  | pauseresume pause => exact ⟨capacity, chunks, pushes, call⟩
  | setOpenaiMute mute => exact ⟨capacity, chunks, pushes, call⟩
  | skipped frame => exact ⟨capacity, chunks, pushes, call⟩
  | entered frame => exact ⟨capacity, chunks, pushes, rfl⟩
  | clearAbsent located local_ standing =>
      exact ⟨capacity, chunks, pushes, by simpa [CallConsistent, standing] using call⟩
  | clearSeen located local_ standing => exact ⟨capacity, chunks, pushes, rfl⟩
  | snapshot located local_ standing =>
      exact ⟨capacity, chunks, pushes, by simpa [CallConsistent, standing] using call⟩
  | popEmpty located local_ standing =>
      exact ⟨capacity, chunks, pushes,
        callConsistent_afterRefill (by simpa [CallConsistent, standing] using call)⟩
  | popped located local_ chunk rest standing low found =>
      have bounds := AudioQueue.pop_chunkBounds found chunks
      have level : local_.inuse = state.playbackBuffer.inuse := by
        simpa [CallConsistent, standing] using call
      exact ⟨capacity, bounds.2, pushes, level, low, bounds.1.1, bounds.1.2⟩
  | refilled located local_ standing =>
      exact ⟨capacity, chunks, pushes,
        callConsistent_afterRefill (by simpa [CallConsistent, standing] using call)⟩
  | written located local_ chunk standing => exact ⟨by simpa using capacity, chunks, pushes, rfl⟩
  | dropped located local_ chunk standing =>
      simp only [CallConsistent, standing] at call
      exact ⟨capacity, chunks, pushes, callConsistent_afterRefill call.1⟩
  | drainedStop located local_ standing =>
      exact ⟨capacity, chunks, pushes, by simpa [CallConsistent, standing] using call⟩
  | drainedSilent located local_ standing =>
      exact ⟨capacity, chunks, pushes, by simpa [CallConsistent, standing] using call⟩
  | closeStream => exact ⟨capacity, chunks, pushes, trivial⟩
  | keepStream => exact ⟨capacity, chunks, pushes, trivial⟩
  | tossed => exact ⟨capacity, chunks, pushes, trivial⟩
  | emitted => exact ⟨capacity, chunks, pushes, trivial⟩

def PlaybackStep.isMedia : PlaybackStep β → Bool
  | .media _ => true
  | _ => false

def CallFrame (condition : WriteFrame → Prop) (state : PlaybackState β) : Prop :=
  ∀ call, state.media.call? = some call → condition call.frame

theorem callFrame_transition {config : PlaybackConfig} {condition : WriteFrame → Prop}
    {state next : PlaybackState β} {label : PlaybackStep β} {events : List (PlaybackEvent β)}
    (moved : PlaybackTransition config state label next events)
    (admitted : ∀ frame, label = .writeFrame frame → frame.samples ≠ 0 → frame.datalen ≠ 0 →
      condition frame)
    (held : CallFrame condition state) : CallFrame condition next := by
  unfold CallFrame at held ⊢
  cases moved with
  | entered frame _ _ samples datalen =>
      intro call found
      simp only [WriteFramePc.call?, Option.some.injEq] at found
      rw [← found]
      exact admitted frame rfl samples datalen
  | clearAbsent _ _ standing => simp_all [WriteFramePc.call?]
  | clearSeen _ _ standing => simp_all [WriteFramePc.call?]
  | snapshot _ _ standing => simp_all [WriteFramePc.call?]
  | popEmpty _ _ standing =>
      rw [standing] at held
      simpa using held _ rfl
  | popped _ _ _ _ standing => simp_all [WriteFramePc.call?]
  | refilled _ _ standing =>
      rw [standing] at held
      simpa using held _ rfl
  | written _ _ _ standing => simp_all [WriteFramePc.call?]
  | dropped _ _ _ standing =>
      rw [standing] at held
      simpa using held _ rfl
  | drainedStop _ _ standing => simp_all [WriteFramePc.call?]
  | drainedSilent _ _ standing => simp_all [WriteFramePc.call?]
  | closeStream => simp [WriteFramePc.call?]
  | keepStream => simp [WriteFramePc.call?]
  | tossed => simp [WriteFramePc.call?]
  | emitted => simp [WriteFramePc.call?]
  | _ => exact held

/-- `write_frame` leaves such a frame alone, or finds a byte or more for each of its samples. -/
def WriteFrame.Divisible (frame : WriteFrame) : Prop :=
  frame.datalen = 0 ∨ frame.samples ≤ frame.datalen

instance (frame : WriteFrame) : Decidable frame.Divisible :=
  inferInstanceAs (Decidable (_ ∨ _))

theorem WriteFrame.Divisible.bytesPerSample {frame : WriteFrame} (divisible : frame.Divisible)
    (samples : frame.samples ≠ 0) (datalen : frame.datalen ≠ 0) : frame.bytesPerSample ≠ 0 := by
  have large : frame.samples ≤ frame.datalen := divisible.resolve_left datalen
  have positive := Nat.div_pos large (Nat.pos_of_ne_zero samples)
  exact Nat.ne_of_gt positive

def Divides (state : PlaybackState β) : Prop :=
  CallFrame (fun frame => frame.bytesPerSample ≠ 0) state

theorem divides_transition {config : PlaybackConfig} {state next : PlaybackState β}
    {label : PlaybackStep β} {events : List (PlaybackEvent β)}
    (moved : PlaybackTransition config state label next events)
    (frames : ∀ frame, label = .writeFrame frame → frame.Divisible)
    (held : Divides state) : Divides next :=
  callFrame_transition moved (fun frame same => (frames frame same).bytesPerSample) held

theorem mediaStep_enabled (config : PlaybackConfig) {state : PlaybackState β} (located : Bool)
    (divides : Divides state) (running : state.media ≠ .idle) :
    (mediaStep config located state).isSome = true := by
  unfold mediaStep
  cases standing : state.media with
  | idle => exact absurd standing running
  | output call =>
      have divisor : call.frame.bytesPerSample ≠ 0 := divides call (by rw [standing]; rfl)
      simp only [outputFrame, if_neg divisor]
      split <;> rfl
  | _ => rfl

/-- `SWITCH_RECOMMENDED_BUFFER_SIZE`, the largest frame FreeSWITCH hands over. -/
def maxFrameBytes : Nat := 8192

def SmallFrame (frame : WriteFrame) : Prop := frame.bytesNeeded ≤ maxFrameBytes

instance (frame : WriteFrame) : Decidable (SmallFrame frame) :=
  inferInstanceAs (Decidable (_ ≤ _))

theorem chunksDropped_eq_nil {history : List (PlaybackEvent β)}
    (absent : ∀ bytes, .chunkDropped bytes ∉ history) : chunksDropped history = [] := by
  induction history with
  | nil => rfl
  | cons event older ih =>
      have rest := ih fun bytes member => absent bytes (by simp [member])
      cases event with
      | chunkDropped bytes => exact absurd (by simp) (absent bytes)
      | _ => simpa using rest

theorem room_never_drops {config : PlaybackConfig} {state next : PlaybackState β}
    {label : PlaybackStep β} {events : List (PlaybackEvent β)} (playing : Playing state)
    (room : label.isMedia = true →
      state.media.chunkBytes.length ≤ state.playbackBuffer.freespace)
    (moved : PlaybackTransition config state label next events) :
    ∀ bytes, .chunkDropped bytes ∉ events := by
  cases moved with
  | message located received => cases received <;> simp [WsMessage.announcement]
  | clearSeen => cases state.openaiSpeaking <;> simp
  | emitted => cases state.openaiSpeaking <;> simp
  | dropped located call chunk standing full =>
      have consistent := playing.call
      simp only [CallConsistent, standing] at consistent
      have fits := room rfl
      have nonempty : sampleBytes chunk ≠ [] := by
        have positive := List.length_pos_iff.mpr consistent.2.2.1
        apply List.ne_nil_of_length_pos
        simp only [sampleBytes_length]
        omega
      simp only [standing, WriteFramePc.chunkBytes_writeChunk] at fits
      have short := (BoundedFifo.write_eq_zero nonempty).mp full
      omega
  | _ => simp

/-- A chunk popped for a frame of at most 8192 bytes fits: fewer than two frames
are buffered, and a chunk is at most 32768 bytes. -/
theorem small_frame_room {state : PlaybackState β} (playing : Playing state)
    (small : CallFrame SmallFrame state) :
    state.media.chunkBytes.length ≤ state.playbackBuffer.freespace := by
  have consistent := playing.call
  cases standing : state.media with
  | writeChunk call chunk =>
      simp only [CallConsistent, standing] at consistent
      obtain ⟨level, low, _, short⟩ := consistent
      have frameBound : call.frame.bytesNeeded ≤ maxFrameBytes :=
        small call (by simp [standing, WriteFramePc.call?])
      have threshold : call.frame.refillThreshold ≤ call.frame.bytesNeeded * 2 := Nat.mod_le _ _
      simp only [BoundedFifo.inuse] at level
      simp only [maxAudioChunkSamples, maxFrameBytes] at short frameBound
      simp only [WriteFramePc.chunkBytes_writeChunk, sampleBytes_length, BoundedFifo.freespace,
        playing.capacity, playbackBuflen]
      omega
  | _ => simp

theorem small_frame_never_drops {config : PlaybackConfig} {state next : PlaybackState β}
    {label : PlaybackStep β} {events : List (PlaybackEvent β)} (playing : Playing state)
    (small : CallFrame SmallFrame state)
    (moved : PlaybackTransition config state label next events) :
    ∀ bytes, .chunkDropped bytes ∉ events :=
  room_never_drops playing (fun _ => small_frame_room playing small) moved

end

section

variable {β : Type*}

structure Accounted (observed : Observed β) : Prop where
  playing : Playing observed.state
  count : ∀ counted : Tagged β → Bool,
    (accepted observed.history).countP counted =
      (consumed observed.history).countP counted + (erased observed.history).countP counted +
        (chunksDropped observed.history).countP counted +
          (pending observed.state).countP counted

theorem accounted_step {config : PlaybackConfig} {observed next : Observed β}
    {label : PlaybackStep β} (held : Accounted observed)
    (taken : observedStep config observed label = some next) : Accounted next := by
  obtain ⟨state, events, rfl, moved⟩ := observedStep_transition taken
  refine ⟨playing_transition held.playing moved, ?_⟩
  intro counted
  have before := held.count counted
  have step := transition_count moved counted
  simp only [accepted, consumed, erased, chunksDropped, collect_append, List.countP_append]
    at before step ⊢
  omega

theorem accounted_initial : Accounted (.initial : Observed β) where
  playing := playing_initial
  count := by simp [Observed.initial, pending, AudioQueue.bytes]

theorem Accounted.perm {observed : Observed β} (held : Accounted observed) :
    (accepted observed.history).Perm
      (consumed observed.history ++ erased observed.history ++
        chunksDropped observed.history ++ pending observed.state) := by
  classical
  rw [List.perm_iff_count]
  intro byte
  simpa [List.count, Nat.add_assoc] using held.count (· == byte)

theorem accepted_perm {config : PlaybackConfig} {labels : List (PlaybackStep β)}
    {observed : Observed β} (reached : Reaches config labels observed) :
    (accepted observed.history).Perm
      (consumed observed.history ++ erased observed.history ++
        chunksDropped observed.history ++ pending observed.state) :=
  (Runs.run_invariant (fun _ _ _ held taken => accounted_step held taken) accounted_initial
    reached).perm

end

end OpenaiAudioStream
