import OpenaiAudioStream.PlaybackErasure
import OpenaiAudioStream.TerminalClose

/-!
The speech events around the audio of a response. They alternate, a start before a
stop; a frame is written only after a start; and a stop comes from a barge-in, or
from a call that finds nothing to play once the response is done.
-/

namespace OpenaiAudioStream

section

variable {β : Type*}

def isFrame : PlaybackEvent β → Bool
  | .frameReplaced _ _ _ => true
  | _ => false

def isCallStarted : PlaybackEvent β → Bool
  | .callStarted _ => true
  | _ => false

def speaking : List (PlaybackEvent β) → Bool
  | [] => false
  | event :: older => isSpeechStart event || !isSpeechStop event && speaking older

def frameSinceStart : List (PlaybackEvent β) → Bool
  | [] => false
  | event :: older => !isSpeechStart event && (isFrame event || frameSinceStart older)

def currentCall (history : List (PlaybackEvent β)) : List (PlaybackEvent β) :=
  history.takeWhile fun event => !isCallStarted event

/-- An event stands rightly after the events before it: a start outside a bracket, a
stop inside one, a frame inside one whose start, for its first frame, is of the same call. -/
def Bracketed (older : List (PlaybackEvent β)) : PlaybackEvent β → Prop
  | .speechStarted notified => notified = true ∧ speaking older = false
  | .speechStopped notified => notified = true ∧ speaking older = true
  | .frameReplaced _ _ _ => speaking older = true ∧
      (frameSinceStart older = false → .speechStarted true ∈ currentCall older)
  | _ => True

/-- The running call has enqueued nothing, because its pop failed unless its frame asks
for no audio; nothing is buffered and the response is done. -/
def FoundNothing (plain : PlaybackState β × List (PlaybackEvent β)) : Prop :=
  ∃ call, plain.1.media = .drained call ∧ call.chunkEnqueued = false ∧
    (0 < call.frame.refillThreshold → .popFailed ∈ currentCall plain.2) ∧
    plain.1.playbackBuffer.contents = [] ∧ plain.1.responseAudioDone = true

/-- A step that emits a stop observes a barge-in, or its call found nothing to play. -/
def StopJustified (config : PlaybackConfig) (plain : PlaybackState β × List (PlaybackEvent β))
    (label : PlaybackStep β) : Prop :=
  ∀ next newer, plainStep config plain label = some next → next.2 = newer ++ plain.2 →
    ∀ notified, .speechStopped notified ∈ newer →
      .clearConsumed true ∈ newer ∨ FoundNothing plain

def PlaybackStep.Located : PlaybackStep β → Prop
  | .media located => located = true
  | _ => True

instance : ∀ label : PlaybackStep β, Decidable label.Located
  | .media _ => inferInstanceAs (Decidable (_ = _))
  | .message _ _ => inferInstanceAs (Decidable True)
  | .webSocket => inferInstanceAs (Decidable True)
  | .pauseresume _ => inferInstanceAs (Decidable True)
  | .setOpenaiMute _ => inferInstanceAs (Decidable True)
  | .writeFrame _ => inferInstanceAs (Decidable True)

def DrainedCall (state : PlaybackState β) (history : List (PlaybackEvent β)) : Prop :=
  match state.media with
  | .drained call => call.chunkEnqueued = false ∧
      (0 < call.frame.refillThreshold → .popFailed ∈ currentCall history)
  | _ => True

structure Bracketing (plain : PlaybackState β × List (PlaybackEvent β)) : Prop where
  playing : Playing plain.1
  speaking : speaking plain.2 = plain.1.openaiSpeaking
  frame : plain.1.openaiSpeaking = true → frameSinceStart plain.2 = true
  drained : DrainedCall plain.1 plain.2
  events : Runs.EveryEvent Bracketed plain.2

theorem bracketing_initial : Bracketing (({}, []) : PlaybackState β × List (PlaybackEvent β)) where
  playing := playing_initial
  speaking := rfl
  frame := by simp
  drained := trivial
  events := trivial

theorem speaking_transition {config : PlaybackConfig} {state next : PlaybackState β}
    {label : PlaybackStep β} {events history : List (PlaybackEvent β)} (located : label.Located)
    (held : speaking history = state.openaiSpeaking)
    (moved : PlaybackTransition config state label next events) :
    speaking (events.reverse ++ history) = next.openaiSpeaking := by
  cases moved with
  | message asked received =>
      cases received <;>
        simpa [WsMessage.announcement, speaking, isSpeechStart, isSpeechStop] using held
  | clearSeen found call =>
      obtain rfl : found = true := located
      cases spoken : state.openaiSpeaking <;>
        simp [speaking, isSpeechStart, isSpeechStop, held, spoken]
  | drainedStop found call =>
      obtain rfl : found = true := located
      simp [speaking, isSpeechStart, isSpeechStop]
  | emitted found call =>
      obtain rfl : found = true := located
      cases spoken : state.openaiSpeaking <;>
        simp [speaking, isSpeechStart, isSpeechStop, held, spoken]
  | _ => simpa [speaking, isSpeechStart, isSpeechStop] using held

theorem frameSinceStart_transition {config : PlaybackConfig} {state next : PlaybackState β}
    {label : PlaybackStep β} {events history : List (PlaybackEvent β)}
    (held : state.openaiSpeaking = true → frameSinceStart history = true)
    (moved : PlaybackTransition config state label next events)
    (spoken : next.openaiSpeaking = true) : frameSinceStart (events.reverse ++ history) = true := by
  cases moved with
  | message asked received =>
      cases received <;>
        simpa [WsMessage.announcement, frameSinceStart, isSpeechStart, isFrame] using held spoken
  | clearSeen => cases spoken
  | drainedStop => cases spoken
  | emitted =>
      cases state.openaiSpeaking <;> simp [frameSinceStart, isSpeechStart, isFrame]
  | _ => simpa [frameSinceStart, isSpeechStart, isFrame] using held spoken

theorem mem_currentCall {event : PlaybackEvent β} {newer history : List (PlaybackEvent β)}
    (within : ∀ other ∈ newer, isCallStarted other = false)
    (member : event ∈ currentCall history) : event ∈ currentCall (newer ++ history) := by
  unfold currentCall at member ⊢
  rw [List.takeWhile_append_of_pos (by simpa using within)]
  exact List.mem_append_right newer member

theorem afterRefill_drained_eq {call reached : WriteCall}
    (drained : (afterRefill call : WriteFramePc β) = .drained reached) :
    reached = call ∧ call.chunkEnqueued = false ∧ call.inuse = 0 := by
  unfold afterRefill at drained
  split at drained
  · rename_i nothing
    simp only [Bool.and_eq_true, Bool.not_eq_true', beq_iff_eq] at nothing
    cases drained
    exact ⟨rfl, nothing⟩
  · cases drained

theorem drainedCall_afterRefill {state : PlaybackState β} {call : WriteCall}
    {history : List (PlaybackEvent β)}
    (failed : call.inuse = 0 → 0 < call.frame.refillThreshold →
      .popFailed ∈ currentCall history) :
    DrainedCall { state with media := afterRefill call } history := by
  unfold DrainedCall
  split
  · rename_i reached drained
    obtain ⟨rfl, unqueued, level⟩ := afterRefill_drained_eq drained
    exact ⟨unqueued, failed level⟩
  · trivial

theorem writeChunk_used {state : PlaybackState β} {call : WriteCall} {chunk : List (Sample β)}
    (playing : Playing state) (standing : state.media = .writeChunk call chunk)
    (full : (state.playbackBuffer.write (sampleBytes chunk)).1 = 0) : call.inuse ≠ 0 := by
  have consistent := playing.call
  simp only [CallConsistent, standing] at consistent
  obtain ⟨level, _, nonempty, short⟩ := consistent
  have positive := List.length_pos_iff.mpr nonempty
  have bytes : sampleBytes chunk ≠ [] := by
    apply List.ne_nil_of_length_pos
    simp only [sampleBytes_length]
    omega
  have room := (BoundedFifo.write_eq_zero bytes).mp full
  simp only [BoundedFifo.inuse] at level
  simp only [BoundedFifo.freespace, playing.capacity, playbackBuflen, sampleBytes_length] at room
  simp only [maxAudioChunkSamples] at short
  omega

theorem drainedCall_transition {config : PlaybackConfig} {state next : PlaybackState β}
    {label : PlaybackStep β} {events history : List (PlaybackEvent β)} (playing : Playing state)
    (held : DrainedCall state history)
    (moved : PlaybackTransition config state label next events) :
    DrainedCall next (events.reverse ++ history) := by
  have kept {newer : List (PlaybackEvent β)}
      (within : ∀ other ∈ newer, isCallStarted other = false) :
      DrainedCall state (newer ++ history) := by
    unfold DrainedCall at held ⊢
    split at held
    · exact ⟨held.1, fun asked => mem_currentCall within (held.2 asked)⟩
    · trivial
  cases moved with
  | message asked received =>
      refine kept ?_
      cases received <;> simp [WsMessage.announcement, isCallStarted]
  | popEmpty located call standing =>
      exact drainedCall_afterRefill fun _ _ => by simp [currentCall, isCallStarted]
  | refilled located call standing high =>
      refine drainedCall_afterRefill fun level asked => ?_
      omega
  | dropped located call chunk standing full =>
      have used := writeChunk_used playing standing full
      exact drainedCall_afterRefill fun level => absurd level used
  | entered | clearAbsent | clearSeen | snapshot | popped | written | drainedStop
  | drainedSilent | closeStream | keepStream | tossed | emitted => trivial
  | _ => exact kept (by simp [isCallStarted])

theorem bracketed_transition {config : PlaybackConfig} {state next : PlaybackState β}
    {label : PlaybackStep β} {events history : List (PlaybackEvent β)} (located : label.Located)
    (held : Bracketing (state, history))
    (moved : PlaybackTransition config state label next events) :
    Runs.EveryEvent Bracketed (events.reverse ++ history) := by
  have inside := held.speaking
  have older := held.events
  cases moved with
  | message asked received =>
      cases received <;>
        simpa [WsMessage.announcement, Runs.EveryEvent, Bracketed] using older
  | clearSeen found call =>
      obtain rfl : found = true := located
      cases spoken : state.openaiSpeaking with
      | false => exact ⟨trivial, trivial, older⟩
      | true =>
          have open_ : speaking (.bufferZeroed state.playbackBuffer.contents ::
              .clearConsumed true :: history) = true := by
            simpa [speaking, isSpeechStart, isSpeechStop, spoken] using inside
          exact ⟨⟨rfl, open_⟩, trivial, trivial, older⟩
  | drainedStop found call standing spoken =>
      obtain rfl : found = true := located
      exact ⟨⟨rfl, inside.trans spoken⟩, older⟩
  | emitted found call =>
      obtain rfl : found = true := located
      cases spoken : state.openaiSpeaking with
      | false =>
          have begun : .speechStarted true ∈ currentCall (.speechStarted true :: history) := by
            simp [currentCall, isCallStarted]
          exact ⟨⟨rfl, fun _ => begun⟩, ⟨rfl, inside.trans spoken⟩, older⟩
      | true =>
          have framed := held.frame spoken
          exact ⟨⟨inside.trans spoken, fun first => by simp [framed] at first⟩, older⟩
  | _ => simpa [Runs.EveryEvent, Bracketed] using older

theorem bracketing_step {config : PlaybackConfig}
    {plain next : PlaybackState β × List (PlaybackEvent β)} {label : PlaybackStep β}
    (held : Bracketing plain) (located : label.Located)
    (taken : plainStep config plain label = some next) : Bracketing next := by
  obtain ⟨state, events, rfl, moved⟩ := plainStep_transition taken
  exact {
    playing := playing_transition held.playing moved
    speaking := speaking_transition located held.speaking moved
    frame := frameSinceStart_transition held.frame moved
    drained := drainedCall_transition held.playing held.drained moved
    events := bracketed_transition located held moved
  }

theorem Bracketing.foundNothing {state : PlaybackState β} {history : List (PlaybackEvent β)}
    {call : WriteCall} (held : Bracketing (state, history)) (standing : state.media = .drained call)
    (done : state.responseAudioDone = true) : FoundNothing (state, history) := by
  have consistent := held.playing.call
  have drained := held.drained
  simp only [CallConsistent, DrainedCall, standing] at consistent drained
  exact ⟨call, standing, drained.1, drained.2, consistent, done⟩

theorem stopJustified {config : PlaybackConfig}
    {plain : PlaybackState β × List (PlaybackEvent β)} (held : Bracketing plain)
    (label : PlaybackStep β) : StopJustified config plain label := by
  intro next newer taken split notified stopped
  obtain ⟨state, events, rfl, moved⟩ := plainStep_transition taken
  obtain rfl := List.append_cancel_right split
  rw [List.mem_reverse] at stopped
  cases moved with
  | message asked received => cases received <;> simp [WsMessage.announcement] at stopped
  | clearSeen => exact Or.inl (by simp)
  | drainedStop located call standing spoken done =>
      exact Or.inr (held.foundNothing standing done)
  | emitted => split at stopped <;> simp at stopped
  | _ => simp at stopped

/-- In every run that can always locate the session, the speech events alternate,
each frame of audio stands inside a bracket, and every stop is called for. -/
theorem speech_events_bracket_audio {config : PlaybackConfig} {labels : List (PlaybackStep β)}
    {final : PlaybackState β × List (PlaybackEvent β)}
    (located : ∀ label ∈ labels, label.Located)
    (reached : Runs.run (plainStep config) ({}, []) labels = some final) :
    Runs.EveryEvent Bracketed final.2 ∧
      Runs.Along (plainStep config) (StopJustified config) ({}, []) labels := by
  have guarded : Runs.Along (plainStep config) (fun _ label => label.Located) ({}, []) labels :=
    Runs.along_of_labels located _
  constructor
  · have held := Runs.along_invariant (fun _ _ _ held met taken => bracketing_step held met taken)
      bracketing_initial guarded reached
    exact held.events
  · exact Runs.along_of_invariant (fun _ _ _ held met taken => bracketing_step held met taken)
      (fun _ label held _ => stopJustified held label) bracketing_initial guarded

theorem speech_events_bracket_played :
    ∃ final, Runs.run (plainStep ⟨8000, false⟩) ({}, []) peerCloseSchedule = some final ∧
      final.2.any isSpeechStop = true ∧ Runs.EveryEvent Bracketed final.2 ∧
      Runs.Along (plainStep ⟨8000, false⟩) (StopJustified ⟨8000, false⟩) ({}, [])
        peerCloseSchedule := by
  have outcome : ((Runs.run (plainStep ⟨8000, false⟩) ({}, []) peerCloseSchedule).any
      fun final => decide (final.2.any isSpeechStop = true)) = true := by
    decide
  obtain ⟨final, reached, stopped⟩ := Runs.exists_run outcome
  have located : ∀ label ∈ peerCloseSchedule, label.Located := by decide
  have brackets := speech_events_bracket_audio located reached
  exact ⟨final, reached, stopped, brackets.1, brackets.2⟩

end

end OpenaiAudioStream
