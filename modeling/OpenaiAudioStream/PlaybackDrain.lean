import OpenaiAudioStream.BargeIn

/-!
The end of a response and the end of a connection. `write_frame` decides that
playback has drained from a failed pop, its local fill level and two flags: the
terminal flag is read before the pop, the done flag of the response after it.
-/

namespace OpenaiAudioStream

/-! The end of a response. -/

section

variable {β : Type*}

def WriteFramePc.isDrained : WriteFramePc β → Bool
  | .drained _ => true
  | _ => false

def StopsResponse (state : PlaybackState β) : Prop :=
  state.media.isDrained = true ∧ state.openaiSpeaking = true ∧ state.responseAudioDone = true

instance (state : PlaybackState β) : Decidable (StopsResponse state) :=
  inferInstanceAs (Decidable (_ ∧ _))

def beforeDone (history : List (PlaybackEvent (Tagged β))) (byte : Tagged β) : Bool :=
  decide (byte.push < pushesAtDone history)

/-- Every chunk accepted before the done flag was set has been consumed or was
discarded by a barge-in; none is queued, popped or buffered. -/
def ResponsePlayed (observed : Observed β) : Prop :=
  (∀ byte ∈ pending observed.state, beforeDone observed.history byte = false) ∧
    ((accepted observed.history).filter (beforeDone observed.history)).Perm
      ((consumed observed.history ++ erased observed.history).filter
        (beforeDone observed.history))

/-- The done flag is not set between the failed pop of a call and its look at the
flag while a chunk is queued, and the buffer has room for a popped chunk. -/
def SetsDoneInTime (observed : Observed β) : PlaybackStep β → Prop
  | .webSocket =>
      observed.state.handler.head? = some (.storeResponseAudioDone true) →
        observed.state.media.isDrained = true → observed.state.audioQueue.chunks = []
  | .media _ =>
      observed.state.media.chunkBytes.length ≤ observed.state.playbackBuffer.freespace
  | _ => True

instance [DecidableEq β] (observed : Observed β) :
    ∀ label, Decidable (SetsDoneInTime observed label)
  | .webSocket => inferInstanceAs (Decidable (_ → _ → _))
  | .media _ => inferInstanceAs (Decidable (_ ≤ _))
  | .message _ _ => inferInstanceAs (Decidable True)
  | .pauseresume _ => inferInstanceAs (Decidable True)
  | .setOpenaiMute _ => inferInstanceAs (Decidable True)
  | .writeFrame _ => inferInstanceAs (Decidable True)

theorem pushesAtDone_le (history : List (PlaybackEvent β)) :
    pushesAtDone history ≤ pushes history := by
  induction history with
  | nil => simp [pushesAtDone]
  | cons event older ih =>
      have grows : pushes older ≤ pushes (event :: older) := by
        simp only [pushes, List.countP_cons]
        omega
      simp only [pushesAtDone]
      split
      · exact grows
      · exact Nat.le_trans ih grows

theorem afterRefill_drained {call : WriteCall}
    (drained : (afterRefill call : WriteFramePc β).isDrained = true) : call.inuse = 0 := by
  unfold afterRefill at drained
  split at drained
  · rename_i empty
    simp only [Bool.and_eq_true, beq_iff_eq] at empty
    exact empty.2
  · simp [WriteFramePc.isDrained] at drained

def QueuedAfterDone (state : PlaybackState (Tagged β))
    (history : List (PlaybackEvent (Tagged β))) : Prop :=
  state.media.isDrained = true → ∀ byte ∈ state.audioQueue.bytes, pushesAtDone history ≤ byte.push

theorem queuedAfterDone_transition {config : PlaybackConfig} {state next : PlaybackState (Tagged β)}
    {label : PlaybackStep (Tagged β)} {events history : List (PlaybackEvent (Tagged β))}
    (playing : Playing state) (provenance : Provenance state history)
    (threshold : CallFrame (fun frame => 0 < frame.refillThreshold) state)
    (timely : ∀ rest, label = .webSocket → state.handler = .storeResponseAudioDone true :: rest →
      state.media.isDrained = true → state.audioQueue.chunks = [])
    (room : label.isMedia = true →
      state.media.chunkBytes.length ≤ state.playbackBuffer.freespace)
    (held : QueuedAfterDone state history)
    (moved : PlaybackTransition config state label next events) :
    QueuedAfterDone next (events.reverse ++ history) := by
  have whole := room_never_drops playing room moved
  intro drained
  cases moved with
  | message located received =>
      cases received <;> simpa [WsMessage.announcement, pushesAtDone] using held drained
  | clearQueue rest => simp
  | storeDone done rest found =>
      cases done with
      | false => simpa [pushesAtDone] using held drained
      | true =>
          have empty := timely rest rfl found drained
          simp [AudioQueue.bytes_eq_nil empty]
  | pushAccepted audio rest found =>
      intro byte member
      have atDone : pushesAtDone (.accepted (sampleBytes audio) :: history) =
          pushesAtDone history := by
        simp [pushesAtDone]
      simp only [List.reverse_cons, List.reverse_nil, List.nil_append, List.cons_append, atDone]
      rcases mem_queue_push member with old | new
      · exact held drained byte old
      · rw [(provenance.arriving audio (by simp [found]) byte new).1]
        exact pushesAtDone_le history
  | pushRejected audio rest found refused =>
      simpa [pushesAtDone, AudioQueue.push_bytes_rejected refused] using held drained
  | popEmpty located call standing _ empty => simp [AudioQueue.bytes_eq_nil empty]
  | refilled located call standing high =>
      have positive := threshold call (by simp [standing, WriteFramePc.call?])
      have level := afterRefill_drained drained
      omega
  | dropped located call chunk => exact absurd (by simp) (whole (sampleBytes chunk))
  | emitted => simp [WriteFramePc.isDrained] at drained
  | requestClear rest => simpa [pushesAtDone] using held drained
  | storeTerminal rest => simpa [pushesAtDone] using held drained
  | requestClose rest => simpa using held drained
  | pauseresume pause => simpa using held drained
  | setOpenaiMute mute => simpa using held drained
  | skipped frame => simpa using held drained
  | _ => simp [WriteFramePc.isDrained] at drained

structure DoneOrdered (observed : Observed β) : Prop where
  accounted : Accounted observed
  provenance : Provenance observed.state observed.history
  threshold : CallFrame (fun frame => 0 < frame.refillThreshold) observed.state
  whole : ∀ bytes, .chunkDropped bytes ∉ observed.history
  ordered : QueuedAfterDone observed.state observed.history

theorem doneOrdered_initial : DoneOrdered (.initial : Observed β) where
  accounted := accounted_initial
  provenance := provenance_initial
  threshold := by simp [CallFrame, Observed.initial, WriteFramePc.call?]
  whole := by simp [Observed.initial]
  ordered := by simp [QueuedAfterDone, Observed.initial, WriteFramePc.isDrained]

theorem doneOrdered_step {config : PlaybackConfig} {observed next : Observed β}
    {label : PlaybackStep β} (held : DoneOrdered observed)
    (met : SetsDoneInTime observed label ∧
      ∀ frame, label = .writeFrame frame → 0 < frame.refillThreshold)
    (taken : observedStep config observed label = some next) : DoneOrdered next := by
  have accounted := accounted_step held.accounted taken
  have provenance := provenance_step held.provenance taken
  obtain ⟨state, events, rfl, moved⟩ := observedStep_transition taken
  obtain ⟨timely, frames⟩ := met
  have room : (label.map (tag observed.history)).isMedia = true →
      observed.state.media.chunkBytes.length ≤ observed.state.playbackBuffer.freespace := by
    intro media
    cases label <;> simp_all [PlaybackStep.map, PlaybackStep.isMedia, SetsDoneInTime]
  have whole := room_never_drops held.accounted.playing room moved
  refine ⟨accounted, provenance, ?_, ?_, ?_⟩
  · exact callFrame_transition moved
      (fun frame same _ _ => frames frame (map_eq_writeFrame same)) held.threshold
  · intro bytes member
    rcases List.mem_append.mp member with new | old
    · exact whole bytes (by simpa using new)
    · exact held.whole bytes old
  · refine queuedAfterDone_transition held.accounted.playing held.provenance held.threshold ?_ room
      held.ordered moved
    intro rest same found
    cases label <;> simp_all [PlaybackStep.map, SetsDoneInTime]

theorem DoneOrdered.responsePlayed {observed : Observed β} (held : DoneOrdered observed)
    (stops : StopsResponse observed.state) : ResponsePlayed observed := by
  have late : ∀ byte ∈ pending observed.state, beforeDone observed.history byte = false := by
    have call := held.accounted.playing.call
    have queued := held.ordered stops.1
    cases standing : observed.state.media with
    | drained local_ =>
        simp only [CallConsistent, standing] at call
        simpa [pending, call, standing, beforeDone] using queued
    | _ => simp [StopsResponse, standing, WriteFramePc.isDrained] at stops
  refine ⟨late, ?_⟩
  have pendingNone : (pending observed.state).filter (beforeDone observed.history) = [] := by
    rw [List.filter_eq_nil_iff]
    intro byte member
    simp [late byte member]
  have moved := held.accounted.perm.filter (beforeDone observed.history)
  rw [chunksDropped_eq_nil held.whole] at moved
  simpa [pendingNone] using moved

/-- When the done flag is never set behind the failed pop of a call while a chunk
is queued, a response is stopped only after all of it has been played. -/
theorem response_stop_not_premature {config : PlaybackConfig} {labels : List (PlaybackStep β)}
    {observed : Observed β} (reached : Reaches config labels observed)
    (frames : ∀ frame, .writeFrame frame ∈ labels → 0 < frame.refillThreshold)
    (timely : Runs.Along (observedStep config) SetsDoneInTime .initial labels)
    (stops : StopsResponse observed.state) : ResponsePlayed observed := by
  have positive : ∀ label ∈ labels, ∀ frame, label = .writeFrame frame →
      0 < frame.refillThreshold :=
    fun label member frame same => frames frame (same ▸ member)
  have met := Runs.along_and timely (Runs.along_of_labels positive _)
  have held := Runs.along_invariant (fun _ _ _ held met taken => doneOrdered_step held met taken)
    doneOrdered_initial met reached
  exact held.responsePlayed stops

/-- One sample is played and the next call finds the queue empty; then `arriving`
is received before the done message. -/
def doneSchedule (arriving : List (Sample Nat)) : List (PlaybackStep Nat) :=
  [.message true (.audioDelta [(1, 2)]), .webSocket, .webSocket, .writeFrame ⟨2, 1, 2⟩,
    .media true, .media true, .media true, .media true, .media true, .media true,
    .writeFrame ⟨2, 1, 2⟩, .media true, .media true, .media true,
    .message true (.binaryAudio arriving)] ++
  (if arriving.isEmpty then [] else [.webSocket, .webSocket]) ++
  [.message true .audioDone, .webSocket]

theorem response_stop_not_premature_played :
    ∃ observed, Reaches ⟨8000, true⟩ (doneSchedule []) observed ∧
      StopsResponse observed.state ∧ ResponsePlayed observed := by
  have outcome : ((Runs.run (observedStep ⟨8000, true⟩) .initial (doneSchedule [])).any
      fun observed => decide (StopsResponse observed.state)) = true := by
    decide
  obtain ⟨observed, reached, stops⟩ := (Option.any_eq_true _ _).mp outcome
  have stopping := of_decide_eq_true stops
  refine ⟨observed, reached, stopping, response_stop_not_premature reached ?_ ?_ stopping⟩
  · intro frame member
    simp only [doneSchedule, List.isEmpty_nil, if_true, List.append_nil, List.cons_append,
      List.nil_append, List.mem_cons, PlaybackStep.writeFrame.injEq, reduceCtorEq,
      List.not_mem_nil, or_false, false_or] at member
    rcases member with rfl | rfl <;> decide
  · decide

/-- The stop comes while a chunk that was accepted before the done message is queued. -/
theorem response_stopped_early :
    ∃ observed, Reaches ⟨8000, true⟩ (doneSchedule [(3, 4)]) observed ∧
      StopsResponse observed.state ∧ ¬ResponsePlayed observed := by
  have outcome : ((Runs.run (observedStep ⟨8000, true⟩) .initial (doneSchedule [(3, 4)])).any
      fun observed : Observed Nat => decide (StopsResponse observed.state ∧
        ∃ byte ∈ pending observed.state, beforeDone observed.history byte = true)) = true := by
    decide
  obtain ⟨observed, reached, early⟩ := (Option.any_eq_true _ _).mp outcome
  obtain ⟨stops, byte, queued, before⟩ := of_decide_eq_true early
  refine ⟨observed, reached, stops, fun played => ?_⟩
  rw [played.1 byte queued] at before
  cases before

end

end OpenaiAudioStream
