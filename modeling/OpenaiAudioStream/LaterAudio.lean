import OpenaiAudioStream.BargeIn

/-!
Audio that arrives after a barge-in. It is lost when a `write_frame` call that
consumed the clear before the barge-in pops more of it than its frame takes: the
rest stays in the playback buffer, which the next call zeroes.
-/

namespace OpenaiAudioStream

section

variable {β : Type*}

def isLater (history : List (PlaybackEvent (Tagged β))) (byte : Tagged β) : Bool :=
  byte.bargeIn == bargeIns history

/-- The audio accepted since the latest barge-in has been consumed or is still on
its way, in the order in which it was accepted. -/
def LaterAudioKept (observed : Observed β) : Prop :=
  (consumed observed.history ++ pending observed.state).filter (isLater observed.history) =
    (accepted observed.history).filter (isLater observed.history)

instance [DecidableEq β] (observed : Observed β) : Decidable (LaterAudioKept observed) :=
  inferInstanceAs (Decidable (_ = _))

def PopFits (state : PlaybackState β) (call : WriteCall) : Prop :=
  ∀ chunk ∈ state.audioQueue.chunks.head?,
    call.inuse + 2 * chunk.length ≤ call.frame.bytesNeeded

instance (state : PlaybackState β) (call : WriteCall) : Decidable (PopFits state call) :=
  inferInstanceAs (Decidable (∀ chunk ∈ state.audioQueue.chunks.head?, _))

def WriteFramePc.popping? : WriteFramePc β → Option WriteCall
  | .popChunk call => some call
  | _ => none

/-- While a clear request waits, no call pops a chunk that its frame cannot take. -/
def SparesLaterAudio (observed : Observed β) (label : PlaybackStep β) : Prop :=
  label.isMedia = true → ∀ call ∈ observed.state.media.popping?,
    observed.state.playbackClearGen = observed.state.playbackClearGenSeen ∨
      call.frame.refillThreshold ≤ call.inuse ∨ PopFits observed.state call

instance (observed : Observed β) (label : PlaybackStep β) :
    Decidable (SparesLaterAudio observed label) :=
  inferInstanceAs (Decidable (_ → _))

def CallFits (state : PlaybackState β) : Prop :=
  match state.media with
  | .popChunk call => call.inuse ≤ call.frame.bytesNeeded
  | .writeChunk call chunk => call.inuse + 2 * chunk.length ≤ call.frame.bytesNeeded
  | .output call => call.inuse ≤ call.frame.bytesNeeded
  | _ => False

/-- What the next `consume_playback_clear` would erase arrived before the barge-in. -/
def ErasureSpares (state : PlaybackState (Tagged β))
    (history : List (PlaybackEvent (Tagged β))) : Prop :=
  state.playbackClearGen ≠ state.playbackClearGenSeen →
    (∀ byte ∈ state.playbackBuffer.contents ++ state.media.chunkBytes,
      isLater history byte = false) ∨ CallFits state

theorem isLater_eq_false_of_lt {history : List (PlaybackEvent (Tagged β))} {byte : Tagged β}
    (earlier : byte.bargeIn < bargeIns history) : isLater history byte = false := by
  simp only [isLater, beq_eq_false_iff_ne]
  omega

theorem callFits_afterRefill {state : PlaybackState (Tagged β)} {call : WriteCall}
    (level : call.inuse = state.playbackBuffer.inuse)
    (fits : call.inuse ≤ call.frame.bytesNeeded) (later : Tagged β → Bool) :
    (∀ byte ∈ state.playbackBuffer.contents ++ (afterRefill call).chunkBytes,
      later byte = false) ∨ CallFits { state with media := afterRefill call } := by
  by_cases empty : (!call.chunkEnqueued && call.inuse == 0) = true
  · left
    simp only [Bool.and_eq_true, beq_iff_eq] at empty
    have nothing : state.playbackBuffer.contents = [] := by
      apply List.eq_nil_of_length_eq_zero
      rw [← BoundedFifo.inuse, ← level, empty.2]
    simp [nothing]
  · right
    simpa [CallFits, afterRefill, empty] using fits

theorem toss_outputSize {buffer : BoundedFifo β} {call : WriteCall}
    (level : call.inuse = buffer.inuse) (fits : call.inuse ≤ call.frame.bytesNeeded) :
    buffer.contents.drop call.outputSize = [] := by
  have whole : call.outputSize = buffer.contents.length := by
    simp only [WriteCall.outputSize, BoundedFifo.inuse] at level ⊢
    split <;> omega
  simp [whole]

theorem buffered_accepted {observed : Observed β} (held : Accounted observed) {byte : Tagged β}
    (member : byte ∈ observed.state.playbackBuffer.contents ++ observed.state.media.chunkBytes) :
    byte ∈ accepted observed.history := by
  classical
  have count := held.count (· == byte)
  have inside : 0 < (pending observed.state).countP (· == byte) :=
    List.countP_pos_iff.mpr ⟨byte, List.mem_append_left _ member, by simp⟩
  have taken : 0 < (accepted observed.history).countP (· == byte) := by omega
  obtain ⟨other, arrived, same⟩ := List.countP_pos_iff.mp taken
  exact (beq_iff_eq.mp same) ▸ arrived

theorem ErasureSpares.of_quiet_step {state next : PlaybackState (Tagged β)}
    {history newer : List (PlaybackEvent (Tagged β))} (held : ErasureSpares state history)
    (generation : next.playbackClearGen = state.playbackClearGen)
    (seen : next.playbackClearGenSeen = state.playbackClearGenSeen)
    (same : bargeIns newer = bargeIns history)
    (fewer : ∀ byte ∈ next.playbackBuffer.contents ++ next.media.chunkBytes,
      byte ∈ state.playbackBuffer.contents ++ state.media.chunkBytes)
    (fits : CallFits state → (∀ byte ∈ next.playbackBuffer.contents ++ next.media.chunkBytes,
      isLater history byte = false) ∨ CallFits next) : ErasureSpares next newer := by
  intro waiting
  rw [generation, seen] at waiting
  have unchanged : isLater newer = isLater history := by
    funext byte
    simp only [isLater, same]
  rw [unchanged]
  rcases held waiting with earlier | taking
  · exact Or.inl fun byte member => earlier byte (fewer byte member)
  · exact fits taking

theorem erasureSpares_transition {config : PlaybackConfig} {state next : PlaybackState (Tagged β)}
    {label : PlaybackStep (Tagged β)} {events history : List (PlaybackEvent (Tagged β))}
    (playing : Playing state) (small : CallFrame SmallFrame state)
    (provenance : Provenance state history)
    (arrived : ∀ byte ∈ state.playbackBuffer.contents ++ state.media.chunkBytes,
      byte ∈ accepted history)
    (popping : ∀ located call, label = .media located → state.media = .popChunk call →
      state.playbackClearGen = state.playbackClearGenSeen ∨
        call.frame.refillThreshold ≤ call.inuse ∨ PopFits state call)
    (held : ErasureSpares state history)
    (moved : PlaybackTransition config state label next events) :
    ErasureSpares next (events.reverse ++ history) := by
  have whole := small_frame_never_drops playing small moved
  have call := playing.call
  cases moved with
  | message located received =>
      refine held.of_quiet_step rfl rfl ?_ (fun _ member => member) Or.inr
      cases received <;> simp [WsMessage.announcement, bargeIns]
  | clearQueue rest =>
      intro _
      left
      intro byte member
      apply isLater_eq_false_of_lt
      have bound := (provenance.bounded byte (arrived byte member)).2
      simp only [bargeIns, List.reverse_cons, List.reverse_nil, List.nil_append, List.cons_append,
        List.countP_cons, PlaybackEvent.isQueueCleared, if_true] at bound ⊢
      omega
  | requestClear rest found =>
      -- nothing has been accepted since the queue was cleared
      have behind : ∀ byte ∈ accepted history, byte.bargeIn < bargeIns history := by
        rcases provenance.phase with ⟨_, noRequest, _⟩ | ⟨clearing, _⟩ | ⟨_, _, earlier⟩
        · simp [found] at noRequest
        · simp [found] at clearing
        · exact earlier
      intro _
      left
      intro byte member
      apply isLater_eq_false_of_lt
      simpa [bargeIns] using behind byte (arrived byte member)
  | clearAbsent located local_ standing same => exact fun waiting => absurd same waiting
  | clearSeen => exact fun waiting => absurd rfl waiting
  | entered frame idle =>
      exact held.of_quiet_step rfl rfl (by simp [bargeIns]) (by simp [idle])
        (by simp [CallFits, idle])
  | snapshot located local_ standing =>
      exact held.of_quiet_step rfl rfl rfl (by simp [standing]) (by simp [CallFits, standing])
  | popEmpty located local_ standing =>
      simp only [CallConsistent, standing] at call
      exact held.of_quiet_step rfl rfl (by simp [bargeIns]) (by simp [standing])
        fun fits => callFits_afterRefill call (by simpa [CallFits, standing] using fits) _
  | refilled located local_ standing =>
      simp only [CallConsistent, standing] at call
      exact held.of_quiet_step rfl rfl rfl (by simp [standing])
        fun fits => callFits_afterRefill call (by simpa [CallFits, standing] using fits) _
  | popped located local_ chunk rest standing low found =>
      intro waiting
      right
      rcases popping located local_ rfl standing with same | high | fits
      · exact absurd same waiting
      · omega
      · exact fits chunk (by simp [AudioQueue.pop_some found])
  | written located local_ chunk standing room =>
      have contents := BoundedFifo.write_contents (BoundedFifo.fits_of_written room)
      simp only [CallConsistent, standing] at call
      refine held.of_quiet_step rfl rfl rfl (by simp [standing, contents]) fun fits => Or.inr ?_
      simp only [CallFits, standing] at fits
      simp only [CallFits, BoundedFifo.inuse, contents, List.length_append, sampleBytes_length]
      simp only [BoundedFifo.inuse] at call
      omega
  | dropped located local_ chunk => exact absurd (by simp) (whole (sampleBytes chunk))
  | drainedStop located local_ standing =>
      exact held.of_quiet_step rfl rfl (by simp [bargeIns]) (by simp [standing])
        (by simp [CallFits, standing])
  | drainedSilent located local_ standing =>
      exact held.of_quiet_step rfl rfl rfl (by simp [standing]) (by simp [CallFits, standing])
  | closeStream located local_ standing =>
      exact held.of_quiet_step rfl rfl (by simp [bargeIns]) (by simp [standing])
        (by simp [CallFits, standing])
  | keepStream located local_ standing =>
      exact held.of_quiet_step rfl rfl rfl (by simp [standing]) (by simp [CallFits, standing])
  | tossed located local_ standing =>
      refine held.of_quiet_step rfl rfl (by simp [bargeIns]) ?_ fun fits => Or.inl ?_
      · intro byte member
        exact List.mem_append_left _ (List.mem_of_mem_drop (by simpa using member))
      · simp only [CallFits, CallConsistent, standing] at fits call
        simp [toss_outputSize call fits]
  | emitted located local_ standing =>
      refine held.of_quiet_step rfl rfl ?_ ?_ fun fits => Or.inl ?_
      · cases state.openaiSpeaking <;> simp [bargeIns]
      · intro byte member
        exact List.mem_append_left _ (List.mem_of_mem_drop (by simpa using member))
      · simp only [CallFits, CallConsistent, standing] at fits call
        simp [toss_outputSize call fits]
  | _ => exact held.of_quiet_step rfl rfl (by simp [bargeIns]) (fun _ member => member) Or.inr

structure Sparing (observed : Observed β) : Prop where
  accounted : Accounted observed
  small : CallFrame SmallFrame observed.state
  provenance : Provenance observed.state observed.history
  spares : ErasureSpares observed.state observed.history
  kept : LaterAudioKept observed

theorem sparing_initial : Sparing (.initial : Observed β) where
  accounted := accounted_initial
  small := by simp [CallFrame, Observed.initial, WriteFramePc.call?]
  provenance := provenance_initial
  spares := fun waiting => absurd rfl waiting
  kept := by simp [LaterAudioKept, Observed.initial, pending, AudioQueue.bytes]

theorem erased_earlier {config : PlaybackConfig} {state next : PlaybackState (Tagged β)}
    {label : PlaybackStep (Tagged β)} {events history : List (PlaybackEvent (Tagged β))}
    (spares : ErasureSpares state history)
    (moved : PlaybackTransition config state label next events)
    (same : bargeIns (events.reverse ++ history) = bargeIns history) :
    ∀ byte ∈ erased events.reverse, isLater history byte = false := by
  cases moved with
  | message located received => cases received <;> simp [WsMessage.announcement]
  | clearQueue rest => simp [bargeIns] at same
  | clearSeen located call standing waiting =>
      have zeroed : ∀ byte ∈ state.playbackBuffer.contents, isLater history byte = false := by
        rcases spares waiting with earlier | fits
        · exact fun byte member => earlier byte (List.mem_append_left _ member)
        · simp [CallFits, standing] at fits
      cases state.openaiSpeaking <;> simpa using zeroed
  | emitted => cases state.openaiSpeaking <;> simp
  | _ => simp

theorem kept_of_earlier {observed : Observed β} (held : Accounted observed)
    (earlier : ∀ byte ∈ accepted observed.history, byte.bargeIn < bargeIns observed.history) :
    LaterAudioKept observed := by
  have none : (accepted observed.history).filter (isLater observed.history) = [] := by
    rw [List.filter_eq_nil_iff]
    intro byte member
    simp [isLater_eq_false_of_lt (earlier byte member)]
  have count := held.count (isLater observed.history)
  simp only [List.countP_eq_length_filter, none, List.length_nil] at count
  have consumedNone : (consumed observed.history).filter (isLater observed.history) = [] :=
    List.eq_nil_of_length_eq_zero (by omega)
  have pendingNone : (pending observed.state).filter (isLater observed.history) = [] :=
    List.eq_nil_of_length_eq_zero (by omega)
  rw [LaterAudioKept, List.filter_append, consumedNone, pendingNone, none, List.append_nil]

theorem bargeIns_step {config : PlaybackConfig} {state next : PlaybackState (Tagged β)}
    {label : PlaybackStep (Tagged β)} {events history : List (PlaybackEvent (Tagged β))}
    (provenance : Provenance state history)
    (moved : PlaybackTransition config state label next events) :
    bargeIns (events.reverse ++ history) = bargeIns history ∨
      ∀ byte ∈ accepted (events.reverse ++ history),
        byte.bargeIn < bargeIns (events.reverse ++ history) := by
  cases moved with
  | message located received =>
      left
      cases received <;> simp [WsMessage.announcement, bargeIns]
  | clearQueue rest =>
      right
      intro byte member
      have bound := (provenance.bounded byte (by simpa using member)).2
      simp only [bargeIns, List.reverse_cons, List.reverse_nil, List.nil_append, List.cons_append,
        List.countP_cons, PlaybackEvent.isQueueCleared, if_true] at bound ⊢
      omega
  | clearSeen =>
      left
      cases state.openaiSpeaking <;> simp [bargeIns]
  | emitted =>
      left
      cases state.openaiSpeaking <;> simp [bargeIns]
  | _ => exact Or.inl (by simp [bargeIns])

theorem PlaybackStep.isMedia_of_map {f : β → Tagged β} {label : PlaybackStep β} {located : Bool}
    (same : label.map f = .media located) : label.isMedia = true := by
  cases label <;> simp_all [PlaybackStep.map, PlaybackStep.isMedia]

theorem sparing_step {config : PlaybackConfig} {observed next : Observed β}
    {label : PlaybackStep β} (held : Sparing observed)
    (met : SparesLaterAudio observed label ∧ ∀ frame, label = .writeFrame frame → SmallFrame frame)
    (taken : observedStep config observed label = some next) : Sparing next := by
  have accounted := accounted_step held.accounted taken
  have provenance := provenance_step held.provenance taken
  obtain ⟨state, events, rfl, moved⟩ := observedStep_transition taken
  obtain ⟨popping, frames⟩ := met
  have arrived : ∀ byte ∈ observed.state.playbackBuffer.contents ++ observed.state.media.chunkBytes,
      byte ∈ accepted observed.history := fun byte member => buffered_accepted held.accounted member
  have small := callFrame_transition moved
    (fun frame same _ _ => frames frame (map_eq_writeFrame same)) held.small
  have whole := small_frame_never_drops held.accounted.playing held.small moved
  refine ⟨accounted, small, provenance, ?_, ?_⟩
  · refine erasureSpares_transition held.accounted.playing held.small held.provenance arrived ?_
      held.spares moved
    intro located call same standing
    exact popping (PlaybackStep.isMedia_of_map same) call
      (by simp [standing, WriteFramePc.popping?])
  · rcases bargeIns_step held.provenance moved with same | earlier
    · have unchanged : isLater (events.reverse ++ observed.history) = isLater observed.history := by
        funext byte
        simp only [isLater, same]
      have unbroken : chunksDropped events.reverse = [] :=
        chunksDropped_eq_nil (by simpa using whole)
      have flow := transition_flow moved (isLater observed.history) (by
        rw [unbroken, List.append_nil]
        exact erased_earlier held.spares moved same)
      have before := held.kept
      simp only [LaterAudioKept, unchanged, consumed, accepted, collect_append,
        List.filter_append] at flow before ⊢
      rw [List.append_assoc, ← flow, ← List.append_assoc, before]
    · exact kept_of_earlier accounted earlier

/-- In a run where no call pops, while a clear request waits, a chunk that its
frame cannot take, the audio that arrives after a barge-in is only ever consumed
in order. -/
theorem bargeIn_keeps_later_audio {config : PlaybackConfig} {labels : List (PlaybackStep β)}
    {observed : Observed β} (reached : Reaches config labels observed)
    (frames : ∀ frame, .writeFrame frame ∈ labels → SmallFrame frame)
    (spared : Runs.Along (observedStep config) SparesLaterAudio .initial labels) :
    LaterAudioKept observed := by
  have small : ∀ label ∈ labels, ∀ frame, label = .writeFrame frame → SmallFrame frame :=
    fun label member frame same => frames frame (same ▸ member)
  have met := Runs.along_and spared (Runs.along_of_labels small _)
  exact (Runs.along_invariant (fun _ _ _ held met taken => sparing_step held met taken)
    sparing_initial met reached).kept

/-- The barge-in falls between the consume step of the first call and its first pop. -/
def lateSchedule (arriving : List (Sample Nat)) : List (PlaybackStep Nat) :=
  [.writeFrame ⟨2, 1, 2⟩, .media true, .media true, .message true .speechStarted, .webSocket,
    .webSocket, .message true (.audioDelta arriving), .webSocket, .webSocket, .media true,
    .media true, .media true, .media true, .writeFrame ⟨2, 1, 2⟩, .media true]

theorem bargeIn_keeps_later_audio_fitting :
    ∃ observed, Reaches ⟨8000, true⟩ (lateSchedule [(1, 2)]) observed ∧
      LaterAudioKept observed := by
  obtain ⟨observed, reached⟩ := Option.isSome_iff_exists.mp
    (by decide : (Runs.run (observedStep ⟨8000, true⟩) .initial
      (lateSchedule [(1, 2)])).isSome = true)
  refine ⟨observed, reached, bargeIn_keeps_later_audio reached ?_ (by decide)⟩
  intro frame member
  simp only [lateSchedule, List.mem_cons, PlaybackStep.writeFrame.injEq, reduceCtorEq,
    List.not_mem_nil, or_false, false_or] at member
  rcases member with rfl | rfl <;> decide

theorem later_audio_erased :
    ∃ observed, Reaches ⟨8000, true⟩
        (lateSchedule [(1, 2), (3, 4), (5, 6), (7, 8)]) observed ∧
      (∃ byte ∈ erased observed.history, byte.bargeIn = bargeIns observed.history) ∧
      ¬LaterAudioKept observed := by
  have outcome : ((Runs.run (observedStep ⟨8000, true⟩) .initial
      (lateSchedule [(1, 2), (3, 4), (5, 6), (7, 8)])).any fun observed =>
        decide ((∃ byte ∈ erased observed.history, byte.bargeIn = bargeIns observed.history) ∧
          ¬LaterAudioKept observed)) = true := by
    decide
  obtain ⟨observed, reached, lost⟩ := (Option.any_eq_true _ _).mp outcome
  exact ⟨observed, reached, of_decide_eq_true lost⟩

end

end OpenaiAudioStream
