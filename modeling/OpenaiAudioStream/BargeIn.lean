import OpenaiAudioStream.PlaybackConservation

/-!
Barge-in: the queue is cleared by the WebSocket thread and the playback buffer
by the next `consume_playback_clear` of the media thread. Where the bytes of
each epoch (the audio between two barge-ins) are, on every interleaving.
-/

namespace OpenaiAudioStream

section

variable {β : Type*}

/-- Where the WebSocket thread stands in a barge-in: outside, about to clear the
queue, or between the clear and the increment of the generation. -/
def BargeInPhase (handler : List (WsAction (Tagged β)))
    (history : List (PlaybackEvent (Tagged β))) : Prop :=
  (.clearAudioQueue ∉ handler ∧ .requestPlaybackClear ∉ handler ∧
    requests history = bargeIns history) ∨
  (handler = [.clearAudioQueue, .requestPlaybackClear] ∧
    requests history = bargeIns history) ∨
  (handler = [.requestPlaybackClear] ∧ requests history + 1 = bargeIns history ∧
    ∀ byte ∈ accepted history, byte.bargeIn < bargeIns history)

def PushLast (handler : List (WsAction β)) : Prop :=
  ∀ before audio after, handler = before ++ .pushAudioQueue audio :: after → after = []

/-- Where audio comes from: `arriving` is about the handler that is running, `queued`
about the queue, `current` about the audio that the media thread already took. -/
structure Provenance (state : PlaybackState (Tagged β))
    (history : List (PlaybackEvent (Tagged β))) : Prop where
  arriving : ∀ audio, .pushAudioQueue audio ∈ state.handler →
    ∀ byte ∈ sampleBytes audio, byte.push = pushes history ∧ byte.bargeIn = bargeIns history
  lastAction : PushLast state.handler
  bounded : ∀ byte ∈ accepted history,
    byte.push < pushes history ∧ byte.bargeIn ≤ bargeIns history
  phase : BargeInPhase state.handler history
  generation : state.playbackClearGen = requests history
  seen : state.playbackClearGenSeen = requestsAtConsume history
  queued : ∀ byte ∈ state.audioQueue.bytes, byte.bargeIn = bargeIns history
  current : ∀ byte ∈ state.playbackBuffer.contents ++ state.media.chunkBytes,
    state.playbackClearGenSeen ≤ byte.bargeIn

theorem BargeInPhase.requests_le {handler : List (WsAction (Tagged β))}
    {history : List (PlaybackEvent (Tagged β))} (phase : BargeInPhase handler history) :
    requests history ≤ bargeIns history := by
  rcases phase with ⟨_, _, same⟩ | ⟨_, same⟩ | ⟨_, next, _⟩ <;> omega

theorem BargeInPhase.outside {handler rest : List (WsAction (Tagged β))}
    {action : WsAction (Tagged β)} {history : List (PlaybackEvent (Tagged β))}
    (phase : BargeInPhase handler history) (found : handler = action :: rest)
    (other : action ≠ .clearAudioQueue ∧ action ≠ .requestPlaybackClear) :
    .clearAudioQueue ∉ rest ∧ .requestPlaybackClear ∉ rest ∧
      requests history = bargeIns history := by
  rcases phase with ⟨noClear, noRequest, same⟩ | ⟨clearing, _⟩ | ⟨requesting, _⟩
  · rw [found] at noClear noRequest
    exact ⟨fun member => noClear (by simp [member]), fun member => noRequest (by simp [member]),
      same⟩
  · rw [found] at clearing
    exact absurd (List.cons.inj clearing).1 other.1
  · rw [found] at requesting
    exact absurd (List.cons.inj requesting).1 other.2

theorem phase_message {config : PlaybackConfig} {located : Bool} {received : WsMessage (Tagged β)}
    {history : List (PlaybackEvent (Tagged β))} (same : requests history = bargeIns history) :
    BargeInPhase (received.handler config located) history := by
  by_cases barging : (PlaybackStep.message located received).isBargeIn = true
  · right; left
    refine ⟨?_, same⟩
    cases received <;> simp_all [PlaybackStep.isBargeIn, WsMessage.handler]
  · left
    have quiet := handler_undisturbed config (by simpa using barging)
    exact ⟨quiet.1, quiet.2, same⟩

theorem PushLast.suffix {handler rest : List (WsAction β)} (last : PushLast handler)
    (suffix : rest <:+ handler) : PushLast rest := by
  obtain ⟨first, rfl⟩ := suffix
  exact fun before audio after split => last (first ++ before) audio after (by simp [split])

theorem handler_pushLast (config : PlaybackConfig) (located : Bool) (received : WsMessage β) :
    PushLast (received.handler config located) := by
  intro before audio after split
  have member : .pushAudioQueue audio ∈ received.handler config located := by simp [split]
  rcases handler_pushes member with rfl | rfl
  · simp only [WsMessage.handler] at split
    split at split
    · simp at split
    · cases before with
      | nil => simp at split
      | cons first before => cases before <;> simp_all
  · simp only [WsMessage.handler] at split
    split at split
    · simp at split
    · cases before with
      | nil => simp at split
      | cons first before => split at split <;> cases before <;> simp_all

theorem requestsAtConsume_le (history : List (PlaybackEvent β)) :
    requestsAtConsume history ≤ requests history := by
  induction history with
  | nil => simp [requestsAtConsume]
  | cons event older ih =>
      have grows : requests older ≤ requests (event :: older) := by
        simp only [requests, List.countP_cons]
        omega
      simp only [requestsAtConsume]
      split
      · exact grows
      · exact Nat.le_trans ih grows

theorem mem_queue_push {limit : Nat} {queue : AudioQueue β} {audio : List (Sample β)} {byte : β}
    (member : byte ∈ (queue.pushAudioQueue limit audio).bytes) :
    byte ∈ queue.bytes ∨ byte ∈ sampleBytes audio := by
  by_cases taken : queue.accepts limit audio = true
  · rw [AudioQueue.push_bytes_accepted taken] at member
    exact List.mem_append.mp member
  · rw [AudioQueue.push_bytes_rejected (by simpa using taken)] at member
    exact Or.inl member

def PlaybackEvent.changesOrigin : PlaybackEvent β → Bool
  | .accepted _ => true
  | .queueCleared _ => true
  | .clearRequested => true
  | _ => false

theorem PlaybackEvent.changesOrigin_false {event : PlaybackEvent β}
    (quiet : event.changesOrigin = false) :
    event.isAccepted = false ∧ event.isQueueCleared = false ∧ event.isClearRequested = false ∧
      event.acceptedBytes = [] := by
  cases event <;> first | exact ⟨rfl, rfl, rfl, rfl⟩ | cases quiet

theorem counts_unchanged (newer history : List (PlaybackEvent β))
    (quiet : ∀ event ∈ newer, event.changesOrigin = false) :
    pushes (newer ++ history) = pushes history ∧ bargeIns (newer ++ history) = bargeIns history ∧
      requests (newer ++ history) = requests history ∧
        accepted (newer ++ history) = accepted history := by
  induction newer with
  | nil => exact ⟨rfl, rfl, rfl, rfl⟩
  | cons event newer ih =>
      obtain ⟨samePushes, sameBargeIns, sameRequests, sameAccepted⟩ :=
        ih fun other member => quiet other (by simp [member])
      obtain ⟨noPush, noBargeIn, noRequest, nothing⟩ :=
        PlaybackEvent.changesOrigin_false (quiet event (by simp))
      simp only [pushes, bargeIns, requests] at samePushes sameBargeIns sameRequests
      simp only [pushes, bargeIns, requests, List.cons_append, List.countP_cons, accepted,
        collect_cons, noPush, noBargeIn, noRequest, nothing, samePushes, sameBargeIns,
        sameRequests, List.append_nil, Bool.false_eq_true, if_false, Nat.add_zero, true_and]
      exact sameAccepted

theorem Provenance.of_quiet_step {state next : PlaybackState (Tagged β)}
    {history events : List (PlaybackEvent (Tagged β))}
    (held : Provenance state history) (handler : next.handler <:+ state.handler)
    (phase : BargeInPhase next.handler history)
    (generation : next.playbackClearGen = state.playbackClearGen)
    (seen : next.playbackClearGenSeen = requestsAtConsume (events.reverse ++ history))
    (queued : ∀ byte ∈ next.audioQueue.bytes, byte ∈ state.audioQueue.bytes)
    (quiet : ∀ event ∈ events, event.changesOrigin = false)
    (current : ∀ byte ∈ next.playbackBuffer.contents ++ next.media.chunkBytes,
      next.playbackClearGenSeen ≤ byte.bargeIn) :
    Provenance next (events.reverse ++ history) := by
  obtain ⟨samePushes, sameBargeIns, sameRequests, sameAccepted⟩ :=
    counts_unchanged events.reverse history
      (fun event member => quiet event (by simpa using member))
  exact {
    arriving := by
      rw [samePushes, sameBargeIns]
      exact fun audio member => held.arriving audio (handler.subset member)
    lastAction := held.lastAction.suffix handler
    bounded := by rw [sameAccepted, samePushes, sameBargeIns]; exact held.bounded
    phase := by
      simp only [BargeInPhase] at phase ⊢
      rwa [sameRequests, sameBargeIns, sameAccepted]
    generation := by rw [generation, sameRequests]; exact held.generation
    seen := seen
    queued := by
      rw [sameBargeIns]
      exact fun byte member => held.queued byte (queued byte member)
    current := current
  }

theorem requestsAtConsume_unchanged {newer : List (PlaybackEvent β)}
    (unconsumed : ∀ event ∈ newer, event.isClearConsumed = false)
    (history : List (PlaybackEvent β)) :
    requestsAtConsume (newer ++ history) = requestsAtConsume history := by
  induction newer with
  | nil => rfl
  | cons event newer ih =>
      rw [List.cons_append, requestsAtConsume, unconsumed event (by simp)]
      exact ih fun other member => unconsumed other (by simp [member])

theorem Provenance.of_media_step {state next : PlaybackState (Tagged β)}
    {history events : List (PlaybackEvent (Tagged β))} (held : Provenance state history)
    (handler : next.handler = state.handler)
    (generation : next.playbackClearGen = state.playbackClearGen)
    (seen : next.playbackClearGenSeen = state.playbackClearGenSeen)
    (queued : ∀ byte ∈ next.audioQueue.bytes, byte ∈ state.audioQueue.bytes)
    (quiet : ∀ event ∈ events, event.changesOrigin = false ∧ event.isClearConsumed = false)
    (current : ∀ byte ∈ next.playbackBuffer.contents ++ next.media.chunkBytes,
      state.playbackClearGenSeen ≤ byte.bargeIn) :
    Provenance next (events.reverse ++ history) := by
  refine held.of_quiet_step (handler ▸ List.suffix_refl _) (handler ▸ held.phase) generation ?_
    queued (fun event member => (quiet event member).1) (by rwa [seen])
  rw [requestsAtConsume_unchanged (fun event member => (quiet event (by simpa using member)).2),
    seen]
  exact held.seen

theorem provenance_message {config : PlaybackConfig} {state : PlaybackState (Tagged β)}
    {located : Bool} {received : WsMessage (Tagged β)}
    {history : List (PlaybackEvent (Tagged β))} (held : Provenance state history)
    (free : state.handler = [])
    (arrivals : ∀ audio, .pushAudioQueue audio ∈ received.handler config located →
      ∀ byte ∈ sampleBytes audio, byte.push = pushes history ∧ byte.bargeIn = bargeIns history) :
    Provenance { state with handler := received.handler config located }
      (received.announcement.reverse ++ history) := by
  have same : requests history = bargeIns history := by
    rcases held.phase with ⟨_, _, same⟩ | ⟨clearing, _⟩ | ⟨requesting, _⟩
    · exact same
    · simp [free] at clearing
    · simp [free] at requesting
  have silent : Provenance { state with handler := received.handler config located } history := {
    held with
    arriving := arrivals
    lastAction := handler_pushLast config located received
    phase := phase_message same
  }
  refine silent.of_quiet_step (List.suffix_refl _) silent.phase rfl ?_ (fun _ member => member) ?_
    silent.current
  · cases received <;> simpa [WsMessage.announcement, requestsAtConsume] using held.seen
  · cases received <;> simp [WsMessage.announcement, PlaybackEvent.changesOrigin]

theorem provenance_clearQueue {state : PlaybackState (Tagged β)} {rest : List (WsAction (Tagged β))}
    {history : List (PlaybackEvent (Tagged β))} (held : Provenance state history)
    (found : state.handler = .clearAudioQueue :: rest) :
    Provenance { state with audioQueue := state.audioQueue.clearAudioQueue, handler := rest }
      (.queueCleared state.audioQueue.bytes :: history) := by
  have pair : rest = [.requestPlaybackClear] ∧ requests history = bargeIns history := by
    rcases held.phase with ⟨noClear, _⟩ | ⟨clearing, same⟩ | ⟨requesting, _⟩
    · simp [found] at noClear
    · rw [found] at clearing
      exact ⟨(List.cons.inj clearing).2, same⟩
    · simp [found] at requesting
  obtain ⟨rfl, same⟩ := pair
  have begun : bargeIns (.queueCleared state.audioQueue.bytes :: history) =
      bargeIns history + 1 := by
    simp [bargeIns]
  exact {
    arriving := by simp
    lastAction := held.lastAction.suffix (by simp [found])
    bounded := by
      intro byte member
      have bound := held.bounded byte (by simpa using member)
      rw [begun]
      exact ⟨by simpa [pushes] using bound.1, by omega⟩
    phase := by
      right; right
      refine ⟨rfl, by rw [begun, ← same]; simp [requests], ?_⟩
      intro byte member
      have bound := held.bounded byte (by simpa using member)
      rw [begun]
      omega
    generation := by simpa [requests] using held.generation
    seen := by simpa [requestsAtConsume] using held.seen
    queued := by simp
    current := held.current
  }

theorem provenance_requestClear {state : PlaybackState (Tagged β)}
    {rest : List (WsAction (Tagged β))} {history : List (PlaybackEvent (Tagged β))}
    (held : Provenance state history) (found : state.handler = .requestPlaybackClear :: rest) :
    Provenance { state with playbackClearGen := state.playbackClearGen + 1, handler := rest }
      (.clearRequested :: history) := by
  have alone : rest = [] ∧ requests history + 1 = bargeIns history := by
    rcases held.phase with ⟨_, noRequest, _⟩ | ⟨clearing, _⟩ | ⟨requesting, behind, _⟩
    · simp [found] at noRequest
    · simp [found] at clearing
    · rw [found] at requesting
      exact ⟨(List.cons.inj requesting).2, behind⟩
  obtain ⟨rfl, behind⟩ := alone
  exact {
    arriving := by simp
    lastAction := held.lastAction.suffix (by simp [found])
    bounded := by simpa [pushes, bargeIns] using held.bounded
    phase := by
      left
      refine ⟨by simp, by simp, ?_⟩
      simp only [requests, bargeIns] at behind ⊢
      simpa using behind
    generation := by simp [requests, held.generation]
    seen := by simpa [requestsAtConsume] using held.seen
    queued := by simpa [bargeIns] using held.queued
    current := held.current
  }

theorem provenance_pushAccepted {limit : Nat} {state : PlaybackState (Tagged β)}
    {audio : List (Sample (Tagged β))} {rest : List (WsAction (Tagged β))}
    {history : List (PlaybackEvent (Tagged β))} (held : Provenance state history)
    (found : state.handler = .pushAudioQueue audio :: rest) :
    Provenance
      { state with audioQueue := state.audioQueue.pushAudioQueue limit audio, handler := rest }
      (.accepted (sampleBytes audio) :: history) := by
  obtain rfl : rest = [] := held.lastAction [] audio rest found
  have outside := held.phase.outside found ⟨by simp, by simp⟩
  have origin := held.arriving audio (by simp [found])
  have sameBargeIns : bargeIns (.accepted (sampleBytes audio) :: history) = bargeIns history := by
    simp [bargeIns]
  have morePushes : pushes (.accepted (sampleBytes audio) :: history) = pushes history + 1 := by
    simp [pushes]
  exact {
    arriving := by simp
    lastAction := held.lastAction.suffix (by simp [found])
    bounded := by
      intro byte member
      rw [sameBargeIns, morePushes]
      simp only [accepted, collect_cons, PlaybackEvent.acceptedBytes, List.mem_append] at member
      rcases member with old | new
      · have bound := held.bounded byte old
        omega
      · have tagged := origin byte new
        omega
    phase := by
      left
      refine ⟨outside.1, outside.2.1, ?_⟩
      rw [sameBargeIns, ← outside.2.2]
      simp [requests]
    generation := by simpa [requests] using held.generation
    seen := by simpa [requestsAtConsume] using held.seen
    queued := by
      intro byte member
      rw [sameBargeIns]
      rcases mem_queue_push member with old | new
      · exact held.queued byte old
      · exact (origin byte new).2
    current := held.current
  }

theorem provenance_transition {config : PlaybackConfig} {state next : PlaybackState (Tagged β)}
    {label : PlaybackStep (Tagged β)} {events history : List (PlaybackEvent (Tagged β))}
    (held : Provenance state history)
    (arrivals : ∀ located received, label = .message located received →
      ∀ audio, .pushAudioQueue audio ∈ received.handler config located →
        ∀ byte ∈ sampleBytes audio, byte.push = pushes history ∧ byte.bargeIn = bargeIns history)
    (moved : PlaybackTransition config state label next events) :
    Provenance next (events.reverse ++ history) := by
  have seen := held.seen
  have current := held.current
  have seenLe : state.playbackClearGenSeen ≤ bargeIns history := by
    rw [seen]
    exact Nat.le_trans (requestsAtConsume_le history) held.phase.requests_le
  have stays := List.suffix_refl state.handler
  cases moved with
  | message located received free =>
      exact provenance_message held free (arrivals located received rfl)
  | clearQueue rest found => exact provenance_clearQueue held found
  | requestClear rest found => exact provenance_requestClear held found
  | pushAccepted audio rest found => exact provenance_pushAccepted held found
  | storeDone done rest found =>
      exact held.of_quiet_step (by simp [found])
        (Or.inl (held.phase.outside found ⟨by simp, by simp⟩)) rfl
        (by simpa [requestsAtConsume] using seen) (by simp)
        (by simp [PlaybackEvent.changesOrigin]) current
  | pushRejected audio rest found refused =>
      exact held.of_quiet_step (by simp [found])
        (Or.inl (held.phase.outside found ⟨by simp, by simp⟩)) rfl
        (by simpa [requestsAtConsume] using seen)
        (by simp [AudioQueue.push_bytes_rejected refused])
        (by simp [PlaybackEvent.changesOrigin]) current
  | storeTerminal rest found =>
      exact held.of_quiet_step (by simp [found])
        (Or.inl (held.phase.outside found ⟨by simp, by simp⟩)) rfl
        (by simpa [requestsAtConsume] using seen) (by simp)
        (by simp [PlaybackEvent.changesOrigin]) current
  | requestClose rest found =>
      exact held.of_quiet_step (by simp [found])
        (Or.inl (held.phase.outside found ⟨by simp, by simp⟩)) rfl (by simpa using seen)
        (by simp) (by simp) current
  | entered frame idle =>
      exact held.of_media_step rfl rfl rfl (by simp) (by simp [PlaybackEvent.changesOrigin])
        (by simpa [idle] using current)
  | clearAbsent located call standing same =>
      exact held.of_quiet_step stays held.phase rfl
        (by simp [requestsAtConsume, ← same, held.generation])
        (by simp) (by simp [PlaybackEvent.changesOrigin]) (by simpa [standing] using current)
  | clearSeen located call standing =>
      refine held.of_quiet_step stays held.phase rfl ?_ (by simp) ?_ (by simp)
      · cases state.openaiSpeaking <;> simp [requestsAtConsume, requests, held.generation]
      · cases state.openaiSpeaking <;> simp [PlaybackEvent.changesOrigin]
  | popEmpty located call standing =>
      exact held.of_media_step rfl rfl rfl (by simp) (by simp [PlaybackEvent.changesOrigin])
        (by simpa [standing] using current)
  | popped located call chunk rest standing _ found =>
      have split := AudioQueue.pop_bytes found
      refine held.of_media_step rfl rfl rfl ?_ (by simp) ?_
      · intro byte member
        simp [split, member]
      · intro byte member
        rcases List.mem_append.mp member with buffered | popped
        · exact current byte (by simp [buffered])
        · have tag := held.queued byte (by
            rw [split]
            exact List.mem_append_left _ (by simpa using popped))
          omega
  | written located call chunk standing room =>
      refine held.of_media_step rfl rfl rfl (by simp) (by simp) ?_
      have contents := BoundedFifo.write_contents (BoundedFifo.fits_of_written room)
      simpa [standing, contents] using current
  | dropped located call chunk standing =>
      refine held.of_media_step rfl rfl rfl (by simp) (by simp [PlaybackEvent.changesOrigin]) ?_
      intro byte member
      exact current byte (List.mem_append_left _ (by simpa using member))
  | tossed located call standing =>
      refine held.of_media_step rfl rfl rfl (by simp) (by simp [PlaybackEvent.changesOrigin]) ?_
      intro byte member
      exact current byte (List.mem_append_left _ (List.mem_of_mem_drop (by simpa using member)))
  | emitted located call standing =>
      refine held.of_media_step rfl rfl rfl (by simp) ?_ ?_
      · cases state.openaiSpeaking <;> simp [PlaybackEvent.changesOrigin]
      · intro byte member
        exact current byte (List.mem_append_left _ (List.mem_of_mem_drop (by simpa using member)))
  | drainedStop located call standing =>
      exact held.of_media_step rfl rfl rfl (by simp) (by simp [PlaybackEvent.changesOrigin])
        (by simpa [standing] using current)
  | closeStream located call standing =>
      exact held.of_media_step rfl rfl rfl (by simp) (by simp [PlaybackEvent.changesOrigin])
        (by simpa [standing] using current)
  | snapshot located call standing =>
      exact held.of_media_step rfl rfl rfl (by simp) (by simp) (by simpa [standing] using current)
  | refilled located call standing =>
      exact held.of_media_step rfl rfl rfl (by simp) (by simp) (by simpa [standing] using current)
  | drainedSilent located call standing =>
      exact held.of_media_step rfl rfl rfl (by simp) (by simp) (by simpa [standing] using current)
  | keepStream located call standing =>
      exact held.of_media_step rfl rfl rfl (by simp) (by simp) (by simpa [standing] using current)
  | _ => exact held.of_media_step rfl rfl rfl (by simp) (by simp) current

theorem provenance_initial : Provenance ({} : PlaybackState (Tagged β)) [] where
  arriving := by simp
  lastAction := by simp [PushLast]
  bounded := by simp
  phase := Or.inl ⟨by simp, by simp, rfl⟩
  generation := rfl
  seen := rfl
  queued := by simp [AudioQueue.bytes]
  current := by simp

theorem arrivals_tagged {config : PlaybackConfig} {label : PlaybackStep β}
    {history : List (PlaybackEvent (Tagged β))} {located : Bool} {received : WsMessage (Tagged β)}
    (same : label.map (tag history) = .message located received)
    {audio : List (Sample (Tagged β))}
    (member : .pushAudioQueue audio ∈ received.handler config located) :
    ∀ byte ∈ sampleBytes audio, byte.push = pushes history ∧ byte.bargeIn = bargeIns history := by
  have original : ∃ plain : List (Sample β),
      audio = plain.map (Prod.map (tag history) (tag history)) := by
    cases label with
    | message asked sent =>
        simp only [PlaybackStep.map, PlaybackStep.message.injEq] at same
        obtain ⟨-, rfl⟩ := same
        rcases handler_pushes member with arrived | arrived <;>
          cases sent <;> simp only [WsMessage.map, reduceCtorEq, WsMessage.binaryAudio.injEq,
            WsMessage.audioDelta.injEq] at arrived
        all_goals exact ⟨_, arrived.symm⟩
    | _ => simp [PlaybackStep.map] at same
  obtain ⟨plain, rfl⟩ := original
  intro byte inside
  rw [sampleBytes_map] at inside
  obtain ⟨value, -, rfl⟩ := List.mem_map.mp inside
  exact ⟨rfl, rfl⟩

theorem provenance_step {config : PlaybackConfig} {observed next : Observed β}
    {label : PlaybackStep β} (held : Provenance observed.state observed.history)
    (taken : observedStep config observed label = some next) :
    Provenance next.state next.history := by
  obtain ⟨state, events, rfl, moved⟩ := observedStep_transition taken
  exact provenance_transition held
    (fun located received same audio member => arrivals_tagged same member) moved

/-- What a call hands over is no older than the increments that its
`consume_playback_clear` saw: a byte that arrived before one of those barge-ins
has a smaller tag. -/
def NoStaleAudio (older : List (PlaybackEvent (Tagged β))) : PlaybackEvent (Tagged β) → Prop
  | .frameReplaced _ data _ =>
      ∀ byte, .audio byte ∈ data → requestsAtConsume older ≤ byte.bargeIn
  | _ => True

theorem mem_frameData {frame : WriteFrame} {inuse : Nat} {audio : List β} {byte : β}
    (member : .audio byte ∈ frameData frame inuse audio) : byte ∈ audio := by
  have written : ∀ {data source : List (FrameByte β)} {offset : Nat},
      .audio byte ∈ overwrite data offset source → .audio byte ∈ data ∨ .audio byte ∈ source := by
    intro data source offset inside
    simp only [overwrite, List.mem_append] at inside
    rcases inside with (before | within) | behind
    · exact Or.inl (List.mem_of_mem_take before)
    · exact Or.inr within
    · exact Or.inl (List.mem_of_mem_drop behind)
  have filled : .audio byte ∈ overwrite (.replicate frame.buflen FrameByte.original) 0
      (audio.map .audio) → byte ∈ audio := by
    intro inside
    simpa using written inside
  unfold frameData at member
  have inside := List.mem_of_mem_take member
  split at inside
  · rcases written inside with copied | padding
    · exact filled copied
    · simp at padding
  · exact filled inside

theorem noStaleAudio_transition {config : PlaybackConfig} {state next : PlaybackState (Tagged β)}
    {label : PlaybackStep (Tagged β)} {events history : List (PlaybackEvent (Tagged β))}
    (held : Provenance state history) (fresh : Runs.EveryEvent NoStaleAudio history)
    (moved : PlaybackTransition config state label next events) :
    Runs.EveryEvent NoStaleAudio (events.reverse ++ history) := by
  cases moved with
  | message located received =>
      cases received <;> simpa [WsMessage.announcement, Runs.EveryEvent, NoStaleAudio] using fresh
  | clearSeen => cases state.openaiSpeaking <;> simpa [Runs.EveryEvent, NoStaleAudio] using fresh
  | emitted located call standing =>
      have recent : ∀ byte, .audio byte ∈ frameData call.frame call.outputSize
          (state.playbackBuffer.contents.take call.outputSize) →
            requestsAtConsume history ≤ byte.bargeIn := by
        intro byte member
        rw [← held.seen]
        exact held.current byte
          (List.mem_append_left _ (List.mem_of_mem_take (mem_frameData member)))
      cases state.openaiSpeaking
      · exact ⟨by simpa [NoStaleAudio, requestsAtConsume] using recent, trivial, fresh⟩
      · exact ⟨recent, fresh⟩
  | _ => simpa [Runs.EveryEvent, NoStaleAudio] using fresh

structure Silencing (observed : Observed β) : Prop where
  provenance : Provenance observed.state observed.history
  fresh : Runs.EveryEvent NoStaleAudio observed.history

theorem silencing_step {config : PlaybackConfig} {observed next : Observed β}
    {label : PlaybackStep β} (held : Silencing observed)
    (taken : observedStep config observed label = some next) : Silencing next := by
  refine ⟨provenance_step held.provenance taken, ?_⟩
  obtain ⟨state, events, rfl, moved⟩ := observedStep_transition taken
  exact noStaleAudio_transition held.provenance held.fresh moved

/-- Once a barge-in has incremented the clear generation, no call that consumes
the generation afterwards emits audio that was pushed before that barge-in. -/
theorem bargeIn_silences_earlier_audio {config : PlaybackConfig} {labels : List (PlaybackStep β)}
    {observed : Observed β} (reached : Reaches config labels observed) :
    Runs.EveryEvent NoStaleAudio observed.history := by
  have initial : Silencing (.initial : Observed β) := ⟨provenance_initial, trivial⟩
  exact (Runs.run_invariant (fun _ _ _ held taken => silencing_step held taken) initial
    reached).fresh

/-- A barge-in while a popped chunk waits to be written: the running call still
emits it, the next call emits only what arrived after the barge-in. -/
def midCallSchedule : List (PlaybackStep Nat) :=
  [.message true (.audioDelta [(1, 2), (3, 4), (5, 6)]), .webSocket, .webSocket,
    .writeFrame ⟨4, 2, 8192⟩, .media true, .media true, .media true,
    .message true .speechStarted, .webSocket, .webSocket, .media true, .media true, .media true,
    .message true (.audioDelta [(7, 8)]), .webSocket, .webSocket,
    .writeFrame ⟨4, 2, 8192⟩, .media true, .media true, .media true, .media true, .media true,
    .media true]

theorem bargeIn_silences_earlier_audio_midCall :
    ∃ observed, Reaches ⟨8000, true⟩ midCallSchedule observed ∧
      Runs.EveryEvent NoStaleAudio observed.history := by
  obtain ⟨observed, reached⟩ := Option.isSome_iff_exists.mp
    (by decide : (Runs.run (observedStep ⟨8000, true⟩) .initial midCallSchedule).isSome = true)
  exact ⟨observed, reached, bargeIn_silences_earlier_audio reached⟩

end

end OpenaiAudioStream
