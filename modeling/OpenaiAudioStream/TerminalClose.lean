import OpenaiAudioStream.PlaybackDrain

/-!
The end of a connection without automatic reconnection: the close callback sets
the done flag and then the terminal flag, and `write_frame` requests the close of
the stream once a call that saw the terminal flag finds nothing left to play.
-/

namespace OpenaiAudioStream

section

variable {β : Type*}

def isConnectionClosed : PlaybackEvent β → Bool
  | .connectionClosed => true
  | _ => false

def isCloseRequested : PlaybackEvent β → Bool
  | .closeRequested => true
  | _ => false

def isSpeechStart : PlaybackEvent β → Bool
  | .speechStarted notified => notified
  | _ => false

def isSpeechStop : PlaybackEvent β → Bool
  | .speechStopped notified => notified
  | _ => false

def PeerClosed (history : List (PlaybackEvent β)) : Prop :=
  history.any isConnectionClosed = true

def StreamClosing (history : List (PlaybackEvent β)) : Prop :=
  history.any isCloseRequested = true

def WsMessage.isDelivery : WsMessage β → Bool
  | .opened => false
  | .errored => false
  | .closed => false
  | _ => true

def WsAction.isClosing : WsAction β → Bool
  | .storeResponseAudioDone done => done
  | .storeTerminalClose => true
  | .requestMediaBugClose => true
  | _ => false

/-- The session is found by every lookup, and no message follows the close. -/
def OrderlyClose (observed : Observed β) : PlaybackStep β → Prop
  | .message located received => located = true ∧
      (received.isDelivery = true → observed.history.any isConnectionClosed = false)
  | .media located => located = true
  | _ => True

instance (observed : Observed β) : ∀ label, Decidable (OrderlyClose observed label)
  | .message _ _ => inferInstanceAs (Decidable (_ ∧ (_ → _)))
  | .media _ => inferInstanceAs (Decidable (_ = _))
  | .webSocket => inferInstanceAs (Decidable True)
  | .pauseresume _ => inferInstanceAs (Decidable True)
  | .setOpenaiMute _ => inferInstanceAs (Decidable True)
  | .writeFrame _ => inferInstanceAs (Decidable True)

def ClosePhase (state : PlaybackState β) (history : List (PlaybackEvent β)) : Prop :=
  (history.any isConnectionClosed = false ∧ state.terminalClose = false ∧
    .storeTerminalClose ∉ state.handler) ∨
  (PeerClosed history ∧ state.terminalClose = false ∧
    state.handler = [.storeResponseAudioDone true, .storeTerminalClose]) ∨
  (PeerClosed history ∧ state.terminalClose = false ∧ state.responseAudioDone = true ∧
    state.handler = [.storeTerminalClose]) ∨
  (PeerClosed history ∧ state.terminalClose = true ∧ state.responseAudioDone = true ∧
    ∀ action ∈ state.handler, action.isClosing = true)

/-- What a call that saw the terminal flag has established so far. -/
def TerminalCall (state : PlaybackState β) : Prop :=
  match state.media with
  | .drained call => call.terminalClose = true → state.audioQueue.chunks = []
  | .terminalCheck call => call.terminalClose = true →
      state.audioQueue.chunks = [] ∧ state.openaiSpeaking = false
  | _ => True

structure PlayedOut (state : PlaybackState β) : Prop where
  terminal : state.terminalClose = true
  queue : state.audioQueue.chunks = []
  buffer : state.playbackBuffer.contents = []
  popped : state.media.chunkBytes = []
  silent : state.openaiSpeaking = false
  idle : ∀ call, state.media.call? = some call → call.chunkEnqueued = false
  output : ∀ call, state.media ≠ .output call

structure Closing (state : PlaybackState β) (history : List (PlaybackEvent β)) : Prop where
  phase : ClosePhase state history
  snapshot : ∀ call, state.media.call? = some call → call.terminalClose = true →
    state.terminalClose = true
  call : TerminalCall state
  played : StreamClosing history → PlayedOut state
  balanced : history.countP isSpeechStart =
    history.countP isSpeechStop + (if state.openaiSpeaking then 1 else 0)

theorem ClosePhase.settled {state : PlaybackState β} {history : List (PlaybackEvent β)}
    (phase : ClosePhase state history) (terminal : state.terminalClose = true) :
    state.responseAudioDone = true ∧ ∀ action ∈ state.handler, action.isClosing = true := by
  rcases phase with ⟨_, open_, _⟩ | ⟨_, open_, _⟩ | ⟨_, open_, _⟩ | ⟨_, _, done, rest⟩
  · simp [terminal] at open_
  · simp [terminal] at open_
  · simp [terminal] at open_
  · exact ⟨done, rest⟩

theorem ClosePhase.of_quiet {state next : PlaybackState β} {newer history : List (PlaybackEvent β)}
    (phase : ClosePhase state history)
    (handler : next.handler = state.handler ∨
      ∃ action, state.handler = action :: next.handler ∧ action ≠ .storeTerminalClose ∧
        action ≠ .storeResponseAudioDone true)
    (terminal : next.terminalClose = state.terminalClose)
    (done : next.responseAudioDone = state.responseAudioDone)
    (closed : newer.any isConnectionClosed = history.any isConnectionClosed) :
    ClosePhase next newer := by
  simp only [ClosePhase, PeerClosed, terminal, done, closed] at phase ⊢
  rcases handler with same | ⟨action, found, notTerminal, notDone⟩
  · rwa [same]
  · rcases phase with ⟨open_, unset, absent⟩ | ⟨_, _, closing⟩ | ⟨_, _, _, closing⟩ |
      ⟨peer, set, stored, rest⟩
    · exact Or.inl ⟨open_, unset, fun member => absent (by simp [found, member])⟩
    · rw [found] at closing
      exact absurd (List.cons.inj closing).1 notDone
    · rw [found] at closing
      exact absurd (List.cons.inj closing).1 notTerminal
    · exact Or.inr (Or.inr (Or.inr ⟨peer, set, stored, fun other member =>
        rest other (by simp [found, member])⟩))

theorem closePhase_message {config : PlaybackConfig} {state : PlaybackState β}
    {received : WsMessage β} {history : List (PlaybackEvent β)}
    (phase : ClosePhase state history) (reconnect : config.automaticReconnection = false)
    (free : state.handler = [])
    (quiet : received.isDelivery = true → history.any isConnectionClosed = false) :
    ClosePhase { state with handler := received.handler config true }
      (received.announcement.reverse ++ history) := by
  have settled : history.any isConnectionClosed = false ∧ state.terminalClose = false ∨
      PeerClosed history ∧ state.terminalClose = true ∧ state.responseAudioDone = true := by
    rcases phase with
      ⟨open_, unset, _⟩ | ⟨_, _, closing⟩ | ⟨_, _, _, closing⟩ | ⟨peer, set, done, _⟩
    · exact Or.inl ⟨open_, unset⟩
    · simp [free] at closing
    · simp [free] at closing
    · exact Or.inr ⟨peer, set, done⟩
  rcases settled with ⟨open_, unset⟩ | ⟨peer, set, done⟩
  · by_cases closed : received = .closed
    · subst closed
      right; left
      refine ⟨?_, unset, ?_⟩
      · simp [PeerClosed, WsMessage.announcement, isConnectionClosed]
      · simp [WsMessage.handler, reconnect]
    · left
      refine ⟨?_, unset, ?_⟩
      · cases received <;> simp_all [WsMessage.announcement]
      · intro member
        cases received with
        | closed => exact closed rfl
        | binaryAudio converted =>
            simp only [WsMessage.handler] at member
            split at member <;> simp at member
        | audioDelta converted =>
            simp only [WsMessage.handler, Bool.not_true, Bool.false_eq_true, if_false] at member
            split at member <;> simp at member
        | _ => simp [WsMessage.handler, reconnect] at member
  · right; right; right
    refine ⟨?_, set, done, ?_⟩
    · simp only [PeerClosed, List.any_append, Bool.or_eq_true] at peer ⊢
      exact Or.inr peer
    · have change : received.isDelivery = false := by
        by_contra delivers
        have absent := quiet (by simpa using delivers)
        simp [PeerClosed, absent] at peer
      cases received <;> simp_all [WsMessage.isDelivery, WsMessage.handler, WsAction.isClosing]

theorem closePhase_storeDone {state : PlaybackState β} {done : Bool} {rest : List (WsAction β)}
    {history : List (PlaybackEvent β)} (phase : ClosePhase state history)
    (found : state.handler = .storeResponseAudioDone done :: rest) :
    ClosePhase { state with responseAudioDone := done, handler := rest }
      (.doneStored done :: history) := by
  rcases phase with ⟨open_, unset, absent⟩ | ⟨peer, unset, closing⟩ | ⟨_, _, _, closing⟩ |
    ⟨peer, set, _, left_⟩
  · exact Or.inl ⟨open_, unset, fun member => absent (by simp [found, member])⟩
  · rw [found] at closing
    simp only [List.cons.injEq, WsAction.storeResponseAudioDone.injEq] at closing
    exact Or.inr (Or.inr (Or.inl ⟨peer, unset, closing.1, closing.2⟩))
  · simp [found] at closing
  · have done_ := left_ (.storeResponseAudioDone done) (by simp [found])
    exact Or.inr (Or.inr (Or.inr ⟨peer, set, done_, fun other member =>
      left_ other (by simp [found, member])⟩))

theorem closePhase_storeTerminal {state : PlaybackState β} {rest : List (WsAction β)}
    {history : List (PlaybackEvent β)} (phase : ClosePhase state history)
    (found : state.handler = .storeTerminalClose :: rest) :
    ClosePhase { state with terminalClose := true, handler := rest }
      (.terminalStored :: history) := by
  rcases phase with ⟨_, _, absent⟩ | ⟨_, _, closing⟩ | ⟨peer, _, done, closing⟩ |
    ⟨peer, _, done, left_⟩
  · simp [found] at absent
  · simp [found] at closing
  · rw [found] at closing
    have last := (List.cons.inj closing).2
    exact Or.inr (Or.inr (Or.inr ⟨peer, rfl, done, by simp [last]⟩))
  · exact Or.inr (Or.inr (Or.inr ⟨peer, rfl, done, fun other member =>
      left_ other (by simp [found, member])⟩))

theorem closePhase_transition {config : PlaybackConfig} {state next : PlaybackState β}
    {label : PlaybackStep β} {events history : List (PlaybackEvent β)}
    (phase : ClosePhase state history) (reconnect : config.automaticReconnection = false)
    (orderly : ∀ located received, label = .message located received → located = true ∧
      (received.isDelivery = true → history.any isConnectionClosed = false))
    (moved : PlaybackTransition config state label next events) :
    ClosePhase next (events.reverse ++ history) := by
  cases moved with
  | message located received free =>
      obtain ⟨rfl, quiet⟩ := orderly located received rfl
      exact closePhase_message phase reconnect free quiet
  | storeDone done rest found => exact closePhase_storeDone phase found
  | storeTerminal rest found => exact closePhase_storeTerminal phase found
  | clearQueue rest found =>
      exact phase.of_quiet (Or.inr ⟨_, found, by simp, by simp⟩) rfl rfl rfl
  | requestClear rest found =>
      exact phase.of_quiet (Or.inr ⟨_, found, by simp, by simp⟩) rfl rfl rfl
  | pushAccepted audio rest found =>
      exact phase.of_quiet (Or.inr ⟨_, found, by simp, by simp⟩) rfl rfl rfl
  | pushRejected audio rest found =>
      exact phase.of_quiet (Or.inr ⟨_, found, by simp, by simp⟩) rfl rfl rfl
  | requestClose rest found =>
      exact phase.of_quiet (Or.inr ⟨_, found, by simp, by simp⟩) rfl rfl rfl
  | clearSeen =>
      refine phase.of_quiet (Or.inl rfl) rfl rfl ?_
      cases state.openaiSpeaking <;> rfl
  | emitted =>
      refine phase.of_quiet (Or.inl rfl) rfl rfl ?_
      cases state.openaiSpeaking <;> rfl
  | _ => exact phase.of_quiet (Or.inl rfl) rfl rfl rfl

theorem snapshot_transition {config : PlaybackConfig} {state next : PlaybackState β}
    {label : PlaybackStep β} {events : List (PlaybackEvent β)}
    (held : ∀ call, state.media.call? = some call → call.terminalClose = true →
      state.terminalClose = true)
    (moved : PlaybackTransition config state label next events) :
    ∀ call, next.media.call? = some call → call.terminalClose = true →
      next.terminalClose = true := by
  cases moved with
  | storeTerminal => simp
  | entered frame => simp [WriteFramePc.call?]
  | snapshot located call standing => simp [WriteFramePc.call?]
  | clearAbsent located call standing => simpa [standing, WriteFramePc.call?] using held
  | clearSeen located call standing => simpa [standing, WriteFramePc.call?] using held
  | popEmpty located call standing =>
      rw [standing] at held
      simpa using held call rfl
  | refilled located call standing =>
      rw [standing] at held
      simpa using held call rfl
  | dropped located call chunk standing =>
      rw [standing] at held
      simpa using held call rfl
  | popped located call chunk rest standing => simpa [standing, WriteFramePc.call?] using held
  | written located call chunk standing => simpa [standing, WriteFramePc.call?] using held
  | drainedStop located call standing => simpa [standing, WriteFramePc.call?] using held
  | drainedSilent located call standing => simpa [standing, WriteFramePc.call?] using held
  | closeStream => simp [WriteFramePc.call?]
  | keepStream => simp [WriteFramePc.call?]
  | tossed => simp [WriteFramePc.call?]
  | emitted => simp [WriteFramePc.call?]
  | _ => exact held

theorem terminalCall_afterRefill {state : PlaybackState β} {call : WriteCall}
    (empty : call.inuse = 0 → state.audioQueue.chunks = []) :
    TerminalCall { state with media := afterRefill call } := by
  by_cases none : (!call.chunkEnqueued && call.inuse == 0) = true
  · have level : call.inuse = 0 := by
      simp only [Bool.and_eq_true, beq_iff_eq] at none
      exact none.2
    simp [TerminalCall, afterRefill, none, empty level]
  · simp [TerminalCall, afterRefill, none]

theorem terminalCall_transition {config : PlaybackConfig} {state next : PlaybackState β}
    {label : PlaybackStep β} {events history : List (PlaybackEvent β)}
    (threshold : CallFrame (fun frame => 0 < frame.refillThreshold) state)
    (whole : ∀ bytes, .chunkDropped bytes ∉ events) (held : Closing state history)
    (moved : PlaybackTransition config state label next events) : TerminalCall next := by
  have call := held.call
  have unseen {action : WsAction β} {rest : List (WsAction β)}
      (found : state.handler = action :: rest) (other : action.isClosing = false) :
      ∀ local_, state.media.call? = some local_ → local_.terminalClose = false := by
    intro local_ running
    by_contra terminal
    have settled := (held.phase.settled (held.snapshot local_ running (by simpa using terminal))).2
    have closing := settled action (by simp [found])
    rw [other] at closing
    cases closing
  have quiet {action : WsAction β} {rest : List (WsAction β)} {queue : AudioQueue β}
      (found : state.handler = action :: rest) (other : action.isClosing = false) :
      TerminalCall { state with audioQueue := queue, handler := rest } := by
    have running := unseen found other
    cases standing : state.media with
    | drained local_ =>
        have open_ := running local_ (by simp [standing, WriteFramePc.call?])
        simp [TerminalCall, open_]
    | terminalCheck local_ =>
        have open_ := running local_ (by simp [standing, WriteFramePc.call?])
        simp [TerminalCall, open_]
    | _ => simp [TerminalCall]
  cases moved with
  | clearQueue rest found => exact quiet found rfl
  | pushAccepted audio rest found => exact quiet found rfl
  | pushRejected audio rest found => exact quiet found rfl
  | entered => trivial
  | clearAbsent => trivial
  | clearSeen => trivial
  | snapshot => trivial
  | popped => trivial
  | written => trivial
  | popEmpty located local_ standing _ empty => exact terminalCall_afterRefill fun _ => empty
  | refilled located local_ standing high =>
      have positive := threshold local_ (by simp [standing, WriteFramePc.call?])
      refine terminalCall_afterRefill fun level => ?_
      omega
  | dropped located local_ chunk => exact absurd (by simp) (whole (sampleBytes chunk))
  | drainedStop located local_ standing =>
      simp only [TerminalCall, standing] at call
      exact fun terminal => ⟨call terminal, rfl⟩
  | drainedSilent located local_ standing unfinished =>
      simp only [TerminalCall, standing] at call
      intro terminal
      have set := held.snapshot local_ (by simp [standing, WriteFramePc.call?]) terminal
      have done := (held.phase.settled set).1
      exact ⟨call terminal, by simpa [done] using unfinished⟩
  | closeStream => trivial
  | keepStream => trivial
  | tossed => trivial
  | emitted => trivial
  | _ => exact call

theorem playedOut_transition {config : PlaybackConfig} {state next : PlaybackState β}
    {label : PlaybackStep β} {events history : List (PlaybackEvent β)} (playing : Playing state)
    (phase : ClosePhase state history) (played : PlayedOut state)
    (moved : PlaybackTransition config state label next events) : PlayedOut next := by
  obtain ⟨terminal, queue, buffer, popped, silent, idle, output⟩ := played
  have settled := (phase.settled terminal).2
  have consistent := playing.call
  have behind {call : WriteCall} (running : state.media.call? = some call)
      (level : call.inuse = state.playbackBuffer.inuse) :
      PlayedOut { state with media := afterRefill call } := by
    have unqueued := idle call running
    have low : call.inuse = 0 := by simp [level, BoundedFifo.inuse, buffer]
    have drained : (afterRefill call : WriteFramePc β) = .drained call := by
      simp [afterRefill, unqueued, low]
    rw [drained]
    exact ⟨terminal, queue, buffer, rfl, silent, by simp [WriteFramePc.call?, unqueued], by simp⟩
  cases moved with
  | clearQueue rest found =>
      have closing := settled _ (by rw [found]; exact List.mem_cons_self)
      cases closing
  | requestClear rest found =>
      have closing := settled _ (by rw [found]; exact List.mem_cons_self)
      cases closing
  | pushAccepted audio rest found =>
      have closing := settled _ (by rw [found]; exact List.mem_cons_self)
      cases closing
  | pushRejected audio rest found =>
      have closing := settled _ (by rw [found]; exact List.mem_cons_self)
      cases closing
  | storeTerminal rest => exact ⟨rfl, queue, buffer, popped, silent, idle, output⟩
  | entered frame =>
      exact ⟨terminal, queue, buffer, rfl, silent, by simp [WriteFramePc.call?], by simp⟩
  | clearAbsent located call standing =>
      have unqueued := idle call (by simp [standing, WriteFramePc.call?])
      exact ⟨terminal, queue, buffer, rfl, silent, by simp [WriteFramePc.call?, unqueued], by simp⟩
  | clearSeen located call standing =>
      have unqueued := idle call (by simp [standing, WriteFramePc.call?])
      exact ⟨terminal, queue, rfl, rfl, rfl, by simp [WriteFramePc.call?, unqueued], by simp⟩
  | snapshot located call standing =>
      have unqueued := idle call (by simp [standing, WriteFramePc.call?])
      exact ⟨terminal, queue, buffer, rfl, silent, by simp [WriteFramePc.call?, unqueued], by simp⟩
  | popEmpty located call standing =>
      simp only [CallConsistent, standing] at consistent
      exact behind (by simp [standing, WriteFramePc.call?]) consistent
  | popped located call chunk rest standing _ found =>
      simp [AudioQueue.pop_some found] at queue
  | refilled located call standing =>
      simp only [CallConsistent, standing] at consistent
      exact behind (by simp [standing, WriteFramePc.call?]) consistent
  | written located call chunk standing =>
      simp only [CallConsistent, standing] at consistent
      have none := congrArg List.length popped
      simp only [standing, WriteFramePc.chunkBytes_writeChunk, sampleBytes_length,
        List.length_nil] at none
      have positive := List.length_pos_iff.mpr consistent.2.2.1
      omega
  | dropped located call chunk standing =>
      simp only [CallConsistent, standing] at consistent
      exact behind (by simp [standing, WriteFramePc.call?]) consistent.1
  | drainedStop located call standing =>
      have unqueued := idle call (by simp [standing, WriteFramePc.call?])
      exact ⟨terminal, queue, buffer, rfl, rfl, by simp [WriteFramePc.call?, unqueued], by simp⟩
  | drainedSilent located call standing =>
      have unqueued := idle call (by simp [standing, WriteFramePc.call?])
      exact ⟨terminal, queue, buffer, rfl, silent, by simp [WriteFramePc.call?, unqueued], by simp⟩
  | closeStream =>
      exact ⟨terminal, queue, buffer, rfl, silent, by simp [WriteFramePc.call?], by simp⟩
  | keepStream =>
      exact ⟨terminal, queue, buffer, rfl, silent, by simp [WriteFramePc.call?], by simp⟩
  | tossed located call standing => exact absurd standing (output call)
  | emitted located call standing => exact absurd standing (output call)
  | _ => exact ⟨terminal, queue, buffer, popped, silent, idle, output⟩

theorem balanced_transition {config : PlaybackConfig} {state next : PlaybackState β}
    {label : PlaybackStep β} {events history : List (PlaybackEvent β)}
    (located : ∀ found, label = .media found → found = true)
    (held : history.countP isSpeechStart =
      history.countP isSpeechStop + (if state.openaiSpeaking then 1 else 0))
    (moved : PlaybackTransition config state label next events) :
    (events.reverse ++ history).countP isSpeechStart =
      (events.reverse ++ history).countP isSpeechStop + (if next.openaiSpeaking then 1 else 0) := by
  cases moved with
  | message asked received =>
      cases received <;> simpa [WsMessage.announcement, isSpeechStart, isSpeechStop] using held
  | clearSeen found call =>
      obtain rfl := located found rfl
      cases speaking : state.openaiSpeaking <;>
        simpa [List.countP_cons, isSpeechStart, isSpeechStop, speaking] using held
  | drainedStop found call standing speaking =>
      obtain rfl := located found rfl
      simpa [List.countP_cons, isSpeechStart, isSpeechStop, speaking] using held
  | emitted found call =>
      obtain rfl := located found rfl
      cases speaking : state.openaiSpeaking <;>
        simpa [List.countP_cons, isSpeechStart, isSpeechStop, speaking] using held
  | _ => simpa [isSpeechStart, isSpeechStop] using held

theorem streamClosing_transition {config : PlaybackConfig} {state next : PlaybackState β}
    {label : PlaybackStep β} {events history : List (PlaybackEvent β)} (playing : Playing state)
    (held : Closing state history)
    (moved : PlaybackTransition config state label next events)
    (closing : StreamClosing (events.reverse ++ history)) : PlayedOut next := by
  have played (before : StreamClosing history) : PlayedOut next :=
    playedOut_transition playing held.phase (held.played before) moved
  have consistent := playing.call
  have call := held.call
  cases moved with
  | message located received =>
      apply played
      cases received <;>
        simpa [StreamClosing, WsMessage.announcement, isCloseRequested] using closing
  | clearSeen =>
      apply played
      cases speaking : state.openaiSpeaking <;>
        simpa [StreamClosing, isCloseRequested, speaking] using closing
  | emitted =>
      apply played
      cases speaking : state.openaiSpeaking <;>
        simpa [StreamClosing, isCloseRequested, speaking] using closing
  | closeStream located local_ standing terminal =>
      simp only [TerminalCall, CallConsistent, standing] at call consistent
      obtain ⟨queue, silent⟩ := call terminal
      have set := held.snapshot local_ (by simp [standing, WriteFramePc.call?]) terminal
      exact ⟨set, queue, consistent, rfl, silent, by simp [WriteFramePc.call?], by simp⟩
  | _ =>
      apply played
      simpa [StreamClosing, isCloseRequested] using closing

end

section

variable {β : Type*}

structure ClosingRun (observed : Observed β) : Prop where
  accounted : Accounted observed
  threshold : CallFrame (fun frame => 0 < frame.refillThreshold) observed.state
  small : CallFrame SmallFrame observed.state
  whole : ∀ bytes, .chunkDropped bytes ∉ observed.history
  closing : Closing observed.state observed.history

theorem closingRun_initial : ClosingRun (.initial : Observed β) where
  accounted := accounted_initial
  threshold := by simp [CallFrame, Observed.initial, WriteFramePc.call?]
  small := by simp [CallFrame, Observed.initial, WriteFramePc.call?]
  whole := by simp [Observed.initial]
  closing := {
    phase := Or.inl ⟨rfl, rfl, by simp [Observed.initial]⟩
    snapshot := by simp [Observed.initial, WriteFramePc.call?]
    call := trivial
    played := by simp [StreamClosing, Observed.initial]
    balanced := rfl
  }

structure UsableFrame (frame : WriteFrame) : Prop where
  nonempty : 0 < frame.datalen
  room : frame.datalen ≤ frame.buflen
  small : frame.buflen ≤ maxFrameBytes

theorem UsableFrame.smallFrame {frame : WriteFrame} (usable : UsableFrame frame) :
    SmallFrame frame := by
  have := usable.room
  have := usable.small
  simp only [SmallFrame, bytesNeeded_eq]
  omega

theorem UsableFrame.threshold {frame : WriteFrame} (usable : UsableFrame frame) :
    0 < frame.refillThreshold := by
  have := usable.nonempty
  have := usable.room
  have := usable.small
  simp only [WriteFrame.refillThreshold, bytesNeeded_eq, maxFrameBytes] at *
  omega

@[simp] theorem isDelivery_map {γ : Type*} (f : β → γ) (received : WsMessage β) :
    (received.map f).isDelivery = received.isDelivery := by
  cases received <;> rfl

theorem OrderlyClose.of_map {observed : Observed β} {label : PlaybackStep β}
    (orderly : OrderlyClose observed label) :
    (∀ located received, label.map (tag observed.history) = .message located received →
      located = true ∧
        (received.isDelivery = true → observed.history.any isConnectionClosed = false)) ∧
    (∀ located, label.map (tag observed.history) = .media located → located = true) := by
  cases label with
  | message located received =>
      refine ⟨?_, by simp [PlaybackStep.map]⟩
      rintro _ _ ⟨⟩
      exact ⟨orderly.1, fun delivery => orderly.2 (by simpa using delivery)⟩
  | media located => exact ⟨by simp [PlaybackStep.map], by rintro _ ⟨⟩; exact orderly⟩
  | _ => simp [PlaybackStep.map]

theorem closingRun_step {config : PlaybackConfig} {observed next : Observed β}
    {label : PlaybackStep β} (reconnect : config.automaticReconnection = false)
    (held : ClosingRun observed)
    (met : OrderlyClose observed label ∧
      ∀ frame, label = .writeFrame frame → UsableFrame frame)
    (taken : observedStep config observed label = some next) : ClosingRun next := by
  have accounted := accounted_step held.accounted taken
  obtain ⟨state, events, rfl, moved⟩ := observedStep_transition taken
  obtain ⟨orderly, frames⟩ := met
  obtain ⟨messages, media⟩ := orderly.of_map
  have playing := held.accounted.playing
  have whole := small_frame_never_drops playing held.small moved
  exact {
    accounted := accounted
    threshold := callFrame_transition moved
      (fun frame same _ _ => (frames frame (map_eq_writeFrame same)).threshold) held.threshold
    small := callFrame_transition moved
      (fun frame same _ _ => (frames frame (map_eq_writeFrame same)).smallFrame) held.small
    whole := by
      intro bytes member
      rcases List.mem_append.mp member with new | old
      · exact whole bytes (by simpa using new)
      · exact held.whole bytes old
    closing := {
      phase := closePhase_transition held.closing.phase reconnect messages moved
      snapshot := snapshot_transition held.closing.snapshot moved
      call := terminalCall_transition held.threshold whole held.closing moved
      played := streamClosing_transition playing held.closing moved
      balanced := balanced_transition media held.closing.balanced moved
    }
  }

/-- Without reconnection, once `write_frame` has requested the close of the
stream, all accepted audio has been played or was discarded by a barge-in, nothing
is buffered or queued, and every speech start has its stop. -/
theorem terminal_close_drains {config : PlaybackConfig} {labels : List (PlaybackStep β)}
    {observed : Observed β} (reconnect : config.automaticReconnection = false)
    (reached : Reaches config labels observed)
    (frames : ∀ frame, .writeFrame frame ∈ labels → UsableFrame frame)
    (orderly : Runs.Along (observedStep config) OrderlyClose .initial labels)
    (closing : StreamClosing observed.history) :
    (accepted observed.history).Perm (consumed observed.history ++ erased observed.history) ∧
      observed.state.audioQueue.chunks = [] ∧ observed.state.playbackBuffer.contents = [] ∧
      observed.state.openaiSpeaking = false ∧
      observed.history.countP isSpeechStart = observed.history.countP isSpeechStop := by
  have usable : ∀ label ∈ labels, ∀ frame, label = .writeFrame frame → UsableFrame frame :=
    fun label member frame same => frames frame (same ▸ member)
  have met := Runs.along_and orderly (Runs.along_of_labels usable _)
  have held := Runs.along_invariant
    (fun _ _ _ held met taken => closingRun_step reconnect held met taken)
    closingRun_initial met reached
  have played := held.closing.played closing
  have nothing : pending observed.state = [] := by
    simp [pending, played.buffer, played.popped, AudioQueue.bytes_eq_nil played.queue]
  have account := held.accounted.perm
  rw [chunksDropped_eq_nil held.whole, nothing] at account
  have balanced := held.closing.balanced
  simp only [played.silent, Bool.false_eq_true, if_false, Nat.add_zero] at balanced
  exact ⟨by simpa using account, played.queue, played.buffer, played.silent, balanced⟩

/-- The peer closes while a sample is queued: one call plays it, the next closes. -/
def peerCloseSchedule : List (PlaybackStep Nat) :=
  [.message true (.audioDelta [(1, 2)]), .webSocket, .webSocket, .message true .closed,
    .writeFrame ⟨2, 1, 8192⟩, .media true, .media true, .webSocket, .webSocket, .media true,
    .media true, .media true, .media true, .writeFrame ⟨2, 1, 8192⟩, .media true, .media true,
    .media true, .media true, .media true]

theorem terminal_close_drains_queued :
    ∃ observed, Reaches ⟨8000, false⟩ peerCloseSchedule observed ∧
      (accepted observed.history).Perm (consumed observed.history ++ erased observed.history) ∧
      observed.state.audioQueue.chunks = [] ∧ observed.state.playbackBuffer.contents = [] ∧
      observed.state.openaiSpeaking = false ∧
      observed.history.countP isSpeechStart = observed.history.countP isSpeechStop := by
  have outcome : ((Runs.run (observedStep ⟨8000, false⟩) .initial peerCloseSchedule).any
      fun observed => observed.history.any isCloseRequested) = true := by
    decide
  obtain ⟨observed, reached, closing⟩ := (Option.any_eq_true _ _).mp outcome
  refine ⟨observed, reached, terminal_close_drains rfl reached ?_ (by decide) closing⟩
  intro frame member
  simp only [peerCloseSchedule, List.mem_cons, PlaybackStep.writeFrame.injEq, reduceCtorEq,
    List.not_mem_nil, or_false, false_or] at member
  rcases member with rfl | rfl <;> exact ⟨by decide, by decide, by decide⟩

end

end OpenaiAudioStream
