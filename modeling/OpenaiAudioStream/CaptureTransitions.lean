import OpenaiAudioStream.CaptureCore

/-!
Everything one step of the capture machine can do, and its runs with their
history, newest event first.
-/

namespace OpenaiAudioStream

variable {β ρ : Type*}

inductive CaptureTransition (setup : CaptureSetup β ρ) : CaptureState β ρ → CaptureStep β →
    CaptureState β ρ → List (CaptureEvent β) → Prop
  | captured {state} (data) : state.bugAttached = true →
      CaptureTransition setup state (.capture data) { state with bug := state.bug ++ data }
        [.captured data]
  | pausedReturn {state} : state.media = .idle → state.audioPaused = true →
      CaptureTransition setup state .streamFrame { state with media := .idle } []
  | entered {state} : state.media = .idle → state.audioPaused = false →
      CaptureTransition setup state .streamFrame { state with media := .checkMuted } []
  | mutedReturn {state} (available accepted) : state.media = .checkMuted →
      state.userAudioMuted = true →
      CaptureTransition setup state (.media available accepted) { state with media := .idle } []
  | unmuted {state} (available accepted) : state.media = .checkMuted →
      state.userAudioMuted = false →
      CaptureTransition setup state (.media available accepted) { state with media := .trylock } []
  | tryFailed {state} (available accepted) : state.media = .trylock → state.mutex ≠ none →
      CaptureTransition setup state (.media available accepted) { state with media := .idle } []
  | tryLocked {state} (available accepted) : state.media = .trylock → state.mutex = none →
      CaptureTransition setup state (.media available accepted)
        { state with mutex := some .media, media := .checkConnected } []
  | unconnected {state} (available accepted) : state.media = .checkConnected →
      state.usable = false →
      CaptureTransition setup state (.media available accepted) { state with media := .unlock } []
  | connected {state} (available accepted) : state.media = .checkConnected →
      state.usable = true →
      CaptureTransition setup state (.media available accepted)
        { state with media := .consumeCaptureReset } []
  | resetConsumed {state} (available accepted) : state.media = .consumeCaptureReset →
      state.captureResetPending = true →
      CaptureTransition setup state (.media available accepted)
        { state with
          captureResetPending := false
          sbuffer := state.sbuffer.zero
          media := .readBug }
        [.captureResetConsumed state.sbuffer.contents]
  | resetAbsent {state} (available accepted) : state.media = .consumeCaptureReset →
      state.captureResetPending = false →
      CaptureTransition setup state (.media available accepted) { state with media := .readBug } []
  | readFailed {state} (accepted) : state.media = .readBug →
      CaptureTransition setup state (.media none accepted) { state with media := .unlock } []
  | readNothing {state} (count accepted) : state.media = .readBug →
      state.bug.take count = [] →
      CaptureTransition setup state (.media (some count) accepted) state []
  | readFrame {state} (count accepted) : state.media = .readBug → state.bug.take count ≠ [] →
      CaptureTransition setup state (.media (some count) accepted)
        { state with
          bug := state.bug.drop count
          resampler := (framePieces setup state.resampler (state.bug.take count)).1
          media := nextPiece (framePieces setup state.resampler (state.bug.take count)).2 }
        []
  | pieceReturned {state} (available accepted rest) :
      state.media = .piece (.returned true) rest →
      CaptureTransition setup state (.media available accepted)
        { state with media := nextPiece rest } []
  | pieceFailed {state} (available accepted rest) :
      state.media = .piece (.returned false) rest →
      CaptureTransition setup state (.media available accepted)
        { state with media := if setup.resample.isSome then .readBug else .unlock } []
  | pieceMoved {state} (available accepted position rest) :
      state.media = .piece position rest → (∀ success, position ≠ .returned success) →
      CaptureTransition setup state (.media available accepted)
        { state with
          sbuffer := (pieceStep setup.rtpPackets state.usable (state.connected && accepted)
            state.sbuffer position).1
          media := .piece (pieceStep setup.rtpPackets state.usable (state.connected && accepted)
            state.sbuffer position).2.1 rest }
        ((pieceStep setup.rtpPackets state.usable (state.connected && accepted)
          state.sbuffer position).2.2.map CaptureEvent.audio)
  | mediaUnlocked {state} (available accepted) : state.media = .unlock →
      CaptureTransition setup state (.media available accepted)
        { state with mutex := none, media := .idle } []
  | flagCommand {state} (command) : state.command = .idle → state.bugAttached = true →
      CaptureTransition setup state (.command (.flag command))
        { state with command := .flushBug command } []
  | cleanupCommand {state} (text channelIsClosing) : state.command = .idle →
      state.bugAttached = true →
      CaptureTransition setup state (.command (.cleanup text channelIsClosing))
        { state with command := .lock (.cleanup text channelIsClosing) } []
  | noBug {state} (command) : state.command = .idle → state.bugAttached = false →
      CaptureTransition setup state (.command command) state []
  | bugFlushed {state} (outcome command) : state.command = .flushBug command →
      CaptureTransition setup state (.api outcome)
        { state with bug := [], command := .storeFlag command } [.bugFlushed]
  | flagStored {state} (outcome command) : state.command = .storeFlag command →
      CaptureTransition setup state (.api outcome) (storeFlag state command) [.flagStored command]
  | locked {state} (outcome work) : state.command = .lock work → state.mutex = none →
      CaptureTransition setup state (.api outcome)
        { state with mutex := some .command, command := .flush work } []
  | residueGone {state} (outcome work sbuffer events) : state.command = .flush work →
      flushCheck state.usable state.sbuffer = (sbuffer, none, events) →
      CaptureTransition setup state (.api outcome)
        { state with sbuffer := sbuffer, command := afterResidue work }
        (events.map CaptureEvent.audio)
  | residueTaken {state} (outcome work sbuffer bytes events) : state.command = .flush work →
      flushCheck state.usable state.sbuffer = (sbuffer, some bytes, events) →
      CaptureTransition setup state (.api outcome)
        { state with sbuffer := sbuffer, command := .flushSend work bytes }
        (events.map CaptureEvent.audio)
  | residueSent {state} (outcome work bytes) : state.command = .flushSend work bytes →
      CaptureTransition setup state (.api outcome)
        { state with sbuffer := state.sbuffer.zero, command := afterResidue work }
        [.audio (sendAudio (state.connected && outcome) bytes)]
  | silenceUnconnected {state} (outcome) : state.command = .silenceCheck →
      state.usable = false →
      CaptureTransition setup state (.api outcome) { state with command := .unlock } []
  | silenceConnected {state} (outcome) : state.command = .silenceCheck → state.usable = true →
      CaptureTransition setup state (.api outcome) { state with command := .silenceSend } []
  | silenceSent {state} (outcome) : state.command = .silenceSend →
      CaptureTransition setup state (.api outcome) { state with command := .unlock }
        (if state.connected && outcome then [.silenceSent] else [])
  | jsonSent {state} (outcome channelIsClosing) : state.command = .sendJson channelIsClosing →
      CaptureTransition setup state (.api outcome)
        { state with command := .removeBug channelIsClosing }
        (if state.connected && outcome then [.jsonSent] else [])
  | removeRefused {state} : state.command = .removeBug false →
      CaptureTransition setup state (.api false) { state with command := .unlock } []
  | bugRemoved {state} (outcome channelIsClosing) : state.command = .removeBug channelIsClosing →
      state.media = .idle →
      CaptureTransition setup state (.api outcome)
        { state with bugAttached := false, command := .finish } [.bugRemoved]
  | finished {state} (outcome) : state.command = .finish →
      CaptureTransition setup state (.api outcome)
        { state with streamer := false, command := .unlock } []
  | apiUnlocked {state} (outcome) : state.command = .unlock →
      CaptureTransition setup state (.api outcome) { state with mutex := none, command := .idle } []
  | opened {state} : state.connected = false → state.closeCallback = false →
      CaptureTransition setup state .connectionOpened { state with connected := true }
        [.connectionOpened]
  | dropped {state} : state.connected = true →
      CaptureTransition setup state .connectionDropped
        { state with connected := false, closeCallback := true } [.connectionDropped]
  | resetRequested {state} : state.closeCallback = true →
      CaptureTransition setup state (.closeCallback true)
        { state with closeCallback := false, captureResetPending := true }
        [.captureResetRequested]
  | resetLost {state} : state.closeCallback = true →
      CaptureTransition setup state (.closeCallback false) { state with closeCallback := false } []

theorem captureMediaStep_transition {setup : CaptureSetup β ρ} {state next : CaptureState β ρ}
    {available : Option Nat} {accepted : Bool} {events : List (CaptureEvent β)}
    (taken : captureMediaStep setup available accepted state = some (next, events)) :
    CaptureTransition setup state (.media available accepted) next events := by
  unfold captureMediaStep at taken
  split at taken
  · simp at taken
  · rename_i standing
    by_cases muted : state.userAudioMuted = true
    · rw [if_pos muted] at taken
      cases taken
      exact .mutedReturn available accepted standing muted
    · rw [if_neg muted] at taken
      cases taken
      exact .unmuted available accepted standing (by simpa using muted)
  · rename_i standing
    by_cases free : state.mutex.isNone = true
    · rw [if_pos free] at taken
      cases taken
      exact .tryLocked available accepted standing (by simpa using free)
    · rw [if_neg free] at taken
      cases taken
      exact .tryFailed available accepted standing (by simpa using free)
  · rename_i standing
    by_cases usable : state.usable = true
    · rw [if_pos usable] at taken
      cases taken
      exact .connected available accepted standing usable
    · rw [if_neg usable] at taken
      cases taken
      exact .unconnected available accepted standing (by simpa using usable)
  · rename_i standing
    by_cases pending : state.captureResetPending = true
    · rw [if_pos pending] at taken
      cases taken
      exact .resetConsumed available accepted standing pending
    · rw [if_neg pending] at taken
      cases taken
      exact .resetAbsent available accepted standing (by simpa using pending)
  · rename_i standing
    cases taken
    cases available with
    | none => exact .readFailed accepted standing
    | some count =>
        by_cases nothing : state.bug.take count = []
        · simpa [readBug, nothing] using
            CaptureTransition.readNothing count accepted standing nothing
        · simpa [readBug, nothing] using CaptureTransition.readFrame count accepted standing nothing
  · rename_i position rest standing
    simp only [Option.some.injEq] at taken
    unfold sendPiece at taken
    split at taken
    · cases taken
      exact .pieceReturned available accepted rest standing
    · cases taken
      exact .pieceFailed available accepted rest standing
    · rename_i notTrue notFalse
      cases taken
      refine .pieceMoved available accepted position rest standing ?_
      rintro (_ | _)
      · exact notFalse
      · exact notTrue
  · rename_i standing
    cases taken
    exact .mediaUnlocked available accepted standing

theorem captureApiStep_transition {setup : CaptureSetup β ρ} {state next : CaptureState β ρ}
    {outcome : Bool} {events : List (CaptureEvent β)}
    (taken : captureApiStep outcome state = some (next, events)) :
    CaptureTransition setup state (.api outcome) next events := by
  unfold captureApiStep at taken
  split at taken
  · simp at taken
  · rename_i command standing
    cases taken
    exact .bugFlushed outcome command standing
  · rename_i command standing
    cases taken
    exact .flagStored outcome command standing
  · rename_i work standing
    by_cases free : state.mutex.isNone = true
    · rw [if_pos free] at taken
      cases taken
      exact .locked outcome work standing (by simpa using free)
    · rw [if_neg free] at taken
      cases taken
  · rename_i work standing
    split at taken
    · rename_i sbuffer events checked
      cases taken
      exact .residueGone outcome work sbuffer events standing checked
    · rename_i sbuffer bytes events checked
      cases taken
      exact .residueTaken outcome work sbuffer bytes events standing checked
  · rename_i work bytes standing
    cases taken
    exact .residueSent outcome work bytes standing
  · rename_i standing
    by_cases usable : state.usable = true
    · rw [if_pos usable] at taken
      cases taken
      exact .silenceConnected outcome standing usable
    · rw [if_neg usable] at taken
      cases taken
      exact .silenceUnconnected outcome standing (by simpa using usable)
  · rename_i standing
    cases taken
    exact .silenceSent outcome standing
  · rename_i channelIsClosing standing
    cases taken
    exact .jsonSent outcome channelIsClosing standing
  · rename_i channelIsClosing standing
    by_cases refused : (!channelIsClosing && !outcome) = true
    · rw [if_pos refused] at taken
      cases taken
      simp only [Bool.and_eq_true, Bool.not_eq_true'] at refused
      obtain ⟨rfl, rfl⟩ := refused
      exact .removeRefused standing
    · rw [if_neg refused] at taken
      split at taken
      · rename_i idle
        cases taken
        exact .bugRemoved outcome channelIsClosing standing idle
      · cases taken
  · rename_i standing
    cases taken
    exact .finished outcome standing
  · rename_i standing
    cases taken
    exact .apiUnlocked outcome standing

/-- The inversion of a step: every step taken is one of the listed transitions. -/
theorem captureStep_transition {setup : CaptureSetup β ρ} {state next : CaptureState β ρ}
    {label : CaptureStep β} {events : List (CaptureEvent β)}
    (taken : captureStep setup state label = some (next, events)) :
    CaptureTransition setup state label next events := by
  cases label with
  | capture data =>
      simp only [captureStep] at taken
      split at taken
      · rename_i attached
        cases taken
        exact .captured data attached
      · cases taken
  | streamFrame =>
      simp only [captureStep] at taken
      split at taken
      · cases taken
      · split at taken
        · rename_i idle
          by_cases paused : state.audioPaused = true
          · rw [if_pos paused] at taken
            cases taken
            exact .pausedReturn idle paused
          · rw [if_neg paused] at taken
            cases taken
            exact .entered idle (by simpa using paused)
        · cases taken
  | media available accepted => exact captureMediaStep_transition taken
  | command command =>
      simp only [captureStep] at taken
      split at taken
      · rename_i idle
        by_cases attached : state.bugAttached = true
        · rw [if_pos attached] at taken
          cases command with
          | flag command =>
              cases taken
              exact .flagCommand command idle attached
          | cleanup text channelIsClosing =>
              cases taken
              exact .cleanupCommand text channelIsClosing idle attached
        · rw [if_neg attached] at taken
          cases taken
          exact .noBug command idle (by simpa using attached)
      · cases taken
  | api outcome => exact captureApiStep_transition taken
  | connectionOpened =>
      simp only [captureStep] at taken
      split at taken
      · rename_i closed
        cases taken
        simp only [Bool.and_eq_true, Bool.not_eq_true'] at closed
        exact .opened closed.1 closed.2
      · cases taken
  | connectionDropped =>
      simp only [captureStep] at taken
      split at taken
      · rename_i connected
        cases taken
        exact .dropped connected
      · cases taken
  | closeCallback located =>
      simp only [captureStep] at taken
      split at taken
      · rename_i waiting
        cases taken
        cases located with
        | true => simpa using CaptureTransition.resetRequested waiting
        | false => simpa using CaptureTransition.resetLost waiting
      · cases taken

/-! Runs with their history. -/

structure Recorded (β ρ : Type*) where
  state : CaptureState β ρ
  history : List (CaptureEvent β)
  deriving DecidableEq

def recordedStep (setup : CaptureSetup β ρ) (recorded : Recorded β ρ) (label : CaptureStep β) :
    Option (Recorded β ρ) :=
  (captureStep setup recorded.state label).map fun outcome =>
    { state := outcome.1, history := outcome.2.reverse ++ recorded.history }

def Recorded.initial (capacity : Nat) (resampler : ρ) (startMuted : Bool) : Recorded β ρ where
  state := .initial capacity resampler startMuted
  history := []

theorem recordedStep_transition {setup : CaptureSetup β ρ} {recorded next : Recorded β ρ}
    {label : CaptureStep β} (taken : recordedStep setup recorded label = some next) :
    ∃ state events, next = ⟨state, events.reverse ++ recorded.history⟩ ∧
      CaptureTransition setup recorded.state label state events := by
  simp only [recordedStep, Option.map_eq_some_iff] at taken
  obtain ⟨⟨state, events⟩, found, same⟩ := taken
  exact ⟨state, events, same.symm, captureStep_transition found⟩

theorem CaptureState.connected_of_usable {state : CaptureState β ρ} (usable : state.usable = true) :
    state.connected = true := by
  simp only [CaptureState.usable, Bool.and_eq_true] at usable
  exact usable.2

theorem flushCheck_cases {usable : Bool} {sbuffer after : BoundedFifo β} {taken : Option (List β)}
    {events : List (AudioEvent β)} (checked : flushCheck usable sbuffer = (after, taken, events)) :
    after.contents = [] ∧ after.capacity = sbuffer.capacity ∧
      ((taken = none ∧ sbuffer.contents = [] ∧ events = []) ∨
        (taken = none ∧ usable = false ∧ events = [.residueDiscarded sbuffer.contents]) ∨
        (taken = some sbuffer.contents ∧ usable = true ∧ sbuffer.contents ≠ [] ∧
          events = [.residueTaken sbuffer.contents])) := by
  have whole : sbuffer.contents.take sbuffer.inuse = sbuffer.contents := List.take_length
  unfold flushCheck at checked
  split at checked
  · rename_i empty
    cases checked
    have nothing : sbuffer.contents = [] := List.eq_nil_of_length_eq_zero empty
    exact ⟨nothing, rfl, Or.inl ⟨rfl, nothing, rfl⟩⟩
  · rename_i used
    have something : sbuffer.contents ≠ [] := by
      intro nothing
      exact used (by simp [BoundedFifo.inuse, nothing])
    split at checked
    · rename_i connected
      simp only [BoundedFifo.read_fst, BoundedFifo.read_snd, whole] at checked
      cases checked
      refine ⟨?_, rfl, Or.inr (Or.inr ⟨rfl, connected, something, rfl⟩)⟩
      simp [BoundedFifo.inuse]
    · rename_i unconnected
      cases checked
      exact ⟨rfl, rfl, Or.inr (Or.inl ⟨rfl, by simpa using unconnected, rfl⟩)⟩

theorem flushCheck_none {usable : Bool} {sbuffer after : BoundedFifo β}
    {events : List (AudioEvent β)} (checked : flushCheck usable sbuffer = (after, none, events)) :
    after.contents = [] ∧
      ((sbuffer.contents = [] ∧ events = []) ∨
        (usable = false ∧ events = [.residueDiscarded sbuffer.contents])) := by
  obtain ⟨empty, _, ⟨_, nothing⟩ | ⟨_, discarded⟩ | ⟨impossible, _⟩⟩ := flushCheck_cases checked
  · exact ⟨empty, Or.inl nothing⟩
  · exact ⟨empty, Or.inr discarded⟩
  · cases impossible

theorem flushCheck_some {usable : Bool} {sbuffer after : BoundedFifo β} {bytes : List β}
    {events : List (AudioEvent β)}
    (checked : flushCheck usable sbuffer = (after, some bytes, events)) :
    after.contents = [] ∧ sbuffer.contents = bytes ∧ usable = true ∧ bytes ≠ [] ∧
      events = [.residueTaken bytes] := by
  obtain ⟨empty, _, ⟨impossible, _⟩ | ⟨impossible, _⟩ | ⟨whole, connected, used, rfl⟩⟩ :=
    flushCheck_cases checked
  · cases impossible
  · cases impossible
  · cases whole
    exact ⟨empty, rfl, connected, used, rfl⟩

inductive PieceTransition (rtpPackets : Nat) (usable accepted : Bool) (sbuffer : BoundedFifo β) :
    PiecePc β → BoundedFifo β → PiecePc β → List (AudioEvent β) → Prop
  | direct (data) : rtpPackets = 1 →
      PieceTransition rtpPackets usable accepted sbuffer (.start data) sbuffer (.returned true)
        [sendAudio accepted data]
  | begun (data) : rtpPackets ≠ 1 →
      PieceTransition rtpPackets usable accepted sbuffer (.start data) sbuffer (.loop data) []
  | ended :
      PieceTransition rtpPackets usable accepted sbuffer (.loop []) sbuffer (.returned true) []
  | full (data) :
      PieceTransition rtpPackets usable accepted sbuffer (.loop data) sbuffer (.flush true data) []
  | writeFailed (data) :
      PieceTransition rtpPackets usable accepted sbuffer (.loop data) sbuffer (.returned false) []
  | wrote (data count written after) : written.contents = sbuffer.contents ++ data.take count →
      after = .flush false (data.drop count) ∨ after = .loop (data.drop count) →
      PieceTransition rtpPackets usable accepted sbuffer (.loop data) written after
        [.buffered (data.take count)]
  | flushed (atHead data after events) : flushCheck usable sbuffer = (after, none, events) →
      PieceTransition rtpPackets usable accepted sbuffer (.flush atHead data) after
        (afterFlush after atHead data) events
  | taken (atHead data after bytes events) :
      flushCheck usable sbuffer = (after, some bytes, events) →
      PieceTransition rtpPackets usable accepted sbuffer (.flush atHead data) after
        (.flushSend atHead data bytes) events
  | flushSent (atHead data bytes) :
      PieceTransition rtpPackets usable accepted sbuffer (.flushSend atHead data bytes)
        sbuffer.zero (afterFlush sbuffer.zero atHead data) [sendAudio accepted bytes]

theorem pieceStep_transition {rtpPackets : Nat} {usable accepted : Bool} {sbuffer : BoundedFifo β}
    {position : PiecePc β} (running : ∀ success, position ≠ .returned success) :
    PieceTransition rtpPackets usable accepted sbuffer position
      (pieceStep rtpPackets usable accepted sbuffer position).1
      (pieceStep rtpPackets usable accepted sbuffer position).2.1
      (pieceStep rtpPackets usable accepted sbuffer position).2.2 := by
  cases position with
  | start data =>
      by_cases one : rtpPackets = 1
      · simpa [pieceStep, one] using PieceTransition.direct data one
      · simpa [pieceStep, one] using PieceTransition.begun data one
  | loop data =>
      by_cases empty : data = []
      · subst empty
        exact .ended
      · by_cases full : sbuffer.freespace = 0
        · simpa [pieceStep, empty, full] using PieceTransition.full data
        · by_cases failed : (sbuffer.write (data.take (min data.length sbuffer.freespace))).1 = 0
          · simpa [pieceStep, empty, full, writePiece, failed] using
              PieceTransition.writeFailed data
          · have fits : (data.take (min data.length sbuffer.freespace)).length ≤
                sbuffer.freespace := by
              simp only [List.length_take]
              omega
            have contents := BoundedFifo.write_contents fits
            by_cases filled :
                (sbuffer.write (data.take (min data.length sbuffer.freespace))).2.freespace = 0
            · simpa [pieceStep, empty, full, writePiece, failed, filled] using
                PieceTransition.wrote data _ _ _ contents (Or.inl rfl)
            · simpa [pieceStep, empty, full, writePiece, failed, filled] using
                PieceTransition.wrote data _ _ _ contents (Or.inr rfl)
  | flush atHead data =>
      simp only [pieceStep]
      split
      · rename_i after events checked
        exact .flushed atHead data after events checked
      · rename_i after bytes events checked
        exact .taken atHead data after bytes events checked
  | flushSend atHead data bytes => exact .flushSent atHead data bytes
  | returned success => exact absurd rfl (running success)

end OpenaiAudioStream
