import OpenaiAudioStream.CapturePrivacy

/-!
The marks of captured bytes are ghosts as well: erasing them from the marked runs
gives exactly the runs of the machine on the captured bytes.
-/

namespace OpenaiAudioStream

section

variable {β γ ρ ρ' : Type*}

def AudioEvent.map (f : β → γ) : AudioEvent β → AudioEvent γ
  | .buffered bytes => .buffered (bytes.map f)
  | .residueTaken bytes => .residueTaken (bytes.map f)
  | .residueDiscarded bytes => .residueDiscarded (bytes.map f)
  | .sent bytes => .sent (bytes.map f)
  | .lost bytes => .lost (bytes.map f)

def PiecePc.map (f : β → γ) : PiecePc β → PiecePc γ
  | .start data => .start (data.map f)
  | .loop data => .loop (data.map f)
  | .flush atHead data => .flush atHead (data.map f)
  | .flushSend atHead data bytes => .flushSend atHead (data.map f) (bytes.map f)
  | .returned success => .returned success

def CommandPc.map (f : β → γ) : CommandPc β → CommandPc γ
  | .idle => .idle
  | .flushBug command => .flushBug command
  | .storeFlag command => .storeFlag command
  | .lock work => .lock work
  | .flush work => .flush work
  | .flushSend work bytes => .flushSend work (bytes.map f)
  | .silenceCheck => .silenceCheck
  | .silenceSend => .silenceSend
  | .sendJson channelIsClosing => .sendJson channelIsClosing
  | .removeBug channelIsClosing => .removeBug channelIsClosing
  | .finish => .finish
  | .unlock => .unlock

def StreamFramePc.map (f : β → γ) : StreamFramePc β → StreamFramePc γ
  | .idle => .idle
  | .checkMuted => .checkMuted
  | .trylock => .trylock
  | .checkConnected => .checkConnected
  | .consumeCaptureReset => .consumeCaptureReset
  | .readBug => .readBug
  | .piece position rest => .piece (position.map f) (rest.map (List.map f))
  | .unlock => .unlock

def CaptureEvent.map (f : β → γ) : CaptureEvent β → CaptureEvent γ
  | .captured data => .captured (data.map f)
  | .bugFlushed => .bugFlushed
  | .flagStored command => .flagStored command
  | .audio event => .audio (event.map f)
  | .captureResetConsumed discarded => .captureResetConsumed (discarded.map f)
  | .silenceSent => .silenceSent
  | .jsonSent => .jsonSent
  | .bugRemoved => .bugRemoved
  | .connectionOpened => .connectionOpened
  | .connectionDropped => .connectionDropped
  | .captureResetRequested => .captureResetRequested

def CaptureState.map (f : β → γ) (g : ρ → ρ') (state : CaptureState β ρ) : CaptureState γ ρ' where
  bug := state.bug.map f
  bugAttached := state.bugAttached
  sbuffer := state.sbuffer.map f
  resampler := g state.resampler
  audioPaused := state.audioPaused
  userAudioMuted := state.userAudioMuted
  openaiAudioMuted := state.openaiAudioMuted
  captureResetPending := state.captureResetPending
  streamer := state.streamer
  connected := state.connected
  closeCallback := state.closeCallback
  mutex := state.mutex
  media := state.media.map f
  command := state.command.map f

def mapCaptureOutcome (f : β → γ) (g : ρ → ρ')
    (outcome : CaptureState β ρ × List (CaptureEvent β)) :
    CaptureState γ ρ' × List (CaptureEvent γ) :=
  (outcome.1.map f g, outcome.2.map (CaptureEvent.map f))

def SetupMaps (f : β → γ) (g : ρ → ρ') (fine : CaptureSetup β ρ) (coarse : CaptureSetup γ ρ') :
    Prop :=
  coarse.rtpPackets = fine.rtpPackets ∧ coarse.resample.isSome = fine.resample.isSome ∧
    ∀ resampler frame, framePieces coarse (g resampler) (frame.map f) =
      (g (framePieces fine resampler frame).1,
        (framePieces fine resampler frame).2.map (List.map f))

theorem sendAudio_map (f : β → γ) (accepted : Bool) (bytes : List β) :
    sendAudio accepted (bytes.map f) = (sendAudio accepted bytes).map f := by
  cases accepted <;> rfl

theorem freespace_map (f : β → γ) (buffer : BoundedFifo β) :
    (buffer.map f).freespace = buffer.freespace := by
  simp [BoundedFifo.freespace, BoundedFifo.map]

theorem afterFlush_map (f : β → γ) (sbuffer : BoundedFifo β) (atHead : Bool) (data : List β) :
    afterFlush (sbuffer.map f) atHead (data.map f) = (afterFlush sbuffer atHead data).map f := by
  simp only [afterFlush, freespace_map]
  split <;> rfl

theorem flushCheck_map (f : β → γ) (usable : Bool) (sbuffer : BoundedFifo β) :
    flushCheck usable (sbuffer.map f) =
      ((flushCheck usable sbuffer).1.map f, (flushCheck usable sbuffer).2.1.map (List.map f),
        (flushCheck usable sbuffer).2.2.map (AudioEvent.map f)) := by
  by_cases empty : sbuffer.inuse = 0
  · simp [flushCheck, BoundedFifo.inuse_map, empty]
  · cases usable with
    | true =>
        simp [flushCheck, BoundedFifo.inuse_map, BoundedFifo.toss_map, empty, AudioEvent.map,
          List.map_take]
    | false =>
        simp [flushCheck, BoundedFifo.inuse_map, BoundedFifo.zero_map, empty, AudioEvent.map]

theorem writePiece_map (f : β → γ) (sbuffer : BoundedFifo β) (data : List β) :
    writePiece (sbuffer.map f) (data.map f) =
      ((writePiece sbuffer data).1.map f, (writePiece sbuffer data).2.1.map f,
        (writePiece sbuffer data).2.2.map (AudioEvent.map f)) := by
  simp only [writePiece, List.length_map, freespace_map, ← List.map_take, ← List.map_drop,
    BoundedFifo.write_map]
  split
  · rfl
  · split <;> rfl

theorem pieceStep_map (f : β → γ) (rtpPackets : Nat) (usable accepted : Bool)
    (sbuffer : BoundedFifo β) (pc : PiecePc β) :
    pieceStep rtpPackets usable accepted (sbuffer.map f) (pc.map f) =
      ((pieceStep rtpPackets usable accepted sbuffer pc).1.map f,
        (pieceStep rtpPackets usable accepted sbuffer pc).2.1.map f,
        (pieceStep rtpPackets usable accepted sbuffer pc).2.2.map (AudioEvent.map f)) := by
  cases pc with
  | start data =>
      simp only [PiecePc.map, pieceStep, sendAudio_map]
      split <;> rfl
  | loop data =>
      simp only [PiecePc.map, pieceStep, List.length_map, freespace_map, writePiece_map]
      split
      · rfl
      · split <;> rfl
  | flush atHead data =>
      simp only [PiecePc.map, pieceStep, flushCheck_map]
      obtain ⟨after, taken, events⟩ := flushCheck usable sbuffer
      cases taken with
      | none => simp only [Option.map_none, afterFlush_map, PiecePc.map]
      | some bytes => rfl
  | flushSend atHead data bytes =>
      simp [PiecePc.map, pieceStep, flushSend, BoundedFifo.zero_map, afterFlush_map, sendAudio_map]
  | returned success => rfl

theorem nextPiece_map (f : β → γ) (pieces : List (List β)) :
    nextPiece (pieces.map (List.map f)) = (nextPiece pieces).map f := by
  cases pieces <;> rfl

theorem readBug_map (f : β → γ) (g : ρ → ρ') {fine : CaptureSetup β ρ}
    {coarse : CaptureSetup γ ρ'} (maps : SetupMaps f g fine coarse) (state : CaptureState β ρ)
    (available : Option Nat) :
    readBug coarse (state.map f g) available = (readBug fine state available).map f g := by
  cases available with
  | none => rfl
  | some count =>
      simp only [readBug, CaptureState.map, ← List.map_take, List.isEmpty_map, maps.2.2,
        nextPiece_map, ← List.map_drop]
      split <;> rfl

theorem map_audio (f : β → γ) (events : List (AudioEvent β)) :
    (events.map CaptureEvent.audio).map (CaptureEvent.map f) =
      (events.map (AudioEvent.map f)).map CaptureEvent.audio := by
  simp [CaptureEvent.map]

theorem sendPiece_map (f : β → γ) (g : ρ → ρ') {fine : CaptureSetup β ρ}
    {coarse : CaptureSetup γ ρ'} (maps : SetupMaps f g fine coarse) (accepted : Bool)
    (state : CaptureState β ρ) (position : PiecePc β) (rest : List (List β)) :
    sendPiece coarse accepted (state.map f g) (position.map f) (rest.map (List.map f)) =
      mapCaptureOutcome f g (sendPiece fine accepted state position rest) := by
  have stepped := pieceStep_map f fine.rtpPackets state.usable (state.connected && accepted)
    state.sbuffer position
  cases position with
  | returned success =>
      cases success with
      | true => simp [sendPiece, PiecePc.map, CaptureState.map, mapCaptureOutcome, nextPiece_map]
      | false =>
          simp only [sendPiece, PiecePc.map, maps.2.1]
          cases fine.resample.isSome <;> rfl
  | _ =>
      simp only [PiecePc.map] at stepped
      simp only [sendPiece, PiecePc.map, maps.1, mapCaptureOutcome, map_audio]
      simp only [CaptureState.map, CaptureState.usable] at stepped ⊢
      rw [stepped]
      rfl

theorem captureMediaStep_map (f : β → γ) (g : ρ → ρ') {fine : CaptureSetup β ρ}
    {coarse : CaptureSetup γ ρ'} (maps : SetupMaps f g fine coarse) (available : Option Nat)
    (accepted : Bool) (state : CaptureState β ρ) :
    captureMediaStep coarse available accepted (state.map f g) =
      (captureMediaStep fine available accepted state).map (mapCaptureOutcome f g) := by
  have media : (state.map f g).media = state.media.map f := rfl
  unfold captureMediaStep
  rw [media]
  cases state.media with
  | idle | unlock => rfl
  | checkMuted =>
      obtain ⟨_, _, _, _, _, muted, _, _, _, _, _, _, _, _⟩ := state
      cases muted <;> rfl
  | trylock =>
      obtain ⟨_, _, _, _, _, _, _, _, _, _, _, holder, _, _⟩ := state
      cases holder <;> rfl
  | checkConnected =>
      obtain ⟨_, _, _, _, _, _, _, _, streamer, connected, _, _, _, _⟩ := state
      cases streamer <;> cases connected <;> rfl
  | consumeCaptureReset =>
      obtain ⟨_, _, _, _, _, _, _, reset, _, _, _, _, _, _⟩ := state
      cases reset <;> rfl
  | readBug => exact congrArg (fun read => some (read, [])) (readBug_map f g maps state available)
  | piece position rest =>
      exact congrArg some (sendPiece_map f g maps accepted state position rest)

theorem storeFlag_map (f : β → γ) (g : ρ → ρ') (state : CaptureState β ρ) (command : FlagCommand) :
    storeFlag (state.map f g) command = (storeFlag state command).map f g := by
  cases command with
  | setUserMute mute =>
      obtain ⟨_, _, _, _, _, muted, _, _, _, _, _, _, _, _⟩ := state
      cases mute <;> cases muted <;> rfl
  | _ => rfl

theorem afterResidue_map (f : β → γ) (work : LockedWork) :
    (afterResidue work : CommandPc β).map f = afterResidue work := by
  cases work with
  | userMute => rfl
  | cleanup text channelIsClosing => cases text <;> rfl

theorem captureApiStep_map (f : β → γ) (g : ρ → ρ') (outcome : Bool) (state : CaptureState β ρ) :
    captureApiStep outcome (state.map f g) =
      (captureApiStep outcome state).map (mapCaptureOutcome f g) := by
  have command : (state.map f g).command = state.command.map f := rfl
  unfold captureApiStep
  rw [command]
  cases state.command with
  | idle | flushBug | finish | unlock => rfl
  | storeFlag command =>
      exact congrArg (fun next => some (next, [CaptureEvent.flagStored command]))
        (storeFlag_map f g state command)
  | lock work =>
      obtain ⟨_, _, _, _, _, _, _, _, _, _, _, holder, _, _⟩ := state
      cases holder <;> rfl
  | flush work =>
      have usable : (state.map f g).usable = state.usable := rfl
      have sbuffer : (state.map f g).sbuffer = state.sbuffer.map f := rfl
      simp only [CommandPc.map, usable, sbuffer, flushCheck_map]
      obtain ⟨after, taken, events⟩ := flushCheck state.usable state.sbuffer
      cases taken with
      | none =>
          simp only [Option.map_none, Option.map_some, mapCaptureOutcome, map_audio]
          simp [CaptureState.map, afterResidue_map]
      | some bytes =>
          simp only [Option.map_some, mapCaptureOutcome, map_audio]
          rfl
  | flushSend work bytes =>
      simp only [CommandPc.map, flushSend, Option.map_some, mapCaptureOutcome]
      simp [CaptureState.map, afterResidue_map, BoundedFifo.zero_map, sendAudio_map,
        CaptureEvent.map]
  | silenceCheck =>
      obtain ⟨_, _, _, _, _, _, _, _, streamer, connected, _, _, _, _⟩ := state
      cases streamer <;> cases connected <;> rfl
  | silenceSend | sendJson =>
      obtain ⟨_, _, _, _, _, _, _, _, _, connected, _, _, _, _⟩ := state
      cases connected <;> cases outcome <;> rfl
  | removeBug channelIsClosing =>
      obtain ⟨_, _, _, _, _, _, _, _, _, _, _, _, media, _⟩ := state
      cases channelIsClosing <;> cases outcome <;> cases media <;> rfl

theorem captureStep_map (f : β → γ) (g : ρ → ρ') {fine : CaptureSetup β ρ}
    {coarse : CaptureSetup γ ρ'} (maps : SetupMaps f g fine coarse) (state : CaptureState β ρ)
    (label : CaptureStep β) :
    captureStep coarse (state.map f g) (label.map f) =
      (captureStep fine state label).map (mapCaptureOutcome f g) := by
  cases label with
  | capture data =>
      obtain ⟨_, attached, _, _, _, _, _, _, _, _, _, _, _, _⟩ := state
      cases attached with
      | true =>
          simp [captureStep, CaptureStep.map, CaptureState.map, mapCaptureOutcome,
            CaptureEvent.map]
      | false => rfl
  | streamFrame =>
      obtain ⟨_, attached, _, _, paused, _, _, _, _, _, _, _, media, _⟩ := state
      cases attached <;> cases media <;> cases paused <;> rfl
  | media available accepted => exact captureMediaStep_map f g maps available accepted state
  | command issued =>
      obtain ⟨_, attached, _, _, _, _, _, _, _, _, _, _, _, command⟩ := state
      cases command <;> cases attached <;> cases issued <;> rfl
  | api outcome => exact captureApiStep_map f g outcome state
  | connectionOpened =>
      obtain ⟨_, _, _, _, _, _, _, _, _, connected, callback, _, _, _⟩ := state
      cases connected <;> cases callback <;> rfl
  | connectionDropped =>
      obtain ⟨_, _, _, _, _, _, _, _, _, connected, _, _, _, _⟩ := state
      cases connected <;> rfl
  | closeCallback located =>
      obtain ⟨_, _, _, _, _, _, _, _, _, _, callback, _, _, _⟩ := state
      cases callback <;> cases located <;> rfl

end

section

variable {α ρ : Type*}

def Recorded.erase (recorded : Recorded (Heard α) (ρ × Bool)) : Recorded α ρ where
  state := recorded.state.map Heard.value Prod.fst
  history := recorded.history.map (CaptureEvent.map Heard.value)

theorem heard_maps (setup : CaptureSetup α ρ) :
    SetupMaps Heard.value Prod.fst setup.heard setup := by
  refine ⟨rfl, by simp [CaptureSetup.heard], fun resampler frame => ?_⟩
  cases process : setup.resample with
  | none => simp [framePieces, CaptureSetup.heard, process]
  | some resample =>
      simp [framePieces, CaptureSetup.heard, process, List.filter_map, Function.comp_def]

theorem erase_mark (flagged : Bool) (label : CaptureStep α) :
    (label.map fun value => (⟨value, flagged⟩ : Heard α)).map Heard.value = label := by
  have same : (Heard.value ∘ fun value : α => ⟨value, flagged⟩) = id := rfl
  cases label <;> simp [CaptureStep.map, same]

theorem recordedStep_erase (setup : CaptureSetup α ρ)
    (recorded : Recorded (Heard α) (ρ × Bool)) (label : CaptureStep α) :
    recordedStep setup recorded.erase label =
      (heardStep setup recorded label).map Recorded.erase := by
  have commutes := captureStep_map Heard.value Prod.fst (heard_maps setup) recorded.state
    (label.map fun value => ⟨value, recorded.state.flagged⟩)
  rw [erase_mark] at commutes
  simp only [recordedStep, heardStep, Recorded.erase, commutes, Option.map_map]
  congr 1
  funext outcome
  simp [Recorded.erase, mapCaptureOutcome]

/-- A schedule runs on captured bytes exactly when it runs with marks, to the same
state and history without them. -/
theorem recorded_run_erases (setup : CaptureSetup α ρ) (capacity : Nat) (resampler : ρ)
    (startMuted : Bool) (labels : List (CaptureStep α)) :
    Runs.run (recordedStep setup) (.initial capacity resampler startMuted) labels =
      (Runs.run (heardStep setup) (.initial capacity (resampler, false) startMuted) labels).map
        Recorded.erase :=
  Runs.run_map Recorded.erase (recordedStep_erase setup)
    (.initial capacity (resampler, false) startMuted) labels

end

end OpenaiAudioStream
