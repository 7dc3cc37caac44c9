import OpenaiAudioStream.CaptureInvariants

/-!
Audio captured while the user is muted or the stream is paused. FreeSWITCH keeps
capturing then; the commands flush the media bug before they store a flag, and
`stream_frame` looks at the flags once, before it reads.
-/

namespace OpenaiAudioStream

/-- A byte that remembers whether a flag was set when it was captured. -/
structure Heard (α : Type*) where
  value : α
  flagged : Bool
  deriving DecidableEq, Repr

section

variable {α β ρ : Type*}

def CaptureStep.map (f : α → β) : CaptureStep α → CaptureStep β
  | .capture data => .capture (data.map f)
  | .streamFrame => .streamFrame
  | .media available accepted => .media available accepted
  | .command issued => .command issued
  | .api outcome => .api outcome
  | .connectionOpened => .connectionOpened
  | .connectionDropped => .connectionDropped
  | .closeCallback located => .closeCallback located

/-- Once the resampler has taken in a flagged byte, all that it puts out is flagged. -/
def CaptureSetup.heard (setup : CaptureSetup α ρ) : CaptureSetup (Heard α) (ρ × Bool) where
  rtpPackets := setup.rtpPackets
  resample := setup.resample.map fun process state frame =>
    let flagged := state.2 || frame.any (·.flagged)
    let outcome := process state.1 (frame.map (·.value))
    ((outcome.1, flagged), outcome.2.map (List.map fun value => ⟨value, flagged⟩))

namespace CaptureState

def flagged (state : CaptureState β ρ) : Bool := state.audioPaused || state.userAudioMuted

def staysPaused (state : CaptureState β ρ) : Bool :=
  state.audioPaused && match state.command with
    | .storeFlag (.pauseresume pause) => pause
    | _ => true

def staysMuted (state : CaptureState β ρ) : Bool :=
  state.userAudioMuted && match state.command with
    | .storeFlag (.setUserMute mute) => mute
    | _ => true

def mayRead (state : CaptureState β ρ) : Bool :=
  match state.media with
  | .idle => false
  | .unlock => false
  | .checkMuted => !state.staysMuted
  | _ => true

def keepsBug (state : CaptureState β ρ) : Bool :=
  (state.staysPaused || state.staysMuted) && !state.mayRead

end CaptureState

def heardStep (setup : CaptureSetup α ρ) (recorded : Recorded (Heard α) (ρ × Bool))
    (label : CaptureStep α) : Option (Recorded (Heard α) (ρ × Bool)) :=
  recordedStep setup.heard recorded
    (label.map fun value => ⟨value, recorded.state.flagged⟩)

def CaptureStep.captures : CaptureStep α → Bool
  | .capture data => !data.isEmpty
  | _ => false

/-- While a flag is set, audio is captured only where the bug keeps it: no running
`stream_frame` call may still read it, and no command that already flushed the bug
is about to clear the last flag. -/
def CapturesSafely (recorded : Recorded (Heard α) (ρ × Bool)) (label : CaptureStep α) : Prop :=
  label.captures = true → recorded.state.flagged = true → recorded.state.keepsBug = true

instance (recorded : Recorded (Heard α) (ρ × Bool)) (label : CaptureStep α) :
    Decidable (CapturesSafely recorded label) :=
  inferInstanceAs (Decidable (_ → _ → _))

def Unflagged (bytes : List (Heard α)) : Prop := ∀ byte ∈ bytes, byte.flagged = false

def PiecePc.bytes : PiecePc β → List β
  | .start data => data
  | .loop data => data
  | .flush _ data => data
  | .flushSend _ data bytes => data ++ bytes
  | .returned _ => []

def StreamFramePc.bytes : StreamFramePc β → List β
  | .piece position rest => position.bytes ++ rest.flatten
  | _ => []

def CommandPc.bytes : CommandPc β → List β
  | .flushSend _ bytes => bytes
  | _ => []

structure Private (state : CaptureState (Heard α) (ρ × Bool)) : Prop where
  bug : Unflagged state.bug ∨ state.keepsBug = true
  resampler : state.resampler.2 = false
  sbuffer : Unflagged state.sbuffer.contents
  media : Unflagged state.media.bytes
  command : Unflagged state.command.bytes

theorem Unflagged.append {first second : List (Heard α)} (left : Unflagged first)
    (right : Unflagged second) : Unflagged (first ++ second) := by
  intro byte member
  rcases List.mem_append.mp member with inFirst | inSecond
  · exact left byte inFirst
  · exact right byte inSecond

theorem Unflagged.sublist {bytes part : List (Heard α)} (clean : Unflagged bytes)
    (inside : part ⊆ bytes) : Unflagged part :=
  fun byte member => clean byte (inside member)

theorem framePieces_unflagged (setup : CaptureSetup α ρ) {resampler : ρ × Bool}
    {frame : List (Heard α)} (fed : resampler.2 = false) (clean : Unflagged frame) :
    (framePieces setup.heard resampler frame).1.2 = false ∧
      Unflagged (framePieces setup.heard resampler frame).2.flatten := by
  have none : frame.any (·.flagged) = false := by
    rw [List.any_eq_false]
    intro byte member
    simp [clean byte member]
  cases process : setup.resample with
  | none => simpa [framePieces, CaptureSetup.heard, process, fed] using clean
  | some process_ =>
      simp only [framePieces, CaptureSetup.heard, process, Option.map_some, fed, none,
        Bool.or_false, true_and]
      intro byte member
      obtain ⟨piece, kept, inside⟩ := List.mem_flatten.mp member
      obtain ⟨plain, _, rfl⟩ := List.mem_map.mp (List.mem_of_mem_filter kept)
      obtain ⟨value, _, rfl⟩ := List.mem_map.mp inside
      rfl

theorem Private.readable {state : CaptureState (Heard α) (ρ × Bool)} (held : Private state)
    (reads : state.mayRead = true) : Unflagged state.bug := by
  rcases held.bug with clean | kept
  · exact clean
  · simp [CaptureState.keepsBug, reads] at kept

theorem keepsBug_storeFlag {state : CaptureState β ρ} {command : FlagCommand}
    (standing : state.command = .storeFlag command) (kept : state.keepsBug = true) :
    (storeFlag state command).keepsBug = true := by
  simp only [CaptureState.keepsBug, CaptureState.staysPaused, CaptureState.staysMuted,
    CaptureState.mayRead, standing] at kept ⊢
  cases command with
  | pauseresume pause =>
      cases pause <;> cases media : state.media <;> simp_all [storeFlag]
  | setUserMute mute =>
      cases mute <;> cases media : state.media <;> cases muted : state.userAudioMuted <;>
        simp_all [storeFlag]
  | setOpenaiMute mute =>
      cases media : state.media <;> simp_all [storeFlag]

theorem keepsBug_transition {setup : CaptureSetup β ρ} {state next : CaptureState β ρ}
    {label : CaptureStep β} {events : List (CaptureEvent β)} (kept : state.keepsBug = true)
    (moved : CaptureTransition setup state label next events) :
    (.bugFlushed ∈ events ∧ next.bug = []) ∨ next.keepsBug = true := by
  have unread (reads : state.mayRead = true) : False := by
    simp [CaptureState.keepsBug, reads] at kept
  cases moved with
  | bugFlushed => exact Or.inl ⟨by simp, rfl⟩
  | flagStored outcome command standing => exact Or.inr (keepsBug_storeFlag standing kept)
  | entered idle running =>
      right
      simp only [CaptureState.keepsBug, CaptureState.staysPaused, CaptureState.staysMuted,
        CaptureState.mayRead, idle, running] at kept ⊢
      simpa using kept
  | unmuted available accepted standing unmuted =>
      exact (unread (by
        simp [CaptureState.mayRead, CaptureState.staysMuted, standing, unmuted])).elim
  | tryFailed _ _ standing | tryLocked _ _ standing | unconnected _ _ standing
  | connected _ _ standing | resetConsumed _ _ standing | resetAbsent _ _ standing
  | readFailed _ standing | readFrame _ _ standing | pieceReturned _ _ _ standing
  | pieceFailed _ _ _ standing | pieceMoved _ _ _ _ standing =>
      exact (unread (by simp [CaptureState.mayRead, standing])).elim
  | pausedReturn | mutedReturn | mediaUnlocked =>
      right
      simp only [CaptureState.keepsBug, CaptureState.staysPaused, CaptureState.staysMuted,
        CaptureState.mayRead, Bool.and_eq_true] at kept ⊢
      exact ⟨kept.1, rfl⟩
  | flagCommand _ standing | cleanupCommand _ _ standing | locked _ _ standing
  | residueTaken _ _ _ _ _ standing | silenceUnconnected _ standing
  | silenceConnected _ standing | silenceSent _ standing | jsonSent _ _ standing
  | removeRefused standing | bugRemoved _ _ standing | finished _ standing
  | apiUnlocked _ standing =>
      right
      simpa [CaptureState.keepsBug, CaptureState.staysPaused, CaptureState.staysMuted,
        CaptureState.mayRead, standing] using kept
  | residueGone _ work _ _ standing | residueSent _ work _ standing =>
      right
      cases work with
      | userMute =>
          simpa [CaptureState.keepsBug, CaptureState.staysPaused, CaptureState.staysMuted,
            CaptureState.mayRead, afterResidue, standing] using kept
      | cleanup text channelIsClosing =>
          cases text <;> simpa [CaptureState.keepsBug, CaptureState.staysPaused,
            CaptureState.staysMuted, CaptureState.mayRead, afterResidue, standing] using kept
  | _ => exact Or.inr kept

theorem privateBug_transition {setup : CaptureSetup (Heard α) (ρ × Bool)}
    {state next : CaptureState (Heard α) (ρ × Bool)} {label : CaptureStep (Heard α)}
    {events : List (CaptureEvent (Heard α))} (held : Private state)
    (heard : ∀ data, label = .capture data → ∀ byte ∈ data, byte.flagged = state.flagged)
    (safe : label.captures = true → state.flagged = true → state.keepsBug = true)
    (moved : CaptureTransition setup state label next events) :
    Unflagged next.bug ∨ next.keepsBug = true := by
  rcases held.bug with clean | kept
  · cases moved with
    | captured data =>
        by_cases empty : data = []
        · exact Or.inl (by simpa [empty] using clean)
        · cases flag : state.flagged with
          | true => exact Or.inr (safe (by simpa [CaptureStep.captures] using empty) flag)
          | false =>
              refine Or.inl (clean.append fun byte member => ?_)
              rw [heard data rfl byte member, flag]
    | bugFlushed outcome command => exact Or.inl (by simp [Unflagged])
    | flagStored outcome command => exact Or.inl (by cases command <;> exact clean)
    | readFrame count => exact Or.inl (clean.sublist (List.drop_subset count state.bug))
    | _ => exact Or.inl clean
  · rcases keepsBug_transition kept moved with ⟨_, empty⟩ | still
    · exact Or.inl (by simp [empty, Unflagged])
    · exact Or.inr still

@[simp] theorem unflagged_nil : Unflagged ([] : List (Heard α)) := by
  simp [Unflagged]

theorem afterFlush_bytes {sbuffer : BoundedFifo β} {atHead : Bool} {data : List β} :
    (afterFlush sbuffer atHead data).bytes ⊆ data := by
  unfold afterFlush
  split <;> simp [PiecePc.bytes]

theorem sent_of_sendAudio {accepted : Bool} {bytes sent : List β}
    (same : AudioEvent.sent sent = sendAudio accepted bytes) : sent = bytes := by
  cases accepted <;> simp_all [sendAudio]

theorem pieceTransition_unflagged {rtpPackets : Nat} {usable accepted : Bool}
    {sbuffer after : BoundedFifo (Heard α)} {position later : PiecePc (Heard α)}
    {events : List (AudioEvent (Heard α))} (buffered : Unflagged sbuffer.contents)
    (passed : Unflagged position.bytes)
    (moved : PieceTransition rtpPackets usable accepted sbuffer position after later events) :
    Unflagged after.contents ∧ Unflagged later.bytes ∧
      ∀ bytes, .sent bytes ∈ events → Unflagged bytes := by
  cases moved with
  | direct data =>
      refine ⟨buffered, by simp [PiecePc.bytes], fun bytes member => ?_⟩
      rw [sent_of_sendAudio (List.mem_singleton.mp member)]
      exact passed
  | begun data => exact ⟨buffered, passed, by simp⟩
  | ended => exact ⟨buffered, by simp [PiecePc.bytes], by simp⟩
  | full data => exact ⟨buffered, passed, by simp⟩
  | writeFailed data => exact ⟨buffered, by simp [PiecePc.bytes], by simp⟩
  | wrote data count written later contents continued =>
      refine ⟨?_, ?_, by simp⟩
      · rw [contents]
        exact buffered.append (passed.sublist (List.take_subset count data))
      · have rest := passed.sublist (List.drop_subset count data)
        rcases continued with rfl | rfl <;> exact rest
  | flushed atHead data after events checked =>
      obtain ⟨empty, ⟨_, rfl⟩ | ⟨_, rfl⟩⟩ := flushCheck_none checked
      · exact ⟨by simp [empty], passed.sublist afterFlush_bytes, by simp⟩
      · exact ⟨by simp [empty], passed.sublist afterFlush_bytes, by simp⟩
  | taken atHead data after bytes events checked =>
      obtain ⟨empty, rfl, _, _, rfl⟩ := flushCheck_some checked
      exact ⟨by simp [empty], passed.append buffered, by simp⟩
  | flushSent atHead data bytes =>
      refine ⟨by simp, ?_, fun sent member => ?_⟩
      · exact passed.sublist fun byte member => List.mem_append_left _ (afterFlush_bytes member)
      · rw [sent_of_sendAudio (List.mem_singleton.mp member)]
        exact passed.sublist (List.subset_append_right _ _)

theorem nextPiece_bytes (pieces : List (List β)) : (nextPiece pieces).bytes = pieces.flatten := by
  cases pieces <;> simp [nextPiece, StreamFramePc.bytes, PiecePc.bytes]

@[simp] theorem afterResidue_bytes (work : LockedWork) :
    (afterResidue work : CommandPc β).bytes = [] := by
  cases work with
  | userMute => rfl
  | cleanup text channelIsClosing => cases text <;> rfl

theorem storeFlag_bytes (state : CaptureState β ρ) (command : FlagCommand) :
    (storeFlag state command).command.bytes = [] := by
  cases command with
  | setUserMute mute =>
      simp only [storeFlag]
      split <;> rfl
  | _ => rfl

theorem private_transition {setup : CaptureSetup α ρ}
    {state next : CaptureState (Heard α) (ρ × Bool)} {label : CaptureStep (Heard α)}
    {events : List (CaptureEvent (Heard α))} (held : Private state)
    (heard : ∀ data, label = .capture data → ∀ byte ∈ data, byte.flagged = state.flagged)
    (safe : label.captures = true → state.flagged = true → state.keepsBug = true)
    (moved : CaptureTransition setup.heard state label next events) :
    Private next ∧ ∀ bytes, .audio (.sent bytes) ∈ events → Unflagged bytes := by
  have bug := privateBug_transition held heard safe moved
  have resampler := held.resampler
  have sbuffer := held.sbuffer
  have media := held.media
  have command := held.command
  cases moved with
  | readFrame count accepted standing =>
      have reading := held.readable (by simp [CaptureState.mayRead, standing])
      have clean := framePieces_unflagged setup resampler
        (reading.sublist (List.take_subset count state.bug))
      refine ⟨⟨bug, clean.1, sbuffer, ?_, command⟩, by simp⟩
      rw [nextPiece_bytes]
      exact clean.2
  | pieceReturned available accepted rest standing =>
      have later : Unflagged rest.flatten := by
        simpa [standing, StreamFramePc.bytes, PiecePc.bytes] using media
      exact ⟨⟨bug, resampler, sbuffer, by rw [nextPiece_bytes]; exact later, command⟩, by simp⟩
  | pieceFailed available accepted rest standing =>
      refine ⟨⟨bug, resampler, sbuffer, ?_, command⟩, by simp⟩
      split <;> simp [StreamFramePc.bytes]
  | pieceMoved available accepted position rest standing running =>
      rw [standing] at media
      have inside := media.sublist (List.subset_append_left position.bytes rest.flatten)
      have after := media.sublist (List.subset_append_right position.bytes rest.flatten)
      obtain ⟨buffered, later, sent⟩ :=
        pieceTransition_unflagged sbuffer inside (pieceStep_transition running)
      refine ⟨⟨bug, resampler, buffered, later.append after, command⟩, fun bytes member => ?_⟩
      exact sent bytes (by simpa using member)
  | resetConsumed =>
      exact ⟨⟨bug, resampler, by simp, by simp [StreamFramePc.bytes], command⟩, by simp⟩
  | residueGone outcome work sbuffer events standing checked =>
      obtain ⟨empty, ⟨_, rfl⟩ | ⟨_, rfl⟩⟩ := flushCheck_none checked
      · exact ⟨⟨bug, resampler, by simp [empty], media, by simp⟩, by simp⟩
      · exact ⟨⟨bug, resampler, by simp [empty], media, by simp⟩, by simp⟩
  | residueTaken outcome work sbuffer bytes events standing checked =>
      obtain ⟨empty, rfl, _, _, rfl⟩ := flushCheck_some checked
      exact ⟨⟨bug, resampler, by simp [empty], media, held.sbuffer⟩, by simp⟩
  | residueSent outcome work bytes standing =>
      rw [standing] at command
      refine ⟨⟨bug, resampler, by simp, media, by simp⟩, fun sent member => ?_⟩
      rw [sent_of_sendAudio (CaptureEvent.audio.inj (List.mem_singleton.mp member))]
      exact command
  | flagStored outcome stored standing =>
      cases stored <;>
        exact ⟨⟨bug, resampler, sbuffer, media, by rw [storeFlag_bytes]; simp⟩, by simp⟩
  | silenceSent outcome | jsonSent outcome =>
      refine ⟨⟨bug, resampler, sbuffer, media, by simp [CommandPc.bytes]⟩, ?_⟩
      split <;> simp
  | pausedReturn | entered | mutedReturn | unmuted | tryFailed | tryLocked | unconnected
  | connected | resetAbsent | readFailed | mediaUnlocked =>
      exact ⟨⟨bug, resampler, sbuffer, by simp [StreamFramePc.bytes], command⟩, by simp⟩
  | flagCommand | cleanupCommand | bugFlushed | locked | silenceUnconnected | silenceConnected
  | removeRefused | bugRemoved | finished | apiUnlocked =>
      exact ⟨⟨bug, resampler, sbuffer, media, by simp [CommandPc.bytes]⟩, by simp⟩
  | _ => exact ⟨⟨bug, resampler, sbuffer, media, command⟩, by simp⟩

structure PrivateRun (recorded : Recorded (Heard α) (ρ × Bool)) : Prop where
  state : Private recorded.state
  sent : ∀ bytes, .audio (.sent bytes) ∈ recorded.history → Unflagged bytes

theorem privateRun_initial (capacity : Nat) (resampler : ρ) (startMuted : Bool) :
    PrivateRun
      (.initial capacity (resampler, false) startMuted : Recorded (Heard α) (ρ × Bool)) where
  state := {
    bug := Or.inl (by simp [Recorded.initial, CaptureState.initial])
    resampler := rfl
    sbuffer := by simp [Recorded.initial, CaptureState.initial]
    media := by simp [Recorded.initial, CaptureState.initial, StreamFramePc.bytes]
    command := by simp [Recorded.initial, CaptureState.initial, CommandPc.bytes]
  }
  sent := by simp [Recorded.initial]

theorem privateRun_step {setup : CaptureSetup α ρ} {recorded next : Recorded (Heard α) (ρ × Bool)}
    {label : CaptureStep α} (held : PrivateRun recorded) (safe : CapturesSafely recorded label)
    (taken : heardStep setup recorded label = some next) : PrivateRun next := by
  obtain ⟨state, events, rfl, moved⟩ := recordedStep_transition taken
  have flags : ∀ data, label.map (fun value => Heard.mk value recorded.state.flagged) =
      .capture data → ∀ byte ∈ data, byte.flagged = recorded.state.flagged := by
    intro data same byte member
    cases label <;> simp only [CaptureStep.map, CaptureStep.capture.injEq, reduceCtorEq] at same
    rw [← same] at member
    obtain ⟨value, _, rfl⟩ := List.mem_map.mp member
    rfl
  have captures : (label.map fun value => Heard.mk value recorded.state.flagged).captures =
      label.captures := by
    cases label <;> simp [CaptureStep.map, CaptureStep.captures]
  obtain ⟨inside, sent⟩ := private_transition held.state flags (by rw [captures]; exact safe) moved
  refine ⟨inside, fun bytes member => ?_⟩
  rcases List.mem_append.mp member with new | old
  · exact sent bytes (by simpa using new)
  · exact held.sent bytes old

/-- Where flagged audio is only captured while the bug keeps it, none is ever sent. -/
theorem flagged_audio_never_sent {setup : CaptureSetup α ρ} {capacity : Nat} {resampler : ρ}
    {startMuted : Bool} {labels : List (CaptureStep α)}
    {recorded : Recorded (Heard α) (ρ × Bool)}
    (reached : Runs.run (heardStep setup) (.initial capacity (resampler, false) startMuted) labels =
      some recorded)
    (safe : Runs.Along (heardStep setup) CapturesSafely
      (.initial capacity (resampler, false) startMuted) labels) :
    ∀ bytes, .audio (.sent bytes) ∈ recorded.history → Unflagged bytes :=
  (Runs.along_invariant (fun _ _ _ held met taken => privateRun_step held met taken)
    (privateRun_initial capacity resampler startMuted) safe reached).sent

def unmuteSchedule (between : List Nat) : List (CaptureStep Nat) :=
  [.connectionOpened, .capture [1], .command (.flag (.setUserMute false)), .api true,
    .capture between, .api true, .capture [3], .streamFrame, .media none true, .media none true,
    .media none true, .media none true, .media (some 1) true, .media none true]

theorem flagged_audio_never_sent_unmuted :
    ∃ recorded, Runs.run (heardStep directSetup) (.initial 320 ((), false) true)
        (unmuteSchedule []) = some recorded ∧
      ∀ bytes, .audio (.sent bytes) ∈ recorded.history → Unflagged bytes := by
  obtain ⟨recorded, reached⟩ := Option.isSome_iff_exists.mp
    (by decide : (Runs.run (heardStep directSetup) (.initial 320 ((), false) true)
      (unmuteSchedule [])).isSome = true)
  exact ⟨recorded, reached, flagged_audio_never_sent reached (by decide)⟩

/-- What is captured between the flush and the store of an unmute is sent. -/
theorem muted_audio_sent :
    ∃ recorded, Runs.run (heardStep directSetup) (.initial 320 ((), false) true)
        (unmuteSchedule [2]) = some recorded ∧
      .audio (.sent [⟨2, true⟩]) ∈ recorded.history :=
  Runs.exists_run (by decide)

end

end OpenaiAudioStream
