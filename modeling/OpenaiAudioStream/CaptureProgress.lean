import OpenaiAudioStream.CaptureInvariants
import OpenaiAudioStream.CaptureResampling

/-!
`stream_frame` and the commands come to an end. The media thread only tries the mutex, so a
stop may hold it while it waits for the running callback; what every step leaves to do is
counted, and where no thread can move nothing is left to do.
-/

namespace OpenaiAudioStream

section

variable {β ρ : Type*}

def CaptureStep.isApi : CaptureStep β → Bool
  | .api _ => true
  | _ => false

def CaptureStep.isThread (label : CaptureStep β) : Bool := label.isMedia || label.isApi

def CaptureStep.isCommand : CaptureStep β → Bool
  | .command _ => true
  | _ => false

/-- No call begins, and `switch_core_media_bug_read` has no frame. -/
def CaptureStep.Ending : CaptureStep β → Prop
  | .streamFrame | .command _ => False
  | .media available _ => available = none
  | _ => True

/-! What is left to do. -/

def piecesRank : List (List β) → Nat
  | [] => 0
  | piece :: rest => 4 * piece.length + 6 + piecesRank rest

def StreamFramePc.rank (sbuffer : BoundedFifo β) : StreamFramePc β → Nat
  | .idle => 0
  | .unlock => 1
  | .readBug => 2
  | .consumeCaptureReset => 3
  | .checkConnected => 4
  | .trylock => 5
  | .checkMuted => 6
  | .piece position rest => pieceRank sbuffer position + piecesRank rest + 3

def CommandPc.rank : CommandPc β → Nat
  | .idle => 0
  | .unlock => 1
  | .finish => 2
  | .removeBug _ => 3
  | .sendJson _ => 4
  | .silenceSend => 2
  | .silenceCheck => 3
  | .flushSend _ _ => 5
  | .flush _ => 6
  | .lock _ => 7
  | .storeFlag _ => 8
  | .flushBug _ => 9

theorem CommandPc.rank_le (command : CommandPc β) : command.rank ≤ 9 := by
  cases command <;> simp [CommandPc.rank]

def CaptureState.rank (state : CaptureState β ρ) : Nat :=
  state.media.rank state.sbuffer + state.command.rank

structure AtRest (state : CaptureState β ρ) : Prop where
  media : state.media = .idle
  command : state.command = .idle
  mutex : state.mutex = none

theorem StreamFramePc.rank_unlocked {media : StreamFramePc β} (outside : media.locked = false)
    (sbuffer other : BoundedFifo β) : media.rank sbuffer = media.rank other := by
  cases media with
  | piece position rest => cases outside
  | _ => rfl

theorem nextPiece_rank (sbuffer : BoundedFifo β) (pieces : List (List β)) :
    (nextPiece pieces).rank sbuffer ≤ piecesRank pieces + 2 := by
  cases pieces with
  | nil => exact Nat.le_refl 2
  | cons piece rest =>
      simp only [nextPiece, StreamFramePc.rank, pieceRank, piecesRank]
      omega

theorem afterResidue_rank (work : LockedWork) : (afterResidue work : CommandPc β).rank ≤ 4 := by
  cases work with
  | userMute => exact Nat.le_succ 3
  | cleanup text channelIsClosing =>
      cases text with
      | true => exact Nat.le_refl 4
      | false => exact Nat.le_succ 3

theorem storeFlag_rank (state : CaptureState β ρ) (command : FlagCommand) :
    (storeFlag state command).command.rank ≤ 7 := by
  cases command with
  | setUserMute mute =>
      simp only [storeFlag]
      split
      · exact Nat.le_refl 7
      · exact Nat.zero_le 7
  | _ => exact Nat.zero_le 7

/-! The invariant, and what one step takes from the rank. -/

structure Working (rtpPackets : Nat) (state : CaptureState β ρ) : Prop where
  mutex : MutexHeld state
  room : 0 < state.sbuffer.capacity
  possible : ∀ position rest, state.media = .piece position rest → position.Possible rtpPackets

section

variable {setup : CaptureSetup β ρ} {state next : CaptureState β ρ} {label : CaptureStep β}
  {events : List (CaptureEvent β)}

theorem nextPiece_possible {rtpPackets : Nat} {pieces rest : List (List β)} {position : PiecePc β}
    (standing : nextPiece pieces = .piece position rest) : position.Possible rtpPackets := by
  cases pieces with
  | nil => cases standing
  | cons piece pieces =>
      cases standing
      trivial

theorem working_initial {capacity : Nat} (room : 0 < capacity) (rtpPackets : Nat) (resampler : ρ)
    (startMuted : Bool) :
    Working rtpPackets (.initial capacity resampler startMuted : CaptureState β ρ) where
  mutex := mutexHeld_initial capacity resampler startMuted
  room := room
  possible := by simp [CaptureState.initial]

theorem working_transition (held : Working setup.rtpPackets state)
    (moved : CaptureTransition setup state label next events) : Working setup.rtpPackets next := by
  obtain ⟨mutex, room, possible⟩ := held
  have locked := mutexHeld_transition mutex moved
  cases moved with
  | readFrame => exact ⟨locked, room, fun _ _ standing => nextPiece_possible standing⟩
  | pieceReturned => exact ⟨locked, room, fun _ _ standing => nextPiece_possible standing⟩
  | pieceMoved available accepted position rest standing running =>
      have moved := @pieceStep_moved _ _ state.usable (state.connected && accepted) _ _ room
        (possible _ _ standing) running
      refine ⟨locked, moved.capacity ▸ room, ?_⟩
      rintro later others ⟨⟩
      exact moved.possible
  | pieceFailed available accepted rest standing =>
      -- with room in the buffer no piece fails
      cases possible _ _ standing
  | flagStored outcome command standing => cases command <;> exact ⟨locked, room, possible⟩
  | residueGone outcome work sbuffer events standing checked =>
      exact ⟨locked, (flushCheck_cases checked).2.1 ▸ room, possible⟩
  | residueTaken outcome work sbuffer bytes events standing checked =>
      exact ⟨locked, (flushCheck_cases checked).2.1 ▸ room, possible⟩
  | pausedReturn | entered | mutedReturn | unmuted | tryFailed | tryLocked | unconnected
  | connected | resetConsumed | resetAbsent | readFailed | mediaUnlocked =>
      exact ⟨locked, room, by simp⟩
  | _ => exact ⟨locked, room, possible⟩

theorem working_run {recorded final : Recorded β ρ} {labels : List (CaptureStep β)}
    (held : Working setup.rtpPackets recorded.state)
    (reached : Runs.run (recordedStep setup) recorded labels = some final) :
    Working setup.rtpPackets final.state := by
  refine @Runs.run_invariant _ _ (recordedStep setup)
    (fun recorded => Working setup.rtpPackets recorded.state) ?_ _ _ _ held reached
  intro recorded label next held taken
  obtain ⟨state, events, rfl, moved⟩ := recordedStep_transition taken
  exact working_transition held moved

theorem rank_command {command : CommandPc β} (held : Working setup.rtpPackets state)
    (inside : state.command.locked = true) (lower : command.rank < state.command.rank)
    (sbuffer : BoundedFifo β) :
    1 + (state.media.rank sbuffer + command.rank) ≤ state.rank := by
  have same := StreamFramePc.rank_unlocked (held.mutex.exclusive inside) sbuffer state.sbuffer
  simp only [CaptureState.rank, same]
  omega

theorem rank_transition (held : Working setup.rtpPackets state) (ending : label.Ending)
    (moved : CaptureTransition setup state label next events) :
    (if label.isThread then 1 else 0) + next.rank ≤ state.rank := by
  cases moved with
  | pausedReturn | entered | flagCommand | cleanupCommand | noBug => exact ending.elim
  | readNothing | readFrame => cases ending
  | pieceReturned available accepted rest standing =>
      have left := nextPiece_rank state.sbuffer rest
      have before : state.media.rank state.sbuffer = piecesRank rest + 3 := by
        simp [standing, StreamFramePc.rank, pieceRank]
      simp only [CaptureStep.isThread, CaptureStep.isMedia, Bool.true_or, if_true,
        CaptureState.rank]
      omega
  | pieceFailed available accepted rest standing => cases held.possible _ _ standing
  | pieceMoved available accepted position rest standing running =>
      have moved := @pieceStep_moved _ _ state.usable (state.connected && accepted) _ _ held.room
        (held.possible _ _ standing) running
      have lower := moved.lower
      simp only [CaptureStep.isThread, CaptureStep.isMedia, Bool.true_or, if_true,
        CaptureState.rank, standing, StreamFramePc.rank]
      omega
  | mutedReturn _ _ standing | unmuted _ _ standing | tryFailed _ _ standing
  | tryLocked _ _ standing | unconnected _ _ standing | connected _ _ standing
  | resetConsumed _ _ standing | resetAbsent _ _ standing | readFailed _ standing
  | mediaUnlocked _ _ standing =>
      simp only [CaptureStep.isThread, CaptureStep.isMedia, Bool.true_or, if_true,
        CaptureState.rank, standing, StreamFramePc.rank]
      omega
  | flagStored outcome command standing =>
      have lower := storeFlag_rank state command
      have before : state.command.rank = 8 := by rw [standing]; rfl
      simp only [CaptureStep.isThread, CaptureStep.isApi, Bool.or_true, if_true,
        CaptureState.rank]
      cases command <;> simp only [storeFlag] at lower ⊢ <;> omega
  | residueGone outcome work sbuffer events standing checked =>
      have lower := @afterResidue_rank β work
      refine rank_command held (by rw [standing]; rfl) ?_ sbuffer
      have before : state.command.rank = 6 := by rw [standing]; rfl
      exact Nat.lt_of_le_of_lt lower (by rw [before]; decide)
  | residueTaken outcome work sbuffer bytes events standing checked =>
      refine rank_command held (by rw [standing]; rfl) ?_ sbuffer
      rw [standing]
      exact Nat.lt_succ_self 5
  | residueSent outcome work bytes standing =>
      have lower := @afterResidue_rank β work
      refine rank_command held (by rw [standing]; rfl) ?_ state.sbuffer.zero
      have before : state.command.rank = 5 := by rw [standing]; rfl
      exact Nat.lt_of_le_of_lt lower (by rw [before]; decide)
  | bugFlushed _ _ standing | locked _ _ standing | silenceUnconnected _ standing
  | silenceConnected _ standing | silenceSent _ standing | jsonSent _ _ standing
  | removeRefused standing | bugRemoved _ _ standing | finished _ standing
  | apiUnlocked _ standing =>
      simp only [CaptureStep.isThread, CaptureStep.isApi, Bool.or_true, if_true,
        CaptureState.rank, standing, CommandPc.rank]
      omega
  | captured | opened | dropped | resetRequested | resetLost =>
      simp [CaptureStep.isThread, CaptureStep.isMedia, CaptureStep.isApi, CaptureState.rank]

/-- Where no thread stands before a step it can take, no call is under way. -/
theorem thread_moves (held : MutexHeld state) :
    AtRest state ∨
      (∀ available accepted,
        (captureStep setup state (.media available accepted)).isSome = true) ∨
      ∀ outcome, (captureStep setup state (.api outcome)).isSome = true := by
  by_cases idle : state.media = .idle
  · have outside : state.mutex ≠ some .media := by
      intro taken
      have inside := held.media.2 taken
      rw [idle] at inside
      cases inside
    have free (unlocked : state.command.locked = false) : state.mutex = none := by
      cases mutex : state.mutex with
      | none => rfl
      | some holder =>
          cases holder with
          | media => exact absurd mutex outside
          | command =>
              have inside := held.command.2 mutex
              rw [unlocked] at inside
              cases inside
    cases standing : state.command with
    | idle => exact .inl ⟨idle, standing, free (by rw [standing]; rfl)⟩
    | lock work =>
        refine .inr (.inr fun outcome => ?_)
        simp [captureStep, captureApiStep, standing, free (by rw [standing]; rfl)]
    | flush work =>
        refine .inr (.inr fun outcome => ?_)
        simp only [captureStep, captureApiStep, standing]
        split <;> rfl
    | removeBug channelIsClosing =>
        refine .inr (.inr fun outcome => ?_)
        simp only [captureStep, captureApiStep, standing, idle]
        split <;> rfl
    | _ => exact .inr (.inr fun outcome => by simp [captureStep, captureApiStep, standing])
  · refine .inr (.inl fun available accepted => ?_)
    cases standing : state.media with
    | idle => exact absurd standing idle
    | consumeCaptureReset =>
        simp only [captureStep, captureMediaStep, standing]
        split <;> rfl
    | _ => simp [captureStep, captureMediaStep, standing]

end

/-! Whole runs. -/

section

variable {setup : CaptureSetup β ρ} {capacity : Nat} {resampler : ρ} {startMuted : Bool}
  {labels : List (CaptureStep β)} {final : Recorded β ρ}

theorem command_rank_transition {state next : CaptureState β ρ} {label : CaptureStep β}
    {events : List (CaptureEvent β)} (moved : CaptureTransition setup state label next events) :
    (if label.isApi then 1 else 0) + next.command.rank ≤
      state.command.rank + if label.isCommand then 9 else 0 := by
  cases moved with
  | flagCommand | cleanupCommand => simp [CaptureStep.isApi, CaptureStep.isCommand, CommandPc.rank]
  | flagStored outcome command standing =>
      have lower := storeFlag_rank state command
      simp only [CaptureStep.isApi, CaptureStep.isCommand, standing, CommandPc.rank, if_true]
      exact Nat.add_le_add_left lower 1
  | residueGone outcome work sbuffer events standing checked =>
      have lower := @afterResidue_rank β work
      simp only [CaptureStep.isApi, CaptureStep.isCommand, standing, if_true]
      exact Nat.le_trans (Nat.add_le_add_left lower 1) (Nat.le_succ 5)
  | residueSent outcome work bytes standing =>
      have lower := @afterResidue_rank β work
      simp only [CaptureStep.isApi, CaptureStep.isCommand, standing, if_true]
      exact Nat.add_le_add_left lower 1
  | bugFlushed _ _ standing | locked _ _ standing | residueTaken _ _ _ _ _ standing
  | silenceUnconnected _ standing | silenceConnected _ standing | silenceSent _ standing
  | jsonSent _ _ standing | removeRefused standing | bugRemoved _ _ standing
  | finished _ standing | apiUnlocked _ standing =>
      simp [CaptureStep.isApi, CaptureStep.isCommand, standing, CommandPc.rank]
  | _ => simp [CaptureStep.isApi, CaptureStep.isCommand]

theorem command_rank_run {recorded after : Recorded β ρ} {later : List (CaptureStep β)}
    (alone : ∀ label ∈ later, label.isCommand = false)
    (ran : Runs.run (recordedStep setup) recorded later = some after) :
    later.countP (·.isApi) + after.state.command.rank ≤ recorded.state.command.rank := by
  have descends : ∀ (recorded : Recorded β ρ) label next, True →
      CaptureStep.isCommand label = false → recordedStep setup recorded label = some next →
      True ∧ (if label.isApi then 1 else 0) + next.state.command.rank ≤
        recorded.state.command.rank + if (fun _ => false) label then 0 else 0 := by
    intro recorded label next _ other taken
    obtain ⟨state, events, rfl, moved⟩ := recordedStep_transition taken
    exact ⟨trivial, by simpa [other] using command_rank_transition moved⟩
  simpa using Runs.run_counted descends trivial alone ran

/-- Each command takes nine steps at most, whatever the media thread does. Once no call begins and
no frame is left to read, the running ones come to an end: their steps are bounded by what the
state leaves to do, and when no thread can move, both have returned and the mutex is free. -/
theorem calls_return (room : 0 < capacity)
    (reached : Runs.run (recordedStep setup) (.initial capacity resampler startMuted) labels =
      some final) :
    labels.countP (·.isApi) + final.state.command.rank ≤ 9 * labels.countP (·.isCommand) ∧
      (∀ command begun later after, recordedStep setup final (.command command) = some begun →
        (∀ label ∈ later, label.isCommand = false) →
        Runs.run (recordedStep setup) begun later = some after →
        later.countP (·.isApi) + after.state.command.rank ≤ 9) ∧
      ∀ later after, (∀ label ∈ later, label.Ending) →
        Runs.run (recordedStep setup) final later = some after →
        later.countP (·.isThread) + after.state.rank ≤ final.state.rank ∧
          ((∀ accepted, recordedStep setup after (.media none accepted) = none) →
            (∀ outcome, recordedStep setup after (.api outcome) = none) →
            AtRest after.state) := by
  have working := working_run (working_initial room setup.rtpPackets resampler startMuted) reached
  refine ⟨?_, ?_, ?_⟩
  · have bound := @Runs.run_counted _ _ (recordedStep setup) (fun _ => True) (fun _ => True)
      (fun recorded => recorded.state.command.rank) (·.isApi) (·.isCommand) 9 ?_ _ _ _ trivial
      (fun _ _ => trivial) reached
    · simpa [Recorded.initial, CaptureState.initial, CommandPc.rank] using bound
    · intro recorded label next _ _ taken
      obtain ⟨state, events, rfl, moved⟩ := recordedStep_transition taken
      exact ⟨trivial, command_rank_transition moved⟩
  · intro command begun later after _ alone ran
    exact Nat.le_trans (command_rank_run alone ran) begun.state.command.rank_le
  · intro later after ending ran
    have descends : ∀ (recorded : Recorded β ρ) label next,
        Working setup.rtpPackets recorded.state → label.Ending →
        recordedStep setup recorded label = some next → Working setup.rtpPackets next.state ∧
          (if label.isThread then 1 else 0) + next.state.rank ≤
            recorded.state.rank + if (fun _ => false) label then 0 else 0 := by
      intro recorded label next held ends taken
      obtain ⟨state, events, rfl, moved⟩ := recordedStep_transition taken
      exact ⟨working_transition held moved, by simpa using rank_transition held ends moved⟩
    have bound := Runs.run_counted descends working ending ran
    refine ⟨by simpa using bound, fun stuckMedia stuckCommand => ?_⟩
    rcases @thread_moves _ _ setup _ (working_run working ran).mutex with rest | media | command
    · exact rest
    · have moves := media none true
      have stuck := stuckMedia true
      simp only [recordedStep, Option.map_eq_none_iff] at stuck
      rw [stuck] at moves
      cases moves
    · have moves := command true
      have stuck := stuckCommand true
      simp only [recordedStep, Option.map_eq_none_iff] at stuck
      rw [stuck] at moves
      cases moves

end

end

theorem calls_return_stopped :
    ∃ final after,
      Runs.run (recordedStep directSetup) (.initial 640 () false)
        [.connectionOpened, .streamFrame, .command (.cleanup false false), .media none true,
          .media none true] = some final ∧
      Runs.run (recordedStep directSetup) final
        (List.replicate 4 (.media none true) ++ List.replicate 5 (.api true)) = some after ∧
      9 + after.state.rank ≤ final.state.rank ∧ AtRest after.state := by
  obtain ⟨final, reached, continues⟩ := @Runs.exists_run _ _ (recordedStep directSetup)
    (.initial 640 () false)
    [.connectionOpened, .streamFrame, .command (.cleanup false false), .media none true,
      .media none true]
    (fun final => (Runs.run (recordedStep directSetup) final
      (List.replicate 4 (.media none true) ++ List.replicate 5 (.api true))).any (fun after =>
        decide ((∀ accepted, recordedStep directSetup after (.media none accepted) = none) ∧
          ∀ outcome, recordedStep directSetup after (.api outcome) = none)) = true) _ (by decide)
  obtain ⟨after, ran, stuckMedia, stuckCommand⟩ := Runs.exists_run continues
  have ending : ∀ label ∈ List.replicate 4 (CaptureStep.media none true) ++
      List.replicate 5 (.api true), (label : CaptureStep Nat).Ending := by
    simp [CaptureStep.Ending]
  obtain ⟨bound, rest⟩ := (calls_return (by decide) reached).2.2 _ after ending ran
  exact ⟨final, after, reached, ran, bound, rest stuckMedia stuckCommand⟩

end OpenaiAudioStream
