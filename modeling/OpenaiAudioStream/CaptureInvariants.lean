import OpenaiAudioStream.CaptureTransitions

/-!
What holds in every state of a capture run: who holds the mutex, and that at most
one flush of the stream buffer is under way.
-/

namespace OpenaiAudioStream

section

variable {β ρ : Type*}

def StreamFramePc.locked : StreamFramePc β → Bool
  | .idle => false
  | .checkMuted => false
  | .trylock => false
  | _ => true

def StreamFramePc.trying : StreamFramePc β → Bool
  | .trylock => true
  | _ => false

def CaptureStep.isMedia : CaptureStep β → Bool
  | .media _ _ => true
  | _ => false

def CaptureEvent.isSent : CaptureEvent β → Bool
  | .audio (.sent _) => true
  | _ => false

def CommandPc.locked : CommandPc β → Bool
  | .idle => false
  | .flushBug _ => false
  | .storeFlag _ => false
  | .lock _ => false
  | _ => true

@[simp] theorem nextPiece_locked (rest : List (List β)) : (nextPiece rest).locked = true := by
  cases rest <;> rfl

@[simp] theorem afterResidue_locked (work : LockedWork) :
    (afterResidue work : CommandPc β).locked = true := by
  cases work with
  | userMute => rfl
  | cleanup text channelIsClosing => cases text <;> rfl

theorem storeFlag_locked (state : CaptureState β ρ) (command : FlagCommand) :
    (storeFlag state command).command.locked = false := by
  cases command with
  | setUserMute mute =>
      simp only [storeFlag]
      split <;> rfl
  | _ => rfl

def directSetup : CaptureSetup Nat Unit where
  rtpPackets := 1
  resample := none

structure MutexHeld (state : CaptureState β ρ) : Prop where
  media : state.media.locked = true ↔ state.mutex = some .media
  command : state.command.locked = true ↔ state.mutex = some .command

theorem mutexHeld_initial (capacity : Nat) (resampler : ρ) (startMuted : Bool) :
    MutexHeld (.initial capacity resampler startMuted : CaptureState β ρ) := by
  constructor <;> simp [CaptureState.initial, StreamFramePc.locked, CommandPc.locked]

theorem MutexHeld.exclusive {state : CaptureState β ρ} (held : MutexHeld state)
    (inside : state.command.locked = true) : state.media.locked = false := by
  by_contra both
  have first := held.media.mp (by simpa using both)
  have second := held.command.mp inside
  simp [first] at second

theorem mutexHeld_transition {setup : CaptureSetup β ρ} {state next : CaptureState β ρ}
    {label : CaptureStep β} {events : List (CaptureEvent β)} (held : MutexHeld state)
    (moved : CaptureTransition setup state label next events) : MutexHeld next := by
  obtain ⟨media, command⟩ := held
  cases moved with
  | tryLocked available accepted standing free =>
      simp only [standing, free, StreamFramePc.locked] at media command
      exact ⟨by simp [StreamFramePc.locked], by simpa using command⟩
  | mediaUnlocked available accepted standing =>
      simp only [standing, StreamFramePc.locked, true_iff] at media
      rw [media] at command
      exact ⟨by simp [StreamFramePc.locked], by simpa using command⟩
  | locked outcome work standing free =>
      simp only [standing, free, CommandPc.locked] at media command
      exact ⟨by simpa using media, by simp [CommandPc.locked]⟩
  | apiUnlocked outcome standing =>
      simp only [standing, CommandPc.locked, true_iff] at command
      rw [command] at media
      exact ⟨by simpa using media, by simp [CommandPc.locked]⟩
  | flagStored outcome stored standing =>
      have before : state.command.locked = false := by simp [standing, CommandPc.locked]
      rw [before, ← storeFlag_locked state stored] at command
      cases stored <;> exact ⟨media, command⟩
  | pieceFailed available accepted rest standing =>
      simp only [standing, StreamFramePc.locked, true_iff] at media
      refine ⟨?_, command⟩
      split <;> simp [StreamFramePc.locked, media]
  | pausedReturn standing | entered standing | mutedReturn _ _ standing | unmuted _ _ standing
  | tryFailed _ _ standing | unconnected _ _ standing | connected _ _ standing
  | resetConsumed _ _ standing | resetAbsent _ _ standing | readFailed _ standing
  | pieceMoved _ _ _ _ standing =>
      rw [standing] at media
      exact ⟨by simpa [StreamFramePc.locked] using media, command⟩
  | readFrame _ _ standing | pieceReturned _ _ _ standing =>
      simp only [standing, StreamFramePc.locked, true_iff] at media
      exact ⟨by simp [media], command⟩
  | residueGone _ _ _ _ standing | residueSent _ _ _ standing =>
      simp only [standing, CommandPc.locked, true_iff] at command
      exact ⟨media, by simp [command]⟩
  | flagCommand _ standing | cleanupCommand _ _ standing | bugFlushed _ _ standing
  | residueTaken _ _ _ _ _ standing | silenceUnconnected _ standing
  | silenceConnected _ standing | silenceSent _ standing
  | jsonSent _ _ standing | removeRefused standing | bugRemoved _ _ standing
  | finished _ standing =>
      rw [standing] at command
      exact ⟨media, by simpa [CommandPc.locked] using command⟩
  | _ => exact ⟨media, command⟩

end

end OpenaiAudioStream
