import OpenaiAudioStream.CaptureInvariants

/-!
Muting the user: the command stores the flag, takes the mutex, flushes the
residue and sends a second of silence. `stream_frame` looks at the flag before it
tries the mutex, so a call can pass the flag first and the mutex last.
-/

namespace OpenaiAudioStream

section

variable {β ρ : Type*}

/-- The silence of a mute has been sent and no later unmute has stored its flag. -/
def silenced : List (CaptureEvent β) → Bool
  | [] => false
  | .silenceSent :: _ => true
  | .flagStored (.setUserMute false) :: _ => false
  | _ :: older => silenced older

def NotSilenced (older : List (CaptureEvent β)) (event : CaptureEvent β) : Prop :=
  event.isSent = true → silenced older = false

instance (older : List (CaptureEvent β)) (event : CaptureEvent β) :
    Decidable (NotSilenced older event) :=
  inferInstanceAs (Decidable (_ → _))

/-- No `stream_frame` call gets the mutex while a mute silence stands. -/
def KeepsSilence (recorded : Recorded β ρ) (label : CaptureStep β) : Prop :=
  label.isMedia = true → recorded.state.media.trying = true → recorded.state.mutex = none →
    silenced recorded.history = false

instance (recorded : Recorded β ρ) (label : CaptureStep β) :
    Decidable (KeepsSilence recorded label) :=
  inferInstanceAs (Decidable (_ → _ → _ → _))

def CommandPc.sending : CommandPc β → Bool
  | .flushSend _ _ => true
  | _ => false

def CommandPc.silencing : CommandPc β → Bool
  | .silenceCheck => true
  | .silenceSend => true
  | _ => false

structure Quiet (state : CaptureState β ρ) : Prop where
  outside : state.media.locked = false
  empty : state.sbuffer.contents = []
  sending : state.command.sending = false

structure Silent (state : CaptureState β ρ) (history : List (CaptureEvent β)) : Prop where
  mutex : MutexHeld state
  residue : state.command.silencing = true → state.sbuffer.contents = []
  quiet : silenced history = true → Quiet state

theorem silent_initial (capacity : Nat) (resampler : ρ) (startMuted : Bool) :
    Silent (.initial capacity resampler startMuted : CaptureState β ρ) [] where
  mutex := mutexHeld_initial capacity resampler startMuted
  residue := by simp [CaptureState.initial]
  quiet := by simp [silenced]

theorem CommandPc.locked_of_silencing {command : CommandPc β}
    (standing : command.silencing = true) :
    command.locked = true := by
  cases command <;> first | rfl | cases standing

@[simp] theorem storeFlag_silencing (state : CaptureState β ρ) (command : FlagCommand) :
    (storeFlag state command).command.silencing = false ∧
      (storeFlag state command).command.sending = false := by
  cases command with
  | setUserMute mute =>
      simp only [storeFlag]
      split <;> exact ⟨rfl, rfl⟩
  | _ => exact ⟨rfl, rfl⟩

@[simp] theorem afterResidue_sending (work : LockedWork) :
    (afterResidue work : CommandPc β).sending = false := by
  cases work with
  | userMute => rfl
  | cleanup text channelIsClosing => cases text <;> rfl

theorem residue_transition {setup : CaptureSetup β ρ} {state next : CaptureState β ρ}
    {label : CaptureStep β} {events history : List (CaptureEvent β)} (held : Silent state history)
    (moved : CaptureTransition setup state label next events) :
    next.command.silencing = true → next.sbuffer.contents = [] := by
  intro standing
  have residue := held.residue
  cases moved with
  | residueGone outcome work sbuffer events _ checked => exact (flushCheck_none checked).1
  | residueTaken => cases standing
  | residueSent => rfl
  | resetConsumed => rfl
  | silenceConnected outcome before => exact residue (by simp [before, CommandPc.silencing])
  | pieceMoved available accepted position rest inside =>
      have excluded := held.mutex.exclusive (CommandPc.locked_of_silencing standing)
      simp [inside, StreamFramePc.locked] at excluded
  | flagStored outcome command => simp at standing
  | jsonSent => cases standing
  | bugFlushed => cases standing
  | flagCommand => cases standing
  | cleanupCommand => cases standing
  | locked => cases standing
  | silenceUnconnected => cases standing
  | silenceSent => cases standing
  | removeRefused => cases standing
  | bugRemoved => cases standing
  | finished => cases standing
  | apiUnlocked => cases standing
  | _ => exact residue standing

theorem silenced_audio (events : List (AudioEvent β)) (history : List (CaptureEvent β)) :
    silenced ((events.map CaptureEvent.audio).reverse ++ history) = silenced history := by
  induction events generalizing history with
  | nil => rfl
  | cons event events ih => simpa [silenced] using ih (.audio event :: history)

theorem quiet_transition {setup : CaptureSetup β ρ} {state next : CaptureState β ρ}
    {label : CaptureStep β} {events history : List (CaptureEvent β)} (held : Silent state history)
    (guarded : label.isMedia = true → state.media.trying = true → state.mutex = none →
      silenced history = false)
    (moved : CaptureTransition setup state label next events) :
    silenced (events.reverse ++ history) = true → Quiet next := by
  intro after
  have inside (quiet : silenced history = true) (locked : state.media.locked = true) : False := by
    rw [(held.quiet quiet).outside] at locked
    cases locked
  cases moved with
  | silenceSent outcome standing =>
      have locked : state.command.locked = true := by simp [standing, CommandPc.locked]
      exact ⟨held.mutex.exclusive locked,
        held.residue (by simp [standing, CommandPc.silencing]), rfl⟩
  | tryLocked available accepted standing free =>
      have allowed := guarded rfl (by simp [standing, StreamFramePc.trying]) free
      simp [allowed] at after
  | flagStored outcome command standing =>
      have before : silenced history = true := by
        cases command with
        | setUserMute mute => cases mute <;> simp_all [silenced]
        | _ => simpa [silenced] using after
      obtain ⟨outside, empty, _⟩ := held.quiet before
      cases command <;> exact ⟨outside, empty, (storeFlag_silencing state _).2⟩
  | residueGone outcome work sbuffer events standing checked =>
      rw [silenced_audio] at after
      exact ⟨(held.quiet after).outside, (flushCheck_none checked).1, afterResidue_sending work⟩
  | residueTaken outcome work sbuffer bytes events standing checked =>
      rw [silenced_audio] at after
      obtain ⟨_, whole, _, used, _⟩ := flushCheck_some checked
      exact absurd (whole.symm.trans (held.quiet after).empty) used
  | residueSent outcome work bytes standing =>
      have before := (held.quiet (by simpa [silenced] using after)).sending
      simp [standing, CommandPc.sending] at before
  | pieceMoved available accepted position rest standing =>
      rw [silenced_audio] at after
      exact (inside after (by simp [standing, StreamFramePc.locked])).elim
  | resetConsumed available accepted standing =>
      exact (inside (by simpa [silenced] using after)
        (by simp [standing, StreamFramePc.locked])).elim
  | unconnected _ _ standing | connected _ _ standing | resetAbsent _ _ standing
  | readFailed _ standing | readNothing _ _ standing | readFrame _ _ standing
  | pieceReturned _ _ _ standing | pieceFailed _ _ _ standing =>
      exact (inside (by simpa using after) (by simp [standing, StreamFramePc.locked])).elim
  | mediaUnlocked available accepted standing =>
      exact (inside (by simpa using after) (by simp [standing, StreamFramePc.locked])).elim
  | captured | bugFlushed | opened | dropped | resetRequested | bugRemoved =>
      obtain ⟨outside, empty, sending⟩ := held.quiet (by simpa [silenced] using after)
      exact ⟨outside, empty, by first | exact sending | rfl⟩
  | jsonSent outcome channelIsClosing standing =>
      have before : silenced history = true := by
        split at after <;> simpa [silenced] using after
      obtain ⟨outside, empty, _⟩ := held.quiet before
      exact ⟨outside, empty, rfl⟩
  | pausedReturn | entered | mutedReturn | unmuted | tryFailed =>
      obtain ⟨_, empty, sending⟩ := held.quiet (by simpa using after)
      exact ⟨rfl, empty, sending⟩
  | flagCommand | cleanupCommand | locked | silenceUnconnected | silenceConnected
  | removeRefused | finished | apiUnlocked =>
      obtain ⟨outside, empty, _⟩ := held.quiet (by simpa using after)
      exact ⟨outside, empty, rfl⟩
  | noBug => exact held.quiet (by simpa using after)
  | resetLost =>
      obtain ⟨outside, empty, sending⟩ := held.quiet (by simpa using after)
      exact ⟨outside, empty, sending⟩

theorem everyEvent_audio (events : List (AudioEvent β)) {history : List (CaptureEvent β)}
    (allowed : silenced history = false) (clean : Runs.EveryEvent NotSilenced history) :
    Runs.EveryEvent NotSilenced ((events.map CaptureEvent.audio).reverse ++ history) := by
  induction events generalizing history with
  | nil => exact clean
  | cons event events ih =>
      have first : NotSilenced history (.audio event) := fun _ => allowed
      have later := @ih (.audio event :: history) (by simpa [silenced] using allowed)
        ⟨first, clean⟩
      simpa using later

theorem notSilenced_transition {setup : CaptureSetup β ρ} {state next : CaptureState β ρ}
    {label : CaptureStep β} {events history : List (CaptureEvent β)} (held : Silent state history)
    (clean : Runs.EveryEvent NotSilenced history)
    (moved : CaptureTransition setup state label next events) :
    Runs.EveryEvent NotSilenced (events.reverse ++ history) := by
  have unsent {event : CaptureEvent β} (other : event.isSent = false) :
      NotSilenced history event := by
    simp [NotSilenced, other]
  cases moved with
  | pieceMoved available accepted position rest standing =>
      apply everyEvent_audio _ ?_ clean
      by_contra standsSilent
      have outside := (held.quiet (by simpa using standsSilent)).outside
      simp [standing, StreamFramePc.locked] at outside
  | residueSent outcome work bytes standing =>
      refine everyEvent_audio [sendAudio (state.connected && outcome) bytes] ?_ clean
      by_contra standsSilent
      have sending := (held.quiet (by simpa using standsSilent)).sending
      simp [standing, CommandPc.sending] at sending
  | residueGone outcome work sbuffer events standing checked =>
      obtain ⟨_, ⟨_, rfl⟩ | ⟨_, rfl⟩⟩ := flushCheck_none checked
      · exact clean
      · exact ⟨unsent rfl, clean⟩
  | residueTaken outcome work sbuffer bytes events standing checked =>
      obtain ⟨_, _, _, _, rfl⟩ := flushCheck_some checked
      exact ⟨unsent rfl, clean⟩
  | silenceSent outcome | jsonSent outcome =>
      split
      · exact ⟨unsent rfl, clean⟩
      · exact clean
  | captured | bugFlushed | flagStored | resetConsumed | opened | dropped | resetRequested
  | bugRemoved => exact ⟨unsent rfl, clean⟩
  | _ => exact clean

structure MuteKept (recorded : Recorded β ρ) : Prop where
  silent : Silent recorded.state recorded.history
  clean : Runs.EveryEvent NotSilenced recorded.history

theorem muteKept_step {setup : CaptureSetup β ρ} {recorded next : Recorded β ρ}
    {label : CaptureStep β} (held : MuteKept recorded) (guarded : KeepsSilence recorded label)
    (taken : recordedStep setup recorded label = some next) : MuteKept next := by
  obtain ⟨state, events, rfl, moved⟩ := recordedStep_transition taken
  exact {
    silent := {
      mutex := mutexHeld_transition held.silent.mutex moved
      residue := residue_transition held.silent moved
      quiet := quiet_transition held.silent guarded moved
    }
    clean := notSilenced_transition held.silent held.clean moved
  }

/-- When no `stream_frame` call gets the mutex after the silence of a mute, that
silence is the last the server hears of the caller until an unmute. -/
theorem mute_silence_is_last {setup : CaptureSetup β ρ} {capacity : Nat} {resampler : ρ}
    {startMuted : Bool} {labels : List (CaptureStep β)} {recorded : Recorded β ρ}
    (reached : Runs.run (recordedStep setup) (.initial capacity resampler startMuted) labels =
      some recorded)
    (guarded : Runs.Along (recordedStep setup) KeepsSilence
      (.initial capacity resampler startMuted) labels) :
    Runs.EveryEvent NotSilenced recorded.history ∧
      (silenced recorded.history = true → recorded.state.sbuffer.contents = []) := by
  have initial : MuteKept (.initial capacity resampler startMuted : Recorded β ρ) :=
    ⟨silent_initial capacity resampler startMuted, trivial⟩
  have final := Runs.along_invariant (fun _ _ _ held met taken => muteKept_step held met taken)
    initial guarded reached
  exact ⟨final.clean, fun standsSilent => (final.silent.quiet standsSilent).empty⟩

def muteSteps : List (CaptureStep Nat) :=
  [.command (.flag (.setUserMute true)), .api true, .api true, .api true, .api true, .api true,
    .api true, .api true]

def sendSteps : List (CaptureStep Nat) :=
  [.media none true, .media none true, .media none true, .media (some 1) true, .media none true,
    .media none true]

theorem mute_silence_is_last_undisturbed :
    ∃ recorded, Runs.run (recordedStep directSetup) (.initial 320 () false)
        ([.connectionOpened, .capture [1], .streamFrame, .media none true] ++ sendSteps ++
          [.media none true, .media none true] ++ muteSteps) = some recorded ∧
      Runs.EveryEvent NotSilenced recorded.history ∧
      (silenced recorded.history = true → recorded.state.sbuffer.contents = []) := by
  obtain ⟨recorded, reached⟩ := Option.isSome_iff_exists.mp
    (by decide : (Runs.run (recordedStep directSetup) (.initial 320 () false)
      ([.connectionOpened, .capture [1], .streamFrame, .media none true] ++ sendSteps ++
        [.media none true, .media none true] ++ muteSteps)).isSome = true)
  exact ⟨recorded, reached, mute_silence_is_last reached (by decide)⟩

/-- The call passes the mute flag, waits before its trylock until the mute is over,
and sends what was captured after the silence. -/
theorem caller_audio_after_silence :
    ∃ recorded, Runs.run (recordedStep directSetup) (.initial 320 () false)
        ([.connectionOpened, .streamFrame, .media none true] ++ muteSteps ++ [.capture [1]] ++
          sendSteps) = some recorded ∧
      .audio (.sent [1]) ∈ recorded.history ∧ silenced recorded.history = true ∧
      ¬Runs.EveryEvent NotSilenced recorded.history :=
  Runs.exists_run (by decide)

end

end OpenaiAudioStream
