import OpenaiAudioStream.CaptureDelivery

/-!
Stopping a stream. `stream_session_cleanup` takes the mutex, flushes the residue,
sends the final JSON and removes the media bug before it unlocks. On a connection that
stays open, everything buffered has been sent when the JSON is, and nothing follows it.
-/

namespace OpenaiAudioStream

section

variable {β ρ : Type*}

def CaptureEvent.isUpload : CaptureEvent β → Bool
  | .audio (.sent _) => true
  | .silenceSent => true
  | .jsonSent => true
  | _ => false

def CommandPc.removing : CommandPc β → Bool
  | .removeBug _ => true
  | _ => false

def RemovesBug (recorded : Recorded β ρ) : CaptureStep β → Prop
  | .api outcome => recorded.state.command.removing = true → outcome = true
  | _ => True

instance (recorded : Recorded β ρ) : ∀ label, Decidable (RemovesBug recorded label)
  | .api _ => inferInstanceAs (Decidable (_ → _))
  | .media _ _ => inferInstanceAs (Decidable True)
  | .capture _ => inferInstanceAs (Decidable True)
  | .streamFrame => inferInstanceAs (Decidable True)
  | .command _ => inferInstanceAs (Decidable True)
  | .connectionOpened => inferInstanceAs (Decidable True)
  | .connectionDropped => inferInstanceAs (Decidable True)
  | .closeCallback _ => inferInstanceAs (Decidable True)

/-! The phases of a stop, before and after its JSON. -/

def CommandPc.stopping : CommandPc β → Bool
  | .lock (.cleanup text _) => text
  | .flush (.cleanup text _) => text
  | .flushSend (.cleanup text _) _ => text
  | .sendJson _ => true
  | _ => false

def CommandPc.sendsJson : CommandPc β → Bool
  | .sendJson _ => true
  | _ => false

structure BeforeJson (state : CaptureState β ρ) : Prop where
  command : state.command.stopping = true
  residue : state.command.sendsJson = true → state.sbuffer.contents = []

theorem CommandPc.eq_of_removing {pc : CommandPc β} (removing : pc.removing = true) :
    ∃ channelIsClosing, pc = .removeBug channelIsClosing := by
  cases pc with
  | removeBug channelIsClosing => exact ⟨channelIsClosing, rfl⟩
  | _ => cases removing

theorem CommandPc.eq_of_sendsJson {pc : CommandPc β} (sending : pc.sendsJson = true) :
    ∃ channelIsClosing, pc = .sendJson channelIsClosing := by
  cases pc with
  | sendJson channelIsClosing => exact ⟨channelIsClosing, rfl⟩
  | _ => cases sending

theorem CommandPc.usesBug_of_stopping {pc : CommandPc β} (stopping : pc.stopping = true) :
    pc.usesBug = true := by
  cases pc with
  | idle | finish | unlock => cases stopping
  | _ => rfl

theorem CommandPc.usesBug_of_uploads {pc : CommandPc β} (uploading : pc.uploads = true) :
    pc.usesBug = true := by
  cases pc with
  | idle | finish | unlock => cases uploading
  | _ => rfl

theorem StreamFramePc.running_of_locked {pc : StreamFramePc β} (inside : pc.locked = true) :
    pc.running = true := by
  cases pc with
  | idle => cases inside
  | _ => rfl

def Stopped (state : CaptureState β ρ) : Prop :=
  state.command.removing = true ∨ state.bugAttached = false

section

variable {setup : CaptureSetup β ρ} {state next : CaptureState β ρ} {label : CaptureStep β}
  {events history : List (CaptureEvent β)}

theorem Stopped.quiet {rtpPackets : Nat} (held : Delivering rtpPackets state history)
    (stopped : Stopped state) :
    state.media.locked = false ∧ state.command.uploads = false := by
  rcases stopped with removing | gone
  · obtain ⟨channelIsClosing, standing⟩ := CommandPc.eq_of_removing removing
    refine ⟨held.owned.mutex.exclusive (by simp [standing, CommandPc.locked]), ?_⟩
    simp [standing, CommandPc.uploads]
  · constructor
    · by_contra inside
      have running := StreamFramePc.running_of_locked (by simpa using inside)
      have attached := held.attached.media running
      rw [gone] at attached
      cases attached
    · by_contra uploading
      have uses := CommandPc.usesBug_of_uploads (by simpa using uploading)
      have attached := held.attached.command uses
      rw [gone] at attached
      cases attached

theorem flushCheck_uploads {usable : Bool} {sbuffer after : BoundedFifo β}
    {taken : Option (List β)} {events : List (AudioEvent β)}
    (checked : flushCheck usable sbuffer = (after, taken, events)) :
    ∀ event ∈ events.map CaptureEvent.audio, event.isUpload = false := by
  obtain ⟨_, _, ⟨_, _, rfl⟩ | ⟨_, _, rfl⟩ | ⟨_, _, _, rfl⟩⟩ := flushCheck_cases checked <;>
    simp [CaptureEvent.isUpload]

theorem uploads_transition (outside : state.media.locked = false)
    (silent : state.command.uploads = false)
    (moved : CaptureTransition setup state label next events) :
    ∀ event ∈ events, event.isUpload = false := by
  cases moved with
  | pieceMoved available accepted position rest standing =>
      simp [standing, StreamFramePc.locked] at outside
  | residueGone outcome work sbuffer events _ checked => exact flushCheck_uploads checked
  | residueTaken outcome work sbuffer bytes events _ checked => exact flushCheck_uploads checked
  | residueSent _ _ _ standing | silenceSent _ standing | jsonSent _ _ standing =>
      simp [standing, CommandPc.uploads] at silent
  | _ => simp [CaptureEvent.isUpload]

theorem stopped_transition (removes : RemovesBug ⟨state, history⟩ label) (stopped : Stopped state)
    (moved : CaptureTransition setup state label next events) : Stopped next := by
  rcases stopped with removing | gone
  · cases moved with
    | bugRemoved => exact Or.inr rfl
    | removeRefused standing =>
        have accepted := removes removing
        cases accepted
    | flagCommand _ standing | cleanupCommand _ _ standing | bugFlushed _ _ standing
    | flagStored _ _ standing | locked _ _ standing | residueGone _ _ _ _ standing
    | residueTaken _ _ _ _ _ standing | residueSent _ _ _ standing
    | silenceUnconnected _ standing | silenceConnected _ standing | silenceSent _ standing
    | jsonSent _ _ standing | finished _ standing | apiUnlocked _ standing =>
        simp [standing, CommandPc.removing] at removing
    | _ => exact Or.inl removing
  · cases moved with
    | flagStored outcome flag => cases flag <;> exact Or.inr gone
    | bugRemoved => exact Or.inr rfl
    | _ => exact Or.inr gone

theorem BeforeJson.delivered {rtpPackets : Nat} (held : Delivering rtpPackets state history)
    (before : BeforeJson state) (sending : state.command.sendsJson = true) :
    bufferedBytes history = deliveredBytes rtpPackets history := by
  obtain ⟨channelIsClosing, standing⟩ := CommandPc.eq_of_sendsJson sending
  have noMedia := held.owned.mutex.media_residue (by simp [standing, CommandPc.locked])
  have noCommand : state.command.residue? = none := by simp [standing, CommandPc.residue?]
  simpa [before.residue sending, CaptureState.inFlight, noMedia, noCommand] using held.account

/-- A step of a stop before its JSON: it goes on, or it sends the JSON, with everything
that was buffered delivered. -/
theorem beforeJson_transition (held : Delivering setup.rtpPackets state history)
    (connected : state.connected = true) (kept : KeepsLink ⟨state, history⟩ label)
    (before : BeforeJson state) (moved : CaptureTransition setup state label next events) :
    BeforeJson next ∨
      (events = [.jsonSent] ∧ Stopped next ∧
        bufferedBytes history = deliveredBytes setup.rtpPackets history) := by
  obtain ⟨command, residue⟩ := before
  cases moved with
  | jsonSent outcome channelIsClosing standing =>
      right
      have accepted : outcome = true := kept (by simp [standing, CommandPc.uploads])
      refine ⟨by simp [connected, accepted], Or.inl rfl, ?_⟩
      exact BeforeJson.delivered held ⟨command, residue⟩ (by simp [standing, CommandPc.sendsJson])
  | locked outcome work standing =>
      rw [standing] at command
      cases work with
      | userMute => cases command
      | cleanup text channelIsClosing => exact Or.inl ⟨command, by simp [CommandPc.sendsJson]⟩
  | residueGone outcome work sbuffer events standing checked =>
      rw [standing] at command
      have empty := (flushCheck_none checked).1
      cases work with
      | userMute => cases command
      | cleanup text channelIsClosing =>
          obtain rfl : text = true := command
          exact Or.inl ⟨rfl, fun _ => empty⟩
  | residueTaken outcome work sbuffer bytes events standing checked =>
      rw [standing] at command
      cases work with
      | userMute => cases command
      | cleanup text channelIsClosing => exact Or.inl ⟨command, by simp [CommandPc.sendsJson]⟩
  | residueSent outcome work bytes standing =>
      rw [standing] at command
      cases work with
      | userMute => cases command
      | cleanup text channelIsClosing =>
          obtain rfl : text = true := command
          exact Or.inl ⟨rfl, fun _ => rfl⟩
  | pieceMoved available accepted position rest standing =>
      refine Or.inl ⟨command, fun sending => ?_⟩
      obtain ⟨channelIsClosing, running⟩ : ∃ closing, state.command = .sendJson closing :=
        CommandPc.eq_of_sendsJson sending
      have outside := held.owned.mutex.exclusive (by simp [running, CommandPc.locked])
      simp [standing, StreamFramePc.locked] at outside
  | resetConsumed => exact Or.inl ⟨command, fun _ => rfl⟩
  | flagCommand _ standing | cleanupCommand _ _ standing | bugFlushed _ _ standing
  | flagStored _ _ standing | silenceUnconnected _ standing | silenceConnected _ standing
  | silenceSent _ standing | removeRefused standing | bugRemoved _ _ standing
  | finished _ standing | apiUnlocked _ standing =>
      simp [standing, CommandPc.stopping] at command
  | _ => exact Or.inl ⟨command, residue⟩

end

/-- A stop that has not sent its JSON, or has sent it after everything buffered and
nothing after it. -/
structure Stopping (rtpPackets : Nat) (earlier : List (CaptureEvent β))
    (recorded : Recorded β ρ) : Prop where
  delivering : DeliveringRun rtpPackets recorded
  connected : recorded.state.connected = true
  phase : (BeforeJson recorded.state ∧ ∃ older, recorded.history = older ++ earlier) ∨
    (Stopped recorded.state ∧ ∃ after older,
      recorded.history = after ++ .jsonSent :: (older ++ earlier) ∧
        bufferedBytes (older ++ earlier) = deliveredBytes rtpPackets (older ++ earlier) ∧
        ∀ event ∈ after, event.isUpload = false)

theorem stopping_step {setup : CaptureSetup β ρ} {earlier : List (CaptureEvent β)}
    {recorded next : Recorded β ρ} {label : CaptureStep β}
    (held : Stopping setup.rtpPackets earlier recorded)
    (met : KeepsLink recorded label ∧ RemovesBug recorded label)
    (taken : recordedStep setup recorded label = some next) :
    Stopping setup.rtpPackets earlier next := by
  have delivering := delivering_step held.delivering met.1 taken
  obtain ⟨state, events, rfl, moved⟩ := recordedStep_transition taken
  obtain ⟨_, _, open_⟩ := link_transition held.delivering met.1 moved
  refine ⟨delivering, open_ held.connected, ?_⟩
  rcases held.phase with ⟨before, older, split⟩ | ⟨stopped, after, older, split, whole, quiet⟩
  · rcases beforeJson_transition held.delivering held.connected met.1 before moved with
      still | ⟨rfl, stopped, whole⟩
    · exact Or.inl ⟨still, events.reverse ++ older, by rw [split, List.append_assoc]⟩
    · rw [split] at whole
      exact Or.inr ⟨stopped, [], older, by simp [split], whole, by simp⟩
  · obtain ⟨outside, silent⟩ := stopped.quiet held.delivering
    have unsent := uploads_transition outside silent moved
    refine Or.inr ⟨stopped_transition met.2 stopped moved, events.reverse ++ after, older, ?_,
      whole, ?_⟩
    · rw [split, List.append_assoc]
    · intro event member
      rcases List.mem_append.mp member with new | old
      · exact unsent event (by simpa using new)
      · exact quiet event old

theorem stopping_start {setup : CaptureSetup β ρ} {started next : Recorded β ρ} {closing : Bool}
    (held : DeliveringRun setup.rtpPackets started) (connected : started.state.connected = true)
    (attached : started.state.bugAttached = true)
    (taken : recordedStep setup started (.command (.cleanup true closing)) = some next) :
    Stopping setup.rtpPackets started.history next := by
  have kept : KeepsLink started (.command (.cleanup true closing)) := trivial
  have delivering := delivering_step held kept taken
  obtain ⟨state, events, rfl, moved⟩ := recordedStep_transition taken
  cases moved with
  | cleanupCommand =>
      exact ⟨delivering, connected, Or.inl ⟨⟨rfl, by simp [CommandPc.sendsJson]⟩, [], rfl⟩⟩
  | noBug _ _ detached =>
      rw [attached] at detached
      cases detached

/-- On a connection that stays open, a stop that removes the bug has sent its JSON after
every byte that was in the stream buffer before, and nothing is sent after it. -/
theorem stop_delivers_residue_then_json {setup : CaptureSetup β ρ} {capacity : Nat} {resampler : ρ}
    {startMuted closing : Bool} {before during : List (CaptureStep β)}
    {started final : Recorded β ρ}
    (startedAt : Runs.run (recordedStep setup) (.initial capacity resampler startMuted) before =
      some started)
    (attached : started.state.bugAttached = true) (connected : started.state.connected = true)
    (finalAt : Runs.run (recordedStep setup) started
      (.command (.cleanup true closing) :: during) = some final)
    (earlier : Runs.Along (recordedStep setup) KeepsLink
      (.initial capacity resampler startMuted) before)
    (link : Runs.Along (recordedStep setup) KeepsLink started
      (.command (.cleanup true closing) :: during))
    (removes : Runs.Along (recordedStep setup) RemovesBug started
      (.command (.cleanup true closing) :: during))
    (removed : final.state.bugAttached = false) :
    ∃ after older, final.history = after ++ .jsonSent :: (older ++ started.history) ∧
      bufferedBytes (older ++ started.history) =
        deliveredBytes setup.rtpPackets (older ++ started.history) ∧
      ∀ event ∈ after, event.isUpload = false := by
  have held : DeliveringRun setup.rtpPackets started :=
    Runs.along_invariant (fun _ _ _ held met taken => delivering_step held met taken)
      (delivering_initial setup.rtpPackets capacity resampler startMuted) earlier startedAt
  obtain ⟨stopping, taken, later⟩ := Runs.run_cons_inv finalAt
  have met := (Runs.along_cons_some taken (Runs.along_and link removes)).2
  have stops := Runs.along_invariant (fun _ _ _ held met taken => stopping_step held met taken)
    (stopping_start held connected attached taken) met later
  rcases stops.phase with ⟨unfinished, _⟩ | ⟨_, after, older, split, whole, quiet⟩
  · have uses := CommandPc.usesBug_of_stopping unfinished.command
    have still := stops.delivering.attached.command uses
    rw [removed] at still
    cases still
  · exact ⟨after, older, split, whole, quiet⟩

def bufferedSchedule : List (CaptureStep Nat) :=
  [.connectionOpened, .capture [1, 2], .streamFrame, .media none true, .media none true,
    .media none true, .media none true, .media (some 2) true, .media none true, .media none true,
    .media none true, .media none true, .media none true, .media none true]

def stopSteps : List (CaptureStep Nat) :=
  [.streamFrame, .media none true, .api true, .media none true, .api true, .api true, .api true,
    .api true, .api true, .api true]

theorem stop_delivers_residue_then_json_buffered :
    ∃ started final,
      Runs.run (recordedStep pairedSetup) (.initial 640 () false) bufferedSchedule =
        some started ∧
      Runs.run (recordedStep pairedSetup) started
        (.command (.cleanup true false) :: stopSteps) = some final ∧
      ∃ after older, final.history = after ++ .jsonSent :: (older ++ started.history) ∧
        bufferedBytes (older ++ started.history) = deliveredBytes 2 (older ++ started.history) ∧
        ∀ event ∈ after, event.isUpload = false := by
  have buffered : ((Runs.run (recordedStep pairedSetup) (.initial 640 () false)
      bufferedSchedule).any fun started => decide (started.state.bugAttached = true ∧
        started.state.connected = true ∧
        Runs.Along (recordedStep pairedSetup) KeepsLink started
          (.command (.cleanup true false) :: stopSteps) ∧
        Runs.Along (recordedStep pairedSetup) RemovesBug started
          (.command (.cleanup true false) :: stopSteps) ∧
        ((Runs.run (recordedStep pairedSetup) started
          (.command (.cleanup true false) :: stopSteps)).any fun final =>
            decide (final.state.bugAttached = false)) = true)) = true := by
    decide
  obtain ⟨started, startedAt, attached, connected, link, removes, stops⟩ := Runs.exists_run buffered
  obtain ⟨final, finalAt, removed⟩ := Runs.exists_run stops
  exact ⟨started, final, startedAt, finalAt, stop_delivers_residue_then_json startedAt attached
    connected finalAt (by decide) link removes removed⟩

end

end OpenaiAudioStream
