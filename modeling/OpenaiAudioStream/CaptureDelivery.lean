import OpenaiAudioStream.CaptureConnections

/-!
The account of buffered audio on a connection that stays open: every byte that was put
into the stream buffer has been sent, is being sent by a flush, or is still there.
-/

namespace OpenaiAudioStream

section

variable {β ρ : Type*}

def CaptureEvent.bufferedBytes : CaptureEvent β → List β
  | .audio (.buffered bytes) => bytes
  | _ => []

def CaptureEvent.sentBytes : CaptureEvent β → List β
  | .audio (.sent bytes) => bytes
  | _ => []

def bufferedBytes (history : List (CaptureEvent β)) : List β :=
  Runs.gathered CaptureEvent.bufferedBytes history

def sentBytes (history : List (CaptureEvent β)) : List β :=
  Runs.gathered CaptureEvent.sentBytes history

/-- What the server has received from the stream buffer: without aggregation, nothing. -/
def deliveredBytes (rtpPackets : Nat) (history : List (CaptureEvent β)) : List β :=
  if rtpPackets = 1 then [] else sentBytes history

def CommandPc.uploads : CommandPc β → Bool
  | .flushSend _ _ => true
  | .silenceSend => true
  | .sendJson _ => true
  | _ => false

/-- The connection does not drop, and what is sent over it is accepted. -/
def KeepsLink (recorded : Recorded β ρ) : CaptureStep β → Prop
  | .connectionDropped => False
  | .media _ accepted => accepted = true
  | .api outcome => recorded.state.command.uploads = true → outcome = true
  | _ => True

instance (recorded : Recorded β ρ) : ∀ label, Decidable (KeepsLink recorded label)
  | .connectionDropped => inferInstanceAs (Decidable False)
  | .media _ _ => inferInstanceAs (Decidable (_ = _))
  | .api _ => inferInstanceAs (Decidable (_ → _))
  | .capture _ => inferInstanceAs (Decidable True)
  | .streamFrame => inferInstanceAs (Decidable True)
  | .command _ => inferInstanceAs (Decidable True)
  | .connectionOpened => inferInstanceAs (Decidable True)
  | .closeCallback _ => inferInstanceAs (Decidable True)

/-! The bug is attached, and the streamer alive, wherever audio moves. -/

def StreamFramePc.running : StreamFramePc β → Bool
  | .idle => false
  | _ => true

def CommandPc.usesBug : CommandPc β → Bool
  | .idle => false
  | .finish => false
  | .unlock => false
  | _ => true

def CommandPc.finishing : CommandPc β → Bool
  | .finish => true
  | _ => false

structure Attached (state : CaptureState β ρ) : Prop where
  streamer : state.bugAttached = true → state.streamer = true
  media : state.media.running = true → state.bugAttached = true
  command : state.command.usesBug = true → state.bugAttached = true
  removed : state.command.finishing = true → state.bugAttached = false

theorem attached_initial (capacity : Nat) (resampler : ρ) (startMuted : Bool) :
    Attached (.initial capacity resampler startMuted : CaptureState β ρ) where
  streamer := fun _ => rfl
  media := fun _ => rfl
  command := fun _ => rfl
  removed := by simp [CaptureState.initial, CommandPc.finishing]

@[simp] theorem afterResidue_finishing (work : LockedWork) :
    (afterResidue work : CommandPc β).finishing = false := by
  cases work with
  | userMute => rfl
  | cleanup text channelIsClosing => cases text <;> rfl

theorem storeFlag_finishing (state : CaptureState β ρ) (command : FlagCommand) :
    (storeFlag state command).command.finishing = false := by
  cases command with
  | setUserMute mute =>
      simp only [storeFlag]
      split <;> rfl
  | _ => rfl

theorem storeFlag_media (state : CaptureState β ρ) (command : FlagCommand) :
    (storeFlag state command).media = state.media := by
  cases command <;> rfl

theorem captureStep_entering {setup : CaptureSetup β ρ} {state : CaptureState β ρ}
    {outcome : CaptureState β ρ × List (CaptureEvent β)}
    (taken : captureStep setup state .streamFrame = some outcome) : state.bugAttached = true := by
  simp only [captureStep] at taken
  split at taken
  · cases taken
  · rename_i attached
    simpa using attached

theorem attached_transition {setup : CaptureSetup β ρ} {state next : CaptureState β ρ}
    {label : CaptureStep β} {events : List (CaptureEvent β)} (held : Attached state)
    (entering : label = .streamFrame → state.bugAttached = true)
    (moved : CaptureTransition setup state label next events) : Attached next := by
  obtain ⟨streamer, media, command, removed⟩ := held
  have inside {pc : StreamFramePc β} (standing : state.media = pc) (running : pc.running = true) :
      state.bugAttached = true := media (by rw [standing]; exact running)
  have busy {pc : CommandPc β} (standing : state.command = pc) (uses : pc.usesBug = true) :
      state.bugAttached = true := command (by rw [standing]; exact uses)
  cases moved with
  | entered => exact ⟨streamer, fun _ => entering rfl, command, removed⟩
  | pausedReturn | mutedReturn | tryFailed | mediaUnlocked =>
      exact ⟨streamer, by simp [StreamFramePc.running], command, removed⟩
  | unmuted _ _ standing | tryLocked _ _ standing | unconnected _ _ standing
  | connected _ _ standing | resetConsumed _ _ standing | resetAbsent _ _ standing
  | readFailed _ standing | readFrame _ _ standing | pieceReturned _ _ _ standing
  | pieceFailed _ _ _ standing | pieceMoved _ _ _ _ standing =>
      exact ⟨streamer, fun _ => inside standing rfl, command, removed⟩
  | flagCommand issued idle attached =>
      exact ⟨streamer, media, fun _ => attached, by simp [CommandPc.finishing]⟩
  | cleanupCommand text channelIsClosing idle attached =>
      exact ⟨streamer, media, fun _ => attached, by simp [CommandPc.finishing]⟩
  | flagStored outcome flag standing =>
      have attached := busy standing rfl
      cases flag <;>
        exact ⟨streamer, media, fun _ => attached, by rw [storeFlag_finishing]; simp⟩
  | residueGone _ _ _ _ standing | residueSent _ _ _ standing =>
      exact ⟨streamer, media, fun _ => busy standing rfl, by simp⟩
  | bugFlushed _ _ standing | locked _ _ standing | residueTaken _ _ _ _ _ standing
  | silenceUnconnected _ standing | silenceConnected _ standing | silenceSent _ standing
  | jsonSent _ _ standing | removeRefused standing =>
      exact ⟨streamer, media, fun _ => busy standing rfl, by simp [CommandPc.finishing]⟩
  | bugRemoved outcome channelIsClosing standing idle =>
      exact ⟨by simp, by simp [idle, StreamFramePc.running], by simp [CommandPc.usesBug],
        fun _ => rfl⟩
  | finished outcome standing =>
      have gone := removed (by simp [standing, CommandPc.finishing])
      exact ⟨by simp [gone], media, by simp [CommandPc.usesBug], by simp [CommandPc.finishing]⟩
  | apiUnlocked outcome standing =>
      exact ⟨streamer, media, by simp [CommandPc.usesBug], by simp [CommandPc.finishing]⟩
  | _ => exact ⟨streamer, media, command, removed⟩

/-! On a connection that stays open every buffered byte is accounted for. -/

def StreamFramePc.engaged : StreamFramePc β → Bool
  | .consumeCaptureReset => true
  | .readBug => true
  | .piece _ _ => true
  | _ => false

theorem StreamFramePc.running_of_engaged {pc : StreamFramePc β} (engaged : pc.engaged = true) :
    pc.running = true := by
  cases pc with
  | idle => cases engaged
  | _ => rfl

def PiecePc.buffering : PiecePc β → Bool
  | .start _ => false
  | .returned _ => false
  | _ => true

def StreamFramePc.buffering : StreamFramePc β → Bool
  | .piece position _ => position.buffering
  | _ => false

def CaptureState.MovesAudio (state : CaptureState β ρ) (history : List (CaptureEvent β)) : Prop :=
  state.media.engaged = true ∨ state.inFlight.isSome = true ∨ bufferedBytes history ≠ []

structure Delivering (rtpPackets : Nat) (state : CaptureState β ρ)
    (history : List (CaptureEvent β)) : Prop where
  owned : Owned state history
  attached : Attached state
  unreset : state.captureResetPending = false
  unanswered : state.closeCallback = false
  connected : state.MovesAudio history → state.connected = true
  direct : rtpPackets = 1 → state.media.buffering = false ∧ bufferedBytes history = []
  account : bufferedBytes history =
    deliveredBytes rtpPackets history ++ state.inFlight.getD [] ++ state.sbuffer.contents

theorem bufferedBytes_append (newer older : List (CaptureEvent β)) :
    bufferedBytes (newer ++ older) = bufferedBytes older ++ bufferedBytes newer :=
  Runs.gathered_append CaptureEvent.bufferedBytes newer older

theorem deliveredBytes_append (rtpPackets : Nat) (newer older : List (CaptureEvent β)) :
    deliveredBytes rtpPackets (newer ++ older) =
      deliveredBytes rtpPackets older ++ deliveredBytes rtpPackets newer := by
  unfold deliveredBytes
  split
  · rfl
  · exact Runs.gathered_append CaptureEvent.sentBytes newer older

section

variable {rtpPackets : Nat} {state next : CaptureState β ρ} {history : List (CaptureEvent β)}

theorem Delivering.usable_media (held : Delivering rtpPackets state history)
    (engaged : state.media.engaged = true) : state.usable = true := by
  have attached := held.attached.media (StreamFramePc.running_of_engaged engaged)
  have streamer := held.attached.streamer attached
  have connected := held.connected (Or.inl engaged)
  simp [CaptureState.usable, streamer, connected]

theorem Delivering.usable_command (held : Delivering rtpPackets state history)
    (uses : state.command.usesBug = true) (used : state.sbuffer.contents ≠ []) :
    state.usable = true := by
  have streamer := held.attached.streamer (held.attached.command uses)
  have buffered : bufferedBytes history ≠ [] := by
    rw [held.account]
    simp [used]
  have connected := held.connected (Or.inr (Or.inr buffered))
  simp [CaptureState.usable, streamer, connected]

theorem Delivering.account_quiet {newer : List (CaptureEvent β)}
    (held : Delivering rtpPackets state history) (buffered : bufferedBytes newer = [])
    (delivered : deliveredBytes rtpPackets newer = [])
    (inFlight : next.inFlight = state.inFlight)
    (contents : next.sbuffer.contents = state.sbuffer.contents) :
    bufferedBytes (newer ++ history) =
      deliveredBytes rtpPackets (newer ++ history) ++ next.inFlight.getD [] ++
        next.sbuffer.contents := by
  rw [bufferedBytes_append, deliveredBytes_append, buffered, delivered, inFlight, contents]
  simpa using held.account

theorem flushCheck_keeps {usable : Bool} {sbuffer after : BoundedFifo β}
    {events : List (AudioEvent β)} (open_ : sbuffer.contents ≠ [] → usable = true)
    (checked : flushCheck usable sbuffer = (after, none, events)) :
    sbuffer.contents = [] ∧ after.contents = [] := by
  obtain ⟨empty, ⟨nothing, _⟩ | ⟨unusable, _⟩⟩ := flushCheck_none checked
  · exact ⟨nothing, empty⟩
  · refine ⟨?_, empty⟩
    by_contra used
    rw [open_ used] at unusable
    cases unusable

theorem flushCheck_carries (rtpPackets : Nat) {usable : Bool} {sbuffer after : BoundedFifo β}
    {taken : Option (List β)} {events : List (AudioEvent β)}
    (checked : flushCheck usable sbuffer = (after, taken, events)) :
    bufferedBytes (events.map CaptureEvent.audio).reverse = [] ∧
      deliveredBytes rtpPackets (events.map CaptureEvent.audio).reverse = [] := by
  obtain ⟨_, _, ⟨_, _, rfl⟩ | ⟨_, _, rfl⟩ | ⟨_, _, _, rfl⟩⟩ := flushCheck_cases checked <;>
    simp [bufferedBytes, deliveredBytes, sentBytes, CaptureEvent.bufferedBytes,
      CaptureEvent.sentBytes]

theorem account_piece {setup : CaptureSetup β ρ} {accepted : Bool} {position later : PiecePc β}
    {rest : List (List β)} {after : BoundedFifo β} {events : List (AudioEvent β)}
    (held : Delivering setup.rtpPackets state history) (accepts : accepted = true)
    (standing : state.media = .piece position rest)
    (moved : PieceTransition setup.rtpPackets state.usable (state.connected && accepted)
      state.sbuffer position after later events) :
    let next := { state with sbuffer := after, media := .piece later rest }
    let newer := (events.map CaptureEvent.audio).reverse
    bufferedBytes (newer ++ history) =
      deliveredBytes setup.rtpPackets (newer ++ history) ++ next.inFlight.getD [] ++
        next.sbuffer.contents := by
  have noCommand := held.owned.mutex.command_residue (by simp [standing, StreamFramePc.locked])
  have usable := held.usable_media (by simp [standing, StreamFramePc.engaged])
  have connected := held.connected (Or.inl (by simp [standing, StreamFramePc.engaged]))
  have account := held.account
  cases moved with
  | direct data one =>
      refine held.account_quiet ?_ (by simp [deliveredBytes, one]) ?_ rfl
      · cases state.connected && accepted <;>
          simp [bufferedBytes, sendAudio, CaptureEvent.bufferedBytes]
      · simp [CaptureState.inFlight, standing, StreamFramePc.residue?]
  | begun | ended | full | writeFailed =>
      refine held.account_quiet rfl (by simp [deliveredBytes, sentBytes]) ?_ rfl
      simp [CaptureState.inFlight, standing, StreamFramePc.residue?]
  | wrote data count written later contents continued =>
      have landed : StreamFramePc.residue? (.piece later rest) = none := by
        rcases continued with rfl | rfl <;> rfl
      simp only [CaptureState.inFlight, standing, StreamFramePc.residue?, noCommand, Option.or_none,
        Option.getD_none, List.append_nil] at account
      simp only [bufferedBytes_append, deliveredBytes_append, CaptureState.inFlight, landed,
        noCommand, contents, account]
      simp [bufferedBytes, deliveredBytes, sentBytes, CaptureEvent.bufferedBytes,
        CaptureEvent.sentBytes]
  | flushed atHead data after events checked =>
      obtain ⟨nothing, empty⟩ := flushCheck_keeps (fun _ => usable) checked
      obtain ⟨buffered, delivered⟩ := flushCheck_carries setup.rtpPackets checked
      have before : state.media.residue? = none := by simp [standing, StreamFramePc.residue?]
      refine held.account_quiet buffered delivered ?_ (by rw [nothing, empty])
      simp [CaptureState.inFlight, before]
  | taken atHead data after bytes events checked =>
      obtain ⟨buffered, delivered⟩ := flushCheck_carries setup.rtpPackets checked
      obtain ⟨empty, rfl, _⟩ := flushCheck_some checked
      simp only [CaptureState.inFlight, standing, StreamFramePc.residue?, noCommand,
        Option.or_none, Option.getD_none, List.append_nil] at account
      simp only [bufferedBytes_append, deliveredBytes_append, buffered, delivered, empty]
      simpa [CaptureState.inFlight, StreamFramePc.residue?] using account
  | flushSent atHead data bytes =>
      have flying : state.inFlight = some bytes := by
        simp [CaptureState.inFlight, standing, StreamFramePc.residue?]
      have many : setup.rtpPackets ≠ 1 := by
        intro one
        have unbuffered := (held.direct one).1
        simp [standing, StreamFramePc.buffering, PiecePc.buffering] at unbuffered
      have empty := held.owned.emptied (by simp [flying])
      rw [flying, empty] at account
      simp only [bufferedBytes_append, deliveredBytes_append, account, connected, accepts]
      simp [CaptureState.inFlight, noCommand, sendAudio, bufferedBytes, deliveredBytes, sentBytes,
        many, CaptureEvent.bufferedBytes, CaptureEvent.sentBytes]

theorem account_transition {setup : CaptureSetup β ρ} {label : CaptureStep β}
    {events : List (CaptureEvent β)} (held : Delivering setup.rtpPackets state history)
    (kept : KeepsLink ⟨state, history⟩ label)
    (moved : CaptureTransition setup state label next events) :
    bufferedBytes (events.reverse ++ history) =
      deliveredBytes setup.rtpPackets (events.reverse ++ history) ++ next.inFlight.getD [] ++
        next.sbuffer.contents := by
  have silent : deliveredBytes setup.rtpPackets ([] : List (CaptureEvent β)) = [] := by
    simp [deliveredBytes, sentBytes]
  cases moved with
  | pieceMoved available accepted position rest standing running =>
      exact account_piece held kept standing (pieceStep_transition running)
  | resetConsumed available accepted standing reset =>
      rw [held.unreset] at reset
      cases reset
  | residueGone outcome work sbuffer events standing checked =>
      have uses := held.usable_command (by simp [standing, CommandPc.usesBug])
      obtain ⟨nothing, empty⟩ := flushCheck_keeps uses checked
      obtain ⟨buffered, delivered⟩ := flushCheck_carries setup.rtpPackets checked
      have before : state.command.residue? = none := by simp [standing, CommandPc.residue?]
      refine held.account_quiet buffered delivered ?_ (by rw [nothing, empty])
      simp [CaptureState.inFlight, before]
  | residueTaken outcome work sbuffer bytes events standing checked =>
      have noMedia := held.owned.mutex.media_residue (by simp [standing, CommandPc.locked])
      have account := held.account
      obtain ⟨buffered, delivered⟩ := flushCheck_carries setup.rtpPackets checked
      obtain ⟨empty, rfl, _⟩ := flushCheck_some checked
      simp only [CaptureState.inFlight, standing, CommandPc.residue?, noMedia,
        Option.or_none, Option.getD_none, List.append_nil] at account
      simp only [bufferedBytes_append, deliveredBytes_append, buffered, delivered, empty]
      simpa [CaptureState.inFlight, noMedia, CommandPc.residue?] using account
  | residueSent outcome work bytes standing =>
      have noMedia := held.owned.mutex.media_residue (by simp [standing, CommandPc.locked])
      have flying : state.inFlight = some bytes := by
        simp [CaptureState.inFlight, noMedia, standing, CommandPc.residue?]
      have accepted : outcome = true := kept (by simp [standing, CommandPc.uploads])
      have connected := held.connected (Or.inr (Or.inl (by simp [flying])))
      have account := held.account
      rw [flying, held.owned.emptied (by simp [flying])] at account
      by_cases one : setup.rtpPackets = 1
      · have nothing := (held.direct one).2
        rw [nothing] at account
        have gone : bytes = [] := by simpa [deliveredBytes, one] using account
        subst gone
        simp only [bufferedBytes_append, deliveredBytes_append, nothing]
        simp [CaptureState.inFlight, noMedia, connected, accepted, sendAudio, bufferedBytes,
          deliveredBytes, one, CaptureEvent.bufferedBytes]
      · simp only [bufferedBytes_append, deliveredBytes_append, account, connected, accepted]
        simp [CaptureState.inFlight, noMedia, sendAudio, bufferedBytes, deliveredBytes, sentBytes,
          one, CaptureEvent.bufferedBytes, CaptureEvent.sentBytes]
  | flagStored outcome flag standing =>
      refine held.account_quiet rfl ?_ ?_ (by cases flag <;> rfl)
      · simp [deliveredBytes, sentBytes, CaptureEvent.sentBytes]
      · have before : state.command.residue? = none := by simp [standing, CommandPc.residue?]
        simp [CaptureState.inFlight, before, storeFlag_media]
  | silenceSent outcome standing | jsonSent outcome _ standing =>
      refine held.account_quiet ?_ ?_ ?_ rfl
      · split <;> simp [bufferedBytes, CaptureEvent.bufferedBytes]
      · split <;> simp [deliveredBytes, sentBytes, CaptureEvent.sentBytes]
      · simp [CaptureState.inFlight, standing, CommandPc.residue?]
  | captured | readNothing | noBug | opened | dropped | resetRequested | resetLost =>
      refine held.account_quiet rfl ?_ rfl rfl
      simp [deliveredBytes, sentBytes, CaptureEvent.sentBytes]
  | readFrame _ _ standing | pieceReturned _ _ _ standing =>
      refine held.account_quiet rfl silent ?_ rfl
      have before : state.media.residue? = none := by simp [standing, StreamFramePc.residue?]
      simp [CaptureState.inFlight, before]
  | pieceFailed available accepted rest standing =>
      refine held.account_quiet rfl silent ?_ rfl
      have before : state.media.residue? = none := by simp [standing, StreamFramePc.residue?]
      simp only [CaptureState.inFlight, before]
      split <;> rfl
  | pausedReturn standing | entered standing | mutedReturn _ _ standing | unmuted _ _ standing
  | tryFailed _ _ standing | tryLocked _ _ standing | unconnected _ _ standing
  | connected _ _ standing | resetAbsent _ _ standing | readFailed _ standing
  | mediaUnlocked _ _ standing =>
      refine held.account_quiet rfl silent ?_ rfl
      simp [CaptureState.inFlight, standing, StreamFramePc.residue?]
  | flagCommand _ standing | cleanupCommand _ _ standing | bugFlushed _ _ standing
  | locked _ _ standing | silenceUnconnected _ standing | silenceConnected _ standing
  | removeRefused standing | bugRemoved _ _ standing | finished _ standing
  | apiUnlocked _ standing =>
      refine held.account_quiet rfl ?_ ?_ rfl
      · simp [deliveredBytes, sentBytes, CaptureEvent.sentBytes]
      · simp [CaptureState.inFlight, standing, CommandPc.residue?]

theorem direct_piece {usable accepted : Bool} {sbuffer after : BoundedFifo β}
    {position later : PiecePc β} {events : List (AudioEvent β)} (one : rtpPackets = 1)
    (within : position.buffering = false)
    (moved : PieceTransition rtpPackets usable accepted sbuffer position after later events) :
    later.buffering = false ∧ bufferedBytes (events.map CaptureEvent.audio).reverse = [] := by
  cases moved with
  | direct data =>
      refine ⟨rfl, ?_⟩
      cases accepted <;> simp [bufferedBytes, sendAudio, CaptureEvent.bufferedBytes]
  | begun data many => exact absurd one many
  | _ => cases within

theorem direct_transition {setup : CaptureSetup β ρ} {label : CaptureStep β}
    {events : List (CaptureEvent β)} (held : Delivering setup.rtpPackets state history)
    (moved : CaptureTransition setup state label next events) (one : setup.rtpPackets = 1) :
    next.media.buffering = false ∧ bufferedBytes (events.reverse ++ history) = [] := by
  obtain ⟨outside, nothing⟩ := held.direct one
  rw [bufferedBytes_append, nothing, List.nil_append]
  cases moved with
  | pieceMoved available accepted position rest standing running =>
      rw [standing] at outside
      exact direct_piece one outside (pieceStep_transition running)
  | residueGone outcome work sbuffer events _ checked =>
      exact ⟨outside, (flushCheck_carries setup.rtpPackets checked).1⟩
  | residueTaken outcome work sbuffer bytes events _ checked =>
      exact ⟨outside, (flushCheck_carries setup.rtpPackets checked).1⟩
  | residueSent outcome work bytes =>
      refine ⟨outside, ?_⟩
      cases state.connected && outcome <;>
        simp [bufferedBytes, sendAudio, CaptureEvent.bufferedBytes]
  | flagStored outcome flag => cases flag <;> exact ⟨outside, rfl⟩
  | silenceSent | jsonSent =>
      refine ⟨outside, ?_⟩
      split <;> rfl
  | readFrame | pieceReturned =>
      refine ⟨?_, rfl⟩
      unfold nextPiece
      split <;> rfl
  | pieceFailed =>
      refine ⟨?_, rfl⟩
      dsimp only
      split <;> rfl
  | pausedReturn | entered | mutedReturn | unmuted | tryFailed | tryLocked | unconnected
  | connected | resetConsumed | resetAbsent | readFailed | mediaUnlocked => exact ⟨rfl, rfl⟩
  | _ => exact ⟨outside, rfl⟩

theorem link_transition {setup : CaptureSetup β ρ} {label : CaptureStep β}
    {events : List (CaptureEvent β)} (held : Delivering setup.rtpPackets state history)
    (kept : KeepsLink ⟨state, history⟩ label)
    (moved : CaptureTransition setup state label next events) :
    next.captureResetPending = false ∧ next.closeCallback = false ∧
      (state.connected = true → next.connected = true) := by
  have unreset := held.unreset
  have unanswered := held.unanswered
  cases moved with
  | dropped => exact kept.elim
  | resetConsumed => exact ⟨rfl, unanswered, id⟩
  | resetRequested waiting | resetLost waiting =>
      rw [unanswered] at waiting
      cases waiting
  | flagStored outcome flag => cases flag <;> exact ⟨unreset, unanswered, id⟩
  | opened => exact ⟨unreset, unanswered, fun _ => rfl⟩
  | _ => exact ⟨unreset, unanswered, id⟩

theorem flushesOwn_of_link {setup : CaptureSetup β ρ} {label : CaptureStep β}
    {events : List (CaptureEvent β)} (held : Delivering setup.rtpPackets state history)
    (moved : CaptureTransition setup state label next events) :
    FlushesOwn ⟨state, history⟩ label := by
  cases label with
  | media available accepted => exact fun _ _ _ => held.unreset
  | api outcome => exact fun _ _ _ => held.unreset
  | connectionOpened =>
      cases moved with
      | opened closed answered =>
          by_contra flying
          have connected := held.connected (Or.inr (Or.inl (by
            simpa [FlushesOwn, Option.isSome_iff_ne_none] using flying)))
          rw [closed] at connected
          cases connected
  | closeCallback located =>
      have waiting : state.closeCallback = true := by cases moved <;> assumption
      rw [held.unanswered] at waiting
      cases waiting
  | capture | streamFrame | command | connectionDropped => trivial

theorem movesAudio_transition {setup : CaptureSetup β ρ} {label : CaptureStep β}
    {events : List (CaptureEvent β)} (held : Delivering setup.rtpPackets state history)
    (moved : CaptureTransition setup state label next events)
    (moves : next.MovesAudio (events.reverse ++ history)) : state.connected = true := by
  have engaged {pc : StreamFramePc β} (standing : state.media = pc) (inside : pc.engaged = true) :
      state.connected = true := held.connected (Or.inl (by rw [standing]; exact inside))
  have before (media : next.media.engaged = true → state.media.engaged = true)
      (inFlight : next.inFlight.isSome = true → state.inFlight.isSome = true)
      (buffered : bufferedBytes events.reverse = []) : state.connected = true := by
    rcases moves with reading | flying | used
    · exact held.connected (Or.inl (media reading))
    · exact held.connected (Or.inr (Or.inl (inFlight flying)))
    · rw [bufferedBytes_append, buffered, List.append_nil] at used
      exact held.connected (Or.inr (Or.inr used))
  cases moved with
  | connected available accepted standing usable => exact state.connected_of_usable usable
  | residueTaken outcome work sbuffer bytes events standing checked =>
      obtain ⟨_, _, usable, _⟩ := flushCheck_some checked
      exact state.connected_of_usable usable
  | resetConsumed _ _ standing | resetAbsent _ _ standing | readFailed _ standing
  | readNothing _ _ standing | readFrame _ _ standing | pieceReturned _ _ _ standing
  | pieceFailed _ _ _ standing | pieceMoved _ _ _ _ standing => exact engaged standing rfl
  | residueGone outcome work sbuffer events standing checked =>
      refine before id ?_ (flushCheck_carries setup.rtpPackets checked).1
      have waiting : state.command.residue? = none := by simp [standing, CommandPc.residue?]
      simp [CaptureState.inFlight, waiting]
  | residueSent outcome work bytes standing =>
      exact held.connected (Or.inr (Or.inl (by
        simp [CaptureState.inFlight, standing, CommandPc.residue?])))
  | flagStored outcome flag standing =>
      refine before (by rw [storeFlag_media]; exact id) ?_ rfl
      have waiting : state.command.residue? = none := by simp [standing, CommandPc.residue?]
      simp [CaptureState.inFlight, waiting, storeFlag_media]
  | silenceSent outcome standing | jsonSent outcome _ standing =>
      refine before id ?_ (by split <;> rfl)
      simp [CaptureState.inFlight, standing, CommandPc.residue?]
  | pausedReturn standing | entered standing | mutedReturn _ _ standing | unmuted _ _ standing
  | tryFailed _ _ standing | tryLocked _ _ standing | unconnected _ _ standing
  | mediaUnlocked _ _ standing =>
      refine before (by simp [StreamFramePc.engaged]) ?_ rfl
      simp [CaptureState.inFlight, standing, StreamFramePc.residue?]
  | flagCommand _ standing | cleanupCommand _ _ standing | bugFlushed _ _ standing
  | locked _ _ standing | silenceUnconnected _ standing | silenceConnected _ standing
  | removeRefused standing | bugRemoved _ _ standing | finished _ standing
  | apiUnlocked _ standing =>
      refine before id ?_ rfl
      simp [CaptureState.inFlight, standing, CommandPc.residue?]
  | captured | noBug | opened | dropped | resetRequested | resetLost => exact before id id rfl

end

def DeliveringRun (rtpPackets : Nat) (recorded : Recorded β ρ) : Prop :=
  Delivering rtpPackets recorded.state recorded.history

theorem delivering_initial (rtpPackets capacity : Nat) (resampler : ρ) (startMuted : Bool) :
    DeliveringRun rtpPackets (.initial capacity resampler startMuted : Recorded β ρ) where
  owned := (ownedRun_initial rtpPackets capacity resampler startMuted).owned
  attached := attached_initial capacity resampler startMuted
  unreset := rfl
  unanswered := rfl
  connected := by
    simp [CaptureState.MovesAudio, Recorded.initial, CaptureState.initial, StreamFramePc.engaged,
      CaptureState.inFlight, StreamFramePc.residue?, CommandPc.residue?, bufferedBytes]
  direct := fun _ => ⟨rfl, rfl⟩
  account := by
    simp [bufferedBytes, deliveredBytes, sentBytes, Recorded.initial, CaptureState.initial,
      CaptureState.inFlight, StreamFramePc.residue?, CommandPc.residue?]

theorem delivering_step {setup : CaptureSetup β ρ} {recorded next : Recorded β ρ}
    {label : CaptureStep β} (held : DeliveringRun setup.rtpPackets recorded)
    (kept : KeepsLink recorded label) (taken : recordedStep setup recorded label = some next) :
    DeliveringRun setup.rtpPackets next := by
  have entering : label = .streamFrame → recorded.state.bugAttached = true := by
    rintro rfl
    simp only [recordedStep, Option.map_eq_some_iff] at taken
    obtain ⟨outcome, entered, _⟩ := taken
    exact captureStep_entering entered
  obtain ⟨state, events, rfl, moved⟩ := recordedStep_transition taken
  obtain ⟨unreset, unanswered, open_⟩ := link_transition held kept moved
  exact {
    owned := owned_transition held.owned (flushesOwn_of_link held moved) moved
    attached := attached_transition held.attached entering moved
    unreset := unreset
    unanswered := unanswered
    connected := fun moves => open_ (movesAudio_transition held moved moves)
    direct := direct_transition held moved
    account := account_transition held kept moved
  }

end

end OpenaiAudioStream
