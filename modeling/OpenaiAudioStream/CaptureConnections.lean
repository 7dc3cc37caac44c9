import OpenaiAudioStream.CaptureInvariants

/-!
Captured audio and the connection it was buffered under. After a drop the close
callback requests a reset of the stream buffer, which only `stream_frame` consumes,
once for each call; the flushes of a mute and of the cleanup do not look at it.
-/

namespace OpenaiAudioStream

section

variable {β ρ : Type*}

def CaptureEvent.isDrop : CaptureEvent β → Bool
  | .connectionDropped => true
  | _ => false

def drops (history : List (CaptureEvent β)) : Nat := history.countP (·.isDrop)

def residueDrops : List (CaptureEvent β) → List Nat
  | [] => []
  | .audio (.buffered bytes) :: older =>
      residueDrops older ++ List.replicate bytes.length (drops older)
  | .audio (.residueTaken _) :: _ => []
  | .audio (.residueDiscarded _) :: _ => []
  | .captureResetConsumed _ :: _ => []
  | _ :: older => residueDrops older

def takenDrops : List (CaptureEvent β) → List Nat
  | [] => []
  | .audio (.residueTaken _) :: older => residueDrops older
  | _ :: older => takenDrops older

def CaptureEvent.sent? : CaptureEvent β → Option (List β)
  | .audio (.sent bytes) => some bytes
  | _ => none

/-- A message of the stream buffer consists of bytes that were all put there since
the latest drop. -/
def OwnConnection (rtpPackets : Nat) (older : List (CaptureEvent β)) (event : CaptureEvent β) :
    Prop :=
  ∀ bytes ∈ event.sent?, rtpPackets ≠ 1 →
    takenDrops older = List.replicate bytes.length (drops older)

instance (rtpPackets : Nat) (older : List (CaptureEvent β)) (event : CaptureEvent β) :
    Decidable (OwnConnection rtpPackets older event) :=
  inferInstanceAs (Decidable (∀ bytes ∈ event.sent?, _ → _))

theorem ownConnection_unsent {rtpPackets : Nat} {older : List (CaptureEvent β)}
    {event : CaptureEvent β} (unsent : event.sent? = none) :
    OwnConnection rtpPackets older event := by
  simp [OwnConnection, unsent]

def StreamFramePc.flushing : StreamFramePc β → Bool
  | .piece (.flush _ _) _ => true
  | _ => false

def CommandPc.flushing : CommandPc β → Bool
  | .flush _ => true
  | _ => false

def StreamFramePc.residue? : StreamFramePc β → Option (List β)
  | .piece (.flushSend _ _ bytes) _ => some bytes
  | _ => none

def CommandPc.residue? : CommandPc β → Option (List β)
  | .flushSend _ bytes => some bytes
  | _ => none

def CaptureState.inFlight (state : CaptureState β ρ) : Option (List β) :=
  state.media.residue?.or state.command.residue?

def CaptureState.FlushReady (state : CaptureState β ρ) : Prop :=
  state.usable = true → state.sbuffer.inuse ≠ 0 → state.captureResetPending = false

/-- A flush takes no residue while a capture reset is pending, no connection opens
between the look of a flush at the connection and its send, and the close callback
finds the session. -/
def FlushesOwn (recorded : Recorded β ρ) : CaptureStep β → Prop
  | .media _ _ => recorded.state.media.flushing = true → recorded.state.FlushReady
  | .api _ => recorded.state.command.flushing = true → recorded.state.FlushReady
  | .connectionOpened => recorded.state.inFlight.isNone = true
  | .closeCallback located => located = true
  | _ => True

instance (state : CaptureState β ρ) : Decidable state.FlushReady :=
  inferInstanceAs (Decidable (_ → _ → _))

instance (recorded : Recorded β ρ) : ∀ label, Decidable (FlushesOwn recorded label)
  | .media _ _ => inferInstanceAs (Decidable (_ → _))
  | .api _ => inferInstanceAs (Decidable (_ → _))
  | .connectionOpened => inferInstanceAs (Decidable (_ = _))
  | .closeCallback _ => inferInstanceAs (Decidable (_ = _))
  | .capture _ => inferInstanceAs (Decidable True)
  | .streamFrame => inferInstanceAs (Decidable True)
  | .command _ => inferInstanceAs (Decidable True)
  | .connectionDropped => inferInstanceAs (Decidable True)

structure Owned (state : CaptureState β ρ) (history : List (CaptureEvent β)) : Prop where
  mutex : MutexHeld state
  stamps : (residueDrops history).length = state.sbuffer.contents.length
  fresh : state.captureResetPending = false → state.closeCallback = false →
    ∀ stamp ∈ residueDrops history, stamp = drops history
  callback : state.closeCallback = true → state.connected = false
  emptied : state.inFlight.isSome = true → state.sbuffer.contents = []
  flight : ∀ bytes, state.inFlight = some bytes →
    (takenDrops history).length = bytes.length ∧
      (state.connected = true → ∀ stamp ∈ takenDrops history, stamp = drops history)

structure SameLink (state next : CaptureState β ρ) : Prop where
  pending : next.captureResetPending = state.captureResetPending
  callback : next.closeCallback = state.closeCallback
  connected : next.connected = state.connected

theorem Owned.link {state next : CaptureState β ρ} {history : List (CaptureEvent β)}
    (held : Owned state history) (link : SameLink state next) :
    next.closeCallback = true → next.connected = false := by
  rw [link.callback, link.connected]
  exact held.callback

theorem inFlight_of_eq {state next : CaptureState β ρ}
    (media : next.media.residue? = state.media.residue?)
    (command : next.command.residue? = state.command.residue?) (bytes : List β)
    (flying : next.inFlight = some bytes) : state.inFlight = some bytes := by
  rwa [CaptureState.inFlight, media, command] at flying

def CaptureEvent.isQuiet : CaptureEvent β → Bool
  | .audio (.sent _) => true
  | .audio (.lost _) => true
  | .audio _ => false
  | .captureResetConsumed _ => false
  | .connectionDropped => false
  | _ => true

theorem stamps_quiet {newer : List (CaptureEvent β)} (history : List (CaptureEvent β))
    (quiet : ∀ event ∈ newer, event.isQuiet = true) :
    residueDrops (newer ++ history) = residueDrops history ∧
      takenDrops (newer ++ history) = takenDrops history ∧
        drops (newer ++ history) = drops history := by
  induction newer with
  | nil => exact ⟨rfl, rfl, rfl⟩
  | cons event newer ih =>
      have rest := ih fun other member => quiet other (by simp [member])
      have first := quiet event (by simp)
      cases event with
      | audio inner => cases inner <;> first | exact rest | cases first
      | captureResetConsumed => cases first
      | connectionDropped => cases first
      | _ => exact rest

theorem Owned.of_quiet_step {state next : CaptureState β ρ} {newer history : List (CaptureEvent β)}
    (held : Owned state history) (mutex : MutexHeld next) (link : SameLink state next)
    (contents : next.sbuffer.contents = state.sbuffer.contents)
    (inFlight : ∀ bytes, next.inFlight = some bytes → state.inFlight = some bytes)
    (quiet : ∀ event ∈ newer, event.isQuiet = true) : Owned next (newer ++ history) := by
  obtain ⟨sameResidue, sameTaken, sameDrops⟩ := stamps_quiet history quiet
  exact {
    mutex := mutex
    stamps := by rw [sameResidue, contents]; exact held.stamps
    fresh := by
      rw [link.pending, link.callback, sameResidue, sameDrops]
      exact held.fresh
    callback := held.link link
    emptied := by
      intro flying
      obtain ⟨bytes, same⟩ := Option.isSome_iff_exists.mp flying
      rw [contents]
      exact held.emptied (by simp [inFlight bytes same])
    flight := by
      rw [link.connected, sameTaken, sameDrops]
      exact fun bytes same => held.flight bytes (inFlight bytes same)
  }

theorem Owned.flushed {state next : CaptureState β ρ} {history : List (CaptureEvent β)}
    {after : BoundedFifo β} {events : List (AudioEvent β)} (held : Owned state history)
    (mutex : MutexHeld next) (link : SameLink state next)
    (checked : flushCheck state.usable state.sbuffer = (after, none, events))
    (contents : next.sbuffer = after) (inFlight : next.inFlight = state.inFlight) :
    Owned next ((events.map CaptureEvent.audio).reverse ++ history) := by
  obtain ⟨empty, ⟨nothing, rfl⟩ | ⟨_, rfl⟩⟩ := flushCheck_none checked
  · refine held.of_quiet_step mutex link ?_ (by simp [inFlight]) (by simp)
    rw [contents, empty, nothing]
  · exact {
      mutex := mutex
      stamps := by simp [residueDrops, contents, empty]
      fresh := by simp [residueDrops]
      callback := held.link link
      emptied := by simp [contents, empty]
      flight := by
        rw [inFlight, link.connected]
        exact held.flight
    }

theorem Owned.taken {state next : CaptureState β ρ} {history : List (CaptureEvent β)}
    {after : BoundedFifo β} {bytes : List β} {events : List (AudioEvent β)}
    (held : Owned state history) (mutex : MutexHeld next) (link : SameLink state next)
    (checked : flushCheck state.usable state.sbuffer = (after, some bytes, events))
    (contents : next.sbuffer = after) (inFlight : next.inFlight = some bytes)
    (ready : state.FlushReady) :
    Owned next ((events.map CaptureEvent.audio).reverse ++ history) := by
  obtain ⟨empty, rfl, usable, used, rfl⟩ := flushCheck_some checked
  have pending := ready usable (by simpa [BoundedFifo.inuse] using used)
  have connected := state.connected_of_usable usable
  have answered : state.closeCallback = false := by
    by_contra waiting
    have closed := held.callback (by simpa using waiting)
    simp [connected] at closed
  exact {
    mutex := mutex
    stamps := by simp [residueDrops, contents, empty]
    fresh := by simp [residueDrops]
    callback := held.link link
    emptied := by simp [contents, empty]
    flight := by
      intro other same
      rw [inFlight] at same
      cases same
      exact ⟨held.stamps, fun _ => held.fresh pending answered⟩
  }

theorem Owned.ownConnection {state : CaptureState β ρ} {history : List (CaptureEvent β)}
    {bytes : List β} {rtpPackets : Nat} {outcome : Bool} (held : Owned state history)
    (inFlight : state.inFlight = some bytes) :
    OwnConnection rtpPackets history (.audio (sendAudio (state.connected && outcome) bytes)) := by
  obtain ⟨size, own⟩ := held.flight bytes inFlight
  cases accepted : (state.connected && outcome) with
  | false => exact ownConnection_unsent rfl
  | true =>
      rintro _ ⟨⟩ _
      simp only [Bool.and_eq_true] at accepted
      exact List.eq_replicate_iff.mpr ⟨size, own accepted.1⟩

theorem StreamFramePc.locked_of_residue {media : StreamFramePc β} {bytes : List β}
    (flying : media.residue? = some bytes) : media.locked = true := by
  cases media <;> first | rfl | simp [StreamFramePc.residue?] at flying

theorem CommandPc.locked_of_residue {command : CommandPc β} {bytes : List β}
    (flying : command.residue? = some bytes) : command.locked = true := by
  cases command <;> first | rfl | simp [CommandPc.residue?] at flying

theorem MutexHeld.command_residue {state : CaptureState β ρ} (held : MutexHeld state)
    (inside : state.media.locked = true) : state.command.residue? = none := by
  cases flying : state.command.residue? with
  | none => rfl
  | some bytes =>
      have outside := held.exclusive (CommandPc.locked_of_residue flying)
      simp [inside] at outside

theorem MutexHeld.media_residue {state : CaptureState β ρ} (held : MutexHeld state)
    (inside : state.command.locked = true) : state.media.residue? = none := by
  cases flying : state.media.residue? with
  | none => rfl
  | some bytes =>
      have outside := held.exclusive inside
      simp [StreamFramePc.locked_of_residue flying] at outside

@[simp] theorem nextPiece_residue (pieces : List (List β)) :
    (nextPiece pieces).residue? = none := by
  cases pieces <;> rfl

@[simp] theorem afterFlush_residue (sbuffer : BoundedFifo β) (atHead : Bool) (data : List β)
    (rest : List (List β)) :
    (StreamFramePc.piece (afterFlush sbuffer atHead data) rest).residue? = none := by
  unfold afterFlush
  split <;> rfl

@[simp] theorem afterResidue_residue (work : LockedWork) :
    (afterResidue work : CommandPc β).residue? = none := by
  cases work with
  | userMute => rfl
  | cleanup text channelIsClosing => cases text <;> rfl

@[simp] theorem storeFlag_residue (state : CaptureState β ρ) (command : FlagCommand) :
    (storeFlag state command).command.residue? = none := by
  cases command with
  | setUserMute mute =>
      simp only [storeFlag]
      split <;> rfl
  | _ => rfl

theorem owned_piece {setup : CaptureSetup β ρ} {state : CaptureState β ρ} {accepted : Bool}
    {history : List (CaptureEvent β)} {position later : PiecePc β} {rest : List (List β)}
    {after : BoundedFifo β} {events : List (AudioEvent β)} (held : Owned state history)
    (mutex : MutexHeld { state with sbuffer := after, media := .piece later rest })
    (standing : state.media = .piece position rest)
    (ready : state.media.flushing = true → state.FlushReady)
    (moved : PieceTransition setup.rtpPackets state.usable (state.connected && accepted)
      state.sbuffer position after later events) :
    Owned { state with sbuffer := after, media := .piece later rest }
      ((events.map CaptureEvent.audio).reverse ++ history) := by
  have noCommand := held.mutex.command_residue (by simp [standing, StreamFramePc.locked])
  have link : SameLink state { state with sbuffer := after, media := .piece later rest } :=
    ⟨rfl, rfl, rfl⟩
  cases moved with
  | direct data =>
      refine held.of_quiet_step mutex link rfl ?_ ?_
      · simp [CaptureState.inFlight, StreamFramePc.residue?, noCommand]
      · cases state.connected && accepted <;> simp [sendAudio, CaptureEvent.isQuiet]
  | begun | ended | full | writeFailed =>
      refine held.of_quiet_step mutex link rfl ?_ (by simp)
      simp [CaptureState.inFlight, StreamFramePc.residue?, noCommand]
  | wrote data count written later contents continued =>
      have landed : StreamFramePc.residue? (.piece later rest) = none := by
        rcases continued with rfl | rfl <;> rfl
      have grounded : CaptureState.inFlight
          { state with sbuffer := after, media := .piece later rest } = none := by
        simp [CaptureState.inFlight, landed, noCommand]
      exact {
        mutex := mutex
        stamps := by
          have stamps := held.stamps
          simp only [List.map_cons, List.map_nil, List.reverse_cons, List.reverse_nil,
            List.nil_append, List.cons_append, residueDrops, List.length_append,
            List.length_replicate, contents]
          omega
        fresh := by
          intro pending answered stamp member
          have same : drops (.audio (.buffered (data.take count)) :: history) = drops history := by
            simp [drops, CaptureEvent.isDrop]
          simp only [List.map_cons, List.map_nil, List.reverse_cons, List.reverse_nil,
            List.nil_append, List.cons_append, residueDrops, List.mem_append, same] at member ⊢
          rcases member with old | new
          · exact held.fresh pending answered stamp old
          · exact (List.mem_replicate.mp new).2
        callback := held.callback
        emptied := by rw [grounded]; simp
        flight := by rw [grounded]; simp
      }
  | flushed atHead data after events checked =>
      refine held.flushed mutex link checked rfl ?_
      have before : state.media.residue? = none := by simp [standing, StreamFramePc.residue?]
      simp [CaptureState.inFlight, before]
  | taken atHead data after bytes events checked =>
      refine held.taken mutex link checked rfl ?_
        (ready (by simp [standing, StreamFramePc.flushing]))
      simp [CaptureState.inFlight, StreamFramePc.residue?]
  | flushSent atHead data bytes =>
      have flying : state.inFlight = some bytes := by
        simp [CaptureState.inFlight, standing, StreamFramePc.residue?]
      refine held.of_quiet_step mutex link ?_ ?_ ?_
      · exact (held.emptied (by simp [flying])).symm
      · simp [CaptureState.inFlight, noCommand]
      · cases state.connected && accepted <;> simp [sendAudio, CaptureEvent.isQuiet]

theorem owned_transition {setup : CaptureSetup β ρ} {state next : CaptureState β ρ}
    {label : CaptureStep β} {events history : List (CaptureEvent β)} (held : Owned state history)
    (own : FlushesOwn ⟨state, history⟩ label)
    (moved : CaptureTransition setup state label next events) :
    Owned next (events.reverse ++ history) := by
  have mutex := mutexHeld_transition held.mutex moved
  cases moved with
  | pieceMoved available accepted position rest standing running =>
      exact owned_piece held mutex standing own (pieceStep_transition running)
  | residueGone outcome work sbuffer events standing checked =>
      refine held.flushed mutex ⟨rfl, rfl, rfl⟩ checked rfl ?_
      have before : state.command.residue? = none := by simp [standing, CommandPc.residue?]
      simp [CaptureState.inFlight, before]
  | residueTaken outcome work sbuffer bytes events standing checked =>
      have noMedia := held.mutex.media_residue (by simp [standing, CommandPc.locked])
      refine held.taken mutex ⟨rfl, rfl, rfl⟩ checked rfl ?_
        (own (by simp [standing, CommandPc.flushing]))
      simp [CaptureState.inFlight, noMedia, CommandPc.residue?]
  | residueSent outcome work bytes standing =>
      have noMedia := held.mutex.media_residue (by simp [standing, CommandPc.locked])
      have flying : state.inFlight = some bytes := by
        simp [CaptureState.inFlight, noMedia, standing, CommandPc.residue?]
      refine held.of_quiet_step mutex ⟨rfl, rfl, rfl⟩ ?_ ?_ ?_
      · exact (held.emptied (by simp [flying])).symm
      · simp [CaptureState.inFlight, noMedia]
      · cases state.connected && outcome <;> simp [sendAudio, CaptureEvent.isQuiet]
  | resetConsumed available accepted standing =>
      have noCommand := held.mutex.command_residue (by simp [standing, StreamFramePc.locked])
      exact {
        mutex := mutex
        stamps := by simp [residueDrops]
        fresh := by simp [residueDrops]
        callback := held.callback
        emptied := by simp
        flight := by simp [CaptureState.inFlight, StreamFramePc.residue?, noCommand]
      }
  | opened closed answered =>
      have grounded : state.inFlight = none := by simpa [FlushesOwn] using own
      exact {
        mutex := mutex
        stamps := held.stamps
        fresh := held.fresh
        callback := by simp [answered]
        emptied := by simpa [CaptureState.inFlight] using held.emptied
        flight := by
          intro bytes flying
          have flies : state.inFlight = some bytes := flying
          simp [grounded] at flies
      }
  | dropped connected =>
      exact {
        mutex := mutex
        stamps := held.stamps
        fresh := by simp
        callback := by simp
        emptied := held.emptied
        flight := fun bytes flying => ⟨(held.flight bytes flying).1, by simp⟩
      }
  | resetRequested waiting =>
      exact {
        mutex := mutex
        stamps := held.stamps
        fresh := by simp
        callback := by simp
        emptied := held.emptied
        flight := held.flight
      }
  | resetLost => simp [FlushesOwn] at own
  | flagStored outcome command standing =>
      refine held.of_quiet_step mutex ?_ ?_ ?_ (by simp [CaptureEvent.isQuiet])
      · cases command <;> exact ⟨rfl, rfl, rfl⟩
      · cases command <;> rfl
      · refine inFlight_of_eq (by cases command <;> rfl) ?_
        rw [standing, storeFlag_residue]
        rfl
  | silenceSent outcome standing | jsonSent outcome _ standing =>
      refine held.of_quiet_step mutex ⟨rfl, rfl, rfl⟩ rfl ?_ ?_
      · exact inFlight_of_eq rfl (by rw [standing]; rfl)
      · split <;> simp [CaptureEvent.isQuiet]
  | pieceFailed available accepted rest standing =>
      refine held.of_quiet_step mutex ⟨rfl, rfl, rfl⟩ rfl (inFlight_of_eq ?_ rfl) (by simp)
      rw [standing]
      split <;> rfl
  | pausedReturn standing | entered standing | mutedReturn _ _ standing | unmuted _ _ standing
  | tryFailed _ _ standing | tryLocked _ _ standing | unconnected _ _ standing
  | connected _ _ standing | resetAbsent _ _ standing | readFailed _ standing
  | mediaUnlocked _ _ standing =>
      exact held.of_quiet_step mutex ⟨rfl, rfl, rfl⟩ rfl
        (inFlight_of_eq (by simp [standing, StreamFramePc.residue?]) rfl) (by simp)
  | readFrame _ _ standing | pieceReturned _ _ _ standing =>
      exact held.of_quiet_step mutex ⟨rfl, rfl, rfl⟩ rfl
        (inFlight_of_eq (by rw [standing, nextPiece_residue]; rfl) rfl) (by simp)
  | flagCommand _ standing | cleanupCommand _ _ standing | bugFlushed _ _ standing
  | locked _ _ standing | silenceUnconnected _ standing | silenceConnected _ standing
  | removeRefused standing | bugRemoved _ _ standing | finished _ standing
  | apiUnlocked _ standing =>
      exact held.of_quiet_step mutex ⟨rfl, rfl, rfl⟩ rfl
        (inFlight_of_eq rfl (by simp [standing, CommandPc.residue?]))
        (by simp [CaptureEvent.isQuiet])
  | captured | readNothing | noBug =>
      exact held.of_quiet_step mutex ⟨rfl, rfl, rfl⟩ rfl (fun _ same => same)
        (by simp [CaptureEvent.isQuiet])

theorem ownConnection_piece {setup : CaptureSetup β ρ} {state : CaptureState β ρ} {accepted : Bool}
    {history : List (CaptureEvent β)} {position later : PiecePc β} {rest : List (List β)}
    {after : BoundedFifo β} {events : List (AudioEvent β)} (held : Owned state history)
    (clean : Runs.EveryEvent (OwnConnection setup.rtpPackets) history)
    (standing : state.media = .piece position rest)
    (moved : PieceTransition setup.rtpPackets state.usable (state.connected && accepted)
      state.sbuffer position after later events) :
    Runs.EveryEvent (OwnConnection setup.rtpPackets)
      ((events.map CaptureEvent.audio).reverse ++ history) := by
  cases moved with
  | direct data one =>
      refine ⟨?_, clean⟩
      cases state.connected && accepted with
      | true => exact fun _ _ many => absurd one many
      | false => exact ownConnection_unsent rfl
  | wrote => exact ⟨ownConnection_unsent rfl, clean⟩
  | flushed atHead data after events checked =>
      obtain ⟨_, ⟨_, rfl⟩ | ⟨_, rfl⟩⟩ := flushCheck_none checked
      · exact clean
      · exact ⟨ownConnection_unsent rfl, clean⟩
  | taken atHead data after bytes events checked =>
      obtain ⟨_, _, _, _, rfl⟩ := flushCheck_some checked
      exact ⟨ownConnection_unsent rfl, clean⟩
  | flushSent atHead data bytes =>
      have flying : state.inFlight = some bytes := by
        simp [CaptureState.inFlight, standing, StreamFramePc.residue?]
      exact ⟨held.ownConnection flying, clean⟩
  | _ => exact clean

theorem ownConnection_transition {setup : CaptureSetup β ρ} {state next : CaptureState β ρ}
    {label : CaptureStep β} {events history : List (CaptureEvent β)} (held : Owned state history)
    (clean : Runs.EveryEvent (OwnConnection setup.rtpPackets) history)
    (moved : CaptureTransition setup state label next events) :
    Runs.EveryEvent (OwnConnection setup.rtpPackets) (events.reverse ++ history) := by
  cases moved with
  | pieceMoved available accepted position rest standing running =>
      exact ownConnection_piece held clean standing (pieceStep_transition running)
  | residueGone outcome work sbuffer events standing checked =>
      obtain ⟨_, ⟨_, rfl⟩ | ⟨_, rfl⟩⟩ := flushCheck_none checked
      · exact clean
      · exact ⟨ownConnection_unsent rfl, clean⟩
  | residueTaken outcome work sbuffer bytes events standing checked =>
      obtain ⟨_, _, _, _, rfl⟩ := flushCheck_some checked
      exact ⟨ownConnection_unsent rfl, clean⟩
  | residueSent outcome work bytes standing =>
      have noMedia := held.mutex.media_residue (by simp [standing, CommandPc.locked])
      have flying : state.inFlight = some bytes := by
        simp [CaptureState.inFlight, noMedia, standing, CommandPc.residue?]
      exact ⟨held.ownConnection flying, clean⟩
  | silenceSent | jsonSent =>
      split
      · exact ⟨ownConnection_unsent rfl, clean⟩
      · exact clean
  | captured | bugFlushed | flagStored | resetConsumed | opened | dropped | resetRequested
  | bugRemoved => exact ⟨ownConnection_unsent rfl, clean⟩
  | _ => exact clean

structure OwnedRun (rtpPackets : Nat) (recorded : Recorded β ρ) : Prop where
  owned : Owned recorded.state recorded.history
  clean : Runs.EveryEvent (OwnConnection rtpPackets) recorded.history

theorem ownedRun_initial (rtpPackets capacity : Nat) (resampler : ρ) (startMuted : Bool) :
    OwnedRun rtpPackets (.initial capacity resampler startMuted : Recorded β ρ) where
  owned := {
    mutex := mutexHeld_initial capacity resampler startMuted
    stamps := rfl
    fresh := by simp [Recorded.initial, residueDrops]
    callback := by simp [Recorded.initial, CaptureState.initial]
    emptied := fun _ => rfl
    flight := by
      intro bytes flying
      cases flying
  }
  clean := trivial

theorem ownedRun_step {setup : CaptureSetup β ρ} {recorded next : Recorded β ρ}
    {label : CaptureStep β} (held : OwnedRun setup.rtpPackets recorded)
    (own : FlushesOwn recorded label) (taken : recordedStep setup recorded label = some next) :
    OwnedRun setup.rtpPackets next := by
  obtain ⟨state, events, rfl, moved⟩ := recordedStep_transition taken
  exact ⟨owned_transition held.owned own moved,
    ownConnection_transition held.owned held.clean moved⟩

/-- Captured audio stays on its connection when no flush takes residue while a reset
is pending and no connection opens under a flush. -/
theorem residue_stays_on_connection {setup : CaptureSetup β ρ} {capacity : Nat} {resampler : ρ}
    {startMuted : Bool} {labels : List (CaptureStep β)} {recorded : Recorded β ρ}
    (reached : Runs.run (recordedStep setup) (.initial capacity resampler startMuted) labels =
      some recorded)
    (own : Runs.Along (recordedStep setup) FlushesOwn
      (.initial capacity resampler startMuted) labels) :
    Runs.EveryEvent (OwnConnection setup.rtpPackets) recorded.history :=
  (Runs.along_invariant (fun _ _ _ held met taken => ownedRun_step held met taken)
    (ownedRun_initial setup.rtpPackets capacity resampler startMuted) own reached).clean

def pairedSetup : CaptureSetup Nat Unit where
  rtpPackets := 2
  resample := none

/-- One captured sample is buffered under the first connection, which then drops
and reopens; `between` runs before the user is muted. -/
def reconnectSchedule (between : List (CaptureStep Nat)) : List (CaptureStep Nat) :=
  [.connectionOpened, .capture [1, 2], .streamFrame, .media none true, .media none true,
    .media none true, .media none true, .media (some 2) true, .media none true, .media none true,
    .media none true, .media none true, .media none true, .media none true, .connectionDropped,
    .closeCallback true, .connectionOpened] ++ between ++
  [.command (.flag (.setUserMute true)), .api true, .api true, .api true, .api true, .api true]

def emptyCall : List (CaptureStep Nat) :=
  [.streamFrame, .media none true, .media none true, .media none true, .media none true,
    .media none true, .media none true]

theorem residue_stays_on_connection_reset :
    ∃ recorded, Runs.run (recordedStep pairedSetup) (.initial 640 () false)
        (reconnectSchedule emptyCall) = some recorded ∧
      Runs.EveryEvent (OwnConnection 2) recorded.history := by
  obtain ⟨recorded, reached⟩ := Option.isSome_iff_exists.mp
    (by decide : (Runs.run (recordedStep pairedSetup) (.initial 640 () false)
      (reconnectSchedule emptyCall)).isSome = true)
  exact ⟨recorded, reached, residue_stays_on_connection reached (by decide)⟩

/-- The flush of a mute right after the reconnect sends what was buffered before the drop. -/
theorem residue_sent_after_reconnect :
    ∃ recorded, Runs.run (recordedStep pairedSetup) (.initial 640 () false)
        (reconnectSchedule []) = some recorded ∧
      .audio (.sent [1, 2]) ∈ recorded.history ∧
      ¬Runs.EveryEvent (OwnConnection 2) recorded.history :=
  Runs.exists_run (by decide)

end

end OpenaiAudioStream
