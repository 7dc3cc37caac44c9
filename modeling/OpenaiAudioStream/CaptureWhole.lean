import OpenaiAudioStream.CaptureOrder
import OpenaiAudioStream.CaptureProgress

/-!
The exact account of the caller's audio while the connection stays open: what was sent and
what stands between the bug and the server are together the frames that were read, and these
with what waits in the bug are all that was captured.
-/

namespace OpenaiAudioStream

section

variable {β ρ : Type*}

def CommandPc.flushesBug : CommandPc β → Bool
  | .flushBug _ => true
  | _ => false

/-- A command flushes the bug only where no audio waits in it. -/
def SparesBug (recorded : Recorded β ρ) : CaptureStep β → Prop
  | .api _ => recorded.state.command.flushesBug = true → recorded.state.bug = []
  | _ => True

instance [DecidableEq β] (recorded : Recorded β ρ) : ∀ label, Decidable (SparesBug recorded label)
  | .api _ => inferInstanceAs (Decidable (_ → _))
  | .media _ _ => inferInstanceAs (Decidable True)
  | .capture _ => inferInstanceAs (Decidable True)
  | .streamFrame => inferInstanceAs (Decidable True)
  | .command _ => inferInstanceAs (Decidable True)
  | .connectionOpened => inferInstanceAs (Decidable True)
  | .connectionDropped => inferInstanceAs (Decidable True)
  | .closeCallback _ => inferInstanceAs (Decidable True)

def CaptureEvent.takenBytes (rtpPackets : Nat) : CaptureEvent β → List β
  | .audio event => takenOver rtpPackets event
  | _ => []

/-- What `send_or_buffer_audio` has put into the stream buffer, or sent without it. -/
def takenBytes (rtpPackets : Nat) (history : List (CaptureEvent β)) : List β :=
  Runs.gathered (CaptureEvent.takenBytes rtpPackets) history

theorem takenBytes_append (rtpPackets : Nat) (newer older : List (CaptureEvent β)) :
    takenBytes rtpPackets (newer ++ older) =
      takenBytes rtpPackets older ++ takenBytes rtpPackets newer :=
  Runs.gathered_append (CaptureEvent.takenBytes rtpPackets) newer older

theorem takenBytes_audio (rtpPackets : Nat) (events : List (AudioEvent β)) :
    takenBytes rtpPackets (events.map CaptureEvent.audio).reverse =
      events.flatMap (takenOver rtpPackets) := by
  rw [takenBytes, Runs.gathered_reverse, List.flatMap_map]
  rfl

def CaptureEvent.isLost : CaptureEvent β → Bool
  | .audio (.lost _) => true
  | _ => false

def FlushedWhenFull (state : CaptureState β ρ) : Prop :=
  state.sbuffer.freespace = 0 →
    ∃ atHead data rest, state.media = .piece (.flush atHead data) rest

def FramesAccounted (setup : CaptureSetup β ρ) (resampler : ρ) (state : CaptureState β ρ)
    (history : List (CaptureEvent β)) : Prop :=
  ∃ frames, (passOn setup resampler frames).1 = state.resampler ∧
    frames.flatten ++ state.bug = capturedBytes history ∧
    takenBytes setup.rtpPackets history ++ state.media.unbuffered =
      (passOn setup resampler frames).2

structure Whole (setup : CaptureSetup β ρ) (resampler : ρ) (capacity : Nat)
    (state : CaptureState β ρ) (history : List (CaptureEvent β)) : Prop where
  delivering : Delivering setup.rtpPackets state history
  working : Working setup.rtpPackets state
  direct : setup.rtpPackets = 1 → Unaggregated state
  capacity : state.sbuffer.capacity = capacity
  full : FlushedWhenFull state
  accounted : FramesAccounted setup resampler state history
  kept : ∀ event ∈ history, event.isLost = false

section

variable {setup : CaptureSetup β ρ} {resampler : ρ} {state next : CaptureState β ρ}
  {history newer : List (CaptureEvent β)} {label : CaptureStep β}
  {events : List (CaptureEvent β)}

theorem FramesAccounted.quiet (held : FramesAccounted setup resampler state history)
    (same : next.resampler = state.resampler) (bug : next.bug = state.bug)
    (captured : capturedBytes newer = [])
    (taken : takenBytes setup.rtpPackets newer ++ next.media.unbuffered = state.media.unbuffered) :
    FramesAccounted setup resampler next (newer ++ history) := by
  obtain ⟨frames, reached, whole, passed⟩ := held
  refine ⟨frames, reached.trans same.symm, ?_, ?_⟩
  · rw [capturedBytes_append, captured, List.append_nil, bug, whole]
  · rw [takenBytes_append, List.append_assoc, taken, passed]

theorem capturedBytes_audio (events : List (AudioEvent β)) :
    capturedBytes (events.map CaptureEvent.audio).reverse = [] := by
  rw [capturedBytes, Runs.gathered_reverse, List.flatMap_map]
  exact List.flatMap_eq_nil_iff.2 fun _ _ => rfl

theorem flushCheck_taken (rtpPackets : Nat) {usable : Bool} {sbuffer after : BoundedFifo β}
    {taken : Option (List β)} {events : List (AudioEvent β)}
    (checked : flushCheck usable sbuffer = (after, taken, events)) :
    takenBytes rtpPackets (events.map CaptureEvent.audio).reverse = [] := by
  rw [takenBytes_audio]
  obtain ⟨_, _, ⟨_, _, rfl⟩ | ⟨_, _, rfl⟩ | ⟨_, _, _, rfl⟩⟩ := flushCheck_cases checked <;>
    simp [takenOver]

theorem accounted_transition (held : FramesAccounted setup resampler state history)
    (working : Working setup.rtpPackets state)
    (direct : setup.rtpPackets = 1 → Unaggregated state) (spares : SparesBug ⟨state, history⟩ label)
    (moved : CaptureTransition setup state label next events) :
    FramesAccounted setup resampler next (events.reverse ++ history) := by
  cases moved with
  | captured data attached =>
      obtain ⟨frames, reached, whole, passed⟩ := held
      refine ⟨frames, reached, ?_, ?_⟩
      · rw [capturedBytes_append, ← whole]
        simp [capturedBytes, CaptureEvent.capturedBytes]
      · simpa [takenBytes, CaptureEvent.takenBytes] using passed
  | readFrame count accepted standing nonempty =>
      have nothing : state.media.unbuffered = [] := by rw [standing]; rfl
      obtain ⟨frames, reached, whole, passed⟩ := held
      refine ⟨frames ++ [state.bug.take count], ?_, ?_, ?_⟩
      · simp only [passOn_append, reached]
      · simpa using whole
      · simp only [passOn_append, reached, ← passed, nothing]
        simp
  | pieceMoved available accepted position rest standing running =>
      have whole := (@pieceStep_moved _ _ state.usable (state.connected && accepted) _ _
        working.room (working.possible _ _ standing) running).whole
      refine held.quiet rfl rfl (capturedBytes_audio _) ?_
      rw [takenBytes_audio, standing]
      simp only [StreamFramePc.unbuffered, ← List.append_assoc, whole]
  | pieceReturned available accepted rest standing =>
      refine held.quiet rfl rfl rfl ?_
      have left : state.media.unbuffered = rest.flatten := by rw [standing]; rfl
      rw [left]
      exact nextPiece_unbuffered rest
  | pieceFailed available accepted rest standing => cases working.possible _ _ standing
  | bugFlushed outcome command standing =>
      have empty := spares (by rw [standing]; rfl)
      exact held.quiet rfl empty.symm rfl rfl
  | flagStored outcome command standing =>
      cases command <;> exact held.quiet rfl rfl rfl rfl
  | residueGone outcome work sbuffer events standing checked =>
      refine held.quiet rfl rfl (capturedBytes_audio _) ?_
      rw [flushCheck_taken setup.rtpPackets checked, List.nil_append]
  | residueTaken outcome work sbuffer bytes events standing checked =>
      refine held.quiet rfl rfl (capturedBytes_audio _) ?_
      rw [flushCheck_taken setup.rtpPackets checked, List.nil_append]
  | residueSent outcome work bytes standing =>
      have many : setup.rtpPackets ≠ 1 := by
        intro one
        have none := (direct one).command
        rw [standing] at none
        cases none
      refine held.quiet rfl rfl ?_ ?_
      · cases state.connected && outcome <;> rfl
      · cases state.connected && outcome <;>
          simp [takenBytes, CaptureEvent.takenBytes, sendAudio, takenOver, many]
  | silenceSent outcome standing | jsonSent outcome channelIsClosing standing =>
      refine held.quiet rfl rfl ?_ ?_
      · split <;> rfl
      · split <;> rfl
  | resetConsumed _ _ standing | pausedReturn standing | entered standing
  | mutedReturn _ _ standing | unmuted _ _ standing | tryFailed _ _ standing
  | tryLocked _ _ standing | unconnected _ _ standing | connected _ _ standing
  | resetAbsent _ _ standing | readFailed _ standing | mediaUnlocked _ _ standing =>
      refine held.quiet rfl rfl rfl ?_
      rw [standing]
      rfl
  | _ => exact held.quiet rfl rfl rfl rfl

/-! No send fails, and no message waits in the buffer. -/

theorem flushCheck_unlost {usable : Bool} {sbuffer after : BoundedFifo β}
    {taken : Option (List β)} {events : List (AudioEvent β)}
    (checked : flushCheck usable sbuffer = (after, taken, events)) :
    ∀ event ∈ events.map CaptureEvent.audio, event.isLost = false := by
  obtain ⟨_, _, ⟨_, _, rfl⟩ | ⟨_, _, rfl⟩ | ⟨_, _, _, rfl⟩⟩ := flushCheck_cases checked <;>
    simp [CaptureEvent.isLost]

theorem unlost_piece {rtpPackets : Nat} {usable : Bool} {sbuffer after : BoundedFifo β}
    {position later : PiecePc β} {events : List (AudioEvent β)}
    (moved : PieceTransition rtpPackets usable true sbuffer position after later events) :
    ∀ event ∈ events.map CaptureEvent.audio, event.isLost = false := by
  cases moved with
  | flushed _ _ _ _ checked => exact flushCheck_unlost checked
  | taken _ _ _ _ _ checked => exact flushCheck_unlost checked
  | _ => simp [CaptureEvent.isLost, sendAudio]

theorem unlost_transition (held : Delivering setup.rtpPackets state history)
    (link : KeepsLink ⟨state, history⟩ label)
    (moved : CaptureTransition setup state label next events) :
    ∀ event ∈ events, event.isLost = false := by
  cases moved with
  | pieceMoved available accepted position rest standing running =>
      have connected := held.connected (.inl (by rw [standing]; rfl))
      have accepts : (state.connected && accepted) = true := by
        rw [connected, show accepted = true from link]
        rfl
      have moved := @pieceStep_transition _ setup.rtpPackets state.usable
        (state.connected && accepted) state.sbuffer position running
      rw [accepts] at moved ⊢
      exact unlost_piece moved
  | residueGone outcome work sbuffer events standing checked => exact flushCheck_unlost checked
  | residueTaken outcome work sbuffer bytes events standing checked =>
      exact flushCheck_unlost checked
  | residueSent outcome work bytes standing =>
      have connected := held.connected (.inr (.inl (by
        simp [CaptureState.inFlight, standing, CommandPc.residue?])))
      have accepts : outcome = true := link (by
        show state.command.uploads = true
        rw [standing]
        rfl)
      simp [connected, accepts, sendAudio, CaptureEvent.isLost]
  | silenceSent | jsonSent => split <;> simp [CaptureEvent.isLost]
  | _ => simp [CaptureEvent.isLost]

theorem FlushedWhenFull.free (held : FlushedWhenFull state)
    (outside : ∀ atHead data rest, state.media ≠ .piece (.flush atHead data) rest) :
    state.sbuffer.freespace ≠ 0 := by
  intro full
  obtain ⟨atHead, data, rest, flushing⟩ := held full
  exact outside atHead data rest flushing

theorem emptied_free {sbuffer after : BoundedFifo β} (room : 0 < sbuffer.capacity)
    (capacity : after.capacity = sbuffer.capacity) (empty : after.contents = []) :
    after.freespace ≠ 0 := by
  simp only [BoundedFifo.freespace, empty, capacity, List.length_nil]
  omega

theorem full_piece {rtpPackets : Nat} {usable accepted : Bool} {rest : List (List β)}
    {position : PiecePc β} (room : 0 < state.sbuffer.capacity) (held : FlushedWhenFull state)
    (standing : state.media = .piece position rest) :
    let moved := pieceStep rtpPackets usable accepted state.sbuffer position
    FlushedWhenFull { state with sbuffer := moved.1, media := .piece moved.2.1 rest } := by
  intro moved filled
  cases position with
  | start data =>
      have free := held.free (fun _ _ _ flushing => by rw [standing] at flushing; cases flushing)
      simp only [moved, pieceStep] at filled
      split at filled <;> exact absurd filled free
  | loop data =>
      have free := held.free (fun _ _ _ flushing => by rw [standing] at flushing; cases flushing)
      simp only [moved, pieceStep, if_neg free] at filled ⊢
      split
      · next empty =>
        rw [if_pos empty] at filled
        exact absurd filled free
      · next some =>
        rw [if_neg some] at filled
        unfold writePiece at filled ⊢
        dsimp only at filled ⊢
        split
        · next failed =>
          rw [if_pos failed] at filled
          exact absurd filled free
        · next wrote =>
          rw [if_neg wrote] at filled
          rw [if_pos filled]
          exact ⟨false, _, rest, rfl⟩
  | flush atHead data =>
      simp only [moved, pieceStep] at filled
      split at filled
      · next after events checked =>
        obtain ⟨empty, capacity, -⟩ := flushCheck_cases checked
        exact absurd filled (emptied_free room capacity empty)
      · next after bytes events checked =>
        obtain ⟨empty, capacity, -⟩ := flushCheck_cases checked
        exact absurd filled (emptied_free room capacity empty)
  | flushSend atHead data bytes => exact absurd filled (emptied_free room rfl rfl)
  | returned success =>
      have free := held.free (fun _ _ _ flushing => by rw [standing] at flushing; cases flushing)
      exact absurd filled free

theorem full_transition (working : Working setup.rtpPackets state) (held : FlushedWhenFull state)
    (moved : CaptureTransition setup state label next events) : FlushedWhenFull next := by
  have room := working.room
  -- the media thread leaves a flush only by the step of `send_or_buffer_audio`
  have leaves {pc : StreamFramePc β} (standing : state.media = pc)
      (other : ∀ atHead data rest, pc ≠ .piece (.flush atHead data) rest) :
      state.sbuffer.freespace ≠ 0 :=
    held.free fun atHead data rest flushing => other atHead data rest (standing ▸ flushing)
  cases moved with
  | pieceMoved available accepted position rest standing running =>
      exact full_piece room held standing
  | pausedReturn standing | entered standing | mutedReturn _ _ standing | unmuted _ _ standing
  | tryFailed _ _ standing | tryLocked _ _ standing | unconnected _ _ standing
  | connected _ _ standing | resetAbsent _ _ standing | readFailed _ standing
  | readFrame _ _ standing | pieceReturned _ _ _ standing | pieceFailed _ _ _ standing
  | mediaUnlocked _ _ standing =>
      exact fun filled => absurd filled (leaves standing (by simp))
  | resetConsumed | residueSent => exact fun filled => absurd filled (emptied_free room rfl rfl)
  | residueGone outcome work sbuffer events standing checked =>
      obtain ⟨empty, capacity, -⟩ := flushCheck_cases checked
      exact fun filled => absurd filled (emptied_free room capacity empty)
  | residueTaken outcome work sbuffer bytes events standing checked =>
      obtain ⟨empty, capacity, -⟩ := flushCheck_cases checked
      exact fun filled => absurd filled (emptied_free room capacity empty)
  | flagStored outcome command standing => cases command <;> exact held
  | _ => exact held

theorem capacity_transition (working : Working setup.rtpPackets state)
    (moved : CaptureTransition setup state label next events) :
    next.sbuffer.capacity = state.sbuffer.capacity := by
  cases moved with
  | pieceMoved available accepted position rest standing running =>
      exact (pieceStep_moved working.room (working.possible _ _ standing) running).capacity
  | residueGone outcome work sbuffer events standing checked => exact (flushCheck_cases checked).2.1
  | residueTaken outcome work sbuffer bytes events standing checked =>
      exact (flushCheck_cases checked).2.1
  | flagStored outcome command standing => cases command <;> rfl
  | _ => rfl

theorem whole_initial (setup : CaptureSetup β ρ) {capacity : Nat} (room : 0 < capacity)
    (resampler : ρ) (startMuted : Bool) :
    Whole setup resampler capacity (.initial capacity resampler startMuted) [] where
  delivering := delivering_initial setup.rtpPackets capacity resampler startMuted
  working := working_initial room setup.rtpPackets resampler startMuted
  direct := fun _ => ⟨rfl, rfl, rfl⟩
  capacity := rfl
  full := by
    intro filled
    simp only [CaptureState.initial, BoundedFifo.freespace, BoundedFifo.create_contents,
      BoundedFifo.create_capacity, List.length_nil] at filled
    omega
  accounted := ⟨[], rfl, rfl, rfl⟩
  kept := by simp

theorem whole_step {capacity : Nat} {recorded after : Recorded β ρ}
    (held : Whole setup resampler capacity recorded.state recorded.history)
    (kept : KeepsLink recorded label ∧ SparesBug recorded label)
    (taken : recordedStep setup recorded label = some after) :
    Whole setup resampler capacity after.state after.history := by
  have delivering := delivering_step held.delivering kept.1 taken
  obtain ⟨state, events, rfl, moved⟩ := recordedStep_transition taken
  exact {
    delivering := delivering
    working := working_transition held.working moved
    direct := fun one => unaggregated_transition one (held.direct one) moved
    capacity := (capacity_transition held.working moved).trans held.capacity
    full := full_transition held.working held.full moved
    accounted := accounted_transition held.accounted held.working held.direct kept.2 moved
    kept := by
      intro event member
      rcases List.mem_append.1 member with newer | older
      · exact unlost_transition held.delivering kept.1 moved event (List.mem_reverse.1 newer)
      · exact held.kept event older }

theorem Whole.sent {capacity : Nat} (held : Whole setup resampler capacity state history) :
    sentBytes history ++ state.pipeline =
      takenBytes setup.rtpPackets history ++ state.media.unbuffered := by
  by_cases one : setup.rtpPackets = 1
  · obtain ⟨empty, outside, noCommand⟩ := held.direct one
    have same : takenBytes setup.rtpPackets history = sentBytes history := by
      refine Runs.gathered_congr fun event member => ?_
      have kept := held.kept event member
      rcases event with _ | _ | _ | (_ | _ | _ | _ | _) | _ | _ | _ | _ | _ | _ | _ <;>
        simp_all [CaptureEvent.takenBytes, CaptureEvent.sentBytes, takenOver, CaptureEvent.isLost]
    have noMedia : state.media.residue? = none := by
      cases standing : state.media with
      | piece position rest =>
          rw [standing] at outside
          cases position with
          | flushSend atHead data bytes => cases outside
          | _ => rfl
      | _ => rfl
    simp [CaptureState.pipeline, CaptureState.inFlight, noMedia, noCommand, empty, same]
  · have same : takenBytes setup.rtpPackets history = bufferedBytes history := by
      refine Runs.gathered_congr fun event _ => ?_
      rcases event with _ | _ | _ | (_ | _ | _ | _ | _) | _ | _ | _ | _ | _ | _ | _ <;>
        simp [CaptureEvent.takenBytes, CaptureEvent.bufferedBytes, takenOver, one]
    have account := held.delivering.account
    rw [deliveredBytes, if_neg one] at account
    rw [same, account]
    simp [CaptureState.pipeline]

end

/-- On a connection that stays open, with every send accepted and no audio flushed out of the
bug, what was sent and what is under way are all that was passed on for the frames, and these
and the bug are all that was captured; at rest less than one message is under way. -/
theorem sent_whole {setup : CaptureSetup β ρ} {capacity : Nat} (room : 0 < capacity)
    {resampler : ρ} {startMuted : Bool} {schedule : List (CaptureStep β)} {final : Recorded β ρ}
    (reached : Runs.run (recordedStep setup) (.initial capacity resampler startMuted) schedule =
      some final)
    (kept : Runs.Along (recordedStep setup)
      (fun recorded label => KeepsLink recorded label ∧ SparesBug recorded label)
      (.initial capacity resampler startMuted) schedule) :
    (∃ frames, frames.flatten ++ final.state.bug = capturedBytes final.history ∧
      sentBytes final.history ++ final.state.pipeline = (passOn setup resampler frames).2) ∧
    (setup.resample = none →
      sentBytes final.history ++ final.state.pipeline ++ final.state.bug =
        capturedBytes final.history) ∧
    (AtRest final.state → final.state.pipeline.length < capacity) := by
  have held := Runs.along_invariant
    (fun _ _ _ held kept taken => whole_step held kept taken)
    (whole_initial setup room resampler startMuted) kept reached
  obtain ⟨frames, -, whole, passed⟩ := held.accounted
  rw [← held.sent] at passed
  refine ⟨⟨frames, whole, passed⟩, ?_, ?_⟩
  · intro direct
    rw [passed, passOn_direct direct, whole]
  · rintro ⟨media, command, -⟩
    have free := held.full.free (by simp [media])
    have capacity := held.capacity
    have used : final.state.pipeline = final.state.sbuffer.contents := by
      simp [CaptureState.pipeline, CaptureState.inFlight, media, command,
        StreamFramePc.residue?, CommandPc.residue?, StreamFramePc.unbuffered]
    rw [used]
    simp only [BoundedFifo.freespace] at free
    omega

end

def overfullSchedule : List (CaptureStep Nat) :=
  [.connectionOpened, .capture [1, 2, 3], .streamFrame] ++
    ([none, none, none, none, some 3] ++ List.replicate 9 none).map fun available =>
      .media available true

theorem sent_whole_overfull :
    ∃ final, Runs.run (recordedStep pairedSetup) (.initial 2 () false) overfullSchedule =
        some final ∧ final.state.pipeline = [3] ∧
      sentBytes final.history ++ final.state.pipeline ++ final.state.bug =
        capturedBytes final.history ∧ final.state.pipeline.length < 2 := by
  obtain ⟨final, reached, waiting, media, command, mutex⟩ := @Runs.exists_run _ _
    (recordedStep pairedSetup) (.initial 2 () false) overfullSchedule
    (fun final => final.state.pipeline = [3] ∧ final.state.media = .idle ∧
      final.state.command = .idle ∧ final.state.mutex = none) _ (by decide +kernel)
  obtain ⟨-, whole, rest⟩ := sent_whole (by decide) reached (by decide +kernel)
  exact ⟨final, reached, waiting, whole rfl, rest ⟨media, command, mutex⟩⟩

end OpenaiAudioStream
