import OpenaiAudioStream.CaptureDelivery
import OpenaiAudioStream.CaptureResampling

/-!
What the server receives of the caller, over every run: connections drop and reopen, sends
fail, commands flush and mute. Audio is lost on the way, but none is sent twice, none
overtakes earlier audio, and none comes from anywhere but the captured frames.
-/

namespace OpenaiAudioStream

section

variable {β ρ : Type*}

def CaptureEvent.capturedBytes : CaptureEvent β → List β
  | .captured data => data
  | _ => []

def capturedBytes (history : List (CaptureEvent β)) : List β :=
  Runs.gathered CaptureEvent.capturedBytes history

theorem capturedBytes_append (newer older : List (CaptureEvent β)) :
    capturedBytes (newer ++ older) = capturedBytes older ++ capturedBytes newer :=
  Runs.gathered_append CaptureEvent.capturedBytes newer older

theorem sentBytes_append (newer older : List (CaptureEvent β)) :
    sentBytes (newer ++ older) = sentBytes older ++ sentBytes newer :=
  Runs.gathered_append CaptureEvent.sentBytes newer older

/-- Frames read one after the other: the resampler behind them, and what
`send_or_buffer_audio` is called with. -/
def passOn (setup : CaptureSetup β ρ) (resampler : ρ) : List (List β) → ρ × List β
  | [] => (resampler, [])
  | frame :: rest =>
      let pieces := framePieces setup resampler frame
      let later := passOn setup pieces.1 rest
      (later.1, pieces.2.flatten ++ later.2)

theorem passOn_append (setup : CaptureSetup β ρ) (resampler : ρ) (frames : List (List β))
    (frame : List β) :
    passOn setup resampler (frames ++ [frame]) =
      let before := passOn setup resampler frames
      let pieces := framePieces setup before.1 frame
      (pieces.1, before.2 ++ pieces.2.flatten) := by
  induction frames generalizing resampler with
  | nil => simp [passOn]
  | cons first rest ih => simp [passOn, ih]

theorem passOn_direct {setup : CaptureSetup β ρ} (direct : setup.resample = none) (resampler : ρ)
    (frames : List (List β)) : (passOn setup resampler frames).2 = frames.flatten := by
  induction frames generalizing resampler with
  | nil => rfl
  | cons frame rest ih => simp [passOn, framePieces, direct, ih]

def StreamFramePc.unbuffered : StreamFramePc β → List β
  | .piece position rest => position.rest ++ rest.flatten
  | _ => []

@[simp] theorem nextPiece_unbuffered (pieces : List (List β)) :
    (nextPiece pieces).unbuffered = pieces.flatten := by
  cases pieces <;> rfl

def CaptureState.pipeline (state : CaptureState β ρ) : List β :=
  state.inFlight.getD [] ++ (state.sbuffer.contents ++ state.media.unbuffered)

structure Unaggregated (state : CaptureState β ρ) : Prop where
  sbuffer : state.sbuffer.contents = []
  media : state.media.buffering = false
  command : state.command.residue? = none

/-- The frames read so far are captured audio that stands before the bug, and what was
passed on for them begins with what was sent. -/
def Flows (setup : CaptureSetup β ρ) (resampler : ρ) (state : CaptureState β ρ)
    (history : List (CaptureEvent β)) : Prop :=
  ∃ frames, (passOn setup resampler frames).1 = state.resampler ∧
    (frames.flatten ++ state.bug).Sublist (capturedBytes history) ∧
    (sentBytes history ++ state.pipeline).Sublist (passOn setup resampler frames).2

structure InOrder (setup : CaptureSetup β ρ) (resampler : ρ) (state : CaptureState β ρ)
    (history : List (CaptureEvent β)) : Prop where
  mutex : MutexHeld state
  direct : setup.rtpPackets = 1 → Unaggregated state
  flows : Flows setup resampler state history

section

variable {setup : CaptureSetup β ρ} {resampler : ρ} {state next : CaptureState β ρ}
  {history newer : List (CaptureEvent β)}

theorem Flows.moved (held : Flows setup resampler state history)
    (same : next.resampler = state.resampler)
    (bug : next.bug.Sublist (state.bug ++ capturedBytes newer))
    (sent : (sentBytes newer ++ next.pipeline).Sublist state.pipeline) :
    Flows setup resampler next (newer ++ history) := by
  obtain ⟨frames, reached, captured, passed⟩ := held
  refine ⟨frames, reached.trans same.symm, ?_, ?_⟩
  · rw [capturedBytes_append]
    refine (bug.append_left _).trans ?_
    rw [← List.append_assoc]
    exact captured.append_right _
  · rw [sentBytes_append, List.append_assoc]
    exact (sent.append_left _).trans passed

theorem Flows.quiet (held : Flows setup resampler state history)
    (same : next.resampler = state.resampler) (bug : next.bug.Sublist state.bug)
    (sent : sentBytes newer = []) (pipeline : next.pipeline.Sublist state.pipeline) :
    Flows setup resampler next (newer ++ history) := by
  refine held.moved same (bug.trans (List.sublist_append_left _ _)) ?_
  rwa [sent, List.nil_append]

theorem afterFlush_rest (sbuffer : BoundedFifo β) (atHead : Bool) (data : List β) :
    (afterFlush sbuffer atHead data).rest.Sublist data := by
  unfold afterFlush
  split
  · exact List.nil_sublist data
  · exact List.Sublist.refl data

theorem flushCheck_sent {usable : Bool} {sbuffer after : BoundedFifo β} {taken : Option (List β)}
    {events : List (AudioEvent β)} (checked : flushCheck usable sbuffer = (after, taken, events)) :
    sentBytes (events.map CaptureEvent.audio).reverse = [] := by
  obtain ⟨_, _, ⟨_, _, rfl⟩ | ⟨_, _, rfl⟩ | ⟨_, _, _, rfl⟩⟩ := flushCheck_cases checked <;>
    simp [sentBytes, CaptureEvent.sentBytes]

theorem sendAudio_sent (accepted : Bool) (bytes : List β) :
    (sentBytes [.audio (sendAudio accepted bytes)]).Sublist bytes := by
  cases accepted with
  | true => simp [sentBytes, sendAudio, CaptureEvent.sentBytes]
  | false => simp [sentBytes, sendAudio, CaptureEvent.sentBytes]

theorem pipeline_eq {position : PiecePc β} {rest : List (List β)}
    (noCommand : state.command.residue? = none) (standing : state.media = .piece position rest) :
    state.pipeline = (StreamFramePc.piece position rest).residue?.getD [] ++
      (state.sbuffer.contents ++ (position.rest ++ rest.flatten)) := by
  simp only [CaptureState.pipeline, CaptureState.inFlight, standing, noCommand, Option.or_none]
  rfl

theorem pipeline_piece {accepted : Bool} {position later : PiecePc β} {rest : List (List β)}
    {after : BoundedFifo β} {events : List (AudioEvent β)}
    (noCommand : state.command.residue? = none)
    (direct : setup.rtpPackets = 1 → state.sbuffer.contents = [])
    (standing : state.media = .piece position rest)
    (moved : PieceTransition setup.rtpPackets state.usable accepted state.sbuffer position after
      later events) :
    let next := { state with sbuffer := after, media := .piece later rest }
    (sentBytes (events.map CaptureEvent.audio).reverse ++ next.pipeline).Sublist
      state.pipeline := by
  intro next
  rw [pipeline_eq noCommand standing, pipeline_eq (show next.command.residue? = none from noCommand)
    (show next.media = .piece later rest from rfl)]
  have discarded (bytes : List β) : bytes.Sublist (state.sbuffer.contents ++ bytes) :=
    List.sublist_append_right _ _
  cases moved with
  | direct data one =>
      have sent := (sendAudio_sent accepted data).append (.refl rest.flatten)
      simpa [next, direct one, StreamFramePc.residue?, PiecePc.rest] using sent
  | begun | ended | full | writeFailed =>
      simp [next, sentBytes, StreamFramePc.residue?, PiecePc.rest]
  | wrote data count written later contents continued =>
      have left : later.rest = data.drop count := by
        rcases continued with rfl | rfl <;> rfl
      have landed : StreamFramePc.residue? (.piece later rest) = none := by
        rcases continued with rfl | rfl <;> rfl
      have before : StreamFramePc.residue? (.piece (.loop data) rest) = none := rfl
      have cut : data.take count ++ (data.drop count ++ rest.flatten) = data ++ rest.flatten := by
        rw [← List.append_assoc, List.take_append_drop]
      rw [landed, left, before]
      simp [next, contents, sentBytes, CaptureEvent.sentBytes, PiecePc.rest, cut]
  | flushed atHead data after events checked =>
      have dropped := (afterFlush_rest after atHead data).append_right rest.flatten
      have before : StreamFramePc.residue? (.piece (.flush atHead data) rest) = none := rfl
      have waiting : (PiecePc.flush atHead data).rest = data := rfl
      rw [flushCheck_sent checked, afterFlush_residue, before, waiting]
      simpa [next, (flushCheck_none checked).1] using dropped.trans (discarded _)
  | taken atHead data after bytes events checked =>
      obtain ⟨empty, rfl, -⟩ := flushCheck_some checked
      rw [flushCheck_sent checked]
      simp [next, empty, StreamFramePc.residue?, PiecePc.rest]
  | flushSent atHead data bytes =>
      have dropped :=
        (afterFlush_rest state.sbuffer.zero atHead data).append_right rest.flatten
      have sent := (sendAudio_sent accepted bytes).append (dropped.trans (discarded _))
      have waiting : (PiecePc.flushSend atHead data bytes).rest = data := rfl
      rw [afterFlush_residue, waiting]
      simpa [next, StreamFramePc.residue?] using sent

theorem unaggregated_piece {accepted : Bool} {position later : PiecePc β} {rest : List (List β)}
    {after : BoundedFifo β} {events : List (AudioEvent β)} (one : setup.rtpPackets = 1)
    (held : Unaggregated state) (standing : state.media = .piece position rest)
    (moved : PieceTransition setup.rtpPackets state.usable accepted state.sbuffer position after
      later events) :
    Unaggregated { state with sbuffer := after, media := .piece later rest } := by
  have unbuffered := held.media
  rw [standing] at unbuffered
  cases moved with
  | direct data direct => exact ⟨held.sbuffer, rfl, held.command⟩
  | begun data many => exact absurd one many
  | _ => cases unbuffered

theorem nextPiece_buffering (pieces : List (List β)) : (nextPiece pieces).buffering = false := by
  cases pieces <;> rfl

theorem unaggregated_transition {label : CaptureStep β} {events : List (CaptureEvent β)}
    (one : setup.rtpPackets = 1) (held : Unaggregated state)
    (moved : CaptureTransition setup state label next events) : Unaggregated next := by
  obtain ⟨empty, outside, noResidue⟩ := held
  cases moved with
  | pieceMoved available accepted position rest standing running =>
      exact unaggregated_piece one ⟨empty, outside, noResidue⟩ standing
        (pieceStep_transition running)
  | readFrame | pieceReturned => exact ⟨empty, nextPiece_buffering _, noResidue⟩
  | pieceFailed =>
      refine ⟨empty, ?_, noResidue⟩
      simp only
      split <;> rfl
  | flagStored outcome command standing =>
      have kept := storeFlag_residue state command
      cases command <;> exact ⟨empty, outside, kept⟩
  | residueGone outcome work sbuffer events standing checked =>
      exact ⟨(flushCheck_none checked).1, outside, afterResidue_residue work⟩
  | residueTaken outcome work sbuffer bytes events standing checked =>
      obtain ⟨-, same, -, used, -⟩ := flushCheck_some checked
      exact absurd (same.symm.trans empty) used
  | residueSent outcome work bytes => exact ⟨rfl, outside, afterResidue_residue work⟩
  | resetConsumed => exact ⟨rfl, rfl, noResidue⟩
  | pausedReturn | entered | mutedReturn | unmuted | tryFailed | tryLocked | unconnected
  | connected | resetAbsent | readFailed | mediaUnlocked => exact ⟨empty, rfl, noResidue⟩
  | flagCommand | cleanupCommand | bugFlushed | locked | silenceUnconnected | silenceConnected
  | silenceSent | jsonSent | removeRefused | bugRemoved | finished | apiUnlocked =>
      exact ⟨empty, outside, rfl⟩
  | _ => exact ⟨empty, outside, noResidue⟩

theorem flows_transition {label : CaptureStep β} {events : List (CaptureEvent β)}
    (held : InOrder setup resampler state history)
    (moved : CaptureTransition setup state label next events) :
    Flows setup resampler next (events.reverse ++ history) := by
  obtain ⟨mutex, direct, flows⟩ := held
  cases moved with
  | captured data attached =>
      refine flows.moved rfl ?_ (.refl _)
      simp [capturedBytes, CaptureEvent.capturedBytes]
  | readFrame count accepted standing nonempty =>
      have noCommand := mutex.command_residue (by simp [standing, StreamFramePc.locked])
      obtain ⟨frames, reached, captured, passed⟩ := flows
      refine ⟨frames ++ [state.bug.take count], ?_, ?_, ?_⟩
      · simp only [passOn_append, reached]
      · simpa using captured
      · simp only [passOn_append, reached]
        have before : state.media.residue? = none := by rw [standing]; rfl
        have nothing : state.media.unbuffered = [] := by rw [standing]; rfl
        have moved := passed.append_right
          (framePieces setup state.resampler (state.bug.take count)).2.flatten
        simpa [CaptureState.pipeline, CaptureState.inFlight, before, nothing, noCommand] using moved
  | pieceMoved available accepted position rest standing running =>
      have noCommand := mutex.command_residue (by simp [standing, StreamFramePc.locked])
      refine flows.moved rfl (List.sublist_append_left _ _) ?_
      exact pipeline_piece noCommand (fun one => (direct one).sbuffer) standing
        (pieceStep_transition running)
  | pieceReturned available accepted rest standing =>
      have before : state.media.residue? = none := by rw [standing]; rfl
      have left : state.media.unbuffered = rest.flatten := by rw [standing]; rfl
      refine flows.quiet rfl (.refl _) rfl ?_
      simp [CaptureState.pipeline, CaptureState.inFlight, before, left]
  | pieceFailed available accepted rest standing =>
      refine flows.quiet rfl (.refl _) rfl ?_
      split <;>
        simp [CaptureState.pipeline, CaptureState.inFlight, standing, StreamFramePc.residue?,
          StreamFramePc.unbuffered]
  | resetConsumed available accepted standing pending =>
      refine flows.quiet rfl (.refl _) rfl ?_
      simp [CaptureState.pipeline, CaptureState.inFlight, standing, StreamFramePc.residue?,
        StreamFramePc.unbuffered]
  | pausedReturn standing | entered standing | mutedReturn _ _ standing | unmuted _ _ standing
  | tryFailed _ _ standing | tryLocked _ _ standing | unconnected _ _ standing
  | connected _ _ standing | resetAbsent _ _ standing | readFailed _ standing
  | mediaUnlocked _ _ standing =>
      refine flows.quiet rfl (.refl _) rfl ?_
      simp [CaptureState.pipeline, CaptureState.inFlight, standing, StreamFramePc.residue?,
        StreamFramePc.unbuffered]
  | bugFlushed outcome command standing =>
      refine flows.quiet rfl (List.nil_sublist _) rfl ?_
      simp [CaptureState.pipeline, CaptureState.inFlight, standing, CommandPc.residue?]
  | flagStored outcome command standing =>
      have before : state.command.residue? = none := by rw [standing]; rfl
      have after := storeFlag_residue state command
      cases command <;>
        exact flows.quiet rfl (.refl _) rfl (by
          simp only [CaptureState.pipeline, CaptureState.inFlight, before, after]
          exact .refl _)
  | residueGone outcome work sbuffer events standing checked =>
      have before : state.command.residue? = none := by rw [standing]; rfl
      refine flows.quiet rfl (.refl _) (flushCheck_sent checked) ?_
      simp [CaptureState.pipeline, CaptureState.inFlight, before, (flushCheck_none checked).1]
  | residueTaken outcome work sbuffer bytes events standing checked =>
      have noMedia := mutex.media_residue (by simp [standing, CommandPc.locked])
      obtain ⟨empty, rfl, -⟩ := flushCheck_some checked
      refine flows.quiet rfl (.refl _) (flushCheck_sent checked) ?_
      simp [CaptureState.pipeline, CaptureState.inFlight, standing, CommandPc.residue?, empty,
        noMedia]
  | residueSent outcome work bytes standing =>
      have noMedia := mutex.media_residue (by simp [standing, CommandPc.locked])
      have flying : state.command.residue? = some bytes := by rw [standing]; rfl
      refine flows.moved rfl (List.sublist_append_left _ _) ?_
      have sent := (sendAudio_sent (state.connected && outcome) bytes).append
        (List.sublist_append_right state.sbuffer.contents state.media.unbuffered)
      simpa [CaptureState.pipeline, CaptureState.inFlight, flying, noMedia] using sent
  | silenceSent outcome standing =>
      refine flows.quiet rfl (.refl _) ?_ ?_
      · split <;> rfl
      · simp [CaptureState.pipeline, CaptureState.inFlight, standing, CommandPc.residue?]
  | jsonSent outcome channelIsClosing standing =>
      refine flows.quiet rfl (.refl _) ?_ ?_
      · split <;> rfl
      · simp [CaptureState.pipeline, CaptureState.inFlight, standing, CommandPc.residue?]
  | flagCommand _ standing | cleanupCommand _ _ standing | locked _ _ standing
  | silenceUnconnected _ standing | silenceConnected _ standing | removeRefused standing
  | bugRemoved _ _ standing | finished _ standing | apiUnlocked _ standing =>
      refine flows.quiet rfl (.refl _) rfl ?_
      simp [CaptureState.pipeline, CaptureState.inFlight, standing, CommandPc.residue?]
  | _ => exact flows.quiet rfl (.refl _) rfl (.refl _)

theorem inOrder_transition {label : CaptureStep β} {events : List (CaptureEvent β)}
    (held : InOrder setup resampler state history)
    (moved : CaptureTransition setup state label next events) :
    InOrder setup resampler next (events.reverse ++ history) where
  mutex := mutexHeld_transition held.mutex moved
  direct := fun one => unaggregated_transition one (held.direct one) moved
  flows := flows_transition held moved

theorem inOrder_initial (setup : CaptureSetup β ρ) (capacity : Nat) (resampler : ρ)
    (startMuted : Bool) :
    InOrder setup resampler (.initial capacity resampler startMuted) [] where
  mutex := mutexHeld_initial capacity resampler startMuted
  direct := fun _ => ⟨rfl, rfl, rfl⟩
  flows := ⟨[], rfl, .refl _, .refl _⟩

end

/-- In every run what is sent of the caller is a subsequence of what `send_or_buffer_audio`
was given for frames that are, one after the other, a subsequence of the captured audio;
without a resampler it is a subsequence of the captured audio itself. -/
theorem sent_in_order {setup : CaptureSetup β ρ} {capacity : Nat} {resampler : ρ}
    {startMuted : Bool} {schedule : List (CaptureStep β)} {final : Recorded β ρ}
    (reached : Runs.run (recordedStep setup) (.initial capacity resampler startMuted) schedule =
      some final) :
    (∃ frames, frames.flatten.Sublist (capturedBytes final.history) ∧
      (sentBytes final.history).Sublist (passOn setup resampler frames).2) ∧
    (setup.resample = none →
      (sentBytes final.history).Sublist (capturedBytes final.history)) := by
  have held : InOrder setup resampler final.state final.history := by
    refine @Runs.run_invariant _ _ (recordedStep setup)
      (fun recorded => InOrder setup resampler recorded.state recorded.history)
      ?_ _ _ _ (inOrder_initial setup capacity resampler startMuted) reached
    intro recorded label next held taken
    obtain ⟨state, events, rfl, moved⟩ := recordedStep_transition taken
    exact inOrder_transition held moved
  obtain ⟨frames, -, captured, passed⟩ := held.flows
  have read := (List.sublist_append_left frames.flatten final.state.bug).trans captured
  have sent := (List.sublist_append_left (sentBytes final.history) _).trans passed
  refine ⟨⟨frames, read, sent⟩, fun direct => ?_⟩
  rw [passOn_direct direct] at sent
  exact sent.trans read

theorem sent_in_order_reconnected :
    ∃ final, Runs.run (recordedStep pairedSetup) (.initial 640 () false)
        (reconnectSchedule []) = some final ∧
      (sentBytes final.history).Sublist (capturedBytes final.history) := by
  obtain ⟨final, reached⟩ := Option.isSome_iff_exists.mp
    (by decide : (Runs.run (recordedStep pairedSetup) (.initial 640 () false)
      (reconnectSchedule [])).isSome = true)
  exact ⟨final, reached, (sent_in_order reached).2 rfl⟩

end

end OpenaiAudioStream
