import OpenaiAudioStream.PlaybackConservation
import OpenaiAudioStream.PlaybackErasure

/-!
The order of audio on the playback machine: in every run what was played and what is still to be
played is taken from what arrived, in order, and without a barge-in and an overflow it is all of it.
-/

namespace OpenaiAudioStream

section

variable {β : Type*}

def WsAction.audio : WsAction β → List (Sample β)
  | .pushAudioQueue audio => audio
  | _ => []

def PlaybackState.handed (state : PlaybackState β) : List β :=
  sampleBytes (state.handler.flatMap WsAction.audio)

def PlaybackStep.arriving (config : PlaybackConfig) : PlaybackStep β → List (Sample β)
  | .message located received => (received.handler config located).flatMap WsAction.audio
  | _ => []

def PlaybackState.unplayed (state : PlaybackState β) : List β := pending state ++ state.handed

section

variable {config : PlaybackConfig} {state next : PlaybackState β} {label : PlaybackStep β}
  {events : List (PlaybackEvent β)}

theorem handed_transition_eq (taken : .rejected ∉ events)
    (moved : PlaybackTransition config state label next events) :
    accepted events.reverse ++ next.handed =
      state.handed ++ sampleBytes (label.arriving config) := by
  cases moved with
  | message located received standing =>
      have silent : accepted received.announcement.reverse = ([] : List β) := by
        cases received <;> rfl
      simp [PlaybackState.handed, PlaybackStep.arriving, standing, silent]
  | pushRejected => simp at taken
  | clearQueue rest standing | requestClear rest standing | storeDone done rest standing
  | pushAccepted audio rest standing | storeTerminal rest standing | requestClose rest standing =>
      simp [PlaybackState.handed, PlaybackStep.arriving, standing, WsAction.audio]
  | clearSeen | emitted =>
      cases state.openaiSpeaking <;> simp [PlaybackState.handed, PlaybackStep.arriving]
  | _ => simp [PlaybackState.handed, PlaybackStep.arriving]

theorem handed_transition (moved : PlaybackTransition config state label next events) :
    (accepted events.reverse ++ next.handed).Sublist
      (state.handed ++ sampleBytes (label.arriving config)) := by
  by_cases taken : .rejected ∈ events
  · cases moved with
    | pushRejected audio rest standing =>
        simp [PlaybackState.handed, PlaybackStep.arriving, standing, WsAction.audio]
    | message located received => cases received <;> simp [WsMessage.announcement] at taken
    | clearSeen | emitted => cases speaking : state.openaiSpeaking <;> simp [speaking] at taken
    | _ => simp at taken
  · rw [handed_transition_eq taken moved]

/-- What a step takes out of order it loses. -/
theorem pending_transition (moved : PlaybackTransition config state label next events) :
    (consumed events.reverse ++ pending next).Sublist
      (pending state ++ accepted events.reverse) := by
  have flow := transition_flow moved (fun _ => true)
  simp only [List.filter_true] at flow
  cases moved with
  | clearQueue => simp [pending]
  | clearSeen located call standing =>
      cases state.openaiSpeaking <;> simp [pending, standing]
  | dropped located call chunk standing => simp [pending, standing]
  | message located received => rw [flow (by cases received <;> simp [WsMessage.announcement])]
  | emitted => rw [flow (by cases state.openaiSpeaking <;> simp)]
  | _ => rw [flow (by simp)]

def audioOf (plain : PlaybackState β × List (PlaybackEvent β)) : List β :=
  consumed plain.2 ++ plain.1.unplayed

theorem plainStep_order {plain after : PlaybackState β × List (PlaybackEvent β)}
    (taken : plainStep config plain label = some after) :
    (audioOf after).Sublist (audioOf plain ++ sampleBytes (label.arriving config)) := by
  obtain ⟨state, events, rfl, moved⟩ := plainStep_transition taken
  have first := (pending_transition moved).append_right state.handed
  have second := (handed_transition moved).append_left (pending plain.1)
  simp only [List.append_assoc] at first second
  simp only [audioOf, PlaybackState.unplayed, consumed, collect_append, List.append_assoc]
  exact (first.trans second).append_left _

theorem plain_run_order {labels : List (PlaybackStep β)}
    {plain final : PlaybackState β × List (PlaybackEvent β)}
    (reached : Runs.run (plainStep config) plain labels = some final) :
    (audioOf final).Sublist
      (audioOf plain ++ sampleBytes (labels.flatMap (PlaybackStep.arriving config))) := by
  induction labels generalizing plain with
  | nil =>
      simp only [Runs.run_nil, Option.some.injEq] at reached
      simp [reached]
  | cons label rest ih =>
      obtain ⟨after, taken, later⟩ := Runs.run_cons_inv reached
      have first := (plainStep_order taken).append_right
        (sampleBytes (rest.flatMap (PlaybackStep.arriving config)))
      rw [List.append_assoc, ← sampleBytes_append, ← List.flatMap_cons] at first
      exact (ih later).trans first

/-! Without a barge-in and without an overflow the order is the whole of it. -/

/-- A state in which the next step loses nothing. -/
structure Lossless (state : PlaybackState β) : Prop where
  playing : Playing state
  small : CallFrame SmallFrame state
  calm : Undisturbed state

theorem lossless_initial : Lossless ({} : PlaybackState β) where
  playing := playing_initial
  small := by simp [CallFrame, WriteFramePc.call?]
  calm := ⟨rfl, by simp⟩

def PlaybackStep.Harmless (label : PlaybackStep β) : Prop :=
  label.isBargeIn = false ∧ ∀ frame, label = .writeFrame frame → SmallFrame frame

theorem transition_lossless (held : Lossless state) (harmless : label.Harmless)
    (kept : .rejected ∉ events) (moved : PlaybackTransition config state label next events) :
    Lossless next ∧ consumed events.reverse ++ next.unplayed =
      state.unplayed ++ sampleBytes (label.arriving config) := by
  obtain ⟨playing, small, calm⟩ := held
  have undisturbed := undisturbed_transition calm harmless.1 moved
  have whole := small_frame_never_drops playing small moved
  have unbroken : chunksDropped events.reverse = [] := chunksDropped_eq_nil (by simpa using whole)
  have flow := transition_flow moved (fun _ => true) (by simp [undisturbed.2, unbroken])
  simp only [List.filter_true] at flow
  have handed := handed_transition_eq kept moved
  have still := callFrame_transition moved (fun frame same _ _ => harmless.2 frame same) small
  refine ⟨⟨playing_transition playing moved, still, undisturbed.1⟩, ?_⟩
  calc consumed events.reverse ++ next.unplayed
      = (consumed events.reverse ++ pending next) ++ next.handed := by
        simp [PlaybackState.unplayed]
    _ = pending state ++ (accepted events.reverse ++ next.handed) := by
        rw [← flow, List.append_assoc]
    _ = state.unplayed ++ sampleBytes (label.arriving config) := by
        simp [handed, PlaybackState.unplayed]

theorem plain_run_suffix {labels : List (PlaybackStep β)}
    {plain final : PlaybackState β × List (PlaybackEvent β)}
    (reached : Runs.run (plainStep config) plain labels = some final) : plain.2 <:+ final.2 := by
  refine @Runs.run_invariant _ _ (plainStep config) (fun later => plain.2 <:+ later.2) ?_
    labels plain final (List.suffix_refl _) reached
  intro before label after held taken
  obtain ⟨state, events, rfl, -⟩ := plainStep_transition taken
  exact held.trans (List.suffix_append _ _)

theorem plain_run_lossless {labels : List (PlaybackStep β)}
    {plain final : PlaybackState β × List (PlaybackEvent β)} {newer : List (PlaybackEvent β)}
    (held : Lossless plain.1) (harmless : ∀ label ∈ labels, label.Harmless)
    (grown : final.2 = newer ++ plain.2) (kept : .rejected ∉ newer)
    (reached : Runs.run (plainStep config) plain labels = some final) :
    audioOf final =
      audioOf plain ++ sampleBytes (labels.flatMap (PlaybackStep.arriving config)) := by
  induction labels generalizing plain newer with
  | nil =>
      simp only [Runs.run_nil, Option.some.injEq] at reached
      simp [reached]
  | cons label rest ih =>
      obtain ⟨after, taken, later⟩ := Runs.run_cons_inv reached
      obtain ⟨more, grew⟩ := plain_run_suffix later
      obtain ⟨state, events, rfl, moved⟩ := plainStep_transition taken
      -- what is rejected on the way is among the newer events
      obtain rfl : newer = more ++ events.reverse := by
        rw [← grew, ← List.append_assoc] at grown
        exact (List.append_cancel_right grown).symm
      simp only [List.mem_append, List.mem_reverse, not_or] at kept
      obtain ⟨still, first⟩ := transition_lossless held (harmless label (by simp)) kept.2 moved
      have onward := ih still (fun other member => harmless other (by simp [member]))
        grew.symm kept.1 later
      rw [onward, List.flatMap_cons, sampleBytes_append]
      simp only [audioOf, consumed, collect_append, List.append_assoc] at first ⊢
      rw [← List.append_assoc (collect _ events.reverse), first, List.append_assoc]

end

end

end OpenaiAudioStream
