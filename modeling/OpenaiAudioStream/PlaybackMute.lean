import Mathlib.Data.List.Forall2
import OpenaiAudioStream.PlaybackErasure
import OpenaiAudioStream.PlaybackInvariants

/-!
Muting the OpenAI leg. Two runs of one schedule with different mutes differ in the mute
flag and in whether OpenAI counts as speaking, and neither decides what is taken out of
the queue or the playback buffer.
-/

namespace OpenaiAudioStream

section

variable {β : Type*}

def PlaybackStep.isOpenaiMute : PlaybackStep β → Bool
  | .setOpenaiMute _ => true
  | _ => false

def withoutOpenaiMutes (labels : List (PlaybackStep β)) : List (PlaybackStep β) :=
  labels.filter fun label => !label.isOpenaiMute

def PlaybackEvent.isOutput : PlaybackEvent β → Bool
  | .tossed _ => true
  | .frameReplaced _ _ _ => true
  | _ => false

def outputs (history : List (PlaybackEvent β)) : List (PlaybackEvent β) :=
  history.filter fun event => event.isOutput

/-- The output of a call beside that of the same call when never muted: a frame is the
same frame, and tossed audio is the audio of that frame. -/
def SameOutput : PlaybackEvent β → PlaybackEvent β → Prop
  | .frameReplaced audio data samples, never => never = .frameReplaced audio data samples
  | .tossed bytes, .frameReplaced audio _ _ => bytes = audio
  | _, _ => False

/-- The outputs of one call in two runs: the same audio, and the same frame where both write one. -/
def OutputsAgree : PlaybackEvent β → PlaybackEvent β → Prop
  | .tossed bytes, .tossed other => bytes = other
  | .tossed bytes, .frameReplaced audio _ _ => bytes = audio
  | .frameReplaced audio _ _, .tossed bytes => bytes = audio
  | .frameReplaced audio data samples, other => other = .frameReplaced audio data samples
  | _, _ => False

theorem sameOutput_of_agree {outcomes others : List (PlaybackEvent β)}
    (agree : List.Forall₂ OutputsAgree outcomes others)
    (untossed : ∀ bytes, .tossed bytes ∉ others) : List.Forall₂ SameOutput outcomes others := by
  induction agree with
  | nil => exact .nil
  | @cons outcome other _ _ agreed _ ih =>
      refine .cons ?_ (ih fun bytes member => untossed bytes (by simp [member]))
      cases other with
      | tossed bytes => exact absurd (by simp) (untossed bytes)
      | frameReplaced audio data samples =>
          cases outcome with
          | tossed bytes => exact agreed
          | frameReplaced => exact agreed
          | _ => exact agreed.elim
      | _ =>
          cases outcome with
          | frameReplaced => cases agreed
          | _ => exact agreed.elim

def PlaybackState.withFlags (state : PlaybackState β) (muted speaking : Bool) : PlaybackState β :=
  { state with openaiAudioMuted := muted, openaiSpeaking := speaking }

structure Tracks (plain other : PlaybackState β × List (PlaybackEvent β)) : Prop where
  flags : ∃ muted speaking, plain.1 = other.1.withFlags muted speaking
  output : List.Forall₂ OutputsAgree (outputs plain.2) (outputs other.2)

theorem outputs_append (newer older : List (PlaybackEvent β)) :
    outputs (newer ++ older) = outputs newer ++ outputs older :=
  List.filter_append newer older

theorem Tracks.append {outcome reply : PlaybackState β × List (PlaybackEvent β)}
    {older otherOlder : List (PlaybackEvent β)} (tracks : Tracks outcome reply)
    (before : List.Forall₂ OutputsAgree (outputs older) (outputs otherOlder)) :
    Tracks (outcome.1, outcome.2.reverse ++ older) (reply.1, reply.2.reverse ++ otherOlder) where
  flags := tracks.flags
  output := by
    have reversed : List.Forall₂ OutputsAgree (outputs outcome.2.reverse)
        (outputs reply.2.reverse) := by
      simp only [outputs, List.filter_reverse]
      exact List.rel_reverse tracks.output
    simp only [outputs_append]
    exact List.rel_append reversed before

section

variable (config : PlaybackConfig) (other : PlaybackState β) (muted speaking : Bool)

theorem webSocketStep_tracks :
    Option.Rel Tracks (webSocketStep config (other.withFlags muted speaking))
      (webSocketStep config other) := by
  have same : (other.withFlags muted speaking).handler = other.handler := rfl
  unfold webSocketStep
  rw [same]
  split
  · exact .none
  · exact .some ⟨⟨muted, speaking, rfl⟩, by simp [outputs, PlaybackEvent.isOutput]⟩
  · exact .some ⟨⟨muted, speaking, rfl⟩, by simp [outputs, PlaybackEvent.isOutput]⟩
  · exact .some ⟨⟨muted, speaking, rfl⟩, by simp [outputs, PlaybackEvent.isOutput]⟩
  · rename_i audio rest _
    refine .some ⟨⟨muted, speaking, rfl⟩, ?_⟩
    cases taken : other.audioQueue.accepts (maxPlaybackQueueSamples config) audio <;>
      simp [outputs, PlaybackEvent.isOutput, PlaybackState.withFlags, taken]
  · exact .some ⟨⟨muted, speaking, rfl⟩, by simp [outputs, PlaybackEvent.isOutput]⟩
  · exact .some ⟨⟨muted, speaking, rfl⟩, by simp [outputs]⟩

theorem enterWriteFrame_tracks (frame : WriteFrame) :
    Tracks (enterWriteFrame (other.withFlags muted speaking) frame)
      (enterWriteFrame other frame) := by
  have same : (other.withFlags muted speaking).audioPaused = other.audioPaused := rfl
  unfold enterWriteFrame
  rw [same]
  split
  · exact ⟨⟨muted, speaking, rfl⟩, by simp [outputs]⟩
  · exact ⟨⟨muted, speaking, rfl⟩, by simp [outputs, PlaybackEvent.isOutput]⟩

theorem consumePlaybackClear_tracks (located : Bool) (call : WriteCall) :
    Tracks (consumePlaybackClear located (other.withFlags muted speaking) call)
      (consumePlaybackClear located other call) := by
  by_cases seen : other.playbackClearGen = other.playbackClearGenSeen
  · simp only [consumePlaybackClear, PlaybackState.withFlags, seen, if_true]
    exact ⟨⟨muted, speaking, rfl⟩, by simp [outputs, PlaybackEvent.isOutput]⟩
  · simp only [consumePlaybackClear, PlaybackState.withFlags, seen, if_false]
    refine ⟨⟨muted, false, rfl⟩, ?_⟩
    cases speaking <;> cases other.openaiSpeaking <;> simp [outputs, PlaybackEvent.isOutput]

theorem popChunk_tracks (call : WriteCall) :
    Tracks (popChunk config (other.withFlags muted speaking) call)
      (popChunk config other call) := by
  have same : (other.withFlags muted speaking).audioQueue = other.audioQueue := rfl
  unfold popChunk
  rw [same]
  split
  · split
    · exact ⟨⟨muted, speaking, rfl⟩, by simp [outputs, PlaybackEvent.isOutput]⟩
    · exact ⟨⟨muted, speaking, rfl⟩, by simp [outputs]⟩
  · exact ⟨⟨muted, speaking, rfl⟩, by simp [outputs]⟩

theorem writeChunk_tracks (call : WriteCall) (chunk : List (Sample β)) :
    Tracks (writeChunk (other.withFlags muted speaking) call chunk)
      (writeChunk other call chunk) := by
  have same : (other.withFlags muted speaking).playbackBuffer = other.playbackBuffer := rfl
  unfold writeChunk
  rw [same]
  dsimp only
  split
  · exact ⟨⟨muted, speaking, rfl⟩, by simp [outputs, PlaybackEvent.isOutput]⟩
  · exact ⟨⟨muted, speaking, rfl⟩, by simp [outputs]⟩

theorem drainedCheck_tracks (located : Bool) (call : WriteCall) :
    Tracks (drainedCheck located (other.withFlags muted speaking) call)
      (drainedCheck located other call) := by
  have marks (kept : Bool) :
      (other.withFlags muted kept).responseAudioDone = other.responseAudioDone := rfl
  cases done : other.responseAudioDone with
  | false =>
      simp only [drainedCheck, marks, done, Bool.and_false, Bool.false_eq_true, if_false]
      exact ⟨⟨muted, speaking, rfl⟩, by simp [outputs]⟩
  | true =>
      cases speaking <;> cases spoken : other.openaiSpeaking <;>
        simp only [drainedCheck, PlaybackState.withFlags, spoken, done, Bool.and_true, if_true,
          Bool.false_eq_true, if_false]
      · exact ⟨⟨muted, false, rfl⟩, by simp [outputs]⟩
      · exact ⟨⟨muted, false, rfl⟩, by simp [outputs, PlaybackEvent.isOutput]⟩
      · exact ⟨⟨muted, false, rfl⟩, by simp [outputs, PlaybackEvent.isOutput]⟩
      · exact ⟨⟨muted, false, rfl⟩, by simp [outputs, PlaybackEvent.isOutput]⟩

theorem terminalCheck_tracks (call : WriteCall) :
    Tracks (terminalCheck (other.withFlags muted speaking) call) (terminalCheck other call) := by
  unfold terminalCheck
  split
  · exact ⟨⟨muted, speaking, rfl⟩, by simp [outputs, PlaybackEvent.isOutput]⟩
  · exact ⟨⟨muted, speaking, rfl⟩, by simp [outputs]⟩

theorem outputFrame_tracks {located : Bool} {call : WriteCall}
    {outcome reply : PlaybackState β × List (PlaybackEvent β)}
    (taken : outputFrame located (other.withFlags muted speaking) call = some outcome)
    (answered : outputFrame located other call = some reply) : Tracks outcome reply := by
  by_cases divides : call.frame.bytesPerSample = 0
  · cases muted <;> cases quiet : other.openaiAudioMuted <;>
      simp only [outputFrame, PlaybackState.withFlags, quiet, divides, if_true,
        Bool.false_eq_true, if_false, Option.some.injEq, reduceCtorEq] at taken answered
    subst taken answered
    exact ⟨⟨true, speaking, rfl⟩, by simp [outputs, PlaybackEvent.isOutput, OutputsAgree]⟩
  · cases muted <;> cases quiet : other.openaiAudioMuted <;>
      simp only [outputFrame, PlaybackState.withFlags, quiet, divides, if_true,
        Bool.false_eq_true, if_false, Option.some.injEq, BoundedFifo.read_fst] at taken answered <;>
      subst taken answered
    · refine ⟨⟨false, true, rfl⟩, ?_⟩
      cases speaking <;> cases other.openaiSpeaking <;>
        simp [outputs, PlaybackEvent.isOutput, OutputsAgree]
    · refine ⟨⟨false, true, by simp [PlaybackState.withFlags]⟩, ?_⟩
      cases speaking <;> simp [outputs, PlaybackEvent.isOutput, OutputsAgree]
    · refine ⟨⟨true, speaking, by simp [PlaybackState.withFlags]⟩, ?_⟩
      cases other.openaiSpeaking <;> simp [outputs, PlaybackEvent.isOutput, OutputsAgree]
    · exact ⟨⟨true, speaking, rfl⟩, by simp [outputs, PlaybackEvent.isOutput, OutputsAgree]⟩

theorem mediaStep_tracks (located : Bool) (elsewhere : ∀ call, other.media ≠ .output call) :
    Option.Rel Tracks (mediaStep config located (other.withFlags muted speaking))
      (mediaStep config located other) := by
  have same : (other.withFlags muted speaking).media = other.media := rfl
  unfold mediaStep
  rw [same]
  split
  · exact .none
  · exact .some (consumePlaybackClear_tracks other muted speaking located _)
  · exact .some ⟨⟨muted, speaking, rfl⟩, by simp [outputs]⟩
  · exact .some (popChunk_tracks config other muted speaking _)
  · exact .some (writeChunk_tracks other muted speaking _ _)
  · exact .some (drainedCheck_tracks other muted speaking located _)
  · exact .some (terminalCheck_tracks other muted speaking _)
  · rename_i call standing
    exact absurd standing (elsewhere call)

/-- The media thread stands before the branch that reads or tosses. -/
def AtOutput (label : PlaybackStep β) : Prop :=
  label.isMedia = true ∧ ∃ call, other.media = .output call

theorem quietStep_tracks {label : PlaybackStep β} (shown : label.isOpenaiMute = false)
    (quiet : ¬AtOutput other label) :
    Option.Rel Tracks (playbackStep config (other.withFlags muted speaking) label)
      (playbackStep config other label) := by
  cases label with
  | message located received =>
      have same : (other.withFlags muted speaking).handler = other.handler := rfl
      unfold playbackStep
      dsimp only
      rw [same]
      split
      · refine .some ⟨⟨muted, speaking, rfl⟩, ?_⟩
        cases received <;> simp [outputs, WsMessage.announcement, PlaybackEvent.isOutput]
      · exact .none
  | webSocket => exact webSocketStep_tracks config other muted speaking
  | pauseresume pause =>
      exact .some ⟨⟨muted, speaking, rfl⟩, by simp [outputs]⟩
  | setOpenaiMute mute => cases shown
  | writeFrame frame =>
      have same : (other.withFlags muted speaking).media = other.media := rfl
      unfold playbackStep
      dsimp only
      rw [same]
      split
      · exact .some (enterWriteFrame_tracks other muted speaking frame)
      · exact .none
  | media located =>
      exact mediaStep_tracks config other muted speaking located
        fun call standing => quiet ⟨rfl, call, standing⟩

theorem playbackStep_tracks {label : PlaybackStep β} (shown : label.isOpenaiMute = false)
    {outcome reply : PlaybackState β × List (PlaybackEvent β)}
    (taken : playbackStep config (other.withFlags muted speaking) label = some outcome)
    (answered : playbackStep config other label = some reply) : Tracks outcome reply := by
  by_cases output : AtOutput other label
  · obtain ⟨running, call, standing⟩ := output
    cases label with
    | media located =>
        have same : (other.withFlags muted speaking).media = .output call := standing
        simp only [playbackStep, mediaStep, same] at taken
        simp only [playbackStep, mediaStep, standing] at answered
        exact outputFrame_tracks other muted speaking taken answered
    | _ => cases running
  · have stepped := quietStep_tracks config other muted speaking shown output
    rw [taken, answered] at stepped
    cases stepped with
    | some tracked => exact tracked

/-- A run never muted takes every step of the muted one, unless its division traps. -/
theorem playbackStep_answers {label : PlaybackStep β} (shown : label.isOpenaiMute = false)
    (divides : Divides other) {outcome : PlaybackState β × List (PlaybackEvent β)}
    (taken : playbackStep config (other.withFlags muted speaking) label = some outcome) :
    ∃ reply, playbackStep config other label = some reply := by
  by_cases output : AtOutput other label
  · obtain ⟨running, call, standing⟩ := output
    cases label with
    | media located =>
        have enabled := mediaStep_enabled config located divides (by simp [standing])
        exact Option.isSome_iff_exists.1 enabled
    | _ => cases running
  · have stepped := quietStep_tracks config other muted speaking shown output
    rw [taken] at stepped
    obtain ⟨reply, answered, -⟩ := Runs.exists_of_rel stepped
    exact ⟨reply, answered⟩

end

theorem tracks_leftMute {config : PlaybackConfig}
    {plain other next : PlaybackState β × List (PlaybackEvent β)} {label : PlaybackStep β}
    (tracks : Tracks plain other) (hidden : label.isOpenaiMute = true)
    (taken : plainStep config plain label = some next) : Tracks next other := by
  obtain ⟨⟨muted, speaking, same⟩, output⟩ := tracks
  cases label with
  | setOpenaiMute mute =>
      cases taken
      refine ⟨⟨mute, speaking, ?_⟩, output⟩
      simp [same, PlaybackState.withFlags]
  | _ => cases hidden

theorem tracks_rightMute {config : PlaybackConfig}
    {plain other reply : PlaybackState β × List (PlaybackEvent β)} {label : PlaybackStep β}
    (tracks : Tracks plain other) (hidden : label.isOpenaiMute = true)
    (answered : plainStep config other label = some reply) : Tracks plain reply := by
  obtain ⟨⟨muted, speaking, same⟩, output⟩ := tracks
  cases label with
  | setOpenaiMute mute =>
      cases answered
      refine ⟨⟨muted, speaking, ?_⟩, output⟩
      simp [same, PlaybackState.withFlags]
  | _ => cases hidden

theorem tracks_step {config : PlaybackConfig}
    {plain other next reply : PlaybackState β × List (PlaybackEvent β)} {label : PlaybackStep β}
    (tracks : Tracks plain other) (shown : label.isOpenaiMute = false)
    (taken : plainStep config plain label = some next)
    (answered : plainStep config other label = some reply) : Tracks next reply := by
  obtain ⟨⟨muted, speaking, same⟩, output⟩ := tracks
  simp only [plainStep, Option.map_eq_some_iff, same] at taken answered
  obtain ⟨outcome, found, rfl⟩ := taken
  obtain ⟨answer, given, rfl⟩ := answered
  have tracked := playbackStep_tracks config other.1 muted speaking shown found given
  exact tracked.append output

theorem tracks_answers {config : PlaybackConfig}
    {plain other next : PlaybackState β × List (PlaybackEvent β)} {label : PlaybackStep β}
    (tracks : Tracks plain other) (divides : Divides other.1) (shown : label.isOpenaiMute = false)
    (taken : plainStep config plain label = some next) :
    ∃ reply, plainStep config other label = some reply := by
  obtain ⟨⟨muted, speaking, same⟩, -⟩ := tracks
  simp only [plainStep, Option.map_eq_some_iff, same] at taken
  obtain ⟨outcome, found, -⟩ := taken
  obtain ⟨answer, given⟩ :=
    playbackStep_answers config other.1 muted speaking shown divides found
  exact ⟨_, by rw [plainStep, given, Option.map_some]⟩

theorem tracks_initial :
    Tracks (({}, []) : PlaybackState β × List (PlaybackEvent β)) ({}, []) :=
  ⟨⟨false, false, rfl⟩, .nil⟩

theorem runs_track {config : PlaybackConfig} {first second : List (PlaybackStep β)}
    {left right : PlaybackState β × List (PlaybackEvent β)}
    (same : withoutOpenaiMutes first = withoutOpenaiMutes second)
    (leftReached : Runs.run (plainStep config) ({}, []) first = some left)
    (rightReached : Runs.run (plainStep config) ({}, []) second = some right) :
    Tracks left right := by
  refine Runs.run_paired Tracks ?_ ?_ ?_ tracks_initial same leftReached rightReached
  · intro plain other label next tracks hidden taken
    exact tracks_leftMute tracks hidden taken
  · intro plain other label reply tracks hidden answered
    exact tracks_rightMute tracks hidden answered
  · intro plain other label next reply tracks shown taken answered
    exact tracks_step tracks shown taken answered

/-- Taking the mutes out of a schedule leaves a schedule, unless a frame traps that was tossed. -/
theorem run_without_openai_mutes {config : PlaybackConfig} {labels : List (PlaybackStep β)}
    {final : PlaybackState β × List (PlaybackEvent β)}
    (frames : ∀ frame, .writeFrame frame ∈ labels → frame.Divisible)
    (reached : Runs.run (plainStep config) ({}, []) labels = some final) :
    ∃ never, Runs.run (plainStep config) ({}, []) (withoutOpenaiMutes labels) = some never := by
  have divisible : ∀ label ∈ labels, ∀ frame, label = .writeFrame frame → frame.Divisible := by
    rintro label member frame rfl
    exact frames frame member
  have met := @Runs.along_of_labels _ _ (plainStep config) _ _ divisible ({}, [])
  have erased : ∃ never, Runs.run (plainStep config) ({}, [])
      (Runs.visible (plainStep config) (fun _ label => label.isOpenaiMute) ({}, []) labels) =
        some never ∧ Tracks final never ∧ Divides never.1 := by
    refine Runs.run_erasing (fun plain never => Tracks plain never ∧ Divides never.1) ?_ ?_
      ⟨tracks_initial, by simp [Divides, CallFrame, WriteFramePc.call?]⟩ met reached
    · intro plain never label next held _ hidden taken
      exact ⟨tracks_leftMute held.1 hidden taken, held.2⟩
    · intro plain never label next held met shown taken
      obtain ⟨reply, answered⟩ := tracks_answers held.1 held.2 shown taken
      obtain ⟨state, events, rfl, moved⟩ := plainStep_transition answered
      exact ⟨_, answered, tracks_step held.1 shown taken answered,
        divides_transition moved met held.2⟩
  rw [Runs.visible_eq_filter reached] at erased
  obtain ⟨never, ran, -⟩ := erased
  exact ⟨never, ran⟩

def Untossed (plain : PlaybackState β × List (PlaybackEvent β)) : Prop :=
  plain.1.openaiAudioMuted = false ∧ ∀ bytes, .tossed bytes ∉ plain.2

theorem unmuted_tosses_nothing {config : PlaybackConfig} {state next : PlaybackState β}
    {label : PlaybackStep β} {events : List (PlaybackEvent β)}
    (unmuted : state.openaiAudioMuted = false) (shown : label.isOpenaiMute = false)
    (moved : PlaybackTransition config state label next events) :
    Untossed (next, events) := by
  unfold Untossed
  cases moved with
  | message located received => cases received <;> simp [unmuted, WsMessage.announcement]
  | setOpenaiMute mute => cases shown
  | clearSeen | emitted => cases state.openaiSpeaking <;> simp [unmuted]
  | tossed located call standing muted => simp [unmuted] at muted
  | _ => simp [unmuted]

theorem never_muted_tosses_nothing {config : PlaybackConfig} {labels : List (PlaybackStep β)}
    {never : PlaybackState β × List (PlaybackEvent β)}
    (ran : Runs.run (plainStep config) ({}, []) (withoutOpenaiMutes labels) = some never) :
    ∀ bytes, .tossed bytes ∉ never.2 := by
  have shown : ∀ label ∈ withoutOpenaiMutes labels, label.isOpenaiMute = false := by
    intro label member
    simpa [withoutOpenaiMutes] using (List.mem_filter.1 member).2
  have untossed : Untossed never := by
    refine Runs.along_invariant ?_ ⟨rfl, by simp⟩ (Runs.along_of_labels shown ({}, [])) ran
    intro plain label next held met taken
    obtain ⟨state, events, rfl, moved⟩ := plainStep_transition taken
    have outcome := unmuted_tosses_nothing held.1 met moved
    exact ⟨outcome.1, fun bytes => by simp [held.2 bytes, outcome.2 bytes]⟩
  exact untossed.2

theorem withoutOpenaiMutes_idem (labels : List (PlaybackStep β)) :
    withoutOpenaiMutes (withoutOpenaiMutes labels) = withoutOpenaiMutes labels := by
  simp [withoutOpenaiMutes]

theorem same_output_never_muted {config : PlaybackConfig} {labels : List (PlaybackStep β)}
    {plain never : PlaybackState β × List (PlaybackEvent β)}
    (reached : Runs.run (plainStep config) ({}, []) labels = some plain)
    (ran : Runs.run (plainStep config) ({}, []) (withoutOpenaiMutes labels) = some never) :
    List.Forall₂ SameOutput (outputs plain.2) (outputs never.2) := by
  have tracks := runs_track (withoutOpenaiMutes_idem labels).symm reached ran
  refine sameOutput_of_agree tracks.output fun bytes member => ?_
  exact never_muted_tosses_nothing ran bytes (List.mem_of_mem_filter member)

/-- Two runs that differ only in when OpenAI is muted have the same audio queued and
buffered, and each frame they write is the frame of the run never muted; that run does
not trap when every sample of a frame takes a byte. -/
theorem openai_mute_keeps_playback {config : PlaybackConfig} {first second : List (PlaybackStep β)}
    {left right : PlaybackState β × List (PlaybackEvent β)}
    (same : withoutOpenaiMutes first = withoutOpenaiMutes second)
    (leftReached : Runs.run (plainStep config) ({}, []) first = some left)
    (rightReached : Runs.run (plainStep config) ({}, []) second = some right) :
    left.1.audioQueue = right.1.audioQueue ∧
      left.1.playbackBuffer = right.1.playbackBuffer ∧
      left.1.playbackClearGenSeen = right.1.playbackClearGenSeen ∧
      left.1.closeRequested = right.1.closeRequested ∧
      List.Forall₂ OutputsAgree (outputs left.2) (outputs right.2) ∧
      (∀ never, Runs.run (plainStep config) ({}, []) (withoutOpenaiMutes first) = some never →
        List.Forall₂ SameOutput (outputs left.2) (outputs never.2) ∧
        List.Forall₂ SameOutput (outputs right.2) (outputs never.2)) ∧
      ((∀ frame, .writeFrame frame ∈ first → frame.Divisible) →
        ∃ never, Runs.run (plainStep config) ({}, []) (withoutOpenaiMutes first) = some never) := by
  have tracks := runs_track same leftReached rightReached
  obtain ⟨muted, speaking, flags⟩ := tracks.flags
  refine ⟨by rw [flags]; rfl, by rw [flags]; rfl, by rw [flags]; rfl, by rw [flags]; rfl,
    tracks.output, fun never ran => ⟨?_, ?_⟩, fun frames => ?_⟩
  · exact same_output_never_muted leftReached ran
  · exact same_output_never_muted rightReached (same ▸ ran)
  · exact run_without_openai_mutes frames leftReached

def muteSchedule (mute unmute : List (PlaybackStep Nat)) : List (PlaybackStep Nat) :=
  [.message true (.audioDelta [(1, 2), (3, 4)]), .webSocket, .webSocket] ++ mute ++
  [.writeFrame ⟨2, 1, 2⟩, .media true, .media true, .media true, .media true, .media true,
    .media true] ++ unmute ++
  [.writeFrame ⟨2, 1, 2⟩, .media true, .media true, .media true, .media true]

theorem openai_mute_keeps_playback_of_two :
    ∃ left right,
      Runs.run (plainStep ⟨8000, true⟩) ({}, [])
        (muteSchedule [.setOpenaiMute true] [.setOpenaiMute false]) = some left ∧
      Runs.run (plainStep ⟨8000, true⟩) ({}, []) (muteSchedule [] []) = some right ∧
      outputs left.2 = [.frameReplaced [3, 4] [.audio 3, .audio 4] 1, .tossed [1, 2]] ∧
      left.1.audioQueue = right.1.audioQueue ∧
      left.1.playbackBuffer = right.1.playbackBuffer ∧
      left.1.playbackClearGenSeen = right.1.playbackClearGenSeen ∧
      left.1.closeRequested = right.1.closeRequested ∧
      List.Forall₂ OutputsAgree (outputs left.2) (outputs right.2) ∧
      List.Forall₂ SameOutput (outputs left.2) (outputs right.2) := by
  have muted : ((Runs.run (plainStep ⟨8000, true⟩) ({}, [])
      (muteSchedule [.setOpenaiMute true] [.setOpenaiMute false])).any fun left =>
        decide (outputs left.2 =
          [.frameReplaced [3, 4] [.audio 3, .audio 4] 1, .tossed [1, 2]])) = true := by
    decide
  have audible : ((Runs.run (plainStep ⟨8000, true⟩) ({}, []) (muteSchedule [] [])).any
      fun _ => decide True) = true := by
    decide
  have bare : withoutOpenaiMutes (muteSchedule [.setOpenaiMute true] [.setOpenaiMute false]) =
      muteSchedule [] [] := by
    decide
  obtain ⟨left, leftReached, shown⟩ := Runs.exists_run muted
  obtain ⟨right, rightReached, _⟩ := Runs.exists_run audible
  obtain ⟨queue, buffer, seen, closed, agree, never, -⟩ :=
    openai_mute_keeps_playback (by decide) leftReached rightReached
  have beside := (never right (by rw [bare]; exact rightReached)).1
  exact ⟨left, right, leftReached, rightReached, shown, queue, buffer, seen, closed, agree, beside⟩

end

end OpenaiAudioStream
