import OpenaiAudioStream.PlaybackOrder

/-!
The media thread gets on: `write_frame` returns, whatever the WebSocket thread pushes
meanwhile, and once nothing more arrives a known number of calls plays what is left.
-/

namespace OpenaiAudioStream

section

variable {β : Type*}

/-! Every call returns. -/

@[simp] def PlaybackEvent.isCallStarted : PlaybackEvent β → Bool
  | .callStarted _ => true
  | _ => false

@[simp] def PlaybackEvent.chunks : PlaybackEvent β → Nat
  | .accepted bytes => numChunks (bytes.length / 2)
  | _ => 0

def calls (history : List (PlaybackEvent β)) : Nat := history.countP (·.isCallStarted)

def chunksPushed : List (PlaybackEvent β) → Nat
  | [] => 0
  | event :: older => event.chunks + chunksPushed older

theorem chunksPushed_append (newer older : List (PlaybackEvent β)) :
    chunksPushed (newer ++ older) = chunksPushed newer + chunksPushed older := by
  induction newer with
  | nil => simp [chunksPushed]
  | cons event newer ih => simp [chunksPushed, ih, Nat.add_assoc]

theorem chunksPushed_reverse (events : List (PlaybackEvent β)) :
    chunksPushed events.reverse = chunksPushed events := by
  induction events with
  | nil => rfl
  | cons event events ih => simp [chunksPushed, chunksPushed_append, ih, Nat.add_comm]

/-- The steps to the end of the call if no chunk is popped. -/
def WriteFramePc.rank : WriteFramePc β → Nat
  | .idle => 0
  | .consumePlaybackClear _ => 5
  | .snapshotTerminalClose _ => 4
  | .popChunk _ => 3
  | .writeChunk _ _ => 4
  | .drained _ => 2
  | .terminalCheck _ => 1
  | .output _ => 1

/-- Two more steps for every queued chunk. -/
def PlaybackState.rank (state : PlaybackState β) : Nat :=
  state.media.rank + 2 * state.audioQueue.chunks.length

theorem afterRefill_rank (call : WriteCall) : (afterRefill call : WriteFramePc β).rank ≤ 2 := by
  unfold afterRefill
  split <;> simp [WriteFramePc.rank]

theorem rechunkFrom_length {α : Type*} (audio : List α) (fuel offset : Nat) :
    (rechunkFrom audio fuel offset).length ≤ fuel := by
  induction fuel generalizing offset with
  | zero => simp [rechunkFrom]
  | succ fuel ih =>
      simp only [rechunkFrom]
      split
      · simpa using ih _
      · simp

theorem push_chunks_length (limit : Nat) (queue : AudioQueue β) {audio : List (Sample β)}
    (nonempty : audio ≠ []) :
    (queue.pushAudioQueue limit audio).chunks.length ≤
      queue.chunks.length + numChunks audio.length := by
  have some := List.length_pos_iff.2 nonempty
  unfold AudioQueue.pushAudioQueue
  split
  · simp only
    split
    · simp only [List.length_append, List.length_singleton, numChunks, maxAudioChunkSamples]
      omega
    · simpa [rechunk] using rechunkFrom_length audio (numChunks audio.length) 0
  · simp

theorem transition_rank {config : PlaybackConfig} {state next : PlaybackState β}
    {label : PlaybackStep β} {events : List (PlaybackEvent β)} (playing : Playing state)
    (moved : PlaybackTransition config state label next events) :
    (if label.isMedia then 1 else 0) + next.rank ≤
      state.rank + 5 * calls events + 2 * chunksPushed events := by
  unfold PlaybackState.rank
  cases moved with
  | clearQueue =>
      simp only [PlaybackStep.isMedia, AudioQueue.clearAudioQueue, List.length_nil]
      simp
      omega
  | pushAccepted audio rest found =>
      have longer := push_chunks_length (maxPlaybackQueueSamples config) state.audioQueue
        (playing.pushes audio (by simp [found]))
      have half : (sampleBytes audio).length / 2 = audio.length := by
        rw [sampleBytes_length, Nat.mul_div_cancel_left _ (by decide)]
      simp only [PlaybackStep.isMedia, chunksPushed, PlaybackEvent.chunks, half]
      simp
      omega
  | pushRejected audio rest found refused =>
      simp [PlaybackStep.isMedia, AudioQueue.pushAudioQueue, refused]
      omega
  | entered frame idle =>
      simp [PlaybackStep.isMedia, idle, WriteFramePc.rank, calls]
      omega
  | popped located call chunk rest standing _ found =>
      simp [PlaybackStep.isMedia, standing, WriteFramePc.rank, AudioQueue.pop_some found]
      omega
  | popEmpty located call standing | refilled located call standing =>
      have short := @afterRefill_rank β call
      have start : (WriteFramePc.popChunk call : WriteFramePc β).rank = 3 := rfl
      simp only [PlaybackStep.isMedia, standing, if_true]
      omega
  | dropped located call chunk standing =>
      have short := @afterRefill_rank β call
      have start : (WriteFramePc.writeChunk call chunk).rank = 4 := rfl
      simp only [PlaybackStep.isMedia, standing, if_true]
      omega
  | clearAbsent located call standing | clearSeen located call standing
  | snapshot located call standing | written located call chunk standing
  | drainedStop located call standing | drainedSilent located call standing
  | closeStream located call standing | keepStream located call standing
  | tossed located call standing | emitted located call standing =>
      simp only [PlaybackStep.isMedia, standing, WriteFramePc.rank, if_true]
      omega
  | _ =>
      simp only [PlaybackStep.isMedia]
      simp
      omega

theorem rank_idle {state : PlaybackState β} (none : state.rank = 0) : state.media = .idle := by
  cases standing : state.media with
  | idle => rfl
  | _ => simp [PlaybackState.rank, standing, WriteFramePc.rank] at none

variable {config : PlaybackConfig}

theorem media_transition_rank {state next : PlaybackState β} {located : Bool}
    {events : List (PlaybackEvent β)} (playing : Playing state)
    (moved : PlaybackTransition config state (.media located) next events) :
    next.rank < state.rank := by
  have bound := transition_rank playing moved
  have free : calls events = 0 ∧ chunksPushed events = 0 := by
    cases moved with
    | clearSeen | emitted => cases state.openaiSpeaking <;> simp [calls, chunksPushed]
    | _ => simp [calls, chunksPushed]
  simp only [PlaybackStep.isMedia, if_true, free.1, free.2] at bound
  omega

theorem rank_run {labels : List (PlaybackStep β)}
    {plain final : PlaybackState β × List (PlaybackEvent β)} (playing : Playing plain.1)
    (reached : Runs.run (plainStep config) plain labels = some final) :
    labels.countP (·.isMedia) + final.1.rank + 5 * calls plain.2 + 2 * chunksPushed plain.2 ≤
      plain.1.rank + 5 * calls final.2 + 2 * chunksPushed final.2 := by
  induction labels generalizing plain with
  | nil =>
      simp only [Runs.run_nil, Option.some.injEq] at reached
      simp [reached]
  | cons label rest ih =>
      obtain ⟨next, taken, later⟩ := Runs.run_cons_inv reached
      obtain ⟨state, events, rfl, moved⟩ := plainStep_transition taken
      have first := transition_rank playing moved
      have onward := ih (playing_transition playing moved) later
      simp only [calls, List.countP_append, List.countP_reverse, chunksPushed_append,
        chunksPushed_reverse, List.countP_cons] at first onward ⊢
      omega

theorem playing_run {labels : List (PlaybackStep β)}
    {final : PlaybackState β × List (PlaybackEvent β)}
    (reached : Runs.run (plainStep config) ({}, []) labels = some final) : Playing final.1 := by
  refine @Runs.run_invariant _ _ (plainStep config) (fun plain => Playing plain.1) ?_
    labels ({}, []) final playing_initial reached
  intro before label after held taken
  obtain ⟨state, events, rfl, moved⟩ := plainStep_transition taken
  exact playing_transition held moved

theorem divides_run {labels : List (PlaybackStep β)}
    {final : PlaybackState β × List (PlaybackEvent β)}
    (frames : ∀ frame, .writeFrame frame ∈ labels → frame.Divisible)
    (reached : Runs.run (plainStep config) ({}, []) labels = some final) : Divides final.1 := by
  have met : ∀ label ∈ labels, ∀ frame, label = .writeFrame frame → frame.Divisible := by
    rintro label member frame rfl
    exact frames frame member
  refine @Runs.along_invariant _ _ (plainStep config) _ (fun plain => Divides plain.1) ?_
    labels ({}, []) final (by simp [Divides, CallFrame, WriteFramePc.call?])
    (Runs.along_of_labels met _) reached
  intro before label after held condition taken
  obtain ⟨state, events, rfl, moved⟩ := plainStep_transition taken
  exact divides_transition moved condition held

theorem plain_media_enabled {plain : PlaybackState β × List (PlaybackEvent β)}
    (divides : Divides plain.1) (running : plain.1.media ≠ .idle) (located : Bool) :
    (plainStep config plain (.media located)).isSome = true := by
  simpa [plainStep, playbackStep] using mediaStep_enabled config located divides running

theorem call_runs_out {plain : PlaybackState β × List (PlaybackEvent β)} (playing : Playing plain.1)
    (divides : Divides plain.1) (located : Bool) :
    ∃ steps after, Runs.run (plainStep config) plain (List.replicate steps (.media located)) =
      some after ∧ steps ≤ plain.1.rank ∧ after.1.media = .idle := by
  generalize rank : plain.1.rank = bound
  induction bound using Nat.strongRecOn generalizing plain with
  | ind bound ih =>
      by_cases idle : plain.1.media = .idle
      · exact ⟨0, plain, rfl, by omega, idle⟩
      · obtain ⟨next, taken⟩ := Option.isSome_iff_exists.1
          (@plain_media_enabled _ config _ divides idle located)
        obtain ⟨state, events, rfl, moved⟩ := plainStep_transition taken
        have lower : state.rank < bound := rank ▸ media_transition_rank playing moved
        have still := divides_transition moved (fun frame same => by cases same) divides
        obtain ⟨steps, after, ran, short, ended⟩ := @ih state.rank lower
          (state, events.reverse ++ plain.2) (playing_transition playing moved) still rfl
        refine ⟨steps + 1, after, ?_, by omega, ended⟩
        rw [List.replicate_succ, Runs.run, taken]
        exact ran

/-- `write_frame` never waits, and on frames with a byte or more for each sample it always
returns: in every run its steps are paid for by the calls and by the chunks that were pushed,
from every state on the media thread is idle once it took the steps that are left to it, and
it can take them. -/
theorem write_frame_returns {labels : List (PlaybackStep β)}
    {final : PlaybackState β × List (PlaybackEvent β)}
    (frames : ∀ frame, .writeFrame frame ∈ labels → frame.Divisible)
    (reached : Runs.run (plainStep config) ({}, []) labels = some final) :
    labels.countP (·.isMedia) + final.1.rank ≤ 5 * calls final.2 + 2 * chunksPushed final.2 ∧
      (final.1.media ≠ .idle → ∀ located,
        (plainStep config final (.media located)).isSome = true) ∧
      (∀ later after, Runs.run (plainStep config) final later = some after →
        final.1.rank + 5 * (calls after.2 - calls final.2) +
            2 * (chunksPushed after.2 - chunksPushed final.2) ≤ later.countP (·.isMedia) →
        after.1.media = .idle) ∧
      ∀ located, ∃ steps after,
        Runs.run (plainStep config) final (List.replicate steps (.media located)) = some after ∧
          steps ≤ final.1.rank ∧ after.1.media = .idle := by
  have playing := playing_run reached
  have divides := divides_run frames reached
  refine ⟨?_, ?_, ?_, ?_⟩
  · have bound := rank_run playing_initial reached
    simpa [calls, chunksPushed, PlaybackState.rank, WriteFramePc.rank] using bound
  · intro running located
    exact plain_media_enabled divides running located
  · intro later after ran enough
    have bound := rank_run playing ran
    apply rank_idle
    omega
  · intro located
    exact call_runs_out playing divides located

def threeSamples : List (PlaybackStep Nat) :=
  [.message true (.audioDelta [(1, 2), (3, 4), (5, 6)]), .webSocket, .webSocket,
    .message true .audioDone, .webSocket]

def threeCalls : List (PlaybackStep Nat) :=
  [6, 4, 5].flatMap fun steps =>
    .writeFrame ⟨4, 2, 8192⟩ :: List.replicate steps (.media true)

theorem threeSamples_runs :
    ∃ plain, Runs.run (plainStep ⟨8000, true⟩) ({}, []) threeSamples = some plain ∧
      (plain.1.media = .idle ∧ plain.1.handler = [] ∧ plain.1.audioPaused = false ∧
        plain.1.playbackClearGen = plain.1.playbackClearGenSeen ∧
        pending plain.1 = [1, 2, 3, 4, 5, 6] ∧ consumed plain.2 = []) ∧
      ((Runs.run (plainStep ⟨8000, true⟩) plain threeCalls).any fun final =>
        decide (final.1.media = .idle)) = true :=
  Runs.exists_run (by decide)

def insideCall : List (PlaybackStep Nat) := threeSamples ++ threeCalls.take 3

theorem write_frame_returns_insideCall :
    ∃ plain, Runs.run (plainStep ⟨8000, true⟩) ({}, []) insideCall = some plain ∧
      plain.1.media ≠ .idle ∧ insideCall.countP (·.isMedia) = 2 ∧
      2 + plain.1.rank ≤ 5 * calls plain.2 + 2 * chunksPushed plain.2 ∧
      (plainStep ⟨8000, true⟩ plain (.media true)).isSome = true ∧
      ∃ steps after, Runs.run (plainStep ⟨8000, true⟩) plain
        (List.replicate steps (.media true)) = some after ∧
          steps ≤ plain.1.rank ∧ after.1.media = .idle := by
  have inside : ((Runs.run (plainStep ⟨8000, true⟩) ({}, []) insideCall).any fun plain =>
      decide (plain.1.media ≠ .idle)) = true := by
    decide
  have frames : ∀ frame, .writeFrame frame ∈ insideCall → frame.Divisible := by
    intro frame member
    have same : frame = ⟨4, 2, 8192⟩ := by
      simpa [insideCall, threeSamples, threeCalls] using member
    rw [same]
    decide
  obtain ⟨plain, reached, running⟩ := Runs.exists_run inside
  obtain ⟨paid, enabled, -, ends⟩ := write_frame_returns frames reached
  exact ⟨plain, reached, running, by decide, paid, enabled running true, ends true⟩

/-! Once nothing more arrives. -/

@[simp] def PlaybackStep.spends : PlaybackStep β → Nat
  | .writeFrame _ => 1
  | _ => 0

/-- What the media thread and the commands do while no message comes in; every frame takes
`size` bytes or more. -/
def PlaybackStep.Draining (size : Nat) : PlaybackStep β → Prop
  | .message _ _ => False
  | .pauseresume pause => pause = false
  | .writeFrame frame => frame.samples ≠ 0 ∧ size ≤ frame.bytesNeeded ∧ SmallFrame frame
  | _ => True

/-- Nothing is left to play, a finished response was stopped and a terminal close was acted on. -/
structure Settled (state : PlaybackState β) : Prop where
  played : pending state = []
  stopped : state.responseAudioDone = true → state.openaiSpeaking = false
  closed : state.terminalClose = true → state.closeRequested = true

/-- The next `left` calls are enough, and so is the running one with them. -/
def Due (size left : Nat) (state : PlaybackState β) : Prop :=
  match state.media with
  | .idle => (pending state).length + size ≤ left * size ∨ Settled state
  | .consumePlaybackClear call =>
      (pending state).length ≤ left * size ∧ call.chunkEnqueued = false
  | .snapshotTerminalClose call =>
      (pending state).length ≤ left * size ∧ call.chunkEnqueued = false
  | .popChunk call =>
      (pending state).length ≤ left * size ∧ call.terminalClose = state.terminalClose ∧
        (call.chunkEnqueued = true → state.playbackBuffer.contents ≠ [])
  | .writeChunk call _ =>
      (pending state).length ≤ left * size ∧ call.terminalClose = state.terminalClose ∧
        (call.chunkEnqueued = true → state.playbackBuffer.contents ≠ [])
  | .drained call => pending state = [] ∧ call.terminalClose = state.terminalClose
  | .terminalCheck call => pending state = [] ∧ call.terminalClose = state.terminalClose ∧
      (state.responseAudioDone = true → state.openaiSpeaking = false)
  | .output call =>
      (pending state).length ≤ left * size ∧ state.playbackBuffer.contents ≠ [] ∧
        (call.frame.bytesNeeded ≤ call.inuse ∨ state.audioQueue.bytes = [])

structure DueQuietly (size left : Nat) (state : PlaybackState β) : Prop where
  playing : Playing state
  quiet : state.handler = []
  resumed : state.audioPaused = false
  frames : CallFrame (fun frame => size ≤ frame.bytesNeeded ∧ SmallFrame frame) state
  due : Due size left state

theorem due_afterRefill {size left : Nat} {state : PlaybackState β} {call : WriteCall}
    (bound : (pending state).length ≤ left * size)
    (terminal : call.terminalClose = state.terminalClose)
    (level : call.inuse = state.playbackBuffer.inuse)
    (elsewhere : state.media.chunkBytes = [])
    (enqueued : call.chunkEnqueued = true → state.playbackBuffer.contents ≠ [])
    (refilled : call.frame.bytesNeeded ≤ call.inuse ∧ call.inuse ≠ 0 ∨
      state.audioQueue.bytes = []) :
    Due size left { state with media := afterRefill call } := by
  have same (media : WriteFramePc β) (none : media.chunkBytes = []) :
      pending { state with media := media } = pending state := by
    simp [pending, elsewhere, none]
  unfold afterRefill
  split
  · next empty =>
    simp only [Bool.and_eq_true, Bool.not_eq_true', beq_iff_eq] at empty
    rcases refilled with ⟨-, some⟩ | none
    · exact absurd empty.2 some
    · refine ⟨?_, terminal⟩
      rw [empty.2, BoundedFifo.inuse, eq_comm, List.length_eq_zero_iff] at level
      rw [same _ rfl]
      simp [pending, level, elsewhere, none]
  · next busy =>
    refine ⟨by rw [same _ rfl]; exact bound, fun none => ?_, refilled.imp_left And.left⟩
    simp only [Bool.and_eq_true, Bool.not_eq_true', beq_iff_eq, not_and] at busy
    have level : call.inuse = 0 := by rw [level, BoundedFifo.inuse, none, List.length_nil]
    cases flag : call.chunkEnqueued with
    | false => exact busy flag level
    | true => exact enqueued flag none

theorem due_output {size left : Nat} {state : PlaybackState β} {call : WriteCall}
    (due : Due size left state) (standing : state.media = .output call)
    (level : call.inuse = state.playbackBuffer.inuse) (large : size ≤ call.frame.bytesNeeded) :
    (state.playbackBuffer.contents.drop call.outputSize ++ state.audioQueue.bytes).length + size ≤
      left * size := by
  simp only [Due, standing] at due
  obtain ⟨bound, some, refilled⟩ := due
  have occupied := List.length_pos_iff.2 some
  simp only [BoundedFifo.inuse] at level
  simp only [pending, standing, List.length_append, WriteFramePc.chunkBytes, List.length_nil]
    at bound
  simp only [List.length_append, List.length_drop, WriteCall.outputSize]
  have calls : size ≤ left * size := by
    apply Nat.le_mul_of_pos_left
    apply Nat.pos_of_ne_zero
    rintro rfl
    omega
  rcases refilled with enough | none
  · split <;> omega
  · have queue := congrArg List.length none
    rw [List.length_nil] at queue
    split <;> omega

theorem Due.kept {size left : Nat} {state next : PlaybackState β} (due : Due size left state)
    (media : next.media = state.media) (audio : pending next = pending state)
    (queue : next.audioQueue = state.audioQueue)
    (buffer : next.playbackBuffer = state.playbackBuffer)
    (speaking : next.openaiSpeaking = state.openaiSpeaking)
    (done : next.responseAudioDone = state.responseAudioDone)
    (terminal : next.terminalClose = state.terminalClose)
    (closed : next.closeRequested = state.closeRequested) : Due size left next := by
  have settled : Settled state → Settled next := fun settled =>
    ⟨audio.trans settled.played, by rw [done, speaking]; exact settled.stopped,
      by rw [terminal, closed]; exact settled.closed⟩
  unfold Due at due ⊢
  rw [media, audio, queue, buffer, speaking, done, terminal]
  generalize state.media = standing at due ⊢
  cases standing with
  | idle => exact due.imp_right settled
  | _ => exact due

theorem due_transition {size left : Nat} {state next : PlaybackState β} {label : PlaybackStep β}
    {events : List (PlaybackEvent β)} (positive : 0 < size) (held : DueQuietly size left state)
    (draining : label.Draining size)
    (entered : label.spends = 1 → next.media ≠ .idle)
    (moved : PlaybackTransition config state label next events) :
    DueQuietly size (left - label.spends) next := by
  obtain ⟨playing, quiet, resumed, frames, due⟩ := held
  have still := playing_transition playing moved
  have consistent := playing.call
  have whole := small_frame_never_drops playing (fun call found => (frames call found).2) moved
  have later : CallFrame (fun frame => size ≤ frame.bytesNeeded ∧ SmallFrame frame) next := by
    refine callFrame_transition moved ?_ frames
    rintro frame rfl - -
    exact draining.2
  cases moved with
  | message => exact draining.elim
  | clearQueue rest found | requestClear rest found | storeDone done rest found
  | pushAccepted audio rest found | pushRejected audio rest found | storeTerminal rest found
  | requestClose rest found => simp [quiet] at found
  | pauseresume pause =>
      exact ⟨still, quiet, draining, later, due.kept rfl rfl rfl rfl rfl rfl rfl rfl⟩
  | setOpenaiMute mute =>
      exact ⟨still, quiet, resumed, later, due.kept rfl rfl rfl rfl rfl rfl rfl rfl⟩
  | skipped frame idle => exact absurd idle (entered rfl)
  | entered frame idle =>
      refine ⟨still, quiet, resumed, later, ?_, rfl⟩
      have bound : (pending state).length ≤ (left - 1) * size := by
        simp only [Due, idle] at due
        rw [Nat.sub_mul, Nat.one_mul]
        rcases due with enough | settled
        · omega
        · simp [settled.played]
      simpa [pending, idle] using bound
  | clearAbsent located call standing =>
      refine ⟨still, quiet, resumed, later, ?_⟩
      simp only [Due, standing] at due
      simpa [Due, pending, standing] using due
  | clearSeen located call standing =>
      simp only [Due, standing] at due
      refine ⟨still, quiet, resumed, later, Nat.le_trans ?_ due.1, due.2⟩
      simp [pending, standing]
  | snapshot located call standing =>
      simp only [Due, standing] at due
      refine ⟨still, quiet, resumed, later, ?_, rfl, by simp [due.2]⟩
      simpa [pending, standing] using due.1
  | popEmpty located call standing _ none =>
      simp only [Due, standing] at due
      simp only [CallConsistent, standing] at consistent
      obtain ⟨bound, terminal, enqueued⟩ := due
      exact ⟨still, quiet, resumed, later, due_afterRefill bound terminal consistent
        (by simp [standing]) enqueued (.inr (by simp [AudioQueue.bytes_eq_nil none]))⟩
  | popped located call chunk rest standing low found =>
      simp only [Due, standing] at due
      refine ⟨still, quiet, resumed, later, ?_, due.2⟩
      simpa [pending, standing, AudioQueue.pop_bytes found] using due.1
  | refilled located call standing high =>
      simp only [Due, standing] at due
      simp only [CallConsistent, standing] at consistent
      obtain ⟨bound, terminal, enqueued⟩ := due
      obtain ⟨large, small⟩ := frames _ (by rw [standing]; rfl)
      -- twice a small frame does not wrap
      have threshold : call.frame.refillThreshold = call.frame.bytesNeeded * 2 := by
        simp only [SmallFrame, maxFrameBytes] at small
        simp only [WriteFrame.refillThreshold]
        omega
      exact ⟨still, quiet, resumed, later, due_afterRefill bound terminal consistent
        (by simp [standing]) enqueued (.inl (by omega))⟩
  | written located call chunk standing some =>
      simp only [Due, standing] at due
      have contents := BoundedFifo.write_contents (BoundedFifo.fits_of_written some)
      refine ⟨still, quiet, resumed, later, ?_, due.2.1, fun _ => ?_⟩
      · simpa [pending, standing, contents] using due.1
      · simp only [CallConsistent, standing] at consistent
        obtain ⟨sample, rest, same⟩ := List.exists_cons_of_ne_nil consistent.2.2.1
        simp only [contents]
        simp [same]
  | dropped located call chunk standing => exact absurd (by simp) (whole (sampleBytes chunk))
  | drainedStop located call standing speaking done =>
      simp only [Due, standing] at due
      refine ⟨still, quiet, resumed, later, ?_, due.2, fun _ => rfl⟩
      simpa [pending, standing] using due.1
  | drainedSilent located call standing unfinished =>
      simp only [Due, standing] at due
      refine ⟨still, quiet, resumed, later, ?_, due.2, fun done => ?_⟩
      · simpa [pending, standing] using due.1
      · cases speaking : state.openaiSpeaking with
        | false => rfl
        | true => exact absurd ⟨speaking, done⟩ unfinished
  | closeStream located call standing terminal =>
      simp only [Due, standing] at due
      refine ⟨still, quiet, resumed, later, .inr ⟨?_, due.2.2, fun _ => rfl⟩⟩
      simpa [pending, standing] using due.1
  | keepStream located call standing kept =>
      simp only [Due, standing] at due
      refine ⟨still, quiet, resumed, later, .inr ⟨?_, due.2.2, fun terminal => ?_⟩⟩
      · simpa [pending, standing] using due.1
      · exact absurd (due.2.1.trans terminal) (by simp [kept])
  | tossed located call standing | emitted located call standing =>
      simp only [CallConsistent, standing] at consistent
      obtain ⟨large, -⟩ := frames _ (by rw [standing]; rfl)
      refine ⟨still, quiet, resumed, later, .inl ?_⟩
      simpa [pending] using due_output due standing consistent large

def callsBegun : List (PlaybackStep β) → Nat
  | [] => 0
  | label :: rest => label.spends + callsBegun rest

theorem writeFrame_enters {size : Nat} {state next : PlaybackState β} {label : PlaybackStep β}
    {events : List (PlaybackEvent β)} (positive : 0 < size) (resumed : state.audioPaused = false)
    (draining : label.Draining size) (taken : playbackStep config state label = some (next, events))
    (begins : label.spends = 1) : next.media ≠ .idle := by
  cases label with
  | writeFrame frame =>
      obtain ⟨samples, large, -⟩ := draining
      have datalen : frame.datalen ≠ 0 := by
        rw [bytesNeeded_eq] at large
        omega
      simp only [playbackStep] at taken
      split at taken
      · rw [enterWriteFrame, if_neg (by simp [resumed, samples, datalen])] at taken
        cases taken
        simp
      · cases taken
  | _ => cases begins

theorem draining_rejects {size : Nat} {state next : PlaybackState β} {label : PlaybackStep β}
    {events : List (PlaybackEvent β)} (quiet : state.handler = []) (draining : label.Draining size)
    (moved : PlaybackTransition config state label next events) : .rejected ∉ events := by
  cases moved with
  | message => exact draining.elim
  | pushRejected audio rest found => simp [quiet] at found
  | clearSeen | emitted => cases state.openaiSpeaking <;> simp
  | _ => simp

theorem due_run {size left : Nat} {labels : List (PlaybackStep β)}
    {plain final : PlaybackState β × List (PlaybackEvent β)} (positive : 0 < size)
    (held : DueQuietly size left plain.1) (draining : ∀ label ∈ labels, label.Draining size)
    (reached : Runs.run (plainStep config) plain labels = some final) :
    DueQuietly size (left - callsBegun labels) final.1 ∧
      ∃ newer, final.2 = newer ++ plain.2 ∧ .rejected ∉ newer := by
  induction labels generalizing plain left with
  | nil =>
      simp only [Runs.run_nil, Option.some.injEq] at reached
      subst reached
      exact ⟨held, [], rfl, by simp⟩
  | cons label rest ih =>
      obtain ⟨after, taken, later⟩ := Runs.run_cons_inv reached
      obtain ⟨⟨state, events⟩, moved, rfl⟩ := Option.map_eq_some_iff.1 taken
      have draws := draining label (by simp)
      have next := due_transition positive held draws
        (writeFrame_enters positive held.resumed draws moved) (playbackStep_transition moved)
      obtain ⟨onward, newer, grown, kept⟩ :=
        ih next (fun other member => draining other (by simp [member])) later
      have refuses := draining_rejects held.quiet draws (playbackStep_transition moved)
      refine ⟨?_, newer ++ events.reverse, ?_, ?_⟩
      · rw [Nat.sub_sub] at onward
        exact onward
      · rw [grown, List.append_assoc]
      · simp [kept, refuses]

theorem draining_harmless {size : Nat} {label : PlaybackStep β} (draining : label.Draining size) :
    label.Harmless := by
  cases label with
  | message located received => exact draining.elim
  | writeFrame frame =>
      refine ⟨rfl, ?_⟩
      rintro other ⟨⟩
      exact draining.2.2
  | _ => exact ⟨rfl, by simp⟩

theorem draining_arriving {size : Nat} {labels : List (PlaybackStep β)}
    (draining : ∀ label ∈ labels, label.Draining size) :
    labels.flatMap (PlaybackStep.arriving config) = [] := by
  rw [List.flatMap_eq_nil_iff]
  intro label member
  have draws := draining label member
  cases label with
  | message located received => exact draws.elim
  | _ => rfl

/-- Once the handler of the last message has run, as many calls as the pending audio has frames,
and one more, play it all in order, end a response that is done and act on a terminal close,
however the commands of the other leg come in between. -/
theorem playback_settles {size : Nat} {earlier labels : List (PlaybackStep β)}
    {plain final : PlaybackState β × List (PlaybackEvent β)}
    (reached : Runs.run (plainStep config) ({}, []) earlier = some plain)
    (idle : plain.1.media = .idle) (quiet : plain.1.handler = [])
    (resumed : plain.1.audioPaused = false) (positive : 0 < size)
    (draining : ∀ label ∈ labels, label.Draining size)
    (enough : (pending plain.1).length + size ≤ callsBegun labels * size)
    (later : Runs.run (plainStep config) plain labels = some final)
    (returned : final.1.media = .idle) :
    Settled final.1 ∧ (plain.1.playbackClearGen = plain.1.playbackClearGenSeen →
      consumed final.2 = consumed plain.2 ++ pending plain.1) := by
  have playing := playing_run reached
  have frames (condition : WriteFrame → Prop) : CallFrame condition plain.1 := by
    simp [CallFrame, idle, WriteFramePc.call?]
  have due : Due size (callsBegun labels) plain.1 := by
    simp only [Due, idle]
    exact .inl enough
  obtain ⟨held, newer, grown, kept⟩ :=
    due_run positive ⟨playing, quiet, resumed, frames _, due⟩ draining later
  have settled : Settled final.1 := by
    have outcome := held.due
    simp only [Due, returned, Nat.sub_self] at outcome
    exact outcome.resolve_left (by omega)
  refine ⟨settled, fun calm => ?_⟩
  have lossless : Lossless plain.1 := ⟨playing, frames _, calm, by simp [quiet]⟩
  have order := plain_run_lossless lossless
    (fun label member => draining_harmless (draining label member)) grown kept later
  rw [draining_arriving draining] at order
  simpa [audioOf, PlaybackState.unplayed, PlaybackState.handed, held.quiet, quiet,
    settled.played] using order

theorem playback_settles_threeSamples :
    ∃ plain final, Runs.run (plainStep ⟨8000, true⟩) ({}, []) threeSamples = some plain ∧
      Runs.run (plainStep ⟨8000, true⟩) plain threeCalls = some final ∧
      Settled final.1 ∧ consumed final.2 = [1, 2, 3, 4, 5, 6] := by
  obtain ⟨plain, reached, ⟨idle, quiet, resumed, calm, audio, fresh⟩, continues⟩ :=
    threeSamples_runs
  obtain ⟨final, later, returned⟩ := Runs.exists_run continues
  have draining : ∀ label ∈ threeCalls, label.Draining 4 := by
    intro label member
    obtain ⟨steps, -, inside⟩ := List.mem_flatMap.1 member
    rcases List.mem_cons.1 inside with rfl | media
    · exact ⟨by decide, by decide, by decide⟩
    · rw [List.eq_of_mem_replicate media]
      trivial
  have enough : (pending plain.1).length + 4 ≤ callsBegun threeCalls * 4 := by
    rw [audio]
    decide
  obtain ⟨settled, order⟩ := playback_settles reached idle quiet resumed (by decide) draining enough
    later returned
  refine ⟨plain, final, reached, later, settled, ?_⟩
  rw [order calm, audio, fresh]
  rfl

end

end OpenaiAudioStream
