import OpenaiAudioStream.Ledger
import OpenaiAudioStream.LifecycleTeardown

/-!
What a stream allocates and starts: by `stream_session_init`, with every way it fails
halfway, by `switch_core_media_bug_add` and `stream_session_start`; and how `finish`,
`destroy_tech_pvt` and the `AudioStreamer` destructor give it back. Buffers and `private_t`
itself are in the memory pool of the session.
-/

namespace OpenaiAudioStream

open Ledger Runs

inductive StreamResource where
  | audioStreamer
  | webSocketThread
  | playbackResampler
  | streamBuffers
  | mutex
  | resampler
  | mediaBug
  deriving DecidableEq, Repr

/-- The threads that may reach a resource, by their callbacks, and the object it is part of. -/
def StreamResource.users : StreamResource → List StreamResource
  | .audioStreamer => [.webSocketThread, .mediaBug, .playbackResampler]
  | .playbackResampler => [.webSocketThread]
  | .streamBuffers => [.mediaBug]
  | .mutex => [.mediaBug]
  | .resampler => [.mediaBug]
  | .webSocketThread => []
  | .mediaBug => []

abbrev ResourceEntry : Type := Entry StreamResource

abbrev ContextEntry : Type := Entry (Nat × StreamResource)

/-- The members of `private_t` and of its `AudioStreamer` that own something; a null
pointer is false. -/
structure StreamData where
  pAudioStreamer : Bool := false
  started : Bool := false
  playbackResampler : Bool := false
  streamBuffers : Bool := false
  mutex : Bool := false
  resampler : Bool := false
  deriving DecidableEq, Repr

/-- What the calls in `stream_session_init` answer. -/
structure SessionInit where
  -- the extra headers and the allocation of `private_t`
  prepared : Bool
  playbackBuffer : Bool
  -- the constructor does not throw
  audioStreamer : Bool
  -- the playback rates differ and Speex accepts them
  playbackResampler : Bool
  streamBuffers : Bool
  mutex : Bool
  sbuffer : Bool
  -- none if no resampling is needed
  resampler : Option Bool
  deriving DecidableEq, Repr

structure InitOutcome where
  success : Bool
  data : StreamData
  entries : List ResourceEntry

def streamDataInit (init : SessionInit) : InitOutcome :=
  if !init.playbackBuffer then ⟨false, {}, []⟩
  else if !init.audioStreamer then ⟨false, {}, []⟩
  else
    let data : StreamData :=
      { pAudioStreamer := true, playbackResampler := init.playbackResampler }
    let entries := .acquired .audioStreamer ::
      if init.playbackResampler then [.acquired .playbackResampler] else []
    if !init.streamBuffers then ⟨false, data, entries⟩
    else
      let data := { data with streamBuffers := true }
      let entries := entries ++ [.acquired .streamBuffers]
      if !init.mutex then ⟨false, data, entries⟩
      else
        let data := { data with mutex := true }
        let entries := entries ++ [.acquired .mutex]
        if !init.sbuffer then ⟨false, data, entries⟩
        else
          match init.resampler with
          | none => ⟨true, data, entries⟩
          | some false => ⟨false, data, entries⟩
          | some true =>
              ⟨true, { data with resampler := true }, entries ++ [.acquired .resampler]⟩

def disconnect (data : StreamData) : StreamData × List ResourceEntry :=
  ({ data with started := false }, if data.started then [.released .webSocketThread] else [])

def deleteStreamer (data : StreamData) : StreamData × List ResourceEntry :=
  let stopped := disconnect data
  ({ stopped.1 with playbackResampler := false },
    stopped.2 ++ (if stopped.1.playbackResampler then [.released .playbackResampler] else []) ++
      [.released .audioStreamer])

def finishStream (data : StreamData) : StreamData × List ResourceEntry :=
  if data.pAudioStreamer then
    let stopped := disconnect { data with pAudioStreamer := false }
    let deleted := deleteStreamer stopped.1
    -- `disconnect`, `deleteFiles` and the destructor
    (deleted.1, .used .audioStreamer :: stopped.2 ++ .used .audioStreamer :: deleted.2)
  else (data, [])

def destroyTechPvt (data : StreamData) : StreamData × List ResourceEntry :=
  let streamer :=
    if data.pAudioStreamer then
      let stopped := disconnect data
      let deleted := deleteStreamer stopped.1
      ({ deleted.1 with pAudioStreamer := false }, .used .audioStreamer :: stopped.2 ++ deleted.2)
    else (data, [])
  let members :=
    (if data.resampler then [.released .resampler] else []) ++
      (if data.mutex then [.released .mutex] else []) ++
      (if data.streamBuffers then [.released .streamBuffers] else [])
  ({ streamer.1 with resampler := false, mutex := false, streamBuffers := false },
    streamer.2 ++ members)

def streamSessionInit (init : SessionInit) : InitOutcome :=
  if !init.prepared then ⟨false, {}, []⟩
  else
    let outcome := streamDataInit init
    if outcome.success then outcome
    else
      let destroyed := destroyTechPvt outcome.data
      ⟨false, destroyed.1, outcome.entries ++ destroyed.2⟩

def StreamData.holds (data : StreamData) (phase : BugPhase) : StreamResource → Bool
  | .audioStreamer => data.pAudioStreamer
  | .webSocketThread => data.started
  | .playbackResampler => data.playbackResampler
  | .streamBuffers => data.streamBuffers
  | .mutex => data.mutex
  | .resampler => data.resampler
  | .mediaBug => !phase.quiet

structure StreamData.Consistent (data : StreamData) : Prop where
  started : data.started = true → data.pAudioStreamer = true
  playbackResampler : data.playbackResampler = true → data.pAudioStreamer = true

section

variable {data : StreamData} {phase : BugPhase}

theorem holds_nothing (quiet : phase.quiet = true) :
    StreamData.holds {} phase = fun _ => false := by
  funext resource
  cases resource with
  | mediaBug => simp [StreamData.holds, quiet]
  | _ => rfl

theorem disconnect_run {owned : StreamResource → Bool}
    (thread : owned .webSocketThread = data.started) :
    run (post StreamResource.users) owned (disconnect data).2 =
      some (Function.update owned .webSocketThread false) :=
  run_released_if thread (List.forall_mem_nil _)

theorem deleteStreamer_run {owned : StreamResource → Bool}
    (streamer : owned .audioStreamer = true) (thread : owned .webSocketThread = data.started)
    (resampler : owned .playbackResampler = data.playbackResampler)
    (unlinked : owned .mediaBug = false) :
    run (post StreamResource.users) owned (deleteStreamer data).2 =
      some (Function.update (Function.update (Function.update owned .webSocketThread false)
        .playbackResampler false) .audioStreamer false) := by
  refine run_append (run_append (disconnect_run thread) (run_released_if resampler ?_)) ?_
  · simp [StreamResource.users]
  · simp [run, post, StreamResource.users, streamer, unlinked]

theorem finishStream_run (quiet : phase.quiet = true) :
    run (post StreamResource.users) (data.holds phase) (finishStream data).2 =
      some ((finishStream data).1.holds phase) := by
  by_cases streamer : data.pAudioStreamer = true
  · simp only [finishStream, if_pos streamer]
    refine run_append (run_use streamer (disconnect_run rfl)) (run_use streamer ?_)
    refine (deleteStreamer_run streamer rfl rfl (by simp [StreamData.holds, quiet])).trans ?_
    refine congrArg some (funext fun resource => ?_)
    cases resource <;> rfl
  · simp only [finishStream, if_neg streamer]
    rfl

theorem destroyTechPvt_members {owned : StreamResource → Bool}
    (resampler : owned .resampler = data.resampler) (mutex : owned .mutex = data.mutex)
    (streamBuffers : owned .streamBuffers = data.streamBuffers)
    (others : ∀ resource, resource ∉ [.resampler, .mutex, .streamBuffers] →
      owned resource = false) :
    run (post StreamResource.users) owned
      ((if data.resampler then [.released .resampler] else []) ++
        (if data.mutex then [.released .mutex] else []) ++
        (if data.streamBuffers then [.released .streamBuffers] else [])) = some fun _ => false := by
  have unlinked : owned .mediaBug = false := others .mediaBug (by decide)
  have empty : (fun _ => false) = Function.update (Function.update (Function.update owned
      .resampler false) .mutex false) .streamBuffers false := by
    funext resource
    cases resource with
    | resampler | mutex | streamBuffers => rfl
    | _ => exact (others _ (by decide)).symm
  rw [empty]
  refine run_append (run_append (run_released_if resampler ?_) (run_released_if mutex ?_))
    (run_released_if streamBuffers ?_)
  all_goals simp [StreamResource.users, unlinked]

theorem destroyTechPvt_run (consistent : data.Consistent) (quiet : phase.quiet = true) :
    run (post StreamResource.users) (data.holds phase) (destroyTechPvt data).2 =
      some fun _ => false := by
  have unlinked : data.holds phase .mediaBug = false := by simp [StreamData.holds, quiet]
  simp only [destroyTechPvt]
  by_cases streamer : data.pAudioStreamer = true
  · simp only [if_pos streamer]
    refine run_append (run_append (run_use streamer (disconnect_run rfl))
      (deleteStreamer_run streamer rfl rfl unlinked)) (destroyTechPvt_members rfl rfl rfl ?_)
    intro resource other
    cases resource with
    | mediaBug => exact unlinked
    | resampler | mutex | streamBuffers => simp at other
    | _ => rfl
  · simp only [if_neg streamer, List.nil_append]
    refine destroyTechPvt_members rfl rfl rfl fun resource other => ?_
    cases resource with
    | mediaBug => exact unlinked
    | audioStreamer => simpa [StreamData.holds] using streamer
    | webSocketThread => simpa [StreamData.holds] using mt consistent.started streamer
    | playbackResampler => simpa [StreamData.holds] using mt consistent.playbackResampler streamer
    | resampler | mutex | streamBuffers => simp at other

theorem destroyTechPvt_empty (consistent : data.Consistent) : (destroyTechPvt data).1 = {} := by
  simp only [destroyTechPvt]
  by_cases streamer : data.pAudioStreamer = true
  · simp [streamer, deleteStreamer, disconnect]
  · have stopped : data.started = false := by simpa using mt consistent.started streamer
    have resampler : data.playbackResampler = false := by
      simpa using mt consistent.playbackResampler streamer
    simp [streamer, stopped, resampler]

structure Built (data : StreamData) (entries : List ResourceEntry) : Prop where
  posted : run (post StreamResource.users) (fun _ => false) entries = some (data.holds .absent)
  streamer : data.playbackResampler = true → data.pAudioStreamer = true
  stopped : data.started = false

theorem Built.consistent {entries : List ResourceEntry} (built : Built data entries) :
    data.Consistent where
  started := by simp [built.stopped]
  playbackResampler := built.streamer

theorem built_nothing : Built {} [] where
  posted := congrArg some (holds_nothing rfl).symm
  streamer := nofun
  stopped := rfl

theorem built_streamer (playbackResampler : Bool) :
    Built { pAudioStreamer := true, playbackResampler := playbackResampler }
      (.acquired .audioStreamer ::
        if playbackResampler then [.acquired .playbackResampler] else []) where
  posted := by
    refine (run_append (run_acquired rfl) (run_acquired_if playbackResampler rfl)).trans ?_
    refine congrArg some (funext fun resource => ?_)
    cases resource <;> rfl
  streamer := fun _ => rfl
  stopped := rfl

theorem Built.acquire {later : StreamData} (resource : StreamResource)
    {entries : List ResourceEntry} (built : Built data entries)
    (fresh : data.holds .absent resource = false)
    (grown : ∀ other, later.holds .absent other =
      Function.update (data.holds .absent) resource true other)
    (streamer : later.playbackResampler = true → later.pAudioStreamer = true)
    (stopped : later.started = false) : Built later (entries ++ [.acquired resource]) where
  posted := by
    rw [funext grown]
    exact run_append built.posted (run_acquired fresh)
  streamer := streamer
  stopped := stopped

theorem Built.streamBuffers {entries : List ResourceEntry} (built : Built data entries)
    (fresh : data.streamBuffers = false) :
    Built { data with streamBuffers := true } (entries ++ [.acquired .streamBuffers]) := by
  refine built.acquire .streamBuffers fresh (fun other => ?_) built.streamer built.stopped
  cases other <;> rfl

theorem Built.mutex {entries : List ResourceEntry} (built : Built data entries)
    (fresh : data.mutex = false) :
    Built { data with mutex := true } (entries ++ [.acquired .mutex]) := by
  refine built.acquire .mutex fresh (fun other => ?_) built.streamer built.stopped
  cases other <;> rfl

theorem Built.resampler {entries : List ResourceEntry} (built : Built data entries)
    (fresh : data.resampler = false) :
    Built { data with resampler := true } (entries ++ [.acquired .resampler]) := by
  refine built.acquire .resampler fresh (fun other => ?_) built.streamer built.stopped
  cases other <;> rfl

structure StreamData.Complete (data : StreamData) : Prop where
  streamBuffers : data.streamBuffers = true
  mutex : data.mutex = true

structure InitOutcome.Spec (outcome : InitOutcome) : Prop where
  built : Built outcome.data outcome.entries
  complete : outcome.success = true → outcome.data.Complete ∧ outcome.data.pAudioStreamer = true

theorem streamDataInit_spec (init : SessionInit) : (streamDataInit init).Spec := by
  have streamer := built_streamer init.playbackResampler
  have streamBuffers := streamer.streamBuffers rfl
  have mutex := streamBuffers.mutex rfl
  simp only [streamDataInit]
  split
  · exact ⟨built_nothing, nofun⟩
  split
  · exact ⟨built_nothing, nofun⟩
  split
  · exact ⟨streamer, nofun⟩
  split
  · exact ⟨streamBuffers, nofun⟩
  split
  · exact ⟨mutex, nofun⟩
  split
  · exact ⟨mutex, fun _ => ⟨⟨rfl, rfl⟩, rfl⟩⟩
  · exact ⟨mutex, nofun⟩
  · exact ⟨mutex.resampler rfl, fun _ => ⟨⟨rfl, rfl⟩, rfl⟩⟩

theorem streamSessionInit_spec (init : SessionInit) :
    (streamSessionInit init).Spec ∧
      ((streamSessionInit init).success = false → (streamSessionInit init).data = {}) := by
  have spec := streamDataInit_spec init
  simp only [streamSessionInit]
  split
  · exact ⟨⟨built_nothing, nofun⟩, fun _ => rfl⟩
  split
  · next success => exact ⟨spec, fun failed => absurd success (by simp [failed])⟩
  · have empty := destroyTechPvt_empty spec.built.consistent
    refine ⟨⟨⟨?_, ?_, ?_⟩, nofun⟩, fun _ => empty⟩
    · rw [empty, holds_nothing rfl]
      exact run_append spec.built.posted (destroyTechPvt_run spec.built.consistent rfl)
    · simp [empty]
    · rw [empty]

theorem mediaBug_added : run (post StreamResource.users) (data.holds .absent)
    [.acquired .mediaBug] = some (data.holds .attached) := by
  refine (run_acquired rfl).trans (congrArg some (funext fun resource => ?_))
  cases resource <;> rfl

theorem mediaBug_closed (linked : phase.quiet = false) :
    run (post StreamResource.users) (data.holds phase) [.released .mediaBug] =
      some (data.holds .closed) := by
  have held : data.holds phase .mediaBug = true := by simp [StreamData.holds, linked]
  refine (run_released held (List.forall_mem_nil _)).trans (congrArg some ?_)
  funext resource
  cases resource <;> rfl

theorem webSocket_started (streamer : data.pAudioStreamer = true)
    (stopped : data.started = false) :
    run (post StreamResource.users) (data.holds phase)
        [.used .audioStreamer, .acquired .webSocketThread] =
      some (StreamData.holds { data with started := true } phase) := by
  have fresh : data.holds phase .webSocketThread = false := stopped
  refine run_use streamer ((run_acquired fresh).trans (congrArg some (funext fun resource => ?_)))
  cases resource <;> rfl

theorem finishStream_unlocked (quiet : phase.quiet = true) (complete : data.Complete) :
    run (post StreamResource.users) (data.holds phase)
        ((finishStream data).2 ++ [.used .mutex]) =
      some ((finishStream data).1.holds phase) := by
  refine run_append (finishStream_run quiet) (run_use ?_ rfl)
  simp only [finishStream]
  split <;> exact complete.mutex

theorem finishStream_streamer (streamer : data.pAudioStreamer = true) :
    (finishStream data).1 = { data with
      pAudioStreamer := false, started := false, playbackResampler := false } := by
  simp [finishStream, streamer, deleteStreamer, disconnect]

end

end OpenaiAudioStream
