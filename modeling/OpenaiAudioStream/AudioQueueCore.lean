import Mathlib.Data.List.Basic

/-!
The playback queue between the WebSocket thread and `write_frame`: samples are
pushed in messages of any size, re-chunked, and popped one chunk at a time.
-/

namespace OpenaiAudioStream

/-- A PCM16 sample as the two bytes it occupies in memory, low byte first. -/
abbrev Sample (β : Type*) := β × β

def maxAudioChunkSamples : Nat := 16384

def maxPlaybackQueueSeconds : Nat := 180

section

variable {α β γ : Type*}

def sampleBytes (audio : List (Sample β)) : List β :=
  audio.flatMap fun sample => [sample.1, sample.2]

@[simp] theorem sampleBytes_nil : sampleBytes ([] : List (Sample β)) = [] := rfl

@[simp] theorem sampleBytes_cons (sample : Sample β) (audio : List (Sample β)) :
    sampleBytes (sample :: audio) = sample.1 :: sample.2 :: sampleBytes audio := rfl

@[simp] theorem sampleBytes_append (first second : List (Sample β)) :
    sampleBytes (first ++ second) = sampleBytes first ++ sampleBytes second := by
  simp [sampleBytes]

@[simp] theorem sampleBytes_length (audio : List (Sample β)) :
    (sampleBytes audio).length = 2 * audio.length := by
  induction audio with
  | nil => rfl
  | cons sample audio ih =>
      simp only [sampleBytes_cons, List.length_cons, ih]
      omega

theorem sampleBytes_map (f : β → γ) (audio : List (Sample β)) :
    sampleBytes (audio.map (Prod.map f f)) = (sampleBytes audio).map f := by
  induction audio with
  | nil => rfl
  | cons sample audio ih => simp [ih]

def rechunkFrom (audio : List α) : Nat → Nat → List (List α)
  | 0, _ => []
  | fuel + 1, offset =>
      if offset < audio.length then
        let stop := min (offset + maxAudioChunkSamples) audio.length
        (audio.drop offset).take (stop - offset) ::
          rechunkFrom audio fuel (offset + maxAudioChunkSamples)
      else []

def numChunks (total : Nat) : Nat := (total + maxAudioChunkSamples - 1) / maxAudioChunkSamples

def rechunk (audio : List α) : List (List α) := rechunkFrom audio (numChunks audio.length) 0

theorem rechunkFrom_bounds (audio : List α) (fuel offset : Nat) :
    ∀ chunk ∈ rechunkFrom audio fuel offset,
      chunk ≠ [] ∧ chunk.length ≤ maxAudioChunkSamples := by
  induction fuel generalizing offset with
  | zero => simp [rechunkFrom]
  | succ fuel ih =>
      intro chunk member
      simp only [rechunkFrom] at member
      split at member
      · rename_i inside
        rcases List.mem_cons.mp member with first | later
        · have size : chunk.length =
              min (offset + maxAudioChunkSamples) audio.length - offset := by
            rw [first]
            simp only [List.length_take, List.length_drop]
            omega
          have positive : 0 < chunk.length := by
            simp only [maxAudioChunkSamples] at size
            omega
          exact ⟨List.length_pos_iff.mp positive, by omega⟩
        · exact ih (offset + maxAudioChunkSamples) chunk later
      · simp at member

theorem rechunkFrom_flatten (audio : List α) (fuel offset : Nat)
    (enough : audio.length ≤ offset + fuel * maxAudioChunkSamples) :
    (rechunkFrom audio fuel offset).flatten = audio.drop offset := by
  induction fuel generalizing offset with
  | zero =>
      simp only [Nat.zero_mul, Nat.add_zero] at enough
      simp [rechunkFrom, List.drop_eq_nil_of_le enough]
  | succ fuel ih =>
      simp only [rechunkFrom]
      split
      · rename_i inside
        rw [List.flatten_cons, ih _ (by rw [Nat.succ_mul] at enough; omega)]
        by_cases whole : offset + maxAudioChunkSamples ≤ audio.length
        · rw [Nat.min_eq_left whole, Nat.add_sub_cancel_left, ← List.drop_drop]
          exact List.take_append_drop _ _
        · have beyond : audio.length ≤ offset + maxAudioChunkSamples := by omega
          rw [Nat.min_eq_right beyond, List.drop_eq_nil_of_le beyond, List.append_nil,
            ← List.length_drop, List.take_length]
      · rename_i outside
        simp [List.drop_eq_nil_of_le (by omega : audio.length ≤ offset)]

theorem numChunks_enough (total : Nat) : total ≤ numChunks total * maxAudioChunkSamples := by
  simp only [numChunks, maxAudioChunkSamples]
  omega

theorem rechunk_flatten (audio : List α) : (rechunk audio).flatten = audio := by
  have covered := numChunks_enough audio.length
  simpa [rechunk] using rechunkFrom_flatten audio (numChunks audio.length) 0 (by omega)

theorem rechunkFrom_map (f : α → γ) (audio : List α) (fuel offset : Nat) :
    rechunkFrom (audio.map f) fuel offset = (rechunkFrom audio fuel offset).map (List.map f) := by
  induction fuel generalizing offset with
  | zero => rfl
  | succ fuel ih =>
      simp only [rechunkFrom, List.length_map, ih]
      split <;> simp [List.map_take, List.map_drop]

end

structure AudioQueue (β : Type*) where
  chunks : List (List (Sample β)) := []
  /-- `m_audio_queue_samples`, kept beside the chunks by the source -/
  samples : Nat := 0
  overflowLogged : Bool := false
  deriving DecidableEq, Repr

namespace AudioQueue

variable {β γ : Type*}

/-- `limit` is `max_playback_queue_samples()`. -/
def accepts (limit : Nat) (queue : AudioQueue β) (audio : List (Sample β)) : Bool :=
  !decide (queue.samples + audio.length > limit)

def pushAudioQueue (limit : Nat) (queue : AudioQueue β) (audio : List (Sample β)) :
    AudioQueue β :=
  if queue.accepts limit audio then
    { queue with
      chunks :=
        if audio.length ≤ maxAudioChunkSamples then queue.chunks ++ [audio]
        else queue.chunks ++ rechunk audio
      samples := queue.samples + audio.length }
  else { queue with overflowLogged := true }

def popAudioQueue (limit : Nat) (queue : AudioQueue β) :
    Option (List (Sample β) × AudioQueue β) :=
  match queue.chunks with
  | [] => none
  | chunk :: rest =>
      let samples := queue.samples - chunk.length
      some (chunk, {
        chunks := rest
        samples := samples
        overflowLogged := queue.overflowLogged && !decide (samples < limit / 2)
      })

def clearAudioQueue (_queue : AudioQueue β) : AudioQueue β where
  chunks := []
  samples := 0
  overflowLogged := false

def bytes (queue : AudioQueue β) : List β := sampleBytes queue.chunks.flatten

def ChunkBounds (queue : AudioQueue β) : Prop :=
  ∀ chunk ∈ queue.chunks, chunk ≠ [] ∧ chunk.length ≤ maxAudioChunkSamples

@[simp] theorem clear_bytes (queue : AudioQueue β) : queue.clearAudioQueue.bytes = [] := rfl

theorem clear_chunkBounds (queue : AudioQueue β) : queue.clearAudioQueue.ChunkBounds := by
  simp [ChunkBounds, clearAudioQueue]

theorem push_bytes_accepted {limit : Nat} {queue : AudioQueue β} {audio : List (Sample β)}
    (accepted : queue.accepts limit audio = true) :
    (queue.pushAudioQueue limit audio).bytes = queue.bytes ++ sampleBytes audio := by
  simp only [pushAudioQueue, accepted, if_true, bytes]
  split
  · simp
  · simp [rechunk_flatten]

theorem push_bytes_rejected {limit : Nat} {queue : AudioQueue β} {audio : List (Sample β)}
    (rejected : queue.accepts limit audio = false) :
    (queue.pushAudioQueue limit audio).bytes = queue.bytes := by
  simp [pushAudioQueue, rejected, bytes]

theorem push_chunkBounds {limit : Nat} {queue : AudioQueue β} {audio : List (Sample β)}
    (bounds : queue.ChunkBounds) (nonempty : audio ≠ []) :
    (queue.pushAudioQueue limit audio).ChunkBounds := by
  unfold pushAudioQueue
  split
  · intro chunk member
    simp only at member
    split at member
    · rename_i short
      rcases List.mem_append.mp member with old | new
      · exact bounds chunk old
      · rw [List.mem_singleton.mp new]
        exact ⟨nonempty, short⟩
    · rcases List.mem_append.mp member with old | new
      · exact bounds chunk old
      · exact rechunkFrom_bounds audio _ 0 chunk new
  · exact bounds

theorem pop_none {limit : Nat} {queue : AudioQueue β} (failed : queue.popAudioQueue limit = none) :
    queue.chunks = [] := by
  unfold popAudioQueue at failed
  split at failed
  · assumption
  · simp at failed

theorem pop_some {limit : Nat} {queue rest : AudioQueue β} {chunk : List (Sample β)}
    (popped : queue.popAudioQueue limit = some (chunk, rest)) :
    queue.chunks = chunk :: rest.chunks := by
  unfold popAudioQueue at popped
  split at popped
  · simp at popped
  · rename_i found
    simp only [Option.some.injEq, Prod.mk.injEq] at popped
    obtain ⟨rfl, rfl⟩ := popped
    exact found

theorem pop_bytes {limit : Nat} {queue rest : AudioQueue β} {chunk : List (Sample β)}
    (popped : queue.popAudioQueue limit = some (chunk, rest)) :
    queue.bytes = sampleBytes chunk ++ rest.bytes := by
  simp [bytes, pop_some popped]

theorem pop_chunkBounds {limit : Nat} {queue rest : AudioQueue β} {chunk : List (Sample β)}
    (popped : queue.popAudioQueue limit = some (chunk, rest)) (bounds : queue.ChunkBounds) :
    (chunk ≠ [] ∧ chunk.length ≤ maxAudioChunkSamples) ∧ rest.ChunkBounds := by
  have shape := pop_some popped
  refine ⟨bounds chunk (by simp [shape]), ?_⟩
  intro other member
  exact bounds other (by simp [shape, member])

theorem bytes_eq_nil {queue : AudioQueue β} (empty : queue.chunks = []) : queue.bytes = [] := by
  simp [bytes, empty]

def map (f : β → γ) (queue : AudioQueue β) : AudioQueue γ where
  chunks := queue.chunks.map (List.map (Prod.map f f))
  samples := queue.samples
  overflowLogged := queue.overflowLogged

end AudioQueue

end OpenaiAudioStream
