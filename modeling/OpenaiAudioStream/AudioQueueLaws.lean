import Mathlib.Algebra.GroupWithZero.Nat
import OpenaiAudioStream.PlaybackCore

/-!
What holds of the playback queue after any sequence of its operations: the stored
count is the number of queued samples, and nothing is lost or reordered.
-/

namespace OpenaiAudioStream

variable {β : Type*}

/-- A call on the queue. `convertRawAudio` never hands on an empty vector. -/
inductive QueueOperation (β : Type*) where
  | push (audio : List (Sample β)) (nonempty : audio ≠ [])
  | pop
  | clear

structure QueueLedger (β : Type*) where
  queue : AudioQueue β := {}
  accepted : List (Sample β) := []
  popped : List (Sample β) := []

namespace QueueLedger

def queued (ledger : QueueLedger β) : List (Sample β) := ledger.queue.chunks.flatten

def apply (limit : Nat) (ledger : QueueLedger β) : QueueOperation β → QueueLedger β
  | .push audio _ =>
      { ledger with
        queue := ledger.queue.pushAudioQueue limit audio
        accepted :=
          if ledger.queue.accepts limit audio then ledger.accepted ++ audio
          else ledger.accepted }
  | .pop =>
      match ledger.queue.popAudioQueue limit with
      | none => ledger
      | some (chunk, rest) => { ledger with queue := rest, popped := ledger.popped ++ chunk }
  | .clear => { queue := ledger.queue.clearAudioQueue }

def applyAll (limit : Nat) (ledger : QueueLedger β) (operations : List (QueueOperation β)) :
    QueueLedger β :=
  operations.foldl (apply limit) ledger

structure Sound (limit : Nat) (ledger : QueueLedger β) : Prop where
  counted : ledger.queue.samples = (ledger.queue.chunks.map List.length).sum
  bounded : ledger.queue.samples ≤ limit
  chunks : ledger.queue.ChunkBounds
  ordered : ledger.popped ++ ledger.queued = ledger.accepted

theorem sound_empty (limit : Nat) : Sound limit ({} : QueueLedger β) where
  counted := rfl
  bounded := Nat.zero_le limit
  chunks := by simp [AudioQueue.ChunkBounds]
  ordered := rfl

end QueueLedger

namespace AudioQueue

theorem accepts_iff (limit : Nat) (queue : AudioQueue β) (audio : List (Sample β)) :
    queue.accepts limit audio = true ↔ queue.samples + audio.length ≤ limit := by
  simp [accepts]

theorem push_flatten_accepted {limit : Nat} {queue : AudioQueue β} {audio : List (Sample β)}
    (accepted : queue.accepts limit audio = true) :
    (queue.pushAudioQueue limit audio).chunks.flatten = queue.chunks.flatten ++ audio := by
  simp only [pushAudioQueue, accepted, if_true]
  split
  · simp
  · simp [rechunk_flatten]

theorem push_chunks_rejected {limit : Nat} {queue : AudioQueue β} {audio : List (Sample β)}
    (rejected : queue.accepts limit audio = false) :
    (queue.pushAudioQueue limit audio).chunks = queue.chunks ∧
      (queue.pushAudioQueue limit audio).samples = queue.samples := by
  simp [pushAudioQueue, rejected]

theorem push_samples_accepted {limit : Nat} {queue : AudioQueue β} {audio : List (Sample β)}
    (accepted : queue.accepts limit audio = true) :
    (queue.pushAudioQueue limit audio).samples = queue.samples + audio.length := by
  simp [pushAudioQueue, accepted]

theorem pop_samples {limit : Nat} {queue rest : AudioQueue β} {chunk : List (Sample β)}
    (popped : queue.popAudioQueue limit = some (chunk, rest)) :
    rest.samples = queue.samples - chunk.length := by
  unfold popAudioQueue at popped
  split at popped
  · simp at popped
  · cases popped
    rfl

end AudioQueue

namespace QueueLedger

theorem counted_iff (queue : AudioQueue β) :
    queue.samples = (queue.chunks.map List.length).sum ↔
      queue.samples = queue.chunks.flatten.length := by
  rw [List.length_flatten]

theorem push_sound {limit : Nat} {ledger : QueueLedger β} (held : Sound limit ledger)
    (audio : List (Sample β)) (nonempty : audio ≠ []) :
    Sound limit (ledger.apply limit (.push audio nonempty)) := by
  have counted := (counted_iff ledger.queue).mp held.counted
  by_cases accepted : ledger.queue.accepts limit audio = true
  · have contents := AudioQueue.push_flatten_accepted accepted
    have samples := AudioQueue.push_samples_accepted accepted
    constructor
    · rw [counted_iff]
      simp only [apply, contents, samples, List.length_append, counted]
    · simpa only [apply, samples] using (AudioQueue.accepts_iff limit _ audio).mp accepted
    · exact AudioQueue.push_chunkBounds held.chunks nonempty
    · simp only [apply, accepted, if_true, queued, contents, ← List.append_assoc]
      rw [← held.ordered, queued]
  · have rejected : ledger.queue.accepts limit audio = false := by simpa using accepted
    obtain ⟨chunks, samples⟩ := AudioQueue.push_chunks_rejected rejected
    constructor
    · simp only [apply, chunks, samples]
      exact held.counted
    · simp only [apply, samples]
      exact held.bounded
    · exact AudioQueue.push_chunkBounds held.chunks nonempty
    · simp only [apply, rejected, queued, chunks]
      exact held.ordered

theorem pop_fits {limit : Nat} {ledger : QueueLedger β} (held : Sound limit ledger)
    {chunk : List (Sample β)} {rest : AudioQueue β}
    (popped : ledger.queue.popAudioQueue limit = some (chunk, rest)) :
    chunk.length ≤ ledger.queue.samples := by
  rw [held.counted, AudioQueue.pop_some popped, List.map_cons, List.sum_cons]
  exact Nat.le_add_right _ _

theorem pop_sound {limit : Nat} {ledger : QueueLedger β} (held : Sound limit ledger) :
    Sound limit (ledger.apply limit .pop) := by
  unfold apply
  simp only
  split
  · exact held
  · rename_i chunk rest popped
    have shape := AudioQueue.pop_some popped
    have samples := AudioQueue.pop_samples popped
    have fits := pop_fits held popped
    have counted := held.counted
    rw [shape, List.map_cons, List.sum_cons] at counted
    constructor
    · simp only [samples]
      omega
    · have bounded := held.bounded
      simp only [samples]
      omega
    · exact (AudioQueue.pop_chunkBounds popped held.chunks).2
    · have ordered := held.ordered
      rw [queued, shape, List.flatten_cons, ← List.append_assoc] at ordered
      exact ordered

theorem clear_sound {limit : Nat} (ledger : QueueLedger β) :
    Sound limit (ledger.apply limit .clear) where
  counted := rfl
  bounded := Nat.zero_le limit
  chunks := AudioQueue.clear_chunkBounds ledger.queue
  ordered := rfl

theorem apply_sound {limit : Nat} {ledger : QueueLedger β} (held : Sound limit ledger)
    (operation : QueueOperation β) : Sound limit (ledger.apply limit operation) := by
  cases operation with
  | push audio nonempty => exact push_sound held audio nonempty
  | pop => exact pop_sound held
  | clear => exact clear_sound ledger

theorem applyAll_sound {limit : Nat} {ledger : QueueLedger β} (held : Sound limit ledger)
    (operations : List (QueueOperation β)) : Sound limit (ledger.applyAll limit operations) := by
  induction operations generalizing ledger with
  | nil => exact held
  | cons operation operations ih => exact ih (apply_sound held operation)

end QueueLedger

/-- After any sequence of operations the count is exact and within the limit, chunks
keep their bounds and the samples their order; a further push is accepted whole
exactly when it fits, and a further pop takes no more than the count holds. -/
theorem audio_queue_laws (config : PlaybackConfig) (operations : List (QueueOperation β)) :
    let limit := maxPlaybackQueueSamples config
    let ledger := QueueLedger.applyAll limit ({} : QueueLedger β) operations
    let stored := (ledger.queue.chunks.map List.length).sum
    limit = 180 * config.outSampleRate ∧
      ledger.queue.samples = stored ∧ stored ≤ limit ∧
      (∀ chunk ∈ ledger.queue.chunks, chunk ≠ [] ∧ chunk.length ≤ 16384) ∧
      ledger.popped ++ ledger.queue.chunks.flatten = ledger.accepted ∧
      (∀ audio nonempty, stored + audio.length ≤ limit →
        (ledger.apply limit (.push audio nonempty)).queue.chunks.flatten =
            ledger.queue.chunks.flatten ++ audio ∧
          (ledger.apply limit (.push audio nonempty)).accepted = ledger.accepted ++ audio) ∧
      (∀ audio nonempty, limit < stored + audio.length →
        (ledger.apply limit (.push audio nonempty)).queue.chunks = ledger.queue.chunks ∧
          (ledger.apply limit (.push audio nonempty)).accepted = ledger.accepted) ∧
      ∀ chunk rest, ledger.queue.popAudioQueue limit = some (chunk, rest) →
        chunk.length ≤ ledger.queue.samples := by
  intro limit ledger stored
  have held : ledger.Sound limit :=
    QueueLedger.applyAll_sound (QueueLedger.sound_empty _) operations
  have whole (audio : List (Sample β)) :
      ledger.queue.accepts limit audio = true ↔ stored + audio.length ≤ limit := by
    rw [AudioQueue.accepts_iff, held.counted]
  have bounded : stored ≤ limit := by
    have within := held.bounded
    rw [held.counted] at within
    exact within
  refine ⟨Nat.mul_comm _ _, held.counted, bounded, held.chunks, held.ordered, ?_, ?_,
    fun chunk rest popped => QueueLedger.pop_fits held popped⟩
  · intro audio nonempty fits
    have accepted := (whole audio).mpr fits
    exact ⟨AudioQueue.push_flatten_accepted accepted, by simp [QueueLedger.apply, accepted]⟩
  · intro audio nonempty exceeds
    have rejected : ledger.queue.accepts limit audio = false := by
      by_contra accepted
      have fits := (whole audio).mp (by simpa using accepted)
      omega
    exact ⟨(AudioQueue.push_chunks_rejected rejected).1, by simp [QueueLedger.apply, rejected]⟩

end OpenaiAudioStream
