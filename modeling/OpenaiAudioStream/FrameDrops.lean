import OpenaiAudioStream.RawAudio

/-!
Sample alignment on a raw connection between equal rates. A dropped frame never
reaches `convertRawAudio`, so its bytes do not count there while they do count in
the stream; every byte is stamped with its place in that stream.
-/

namespace OpenaiAudioStream

section

variable {β γ σ : Type*}

def stampFrames : Nat → List (List β) → List (List (β × Nat))
  | _, [] => []
  | start, frame :: rest => frame.zipIdx start :: stampFrames (start + frame.length) rest

def SampleAligned (sample : Sample (β × Nat)) : Prop :=
  ∃ k, sample.1.2 = 2 * k ∧ sample.2.2 = 2 * k + 1

def pushedAudio (handler : List (WsAction β)) : List (Sample β) :=
  handler.flatMap fun
    | .pushAudioQueue audio => audio
    | _ => []

def Reception.pushed (config : PlaybackConfig) (reception : Reception β σ) : List (Sample β) :=
  reception.messages.flatMap fun message => pushedAudio (message.handler config true)

def halfBytes (half : Option Nat) : Nat := if half.isSome then 1 else 0

/-- The half-sample carried on from a frame, with the bytes dropped before it came. -/
def halfAfter (half : Option Nat) (dropped : Nat) (frame : List β) : Option Nat :=
  if frame = [] then half
  else if (halfBytes half + frame.length) % 2 = 1 then some dropped else none

/-- Whenever a frame that is kept completes a sample, the bytes dropped so far are
even in number and none of them was dropped behind a carried half-sample. -/
def KeepsAlignment : Option Nat → Nat → List (List β) → Prop
  | _, _, [] => True
  | half, dropped, frame :: rest =>
      if frame.length > maxWsMessageBytes then KeepsAlignment half (dropped + frame.length) rest
      else
        (2 ≤ halfBytes half + frame.length →
          dropped % 2 = 0 ∧ ∀ before ∈ half, before = dropped) ∧
        KeepsAlignment (halfAfter half dropped frame) dropped rest

structure Direct (streamer : RawStreamer β σ) : Prop where
  raw : streamer.rawAudioMode = true
  rates : streamer.inSampleRate = streamer.outSampleRate
  resampler : streamer.resampler = none

theorem Direct.usableBytes {streamer : RawStreamer β σ} (direct : Direct streamer)
    (data : List β) : Direct (streamer.usableBytes data).1 := by
  obtain ⟨inRate, outRate, resampler, mode⟩ := usableBytes_frame streamer data
  exact ⟨mode.trans direct.raw, by rw [inRate, outRate, direct.rates],
    resampler.trans direct.resampler⟩

theorem convertRawAudio_direct (process : ResampleCall β σ) {streamer : RawStreamer β σ}
    (direct : Direct streamer) (data : List β) :
    convertRawAudio process streamer data =
      ((streamer.usableBytes data).1,
        { converted := pcmSamples (streamer.pending ++ data) }) := by
  obtain ⟨joined, even⟩ := usableBytes_spec streamer data
  have after := direct.usableBytes data
  have samples : pcmSamples (streamer.usableBytes data).2 =
      pcmSamples (streamer.pending ++ data) := by
    rw [← joined, pcmSamples_append _ even,
      pcmSamples_short (RawStreamer.pending_length _), List.append_nil]
  unfold convertRawAudio
  simp only [after.resampler, after.rates, ne_eq, not_true, if_false]
  split
  · rename_i empty
    rw [← samples, List.eq_nil_of_length_eq_zero empty, pcmSamples_short (by simp)]
  · rw [samples]

theorem pushedAudio_binary (config : PlaybackConfig) (converted : List (Sample β)) :
    pushedAudio ((WsMessage.binaryAudio converted).handler config true) = converted := by
  unfold WsMessage.handler
  by_cases empty : converted = []
  · simp [empty, pushedAudio]
  · simp [empty, pushedAudio]

def RawStreamer.afterFrame (streamer : RawStreamer β σ) (data : List β) : RawStreamer β σ :=
  if data.length > maxWsMessageBytes then streamer else (streamer.usableBytes data).1

theorem Direct.afterFrame {streamer : RawStreamer β σ} (direct : Direct streamer)
    (data : List β) : Direct (streamer.afterFrame data) := by
  unfold RawStreamer.afterFrame
  split
  · exact direct
  · exact direct.usableBytes data

theorem pushed_cons (process : ResampleCall β σ) (config : PlaybackConfig)
    {streamer : RawStreamer β σ} (direct : Direct streamer) (data : List β)
    (rest : List (List β)) :
    (receiveAll process streamer ((data :: rest).map WsFrame.binary)).pushed config =
      (if data.length > maxWsMessageBytes then [] else pcmSamples (streamer.pending ++ data)) ++
        (receiveAll process (streamer.afterFrame data) (rest.map WsFrame.binary)).pushed
          config := by
  simp only [List.map_cons, receiveAll, messageCallback, RawStreamer.afterFrame]
  split
  · rfl
  · simp [direct.raw, convertRawAudio_direct process direct, Reception.pushed,
      pushedAudio_binary]

theorem usableBytes_pending (streamer : RawStreamer β σ) (data : List β) :
    (streamer.usableBytes data).1.pending =
      if (streamer.pending ++ data).length % 2 = 1 then
        (streamer.pending ++ data).getLast?.toList
      else [] := by
  unfold RawStreamer.usableBytes
  generalize streamer.pending ++ data = stitched
  dsimp only
  by_cases odd : stitched.length % 2 = 1
  · have nonempty : stitched ≠ [] := by
      intro empty
      simp [empty] at odd
    simp [odd, RawStreamer.pending, List.getLast?_eq_some_getLast nonempty]
  · simp [show stitched.length % 2 = 0 by omega, RawStreamer.pending]

end

section

variable {β σ : Type*}

theorem aligned_zipIdx (frame : List β) (start : Nat) :
    (∀ sample ∈ pcmSamples (frame.zipIdx start), SampleAligned sample) ↔
      (2 ≤ frame.length → start % 2 = 0) := by
  induction frame using pcmSamples.induct generalizing start with
  | case1 low high rest ih =>
      have shape : pcmSamples ((low :: high :: rest).zipIdx start) =
          ((low, start), (high, start + 1)) :: pcmSamples (rest.zipIdx (start + 2)) := rfl
      rw [shape, List.forall_mem_cons, ih]
      constructor
      · rintro ⟨⟨k, even, _⟩, _⟩ _
        simp only at even
        omega
      · intro even
        have start_even := even (by simp)
        exact ⟨⟨start / 2, by simp only; omega, by simp only; omega⟩, fun _ => by omega⟩
  | case2 frame short =>
      have few := length_le_one short
      rw [pcmSamples_short (by simpa using few)]
      simp only [List.not_mem_nil, false_implies, implies_true, true_iff]
      omega

/-- Where the connection stands: what is pending came last of the bytes kept, and
the bytes kept are those received less those dropped. -/
def Standing (streamer : RawStreamer (β × Nat) σ) (half : Option Nat) (dropped start : Nat) :
    Prop :=
  match half with
  | none => streamer.pending = [] ∧ start % 2 = dropped % 2
  | some before => ∃ byte place, streamer.pending = [(byte, place)] ∧ before ≤ dropped ∧
      place + 1 + (dropped - before) = start ∧ start % 2 ≠ dropped % 2

theorem aligned_frame {streamer : RawStreamer (β × Nat) σ} {half : Option Nat}
    {dropped start : Nat} (standing : Standing streamer half dropped start) (frame : List β) :
    (∀ sample ∈ pcmSamples (streamer.pending ++ frame.zipIdx start), SampleAligned sample) ↔
      (2 ≤ halfBytes half + frame.length →
        dropped % 2 = 0 ∧ ∀ before ∈ half, before = dropped) := by
  cases half with
  | none =>
      obtain ⟨pending, parity⟩ := standing
      rw [pending, List.nil_append, aligned_zipIdx]
      simp [halfBytes, parity]
  | some before =>
      obtain ⟨byte, place, pending, earlier, places, parity⟩ := standing
      rw [pending]
      cases frame with
      | nil => simp [halfBytes, pcmSamples]
      | cons first rest =>
          have shape : pcmSamples ([(byte, place)] ++ (first :: rest).zipIdx start) =
              ((byte, place), (first, start)) :: pcmSamples (rest.zipIdx (start + 1)) := rfl
          rw [shape, List.forall_mem_cons, aligned_zipIdx]
          simp only [halfBytes, Option.isSome_some, if_true, Option.mem_def, Option.some.injEq,
            forall_eq', List.length_cons]
          constructor
          · rintro ⟨⟨k, even, next⟩, _⟩ _
            simp only at even next
            omega
          · intro kept
            obtain ⟨even, same⟩ := kept (by omega)
            exact ⟨⟨place / 2, by simp only; omega, by simp only; omega⟩, fun _ => by omega⟩

theorem standing_kept {streamer : RawStreamer (β × Nat) σ} {half : Option Nat}
    {dropped start : Nat} (standing : Standing streamer half dropped start) (frame : List β) :
    Standing (streamer.usableBytes (frame.zipIdx start)).1 (halfAfter half dropped frame) dropped
      (start + frame.length) := by
  have carried := usableBytes_pending streamer (frame.zipIdx start)
  rcases List.eq_nil_or_concat frame with rfl | ⟨front, last, rfl⟩
  · cases half with
    | none =>
        obtain ⟨pending, parity⟩ := standing
        exact ⟨by simpa [pending] using carried, parity⟩
    | some before =>
        obtain ⟨byte, place, pending, earlier, places, parity⟩ := standing
        exact ⟨byte, place, by simpa [pending] using carried, earlier, places, parity⟩
  · have size : streamer.pending.length = halfBytes half := by
      cases half with
      | none => simp [halfBytes, standing.1]
      | some before =>
          obtain ⟨byte, place, pending, _⟩ := standing
          simp [halfBytes, pending]
    have parity : (start + halfBytes half) % 2 = dropped % 2 := by
      cases half with
      | none => simpa [halfBytes] using standing.2
      | some before =>
          obtain ⟨byte, place, _, _, _, parity⟩ := standing
          simp only [halfBytes, Option.isSome_some, if_true]
          omega
    have stamps : (front.concat last).zipIdx start =
        front.zipIdx start ++ [(last, start + front.length)] := by
      simp [List.zipIdx_append]
    rw [stamps] at carried ⊢
    simp only [List.length_append, size, List.length_zipIdx, List.length_singleton,
      ← List.append_assoc, List.getLast?_append, List.getLast?_singleton, Option.some_or]
      at carried
    simp only [List.concat_eq_append, halfAfter, List.append_eq_nil_iff, List.cons_ne_self,
      and_false, if_false, List.length_append, List.length_singleton]
    by_cases odd : (halfBytes half + (front.length + 1)) % 2 = 1
    · rw [if_pos odd]
      rw [if_pos (by omega)] at carried
      refine ⟨last, start + front.length, by simpa using carried, Nat.le_refl _, ?_, ?_⟩
      · omega
      · omega
    · rw [if_neg odd]
      rw [if_neg (by omega)] at carried
      exact ⟨by simpa using carried, by omega⟩

theorem standing_dropped {streamer : RawStreamer (β × Nat) σ} {half : Option Nat}
    {dropped start : Nat} (standing : Standing streamer half dropped start) (count : Nat) :
    Standing streamer half (dropped + count) (start + count) := by
  cases half with
  | none => exact ⟨standing.1, by have parity := standing.2; omega⟩
  | some before =>
      obtain ⟨byte, place, pending, earlier, places, parity⟩ := standing
      exact ⟨byte, place, pending, by omega, by omega, by omega⟩

theorem aligned_iff_keeps (process : ResampleCall (β × Nat) σ) (config : PlaybackConfig)
    {streamer : RawStreamer (β × Nat) σ} (direct : Direct streamer) {half : Option Nat}
    {dropped start : Nat} (standing : Standing streamer half dropped start)
    (frames : List (List β)) :
    (∀ sample ∈ (receiveAll process streamer
        ((stampFrames start frames).map WsFrame.binary)).pushed config, SampleAligned sample) ↔
      KeepsAlignment half dropped frames := by
  induction frames generalizing streamer half dropped start with
  | nil => simp [stampFrames, receiveAll, Reception.pushed, KeepsAlignment]
  | cons frame rest ih =>
      have later := direct.afterFrame (frame.zipIdx start)
      rw [stampFrames, pushed_cons process config direct, KeepsAlignment]
      simp only [RawStreamer.afterFrame, List.length_zipIdx] at later ⊢
      split
      · rename_i long
        rw [if_pos long] at later
        exact ih later (standing_dropped standing frame.length)
      · rename_i short
        rw [if_neg short] at later
        rw [List.forall_mem_append, aligned_frame standing, ih later (standing_kept standing frame)]

end

section

variable {β γ σ : Type*}

def RawStreamer.map (f : β → γ) (streamer : RawStreamer β σ) : RawStreamer γ σ where
  inSampleRate := streamer.inSampleRate
  outSampleRate := streamer.outSampleRate
  resampler := streamer.resampler
  rawAudioMode := streamer.rawAudioMode
  pendingRawByte := f streamer.pendingRawByte
  hasPendingRawByte := streamer.hasPendingRawByte

theorem pending_map (f : β → γ) (streamer : RawStreamer β σ) :
    (streamer.map f).pending = streamer.pending.map f := by
  obtain ⟨_, _, _, _, _, carried⟩ := streamer
  cases carried <;> rfl

theorem usableBytes_map (f : β → γ) (streamer : RawStreamer β σ) (data : List β) :
    ((streamer.map f).usableBytes (data.map f)).1 = (streamer.usableBytes data).1.map f := by
  simp only [RawStreamer.usableBytes, pending_map, ← List.map_append, List.length_map]
  split
  · simp [RawStreamer.map]
  · rfl

theorem pushed_map (f : β → γ) (process : ResampleCall β σ) (mapped : ResampleCall γ σ)
    (config : PlaybackConfig) {streamer : RawStreamer β σ} (direct : Direct streamer)
    (frames : List (List β)) :
    (receiveAll mapped (streamer.map f)
        ((frames.map (List.map f)).map WsFrame.binary)).pushed config =
      ((receiveAll process streamer (frames.map WsFrame.binary)).pushed config).map
        (Prod.map f f) := by
  induction frames generalizing streamer with
  | nil => rfl
  | cons frame rest ih =>
      have directMapped : Direct (streamer.map f) := ⟨direct.raw, direct.rates, direct.resampler⟩
      have after : (streamer.map f).afterFrame (frame.map f) =
          (streamer.afterFrame frame).map f := by
        simp only [RawStreamer.afterFrame, List.length_map, usableBytes_map]
        split <;> rfl
      rw [List.map_cons, pushed_cons mapped config directMapped, pushed_cons process config direct,
        after, ih (direct.afterFrame frame), List.map_append, pending_map, ← List.map_append,
        List.length_map, pcmSamples_map]
      split <;> rfl

theorem stampFrames_values (start : Nat) (frames : List (List β)) :
    (stampFrames start frames).map (List.map Prod.fst) = frames := by
  induction frames generalizing start with
  | nil => rfl
  | cons frame rest ih => simp [stampFrames, ih]

theorem pushed_connection (process : ResampleCall β σ) (config : PlaybackConfig)
    (streamer : RawStreamer β σ) (frames : List (WsFrame β)) :
    (receiveAll process streamer (connection frames)).pushed config =
      (receiveAll process { streamer with hasPendingRawByte := false } frames).pushed config := by
  simp [connection, receiveAll, messageCallback, Reception.pushed, WsMessage.handler, pushedAudio]

theorem connection_aligned_iff (process : ResampleCall (β × Nat) σ) (config : PlaybackConfig)
    {streamer : RawStreamer (β × Nat) σ} (direct : Direct streamer) (frames : List (List β)) :
    (∀ sample ∈ (receiveAll process streamer
        (connection ((stampFrames 0 frames).map WsFrame.binary))).pushed config,
      SampleAligned sample) ↔ KeepsAlignment none 0 frames := by
  have opened : Direct { streamer with hasPendingRawByte := false } :=
    ⟨direct.raw, direct.rates, direct.resampler⟩
  have standing : Standing { streamer with hasPendingRawByte := false } none 0 0 := ⟨rfl, rfl⟩
  rw [pushed_connection]
  exact aligned_iff_keeps process config opened standing frames

theorem connection_pushed_map (f : β → γ) (process : ResampleCall β σ)
    (mapped : ResampleCall γ σ) (config : PlaybackConfig) {streamer : RawStreamer β σ}
    (direct : Direct streamer) (frames : List (List β)) :
    (receiveAll mapped (streamer.map f)
        (connection ((frames.map (List.map f)).map WsFrame.binary))).pushed config =
      ((receiveAll process streamer (connection (frames.map WsFrame.binary))).pushed config).map
        (Prod.map f f) := by
  have opened : Direct { streamer with hasPendingRawByte := false } :=
    ⟨direct.raw, direct.rates, direct.resampler⟩
  rw [pushed_connection, pushed_connection, ← pushed_map f process mapped config opened frames]
  rfl

/-- The samples that reach the queue are the values of stamped samples, and each of
them is a sample of the received stream exactly when the drops keep the alignment. -/
theorem frame_drops_keep_alignment (process : ResampleCall β σ)
    (stamped : ResampleCall (β × Nat) σ) (config : PlaybackConfig)
    {streamer : RawStreamer (β × Nat) σ} (direct : Direct streamer) (frames : List (List β)) :
    let pushed := (receiveAll stamped streamer
      (connection ((stampFrames 0 frames).map WsFrame.binary))).pushed config
    (receiveAll process (streamer.map Prod.fst) (connection (frames.map WsFrame.binary))).pushed
        config = pushed.map (Prod.map Prod.fst Prod.fst) ∧
      ((∀ sample ∈ pushed, SampleAligned sample) ↔ KeepsAlignment none 0 frames) := by
  have erased := connection_pushed_map Prod.fst stamped process config direct (stampFrames 0 frames)
  rw [stampFrames_values] at erased
  exact ⟨erased, connection_aligned_iff stamped config direct frames⟩

def rawConfig : PlaybackConfig where
  outSampleRate := 16000
  automaticReconnection := true

theorem rawStreamer_direct (first : β) : Direct (rawStreamer first) := ⟨rfl, rfl, rfl⟩

theorem frame_drops_keep_alignment_undisturbed :
    KeepsAlignment none 0 [[1], [], [2, 3, 4]] ∧
      ∀ sample ∈ (receiveAll noResampler (rawStreamer (0, 0))
          (connection ((stampFrames 0 [[1], [], [2, 3, 4]]).map WsFrame.binary))).pushed rawConfig,
        SampleAligned sample := by
  have exact_ := frame_drops_keep_alignment (noResampler : ResampleCall Nat Unit) noResampler
    rawConfig (rawStreamer_direct (0, 0)) [[1], [], [2, 3, 4]]
  have kept : KeepsAlignment none 0 [[1], [], [2, 3, 4]] := by
    simp [KeepsAlignment, halfAfter, halfBytes, maxWsMessageBytes]
  exact ⟨kept, exact_.2.mpr kept⟩

/-- A dropped frame of 8388609 bytes: the next two bytes are taken for one sample. -/
theorem oversized_frame_shifts_samples :
    ¬∀ sample ∈ (receiveAll noResampler (rawStreamer (0, 0))
        (connection ((stampFrames 0 [List.replicate (maxWsMessageBytes + 1) 0, [1, 2]]).map
          WsFrame.binary))).pushed rawConfig,
      SampleAligned sample := by
  rw [connection_aligned_iff noResampler rawConfig (rawStreamer_direct (0, 0))]
  have size : (List.replicate (maxWsMessageBytes + 1) 0).length = maxWsMessageBytes + 1 :=
    List.length_replicate
  generalize List.replicate (maxWsMessageBytes + 1) 0 = oversized at size
  simp [KeepsAlignment, halfBytes, size, maxWsMessageBytes]

end

end OpenaiAudioStream
