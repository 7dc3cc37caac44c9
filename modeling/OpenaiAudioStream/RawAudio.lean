import OpenaiAudioStream.PlaybackCore

/-!
The way of received audio from the WebSocket to the playback queue: the message
callback, and `convertRawAudio`, which carries the odd byte of a payload over to
the next one.
-/

namespace OpenaiAudioStream

def maxWsMessageBytes : Nat := 8 * 1024 * 1024

def uint32Max : Nat := 4294967295

section

variable {β γ σ : Type*}

def pcmSamples : List β → List (Sample β)
  | low :: high :: rest => (low, high) :: pcmSamples rest
  | _ => []

theorem length_le_one {bytes : List β}
    (short : ∀ low high rest, bytes = low :: high :: rest → False) : bytes.length ≤ 1 := by
  cases bytes with
  | nil => simp
  | cons low rest =>
      cases rest with
      | nil => simp
      | cons high rest => exact (short low high rest rfl).elim

theorem pcmSamples_append {first : List β} (second : List β) (even : first.length % 2 = 0) :
    pcmSamples (first ++ second) = pcmSamples first ++ pcmSamples second := by
  induction first using pcmSamples.induct with
  | case1 low high rest ih =>
      simp only [List.length_cons] at even
      simp only [List.cons_append, pcmSamples, ih (by omega)]
  | case2 bytes short =>
      have few := length_le_one short
      obtain rfl := List.length_eq_zero_iff.mp (by omega : bytes.length = 0)
      rfl

theorem pcmSamples_short {bytes : List β} (short : bytes.length ≤ 1) : pcmSamples bytes = [] := by
  match bytes, short with
  | [], _ => rfl
  | [_], _ => rfl

theorem pcmSamples_map (f : β → γ) (bytes : List β) :
    pcmSamples (bytes.map f) = (pcmSamples bytes).map (Prod.map f f) := by
  induction bytes using pcmSamples.induct with
  | case1 low high rest ih => simp [pcmSamples, ih]
  | case2 bytes short =>
      have few := length_le_one short
      rw [pcmSamples_short few, pcmSamples_short (by simpa using few), List.map_nil]

/-- The members of `AudioStreamer` that decoding reads and writes; `σ` is the state
of the playback resampler. -/
structure RawStreamer (β σ : Type*) where
  inSampleRate : Nat
  outSampleRate : Nat
  resampler : Option σ
  rawAudioMode : Bool
  pendingRawByte : β
  hasPendingRawByte : Bool

/-- `speex_resampler_process_int`: from the samples and the room for output, the
output, or `none` on an error. -/
abbrev ResampleCall (β σ : Type*) := σ → List (Sample β) → Nat → σ × Option (List (Sample β))

namespace RawStreamer

def pending (streamer : RawStreamer β σ) : List β :=
  if streamer.hasPendingRawByte then [streamer.pendingRawByte] else []

def usableBytes (streamer : RawStreamer β σ) (inputRaw : List β) : RawStreamer β σ × List β :=
  let stitched := streamer.pending ++ inputRaw
  if stitched.length % 2 ≠ 0 then
    ({ streamer with
        pendingRawByte := stitched.getLastD streamer.pendingRawByte
        hasPendingRawByte := true },
      stitched.dropLast)
  else ({ streamer with hasPendingRawByte := false }, stitched)

end RawStreamer

structure Conversion (β : Type*) where
  handed : List (Sample β) := []
  converted : List (Sample β) := []

def convertRawAudio (process : ResampleCall β σ) (streamer : RawStreamer β σ)
    (inputRaw : List β) : RawStreamer β σ × Conversion β :=
  let carried := streamer.usableBytes inputRaw
  let samples := pcmSamples carried.2
  if carried.2.length = 0 then (carried.1, {})
  else
    match carried.1.resampler with
    | none =>
        -- without a resampler between different rates the audio is dropped
        if carried.1.inSampleRate ≠ carried.1.outSampleRate then (carried.1, {})
        else (carried.1, { converted := samples })
    | some resampler =>
        let inSamples := carried.2.length / 2
        let outSamples := inSamples * carried.1.outSampleRate / carried.1.inSampleRate + 1
        if inSamples > uint32Max || outSamples > uint32Max then (carried.1, {})
        else
          let outcome := process resampler samples outSamples
          ({ carried.1 with resampler := some outcome.1 },
            { handed := samples, converted := outcome.2.getD [] })

/-- A WebSocket callback that concerns received audio. `audioDelta` is a text
message of `size` bytes whose delta decodes to `rawAudio`. -/
inductive WsFrame (β : Type*) where
  | binary (data : List β)
  | audioDelta (located : Bool) (size : Nat) (rawAudio : List β)
  | opened

structure Reception (β σ : Type*) where
  streamer : RawStreamer β σ
  handed : List (Sample β) := []
  messages : List (WsMessage β) := []

def messageCallback (process : ResampleCall β σ) (streamer : RawStreamer β σ) :
    WsFrame β → Reception β σ
  | .binary data =>
      if data.length > maxWsMessageBytes then { streamer := streamer }
      else if streamer.rawAudioMode then
        let conversion := convertRawAudio process streamer data
        { streamer := conversion.1
          handed := conversion.2.handed
          messages := [.binaryAudio conversion.2.converted] }
      else { streamer := streamer }
  | .audioDelta located size rawAudio =>
      if size > maxWsMessageBytes then { streamer := streamer }
      else if located && !rawAudio.isEmpty then
        let conversion := convertRawAudio process streamer rawAudio
        { streamer := conversion.1
          handed := conversion.2.handed
          messages := [.audioDelta conversion.2.converted] }
      else { streamer := streamer, messages := [.audioDelta []] }
  | .opened => { streamer := { streamer with hasPendingRawByte := false }, messages := [.opened] }

def receiveAll (process : ResampleCall β σ) (streamer : RawStreamer β σ) :
    List (WsFrame β) → Reception β σ
  | [] => { streamer := streamer }
  | frame :: rest =>
      let first := messageCallback process streamer frame
      let later := receiveAll process first.streamer rest
      { streamer := later.streamer
        handed := first.handed ++ later.handed
        messages := first.messages ++ later.messages }

def WsMessage.converted : WsMessage β → List (Sample β)
  | .binaryAudio converted => converted
  | .audioDelta converted => converted
  | _ => []

def Reception.returned (reception : Reception β σ) : List (Sample β) :=
  reception.messages.flatMap WsMessage.converted

def WsFrame.payload : WsFrame β → List β
  | .binary data => data
  | .audioDelta _ _ rawAudio => rawAudio
  | .opened => []

/-- A payload within the limit that reaches `convertRawAudio`; base64 text is longer
than the bytes it decodes to. -/
def WsFrame.Delivered (rawAudioMode : Bool) : WsFrame β → Prop
  | .binary data => rawAudioMode = true ∧ data.length ≤ maxWsMessageBytes
  | .audioDelta located size rawAudio =>
      located = true ∧ rawAudio.length ≤ size ∧ size ≤ maxWsMessageBytes
  | .opened => False

end

section

variable {β σ : Type*} (process : ResampleCall β σ)

theorem usableBytes_spec (streamer : RawStreamer β σ) (inputRaw : List β) :
    (streamer.usableBytes inputRaw).2 ++ (streamer.usableBytes inputRaw).1.pending =
        streamer.pending ++ inputRaw ∧
      (streamer.usableBytes inputRaw).2.length % 2 = 0 := by
  unfold RawStreamer.usableBytes
  generalize streamer.pending ++ inputRaw = stitched
  dsimp only
  split
  · rename_i odd
    have nonempty : stitched ≠ [] := by
      intro empty
      simp [empty] at odd
    constructor
    · simp only [RawStreamer.pending, if_true, List.getLastD_eq_getLast?,
        List.getLast?_eq_some_getLast nonempty, Option.getD_some,
        List.dropLast_concat_getLast nonempty]
    · simp only [List.length_dropLast]
      omega
  · rename_i even
    simp only [ne_eq, not_not] at even
    exact ⟨by simp [RawStreamer.pending], even⟩

namespace RawStreamer

structure SameSetup (first second : RawStreamer β σ) : Prop where
  inSampleRate : second.inSampleRate = first.inSampleRate
  outSampleRate : second.outSampleRate = first.outSampleRate
  resampler : second.resampler.isSome = first.resampler.isSome
  rawAudioMode : second.rawAudioMode = first.rawAudioMode

theorem SameSetup.refl (streamer : RawStreamer β σ) : SameSetup streamer streamer :=
  ⟨rfl, rfl, rfl, rfl⟩

theorem SameSetup.trans {first second third : RawStreamer β σ} (left : SameSetup first second)
    (right : SameSetup second third) : SameSetup first third where
  inSampleRate := right.inSampleRate.trans left.inSampleRate
  outSampleRate := right.outSampleRate.trans left.outSampleRate
  resampler := right.resampler.trans left.resampler
  rawAudioMode := right.rawAudioMode.trans left.rawAudioMode

/-- Neither deliberate drop of `convertRawAudio`: no playback resampler that failed, and rates
at which the samples of a full message pass the guard. -/
structure Playable (streamer : RawStreamer β σ) : Prop where
  converts : streamer.resampler = none → streamer.inSampleRate = streamer.outSampleRate
  ratio : maxWsMessageBytes / 2 * streamer.outSampleRate < uint32Max * streamer.inSampleRate

theorem Playable.of_sameSetup {first second : RawStreamer β σ} (playable : Playable first)
    (same : SameSetup first second) : Playable second where
  converts := by
    intro absent
    have before : first.resampler = none := by
      have present := same.resampler
      rw [absent, Option.isSome_none, eq_comm, Option.isSome_eq_false_iff] at present
      exact Option.isNone_iff_eq_none.mp present
    rw [same.inSampleRate, same.outSampleRate]
    exact playable.converts before
  ratio := by
    rw [same.inSampleRate, same.outSampleRate]
    exact playable.ratio

theorem pending_length (streamer : RawStreamer β σ) : streamer.pending.length ≤ 1 := by
  unfold pending
  split <;> simp

end RawStreamer

theorem usableBytes_frame (streamer : RawStreamer β σ) (inputRaw : List β) :
    (streamer.usableBytes inputRaw).1.inSampleRate = streamer.inSampleRate ∧
      (streamer.usableBytes inputRaw).1.outSampleRate = streamer.outSampleRate ∧
      (streamer.usableBytes inputRaw).1.resampler = streamer.resampler ∧
      (streamer.usableBytes inputRaw).1.rawAudioMode = streamer.rawAudioMode := by
  unfold RawStreamer.usableBytes
  dsimp only
  split <;> exact ⟨rfl, rfl, rfl, rfl⟩

/-- The samples taken from the payloads: returned, or handed to the resampler. -/
def extracted (streamer : RawStreamer β σ) (handed returned : List (Sample β)) :
    List (Sample β) :=
  if streamer.resampler.isSome then handed else returned

theorem extracted_nil (streamer : RawStreamer β σ) : extracted streamer [] [] = [] := by
  simp [extracted]

theorem extracted_append {first second : RawStreamer β σ}
    (same : RawStreamer.SameSetup first second) (handed returned later rest : List (Sample β)) :
    extracted first (handed ++ later) (returned ++ rest) =
      extracted first handed returned ++ extracted second later rest := by
  unfold extracted
  rw [same.resampler]
  split <;> rfl

structure Extracts (before after : RawStreamer β σ) (handed returned : List (Sample β))
    (payload : List β) : Prop where
  same : RawStreamer.SameSetup before after
  taken : ∃ usable, usable ++ after.pending = before.pending ++ payload ∧
    usable.length % 2 = 0 ∧ extracted before handed returned = pcmSamples usable

theorem Extracts.nothing {before after : RawStreamer β σ}
    (same : RawStreamer.SameSetup before after) (pending : after.pending = before.pending) :
    Extracts before after [] [] [] :=
  ⟨same, [], by simp [pending], rfl, extracted_nil before⟩

theorem Extracts.append {first second third : RawStreamer β σ}
    {handed returned later rest : List (Sample β)} {payload continued : List β}
    (left : Extracts first second handed returned payload)
    (right : Extracts second third later rest continued) :
    Extracts first third (handed ++ later) (returned ++ rest) (payload ++ continued) := by
  obtain ⟨before, joined, even, samples⟩ := left.taken
  obtain ⟨after, rejoined, evenAfter, samplesAfter⟩ := right.taken
  refine ⟨left.same.trans right.same, before ++ after, ?_, ?_, ?_⟩
  · rw [List.append_assoc, rejoined, ← List.append_assoc, joined, List.append_assoc]
  · rw [List.length_append]
    omega
  · rw [extracted_append left.same, samples, samplesAfter, pcmSamples_append after even]

theorem convertRawAudio_extracts {streamer : RawStreamer β σ} (playable : streamer.Playable)
    {inputRaw : List β} (within : inputRaw.length ≤ maxWsMessageBytes) :
    Extracts streamer (convertRawAudio process streamer inputRaw).1
      (convertRawAudio process streamer inputRaw).2.handed
      (convertRawAudio process streamer inputRaw).2.converted inputRaw := by
  obtain ⟨joined, even⟩ := usableBytes_spec streamer inputRaw
  obtain ⟨inRate, outRate, resampler, mode⟩ := usableBytes_frame streamer inputRaw
  have size : (streamer.usableBytes inputRaw).2.length ≤ inputRaw.length + 1 := by
    have lengths := congrArg List.length joined
    simp only [List.length_append] at lengths
    have carried := streamer.pending_length
    omega
  unfold convertRawAudio
  generalize streamer.usableBytes inputRaw = carried
    at joined even inRate outRate resampler mode size
  obtain ⟨next, usable⟩ := carried
  dsimp only at joined even inRate outRate resampler mode size ⊢
  have same : RawStreamer.SameSetup streamer next := ⟨inRate, outRate, by rw [resampler], mode⟩
  split
  · rename_i empty
    have nothing : pcmSamples usable = [] := pcmSamples_short (by omega)
    exact ⟨same, usable, joined, even, by rw [extracted_nil, nothing]⟩
  · split
    · rename_i absent
      have before : streamer.resampler = none := by rw [← resampler, absent]
      rw [if_neg (by simp [inRate, outRate, playable.converts before])]
      exact ⟨same, usable, joined, even, by simp [extracted, before]⟩
    · rename_i present found
      have before : streamer.resampler.isSome = true := by rw [← resampler, found]; rfl
      have samples : usable.length / 2 ≤ maxWsMessageBytes / 2 := by
        simp only [maxWsMessageBytes] at within ⊢
        omega
      have room : usable.length / 2 * next.outSampleRate / next.inSampleRate < uint32Max := by
        rw [inRate, outRate]
        apply Nat.div_lt_of_lt_mul
        calc usable.length / 2 * streamer.outSampleRate
            ≤ maxWsMessageBytes / 2 * streamer.outSampleRate := Nat.mul_le_mul_right _ samples
          _ < uint32Max * streamer.inSampleRate := playable.ratio
          _ = streamer.inSampleRate * uint32Max := Nat.mul_comm _ _
      have fits : ¬(usable.length / 2 > uint32Max ∨
          usable.length / 2 * next.outSampleRate / next.inSampleRate + 1 > uint32Max) := by
        simp only [uint32Max, maxWsMessageBytes] at samples room ⊢
        omega
      rw [if_neg (by simpa using fits)]
      refine ⟨⟨inRate, outRate, by simp [before], mode⟩, usable, joined, even, ?_⟩
      simp [extracted, before]

theorem messageCallback_extracts {streamer : RawStreamer β σ} (playable : streamer.Playable)
    {frame : WsFrame β} (delivered : frame.Delivered streamer.rawAudioMode) :
    Extracts streamer (messageCallback process streamer frame).streamer
      (messageCallback process streamer frame).handed
      (messageCallback process streamer frame).returned frame.payload := by
  cases frame with
  | binary data =>
      obtain ⟨mode, within⟩ := delivered
      have converted := convertRawAudio_extracts process playable within
      simpa [messageCallback, Nat.not_lt.mpr within, mode, Reception.returned, WsMessage.converted,
        WsFrame.payload] using converted
  | audioDelta located size rawAudio =>
      obtain ⟨found, shorter, within⟩ := delivered
      by_cases empty : rawAudio = []
      · subst empty
        simpa [messageCallback, Nat.not_lt.mpr within, Reception.returned, WsMessage.converted,
          WsFrame.payload] using Extracts.nothing (.refl streamer) rfl
      · have converted := convertRawAudio_extracts process playable
          (Nat.le_trans shorter within)
        simpa [messageCallback, Nat.not_lt.mpr within, found, empty, Reception.returned,
          WsMessage.converted, WsFrame.payload] using converted
  | opened => exact delivered.elim

theorem receiveAll_returned (streamer : RawStreamer β σ) (frame : WsFrame β)
    (rest : List (WsFrame β)) :
    (receiveAll process streamer (frame :: rest)).returned =
      (messageCallback process streamer frame).returned ++
        (receiveAll process (messageCallback process streamer frame).streamer rest).returned := by
  simp [receiveAll, Reception.returned]

theorem receiveAll_extracts {streamer : RawStreamer β σ} (playable : streamer.Playable)
    {frames : List (WsFrame β)}
    (delivered : ∀ frame ∈ frames, frame.Delivered streamer.rawAudioMode) :
    Extracts streamer (receiveAll process streamer frames).streamer
      (receiveAll process streamer frames).handed
      (receiveAll process streamer frames).returned (frames.flatMap WsFrame.payload) := by
  induction frames generalizing streamer with
  | nil => exact .nothing (.refl streamer) rfl
  | cons frame rest ih =>
      have first := messageCallback_extracts process playable
        (delivered frame (by simp))
      have later := ih (playable.of_sameSetup first.same) (by
        rw [first.same.rawAudioMode]
        exact fun other member => delivered other (by simp [member]))
      rw [receiveAll_returned, List.flatMap_cons]
      exact first.append later

theorem Extracts.samples {before after : RawStreamer β σ} {handed returned : List (Sample β)}
    {payload : List β} (taken : Extracts before after handed returned payload) :
    extracted before handed returned = pcmSamples (before.pending ++ payload) := by
  obtain ⟨usable, joined, even, samples⟩ := taken.taken
  rw [samples, ← joined, pcmSamples_append _ even, pcmSamples_short after.pending_length,
    List.append_nil]

theorem Extracts.carried {before after : RawStreamer β σ} {handed returned : List (Sample β)}
    {payload : List β} (taken : Extracts before after handed returned payload)
    (fresh : before.pending = []) :
    (after.hasPendingRawByte = true ↔ payload.length % 2 = 1) ∧
      (after.hasPendingRawByte = true → payload.getLast? = some after.pendingRawByte) := by
  obtain ⟨usable, joined, even, _⟩ := taken.taken
  rw [fresh, List.nil_append] at joined
  rw [← joined]
  cases has : after.hasPendingRawByte with
  | true =>
      simp only [RawStreamer.pending, has, if_true, List.length_append, List.length_singleton,
        List.getLast?_append, List.getLast?_singleton, Option.some_or, true_iff, implies_true,
        and_true]
      omega
  | false =>
      simp only [RawStreamer.pending, has, List.length_append]
      simp [even]

def connection (frames : List (WsFrame β)) : List (WsFrame β) := .opened :: frames

theorem connection_extracts {streamer : RawStreamer β σ} (playable : streamer.Playable)
    (frames : List (WsFrame β))
    (delivered : ∀ frame ∈ frames, frame.Delivered streamer.rawAudioMode) :
    ∃ opened : RawStreamer β σ, opened.pending = [] ∧
      RawStreamer.SameSetup streamer opened ∧
      Extracts opened (receiveAll process streamer (connection frames)).streamer
        (receiveAll process streamer (connection frames)).handed
        (receiveAll process streamer (connection frames)).returned
        (frames.flatMap WsFrame.payload) := by
  have same : RawStreamer.SameSetup streamer { streamer with hasPendingRawByte := false } :=
    ⟨rfl, rfl, rfl, rfl⟩
  have taken := receiveAll_extracts process (playable.of_sameSetup same) delivered
  refine ⟨_, rfl, same, ?_⟩
  simpa [connection, receiveAll, messageCallback, Reception.returned, WsMessage.converted]
    using taken

theorem receiveAll_append (streamer : RawStreamer β σ) (first second : List (WsFrame β)) :
    receiveAll process streamer (first ++ second) =
      { streamer :=
          (receiveAll process (receiveAll process streamer first).streamer second).streamer
        handed := (receiveAll process streamer first).handed ++
          (receiveAll process (receiveAll process streamer first).streamer second).handed
        messages := (receiveAll process streamer first).messages ++
          (receiveAll process (receiveAll process streamer first).streamer second).messages } := by
  induction first generalizing streamer with
  | nil => rfl
  | cons frame rest ih => simp [receiveAll, ih]

theorem connections_extracted {streamer : RawStreamer β σ} (playable : streamer.Playable)
    (connections : List (List (WsFrame β)))
    (delivered : ∀ frames ∈ connections, ∀ frame ∈ frames,
      frame.Delivered streamer.rawAudioMode) :
    RawStreamer.SameSetup streamer
        (receiveAll process streamer (connections.flatMap connection)).streamer ∧
      extracted streamer (receiveAll process streamer (connections.flatMap connection)).handed
          (receiveAll process streamer (connections.flatMap connection)).returned =
        connections.flatMap fun frames => pcmSamples (frames.flatMap WsFrame.payload) := by
  induction connections generalizing streamer with
  | nil => exact ⟨.refl streamer, extracted_nil streamer⟩
  | cons frames rest ih =>
      obtain ⟨opened, fresh, same, first⟩ := connection_extracts process playable frames
        (delivered frames (by simp))
      have moved := same.trans first.same
      have later := ih (playable.of_sameSetup moved) (by
        rw [moved.rawAudioMode]
        exact fun other member => delivered other (by simp [member]))
      have samples := first.samples
      rw [fresh, List.nil_append] at samples
      rw [List.flatMap_cons, receiveAll_append]
      refine ⟨moved.trans later.1, ?_⟩
      have returned : ∀ before after : List (WsMessage β),
          (before ++ after).flatMap WsMessage.converted =
            before.flatMap WsMessage.converted ++ after.flatMap WsMessage.converted := by simp
      simp only [Reception.returned, returned] at later samples ⊢
      rw [extracted_append moved, later.2, List.flatMap_cons, ← samples]
      simp only [extracted, same.resampler]

/-- The samples of every connection are those of its bytes, however these were cut
into payloads, and the odd byte of the last one is pending. -/
theorem pcm_decoding_ignores_framing {streamer : RawStreamer β σ}
    (playable : streamer.Playable) (earlier : List (List (WsFrame β))) (frames : List (WsFrame β))
    (deliveredEarlier : ∀ others ∈ earlier, ∀ frame ∈ others,
      frame.Delivered streamer.rawAudioMode)
    (delivered : ∀ frame ∈ frames, frame.Delivered streamer.rawAudioMode) :
    let reception := receiveAll process streamer ((earlier ++ [frames]).flatMap connection)
    let stream := frames.flatMap WsFrame.payload
    extracted streamer reception.handed reception.returned =
        (earlier.flatMap fun others => pcmSamples (others.flatMap WsFrame.payload)) ++
          pcmSamples stream ∧
      (reception.streamer.hasPendingRawByte = true ↔ stream.length % 2 = 1) ∧
      (reception.streamer.hasPendingRawByte = true →
        stream.getLast? = some reception.streamer.pendingRawByte) ∧
      ∀ recut : List (WsFrame β), (∀ frame ∈ recut, frame.Delivered streamer.rawAudioMode) →
        recut.flatMap WsFrame.payload = stream →
        extracted streamer
            (receiveAll process streamer ((earlier ++ [recut]).flatMap connection)).handed
            (receiveAll process streamer ((earlier ++ [recut]).flatMap connection)).returned =
          extracted streamer reception.handed reception.returned := by
  intro reception stream
  have whole (current : List (WsFrame β))
      (allowed : ∀ frame ∈ current, frame.Delivered streamer.rawAudioMode) :
      extracted streamer
          (receiveAll process streamer ((earlier ++ [current]).flatMap connection)).handed
          (receiveAll process streamer ((earlier ++ [current]).flatMap connection)).returned =
        (earlier.flatMap fun others => pcmSamples (others.flatMap WsFrame.payload)) ++
          pcmSamples (current.flatMap WsFrame.payload) := by
    have both := connections_extracted process playable (earlier ++ [current]) (by
        intro others member
        rcases List.mem_append.mp member with before | now
        · exact deliveredEarlier others before
        · rw [List.mem_singleton.mp now]
          exact allowed)
    rw [both.2]
    simp
  have before := connections_extracted process playable earlier deliveredEarlier
  obtain ⟨opened, fresh, _, taken⟩ := connection_extracts process
    (playable.of_sameSetup before.1) frames (by
      rw [before.1.rawAudioMode]
      exact delivered)
  have last : reception.streamer = (receiveAll process
      (receiveAll process streamer (earlier.flatMap connection)).streamer
      (connection frames)).streamer := by
    simp only [reception, List.flatMap_append, receiveAll_append, List.flatMap_singleton]
  have carried := taken.carried fresh
  rw [← last] at carried
  refine ⟨whole frames delivered, carried.1, carried.2, ?_⟩
  intro recut allowed same
  rw [whole recut allowed, same, ← whole frames delivered]

def rawStreamer (first : β) : RawStreamer β Unit where
  inSampleRate := 16000
  outSampleRate := 16000
  resampler := none
  rawAudioMode := true
  pendingRawByte := first
  hasPendingRawByte := false

def noResampler : ResampleCall β Unit := fun resampler _ _ => (resampler, none)

theorem rawStreamer_playable (first : β) : (rawStreamer first).Playable :=
  ⟨fun _ => rfl, by simp [rawStreamer, maxWsMessageBytes, uint32Max]⟩

def failedStreamer : RawStreamer Nat Unit :=
  { rawStreamer 0 with inSampleRate := 24000, outSampleRate := 8000 }

def steepStreamer : RawStreamer Nat Unit :=
  { rawStreamer 0 with inSampleRate := 8000, outSampleRate := 8192000, resampler := some () }

theorem steepStreamer_drops {data : List Nat} (full : data.length = maxWsMessageBytes) :
    receiveAll noResampler steepStreamer (connection [.binary data]) =
      { streamer := steepStreamer, messages := [.opened, .binaryAudio []] } := by
  simp [connection, receiveAll, messageCallback, steepStreamer, rawStreamer, full,
    RawStreamer.usableBytes, RawStreamer.pending, convertRawAudio, maxWsMessageBytes, uint32Max]

/-- Where the audio is dropped by design: without the resampler, and at the guard. -/
theorem pcm_decoding_drops :
    ((WsFrame.binary [1, 2]).Delivered failedStreamer.rawAudioMode ∧
      extracted failedStreamer
          (receiveAll noResampler failedStreamer (connection [.binary [1, 2]])).handed
          (receiveAll noResampler failedStreamer (connection [.binary [1, 2]])).returned = [] ∧
      pcmSamples [1, 2] = [(1, 2)]) ∧
    (WsFrame.binary (List.replicate maxWsMessageBytes 0)).Delivered steepStreamer.rawAudioMode ∧
      extracted steepStreamer
          (receiveAll noResampler steepStreamer
            (connection [.binary (List.replicate maxWsMessageBytes 0)])).handed
          (receiveAll noResampler steepStreamer
            (connection [.binary (List.replicate maxWsMessageBytes 0)])).returned = [] ∧
      pcmSamples (List.replicate maxWsMessageBytes 0) ≠ [] := by
  refine ⟨⟨by simp [WsFrame.Delivered, failedStreamer, rawStreamer, maxWsMessageBytes], by decide,
    rfl⟩, ?_, ?_, ?_⟩
  · simp [WsFrame.Delivered, steepStreamer, rawStreamer]
  · rw [steepStreamer_drops List.length_replicate]
    rfl
  · have long : maxWsMessageBytes = (maxWsMessageBytes - 2) + 1 + 1 := by decide
    rw [long, List.replicate_succ, List.replicate_succ, pcmSamples]
    exact List.cons_ne_nil _ _

theorem pcm_decoding_of_odd_payloads :
    (receiveAll noResampler (rawStreamer 0)
        [.opened, .binary [9], .opened, .binary [1], .binary [], .binary [2, 3]]).returned =
      [(1, 2)] := by
  have decoded := pcm_decoding_ignores_framing noResampler (rawStreamer_playable 0)
    [[.binary [9]]] [.binary [1], .binary [], .binary [2, 3]]
    (by simp [WsFrame.Delivered, rawStreamer, maxWsMessageBytes])
    (by simp [WsFrame.Delivered, rawStreamer, maxWsMessageBytes])
  exact decoded.1

end

end OpenaiAudioStream
