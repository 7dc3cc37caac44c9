import Mathlib.Data.Prod.Lex
import OpenaiAudioStream.AudioQueueCore
import OpenaiAudioStream.CaptureCore
import OpenaiAudioStream.DrivenLoop

/-!
The resample loop of `stream_frame` on one captured frame, with the steps of
`send_or_buffer_audio` in it. The connection may change between any two steps.
-/

namespace OpenaiAudioStream

open DrivenLoop

variable {β σ : Type*}

def recommendedBufferSize : Nat := 8192

structure SpeexReply (β σ : Type*) where
  resampler : σ
  success : Bool
  inLen : UInt32
  outLen : UInt32
  outBuffer : List (Sample β)

/-- From the interleaved input, `in_len` and `out_len`, the two lengths and the output
buffer after the call. -/
abbrev SpeexProcess (β σ : Type*) := σ → List (Sample β) → UInt32 → UInt32 → SpeexReply β σ

/-- The members of `private_t` that the loop reads, and the two ways to call Speex. -/
structure CaptureResampler (β σ : Type*) where
  processInt : SpeexProcess β σ
  processInterleavedInt : SpeexProcess β σ
  inputRate : UInt32
  outputRate : UInt32
  channels : Nat
  rtpPackets : Nat

structure CapturedFrame (β : Type*) where
  data : List (Sample β)
  samples : UInt32
  bufferSize : data.length * 2 = recommendedBufferSize

def CapturedFrame.captured (frame : CapturedFrame β) (channels : Nat) : List (Sample β) :=
  frame.data.take (frame.samples.toNat * channels)

def CaptureResampler.process (setup : CaptureResampler β σ) : SpeexProcess β σ :=
  if setup.channels = 1 then setup.processInt else setup.processInterleavedInt

def CaptureResampler.outputCapacity (setup : CaptureResampler β σ) (samples : UInt32) : UInt32 :=
  let estimatedOutput : UInt64 :=
    (samples.toUInt64 * setup.outputRate.toUInt64 + setup.inputRate.toUInt64 - 1) /
      setup.inputRate.toUInt64
  (estimatedOutput + 1).toUInt32

def CaptureResampler.buflen (setup : CaptureResampler β σ) : Nat :=
  frameSize8000 * setup.outputRate.toNat / 8000 * setup.channels * setup.rtpPackets

structure CaptureResampler.Admitted (setup : CaptureResampler β σ) : Prop where
  channels : setup.channels = 1 ∨ setup.channels = 2
  inputRate : 8000 ≤ setup.inputRate.toNat ∧ setup.inputRate.toNat ≤ 48000
  outputRate : 8000 ≤ setup.outputRate.toNat ∧ setup.outputRate.toNat ≤ 48000
  rtpPackets : 0 < setup.rtpPackets

theorem CaptureResampler.buflen_pos {setup : CaptureResampler β σ} (admitted : setup.Admitted) :
    0 < setup.buflen := by
  have channels : 0 < setup.channels := by
    rcases admitted.channels with mono | stereo <;> omega
  have packet : 0 < frameSize8000 * setup.outputRate.toNat / 8000 := by
    have low := admitted.outputRate.1
    rw [frameSize8000]
    omega
  exact Nat.mul_pos (Nat.mul_pos packet channels) admitted.rtpPackets

theorem CaptureResampler.outputCapacity_toNat {setup : CaptureResampler β σ}
    (admitted : setup.Admitted) {samples : UInt32} (few : samples.toNat ≤ 4096) :
    (setup.outputCapacity samples).toNat =
      (samples.toNat * setup.outputRate.toNat + setup.inputRate.toNat - 1) /
        setup.inputRate.toNat + 1 := by
  obtain ⟨inLow, inHigh⟩ := admitted.inputRate
  obtain ⟨-, outHigh⟩ := admitted.outputRate
  have product : samples.toNat * setup.outputRate.toNat ≤ 4096 * 48000 :=
    Nat.mul_le_mul few outHigh
  have unwrapped : (2 ^ 64 - 1 + (samples.toNat * setup.outputRate.toNat % 2 ^ 64 +
      setup.inputRate.toNat) % 2 ^ 64) % 2 ^ 64 =
        samples.toNat * setup.outputRate.toNat + setup.inputRate.toNat - 1 := by
    omega
  simp only [outputCapacity, UInt64.toNat_toUInt32, UInt64.toNat_add, UInt64.toNat_div,
    UInt64.toNat_sub, UInt64.toNat_mul, UInt32.toNat_toUInt64, UInt64.reduceToNat, unwrapped]
  have small := Nat.div_le_self
    (samples.toNat * setup.outputRate.toNat + setup.inputRate.toNat - 1) setup.inputRate.toNat
  generalize (samples.toNat * setup.outputRate.toNat + setup.inputRate.toNat - 1) /
    setup.inputRate.toNat = quotient at small ⊢
  omega

inductive LoopExit where
  | exhausted | resamplingFailed | sendFailed | noProgress
  deriving DecidableEq, Repr

inductive ResamplePc (β : Type*) where
  | loop
  | send (position : PiecePc β) (inLen outLen : UInt32)
  | advance (inLen outLen : UInt32)
  | left (exit : LoopExit)
  deriving DecidableEq, Repr

structure SpeexCall (β : Type*) where
  offered : List (Sample β)
  inLen : UInt32
  outLen : UInt32
  produced : List (Sample β)

/-- `input` counts samples from the start of the frame. `calls` and `passed` record the calls
of Speex and the arguments of `send_or_buffer_audio`. -/
structure ResampleLoop (β σ : Type*) where
  resampler : σ
  input : Nat := 0
  remainingSamples : UInt32
  sbuffer : BoundedFifo β
  pc : ResamplePc β := .loop
  calls : List (SpeexCall β) := []
  passed : List (List β) := []
  events : List (AudioEvent β) := []

namespace ResampleLoop

def start (frame : CapturedFrame β) (resampler : σ) (sbuffer : BoundedFifo β) :
    ResampleLoop β σ where
  resampler := resampler
  remainingSamples := frame.samples
  sbuffer := sbuffer

def offered (setup : CaptureResampler β σ) (frame : CapturedFrame β) (loop : ResampleLoop β σ) :
    List (Sample β) :=
  (frame.data.drop loop.input).take (loop.remainingSamples.toNat * setup.channels)

def reply (setup : CaptureResampler β σ) (frame : CapturedFrame β) (loop : ResampleLoop β σ) :
    SpeexReply β σ :=
  setup.process loop.resampler (loop.offered setup frame) loop.remainingSamples
    (setup.outputCapacity frame.samples)

def call (setup : CaptureResampler β σ) (frame : CapturedFrame β) (loop : ResampleLoop β σ) :
    ResampleLoop β σ :=
  let reply := loop.reply setup frame
  let produced := reply.outBuffer.take (reply.outLen.toNat * setup.channels)
  let made : SpeexCall β := ⟨loop.offered setup frame, reply.inLen, reply.outLen, produced⟩
  let called : ResampleLoop β σ :=
    { loop with resampler := reply.resampler, calls := loop.calls ++ [made] }
  if !reply.success then { called with pc := .left .resamplingFailed }
  else
    let bytesWritten := reply.outLen.toNat * setup.channels * 2
    if bytesWritten > 0 then
      let bytes := (sampleBytes reply.outBuffer).take bytesWritten
      { called with
        pc := .send (.start bytes) reply.inLen reply.outLen
        passed := loop.passed ++ [bytes] }
    else { called with pc := .advance reply.inLen reply.outLen }

def advance (setup : CaptureResampler β σ) (loop : ResampleLoop β σ) (inLen outLen : UInt32) :
    ResampleLoop β σ :=
  if inLen = 0 ∧ outLen = 0 then { loop with pc := .left .noProgress }
  else
    { loop with
      input := loop.input + inLen.toNat * setup.channels
      remainingSamples := loop.remainingSamples - inLen
      pc := .loop }

def step (setup : CaptureResampler β σ) (frame : CapturedFrame β) (link : Bool × Bool)
    (loop : ResampleLoop β σ) : ResampleLoop β σ :=
  match loop.pc with
  | .loop =>
      if loop.remainingSamples > 0 then loop.call setup frame
      else { loop with pc := .left .exhausted }
  | .send (.returned true) inLen outLen => { loop with pc := .advance inLen outLen }
  | .send (.returned false) _ _ => { loop with pc := .left .sendFailed }
  | .send position inLen outLen =>
      let moved := pieceStep setup.rtpPackets link.1 link.2 loop.sbuffer position
      { loop with
        sbuffer := moved.1
        pc := .send moved.2.1 inLen outLen
        events := loop.events ++ moved.2.2 }
  | .advance inLen outLen => loop.advance setup inLen outLen
  | .left _ => loop

end ResampleLoop

/-! What one step of `send_or_buffer_audio` does, with any connection. -/

def PiecePc.rest : PiecePc β → List β
  | .start data | .loop data | .flush _ data | .flushSend _ data _ => data
  | .returned _ => []

def PiecePc.Possible (rtpPackets : Nat) : PiecePc β → Prop
  | .start _ => True
  | .returned success => success = true
  | _ => rtpPackets ≠ 1

def takenOver (rtpPackets : Nat) : AudioEvent β → List β
  | .buffered bytes => if rtpPackets = 1 then [] else bytes
  | .sent bytes | .lost bytes => if rtpPackets = 1 then bytes else []
  | .residueTaken _ | .residueDiscarded _ => []

def pieceRank (sbuffer : BoundedFifo β) : PiecePc β → Nat
  | .start data => 4 * data.length + 5
  | .loop data => 4 * data.length + (if sbuffer.freespace = 0 then 4 else 1)
  | .flush _ data => 4 * data.length + 3
  | .flushSend _ data _ => 4 * data.length + 2
  | .returned _ => 0

structure PieceMoved (rtpPackets : Nat) (sbuffer : BoundedFifo β) (position : PiecePc β)
    (moved : BoundedFifo β × PiecePc β × List (AudioEvent β)) : Prop where
  capacity : moved.1.capacity = sbuffer.capacity
  possible : moved.2.1.Possible rtpPackets
  lower : pieceRank moved.1 moved.2.1 < pieceRank sbuffer position
  whole : moved.2.2.flatMap (takenOver rtpPackets) ++ moved.2.1.rest = position.rest

theorem writePiece_moved {rtpPackets : Nat} (many : rtpPackets ≠ 1) {sbuffer : BoundedFifo β}
    {data : List β} (nonempty : data.length ≠ 0) (free : sbuffer.freespace ≠ 0) :
    PieceMoved rtpPackets sbuffer (.loop data) (writePiece sbuffer data) := by
  have room : sbuffer.inuse < sbuffer.capacity := by
    simp only [BoundedFifo.inuse, BoundedFifo.freespace] at free ⊢
    omega
  obtain ⟨-, wrote⟩ := writePiece_eq room (by simpa using nonempty)
  have positive : 0 < min data.length sbuffer.freespace := by omega
  rw [wrote]
  by_cases full : (sbuffer.write (data.take (min data.length sbuffer.freespace))).2.freespace = 0
  · rw [if_pos full]
    refine ⟨BoundedFifo.write_capacity _ _, many, ?_, ?_⟩
    · simp only [pieceRank, if_neg free, List.length_drop]
      omega
    · simp [takenOver, many, PiecePc.rest]
  · rw [if_neg full]
    refine ⟨BoundedFifo.write_capacity _ _, many, ?_, ?_⟩
    · simp only [pieceRank, if_neg free, if_neg full, List.length_drop]
      omega
    · simp [takenOver, many, PiecePc.rest]

theorem afterFlush_room {sbuffer : BoundedFifo β} (room : sbuffer.freespace ≠ 0) (atHead : Bool)
    (data : List β) :
    afterFlush sbuffer atHead data = .loop data ∧
      pieceRank sbuffer (.loop data) = 4 * data.length + 1 := by
  simp [afterFlush, pieceRank, room]

theorem freespace_zero (sbuffer : BoundedFifo β) : sbuffer.zero.freespace = sbuffer.capacity := by
  simp [BoundedFifo.freespace]

theorem pieceStep_moved {rtpPackets : Nat} {usable accepted : Bool} {sbuffer : BoundedFifo β}
    {position : PiecePc β} (room : 0 < sbuffer.capacity)
    (possible : position.Possible rtpPackets) (running : ∀ success, position ≠ .returned success) :
    PieceMoved rtpPackets sbuffer position
      (pieceStep rtpPackets usable accepted sbuffer position) := by
  cases position with
  | start data =>
      by_cases one : rtpPackets = 1
      · simp only [pieceStep, if_pos one]
        refine ⟨rfl, rfl, by simp [pieceRank], ?_⟩
        cases accepted <;> simp [sendAudio, takenOver, one, PiecePc.rest]
      · simp only [pieceStep, if_neg one]
        refine ⟨rfl, one, ?_, rfl⟩
        simp only [pieceRank]
        split <;> omega
  | loop data =>
      by_cases empty : data.length = 0
      · simp only [pieceStep, if_pos empty]
        refine ⟨rfl, rfl, ?_, by simpa [PiecePc.rest] using empty⟩
        simp only [pieceRank]
        split <;> omega
      · by_cases full : sbuffer.freespace = 0
        · simp only [pieceStep, if_neg empty, if_pos full]
          exact ⟨rfl, possible, by simp [pieceRank, full], rfl⟩
        · simp only [pieceStep, if_neg empty, if_neg full]
          exact writePiece_moved possible empty full
  | flush atHead data =>
      have zeroRoom : sbuffer.zero.freespace ≠ 0 := by
        rw [freespace_zero]
        omega
      simp only [pieceStep, flushCheck]
      by_cases unused : sbuffer.inuse = 0
      · have free : sbuffer.freespace ≠ 0 := by
          simp only [BoundedFifo.freespace, BoundedFifo.inuse] at unused ⊢
          omega
        obtain ⟨next, rank⟩ := afterFlush_room free atHead data
        rw [if_pos unused]
        simp only [next]
        exact ⟨rfl, possible, by rw [rank, pieceRank]; omega, rfl⟩
      · rw [if_neg unused]
        cases usable with
        | true => exact ⟨rfl, possible, by simp [pieceRank], rfl⟩
        | false =>
            obtain ⟨next, rank⟩ := afterFlush_room zeroRoom atHead data
            simp only [Bool.false_eq_true, if_false, next]
            exact ⟨rfl, possible, by rw [rank, pieceRank]; omega, rfl⟩
  | flushSend atHead data bytes =>
      have zeroRoom : sbuffer.zero.freespace ≠ 0 := by
        rw [freespace_zero]
        omega
      obtain ⟨next, rank⟩ := afterFlush_room zeroRoom atHead data
      simp only [pieceStep, flushSend, next]
      refine ⟨rfl, possible, by rw [rank, pieceRank]; omega, ?_⟩
      have many : rtpPackets ≠ 1 := possible
      cases accepted <;> simp [sendAudio, takenOver, many, PiecePc.rest]
  | returned success => exact absurd rfl (running success)

/-! What is assumed of Speex, and what the loop keeps. -/

/-- No error, no more than was offered or has room, and a call that takes nothing gives some
of the pending output. -/
structure ReplyProgresses (channels : Nat) (pending : σ → Nat) (resampler : σ)
    (inLen outLen : UInt32) (reply : SpeexReply β σ) : Prop where
  success : reply.success = true
  taken : reply.inLen ≤ inLen
  given : reply.outLen ≤ outLen
  bufferSize : reply.outBuffer.length = outLen.toNat * channels
  progress : reply.inLen ≠ 0 ∨ reply.outLen ≠ 0
  shrinks : reply.inLen = 0 → pending reply.resampler < pending resampler

def Progresses (process : SpeexProcess β σ) (channels : Nat) (pending : σ → Nat) : Prop :=
  ∀ resampler offered inLen outLen, offered.length = inLen.toNat * channels → 0 < inLen →
    0 < outLen →
    ReplyProgresses channels pending resampler inLen outLen (process resampler offered inLen outLen)

def SpeexCall.consumed (channels : Nat) (call : SpeexCall β) : List (Sample β) :=
  call.offered.take (call.inLen.toNat * channels)

/-- Every call is offered all that the calls before it left. -/
def OfferedInOrder (channels : Nat) : List (Sample β) → List (SpeexCall β) → Prop
  | _, [] => True
  | samples, call :: later => call.offered = samples ∧
      OfferedInOrder channels (samples.drop (call.inLen.toNat * channels)) later

def leftOver (channels : Nat) : List (Sample β) → List (SpeexCall β) → List (Sample β)
  | samples, [] => samples
  | samples, call :: later => leftOver channels (samples.drop (call.inLen.toNat * channels)) later

theorem offeredInOrder_append {channels : Nat} {samples : List (Sample β)}
    {calls : List (SpeexCall β)} {call : SpeexCall β}
    (older : OfferedInOrder channels samples calls)
    (next : call.offered = leftOver channels samples calls) :
    OfferedInOrder channels samples (calls ++ [call]) := by
  induction calls generalizing samples with
  | nil => exact ⟨next, trivial⟩
  | cons first later ih => exact ⟨older.1, ih older.2 next⟩

theorem leftOver_append (channels : Nat) (samples : List (Sample β)) (calls : List (SpeexCall β))
    (call : SpeexCall β) :
    leftOver channels samples (calls ++ [call]) =
      (leftOver channels samples calls).drop (call.inLen.toNat * channels) := by
  induction calls generalizing samples with
  | nil => rfl
  | cons first later ih => exact ih _

theorem consumed_leftOver {channels : Nat} {samples : List (Sample β)}
    {calls : List (SpeexCall β)} (ordered : OfferedInOrder channels samples calls) :
    calls.flatMap (SpeexCall.consumed channels) ++ leftOver channels samples calls = samples := by
  induction calls generalizing samples with
  | nil => rfl
  | cons call later ih =>
      rw [List.flatMap_cons, List.append_assoc, leftOver, ih ordered.2, SpeexCall.consumed,
        ordered.1, List.take_append_drop]

namespace ResamplePc

def claimed : ResamplePc β → Nat
  | .send _ inLen _ | .advance inLen _ => inLen.toNat
  | _ => 0

def rest : ResamplePc β → List β
  | .send position _ _ => position.rest
  | _ => []

def rank (sbuffer : BoundedFifo β) : ResamplePc β → Nat
  | .left _ => 0
  | .loop => 1
  | .advance _ _ => 2
  | .send position _ _ => pieceRank sbuffer position + 3

def Possible (rtpPackets : Nat) (remainingSamples : UInt32) : ResamplePc β → Prop
  | .loop => True
  | .send position inLen outLen => position.Possible rtpPackets ∧ (inLen ≠ 0 ∨ outLen ≠ 0)
  | .advance inLen outLen => inLen ≠ 0 ∨ outLen ≠ 0
  | .left exit => exit = .exhausted ∧ remainingSamples = 0

end ResamplePc

def ResampleLoop.rank (pending : σ → Nat) (loop : ResampleLoop β σ) : Nat ×ₗ Nat ×ₗ Nat :=
  toLex (loop.remainingSamples.toNat - loop.pc.claimed,
    toLex (pending loop.resampler, loop.pc.rank loop.sbuffer))

structure ResampleSound (setup : CaptureResampler β σ) (frame : CapturedFrame β)
    (loop : ResampleLoop β σ) : Prop where
  room : 0 < loop.sbuffer.capacity
  position : loop.input + loop.remainingSamples.toNat * setup.channels =
    frame.samples.toNat * setup.channels
  claimed : loop.pc.claimed ≤ loop.remainingSamples.toNat
  possible : loop.pc.Possible setup.rtpPackets loop.remainingSamples
  offered : OfferedInOrder setup.channels (frame.captured setup.channels) loop.calls
  leftOver : leftOver setup.channels (frame.captured setup.channels) loop.calls =
    (frame.captured setup.channels).drop (loop.input + loop.pc.claimed * setup.channels)
  produced : ∀ call ∈ loop.calls, call.produced.length = call.outLen.toNat * setup.channels
  passed : loop.passed = (loop.calls.map fun call => sampleBytes call.produced).filter
    fun piece => !piece.isEmpty
  handed : loop.events.flatMap (takenOver setup.rtpPackets) ++ loop.pc.rest = loop.passed.flatten

section

variable {setup : CaptureResampler β σ} {frame : CapturedFrame β} {loop : ResampleLoop β σ}

theorem sound_start (resampler : σ) {sbuffer : BoundedFifo β} (room : 0 < sbuffer.capacity) :
    ResampleSound setup frame (ResampleLoop.start frame resampler sbuffer) where
  room := room
  position := Nat.zero_add _
  claimed := Nat.zero_le _
  possible := trivial
  offered := trivial
  leftOver := by simp [OpenaiAudioStream.leftOver, ResamplePc.claimed, ResampleLoop.start]
  produced := by simp [ResampleLoop.start]
  passed := rfl
  handed := rfl

theorem ResampleSound.move (sound : ResampleSound setup frame loop) {pc : ResamplePc β}
    (claimed : pc.claimed = loop.pc.claimed) (rest : pc.rest = loop.pc.rest)
    (possible : pc.Possible setup.rtpPackets loop.remainingSamples) :
    ResampleSound setup frame { loop with pc := pc } := by
  have bound := sound.claimed
  have remainder := sound.leftOver
  have handed := sound.handed
  rw [← claimed] at bound remainder
  rw [← rest] at handed
  exact { sound with
    claimed := bound
    possible := possible
    leftOver := remainder
    handed := handed }

theorem advance_eq {inLen outLen : UInt32} (progress : inLen ≠ 0 ∨ outLen ≠ 0) :
    loop.advance setup inLen outLen = { loop with
      input := loop.input + inLen.toNat * setup.channels
      remainingSamples := loop.remainingSamples - inLen
      pc := .loop } := by
  rw [ResampleLoop.advance, if_neg]
  rintro ⟨noInput, noOutput⟩
  exact progress.elim (fun taken => taken noInput) (fun given => given noOutput)

theorem sound_advance (sound : ResampleSound setup frame loop) {inLen outLen : UInt32}
    (advancing : loop.pc = .advance inLen outLen) :
    ResampleSound setup frame (loop.advance setup inLen outLen) := by
  have progress := sound.possible
  have claimed := sound.claimed
  have remainder := sound.leftOver
  have handed := sound.handed
  simp only [advancing, ResamplePc.Possible, ResamplePc.claimed, ResamplePc.rest]
    at progress claimed remainder handed
  have remaining : (loop.remainingSamples - inLen).toNat =
      loop.remainingSamples.toNat - inLen.toNat :=
    UInt32.toNat_sub_of_le _ _ claimed
  rw [advance_eq progress]
  exact {
    room := sound.room
    position := by
      have position := sound.position
      simp only [remaining, Nat.sub_mul]
      have part := Nat.mul_le_mul_right setup.channels claimed
      omega
    claimed := Nat.zero_le _
    possible := trivial
    offered := sound.offered
    leftOver := by simpa [ResamplePc.claimed] using remainder
    produced := sound.produced
    passed := sound.passed
    handed := handed }

theorem sampleBytes_take (audio : List (Sample β)) (count : Nat) :
    sampleBytes (audio.take count) = (sampleBytes audio).take (count * 2) := by
  induction audio generalizing count with
  | nil => simp
  | cons sample audio ih =>
      cases count with
      | zero => simp
      | succ count => simp [ih, Nat.succ_mul]

theorem captured_length (frame : CapturedFrame β) {channels : Nat}
    (fits : frame.samples.toNat * channels * 2 ≤ recommendedBufferSize) :
    (frame.captured channels).length = frame.samples.toNat * channels := by
  have size := frame.bufferSize
  rw [CapturedFrame.captured, List.length_take]
  omega

theorem offered_eq (sound : ResampleSound setup frame loop) :
    loop.offered setup frame = (frame.captured setup.channels).drop loop.input := by
  have position := sound.position
  rw [ResampleLoop.offered, CapturedFrame.captured, List.drop_take]
  congr 1
  omega

theorem call_eq {reply : SpeexReply β σ} (replied : loop.reply setup frame = reply)
    (success : reply.success = true) {produced : List (Sample β)}
    (isProduced : reply.outBuffer.take (reply.outLen.toNat * setup.channels) = produced)
    (sized : produced.length = reply.outLen.toNat * setup.channels) :
    loop.call setup frame = { loop with
      resampler := reply.resampler
      calls := loop.calls ++ [⟨loop.offered setup frame, reply.inLen, reply.outLen, produced⟩]
      passed := loop.passed ++ [sampleBytes produced].filter fun piece => !piece.isEmpty
      pc := if (sampleBytes produced).isEmpty then .advance reply.inLen reply.outLen
        else .send (.start (sampleBytes produced)) reply.inLen reply.outLen } := by
  have bytes : (sampleBytes reply.outBuffer).take (reply.outLen.toNat * setup.channels * 2) =
      sampleBytes produced := by
    rw [← isProduced, sampleBytes_take]
  have size : (sampleBytes produced).length = reply.outLen.toNat * setup.channels * 2 := by
    rw [sampleBytes_length, sized, Nat.mul_comm]
  simp only [ResampleLoop.call, replied, success, isProduced, bytes, Bool.not_true,
    Bool.false_eq_true, if_false]
  by_cases silent : sampleBytes produced = []
  · rw [silent] at size
    rw [if_neg (by simp only [List.length_nil] at size; omega)]
    simp [silent]
  · have positive := List.length_pos_iff.mpr silent
    rw [if_pos (by omega)]
    simp [silent]

theorem reply_progresses {pending : σ → Nat}
    (progresses : Progresses setup.process setup.channels pending)
    (capacity : 0 < setup.outputCapacity frame.samples)
    (fits : frame.samples.toNat * setup.channels * 2 ≤ recommendedBufferSize)
    (sound : ResampleSound setup frame loop) (more : 0 < loop.remainingSamples) :
    ReplyProgresses setup.channels pending loop.resampler loop.remainingSamples
      (setup.outputCapacity frame.samples) (loop.reply setup frame) := by
  have position := sound.position
  have length : (loop.offered setup frame).length =
      loop.remainingSamples.toNat * setup.channels := by
    rw [offered_eq sound, List.length_drop, captured_length frame fits]
    omega
  exact progresses loop.resampler _ _ _ length more capacity

theorem sound_call {pending : σ → Nat} (sound : ResampleSound setup frame loop)
    (looping : loop.pc = .loop)
    (progress : ReplyProgresses setup.channels pending loop.resampler loop.remainingSamples
      (setup.outputCapacity frame.samples) (loop.reply setup frame)) :
    ResampleSound setup frame (loop.call setup frame) := by
  generalize replied : loop.reply setup frame = reply at progress
  generalize isProduced : reply.outBuffer.take (reply.outLen.toNat * setup.channels) = produced
  have sized : produced.length = reply.outLen.toNat * setup.channels := by
    have room := Nat.mul_le_mul_right setup.channels (UInt32.le_iff_toNat_le.mp progress.given)
    rw [← isProduced, List.length_take, progress.bufferSize]
    omega
  have remainder := sound.leftOver
  have handed := sound.handed
  simp only [looping, ResamplePc.claimed, ResamplePc.rest, Nat.zero_mul, Nat.add_zero,
    List.append_nil] at remainder handed
  have offered : loop.offered setup frame =
      leftOver setup.channels (frame.captured setup.channels) loop.calls := by
    rw [offered_eq sound, remainder]
  rw [call_eq replied progress.success isProduced sized]
  have claims : (if (sampleBytes produced).isEmpty then .advance reply.inLen reply.outLen
      else .send (.start (sampleBytes produced)) reply.inLen reply.outLen :
        ResamplePc β).claimed = reply.inLen.toNat := by
    split <;> rfl
  exact {
    room := sound.room
    position := sound.position
    claimed := by
      simp only [claims]
      exact UInt32.le_iff_toNat_le.mp progress.taken
    possible := by
      simp only
      split
      · exact progress.progress
      · exact ⟨trivial, progress.progress⟩
    offered := offeredInOrder_append sound.offered offered
    leftOver := by
      simp only [claims]
      rw [leftOver_append, remainder, List.drop_drop]
    produced := by
      intro call member
      rcases List.mem_append.mp member with old | new
      · exact sound.produced call old
      · rw [List.mem_singleton.mp new]
        exact sized
    passed := by
      simp only [List.map_append, List.filter_append, sound.passed]
      rfl
    handed := by
      simp only [List.flatten_append, ← handed, List.append_cancel_left_eq]
      cases empty : (sampleBytes produced).isEmpty with
      | true => simp [empty, ResamplePc.rest]
      | false => simp [empty, ResamplePc.rest, PiecePc.rest] }

theorem sound_send (sound : ResampleSound setup frame loop) {link : Bool × Bool}
    {position : PiecePc β} {inLen outLen : UInt32}
    (sending : loop.pc = .send position inLen outLen)
    (running : ∀ success, position ≠ .returned success) :
    let moved := pieceStep setup.rtpPackets link.1 link.2 loop.sbuffer position
    PieceMoved setup.rtpPackets loop.sbuffer position moved ∧
      ResampleSound setup frame { loop with
        sbuffer := moved.1
        pc := .send moved.2.1 inLen outLen
        events := loop.events ++ moved.2.2 } := by
  have possible := sound.possible
  have claimed := sound.claimed
  have remainder := sound.leftOver
  have handed := sound.handed
  simp only [sending, ResamplePc.Possible, ResamplePc.claimed, ResamplePc.rest]
    at possible claimed remainder handed
  have moved := @pieceStep_moved _ _ link.1 link.2 _ _ sound.room possible.1 running
  refine ⟨moved, ?_⟩
  exact {
    room := by
      simp only [moved.capacity]
      exact sound.room
    position := sound.position
    claimed := claimed
    possible := ⟨moved.possible, possible.2⟩
    offered := sound.offered
    leftOver := remainder
    produced := sound.produced
    passed := sound.passed
    handed := by
      simp only [List.flatMap_append, ResamplePc.rest, List.append_assoc, moved.whole]
      exact handed }

theorem rank_lt_of_pc {pending : σ → Nat} {next : ResampleLoop β σ}
    (input : next.remainingSamples.toNat - next.pc.claimed =
      loop.remainingSamples.toNat - loop.pc.claimed)
    (output : next.resampler = loop.resampler)
    (lower : next.pc.rank next.sbuffer < loop.pc.rank loop.sbuffer) :
    next.rank pending < loop.rank pending := by
  rw [ResampleLoop.rank, ResampleLoop.rank, input, output]
  exact Prod.Lex.right _ (Prod.Lex.right _ lower)

theorem call_rank {pending : σ → Nat} (looping : loop.pc = .loop) (more : 0 < loop.remainingSamples)
    (progress : ReplyProgresses setup.channels pending loop.resampler loop.remainingSamples
      (setup.outputCapacity frame.samples) (loop.reply setup frame)) :
    (loop.call setup frame).rank pending < loop.rank pending := by
  have positive : 0 < loop.remainingSamples.toNat := UInt32.lt_iff_toNat_lt.mp more
  have claims : (loop.call setup frame).pc.claimed = (loop.reply setup frame).inLen.toNat := by
    simp only [ResampleLoop.call, progress.success, Bool.not_true, Bool.false_eq_true, if_false]
    split <;> rfl
  have kept : (loop.call setup frame).remainingSamples = loop.remainingSamples ∧
      (loop.call setup frame).resampler = (loop.reply setup frame).resampler := by
    simp only [ResampleLoop.call, progress.success, Bool.not_true, Bool.false_eq_true, if_false]
    split <;> exact ⟨rfl, rfl⟩
  rw [ResampleLoop.rank, ResampleLoop.rank, claims, kept.1, kept.2, looping]
  by_cases untaken : (loop.reply setup frame).inLen = 0
  · rw [untaken]
    exact Prod.Lex.right _ (Prod.Lex.left _ _ (progress.shrinks untaken))
  · have taken : (loop.reply setup frame).inLen.toNat ≠ 0 := by
      intro zero
      exact untaken (UInt32.toNat_inj.mp zero)
    apply Prod.Lex.left
    simp only [ResamplePc.claimed]
    omega

theorem step_sound {pending : σ → Nat}
    (progresses : Progresses setup.process setup.channels pending)
    (capacity : 0 < setup.outputCapacity frame.samples)
    (fits : frame.samples.toNat * setup.channels * 2 ≤ recommendedBufferSize)
    (link : Bool × Bool) (sound : ResampleSound setup frame loop) :
    ResampleSound setup frame (loop.step setup frame link) ∧
      (loop.pc ≠ .left .exhausted →
        (loop.step setup frame link).rank pending < loop.rank pending) := by
  cases pc : loop.pc with
  | loop =>
      by_cases more : 0 < loop.remainingSamples
      · have progress := reply_progresses progresses capacity fits sound more
        simp only [ResampleLoop.step, pc, gt_iff_lt, if_pos more]
        exact ⟨sound_call sound pc progress, fun _ => call_rank pc more progress⟩
      · have spent : loop.remainingSamples = 0 := by
          rw [← UInt32.toNat_inj]
          have := mt UInt32.lt_iff_toNat_lt.mpr more
          simpa using this
        simp only [ResampleLoop.step, pc, gt_iff_lt, if_neg more]
        refine ⟨sound.move (by rw [pc]; rfl) (by rw [pc]; rfl) ⟨rfl, spent⟩, fun _ => ?_⟩
        exact rank_lt_of_pc (by rw [pc]; rfl) rfl (by rw [pc]; exact Nat.zero_lt_one)
  | send position inLen outLen =>
      cases position with
      | returned success =>
          have possible := sound.possible
          rw [pc] at possible
          obtain ⟨rfl, progress⟩ := possible
          simp only [ResampleLoop.step, pc]
          refine ⟨sound.move (by rw [pc]; rfl) (by rw [pc]; rfl) progress, fun _ => ?_⟩
          exact rank_lt_of_pc (by rw [pc]; rfl) rfl (by rw [pc]; exact Nat.le_refl _)
      | _ =>
          -- only the rank of `send_or_buffer_audio` falls, with the connection as it is now
          simp only [ResampleLoop.step, pc]
          obtain ⟨moved, next⟩ := @sound_send _ _ _ _ _ sound link _ _ _ pc (by simp)
          refine ⟨next, fun _ => rank_lt_of_pc (by rw [pc]; rfl) rfl ?_⟩
          rw [pc]
          exact Nat.add_lt_add_right moved.lower 3
  | advance inLen outLen =>
      have next := sound_advance sound pc
      have progress := sound.possible
      have claimed := sound.claimed
      rw [pc] at progress claimed
      simp only [ResampleLoop.step, pc]
      refine ⟨next, fun _ => ?_⟩
      rw [advance_eq progress]
      refine rank_lt_of_pc ?_ rfl ?_
      · rw [pc]
        exact UInt32.toNat_sub_of_le _ _ claimed
      · rw [pc]
        exact Nat.lt_succ_self 1
  | left exit =>
      have possible := sound.possible
      rw [pc] at possible
      obtain ⟨rfl, -⟩ := possible
      simp only [ResampleLoop.step, pc]
      exact ⟨sound, fun running => absurd rfl running⟩

theorem ResampleSound.consumed (sound : ResampleSound setup frame loop)
    (exhausted : loop.pc = .left .exhausted) :
    loop.calls.flatMap (SpeexCall.consumed setup.channels) = frame.captured setup.channels := by
  have possible := sound.possible
  have position := sound.position
  have remainder := sound.leftOver
  rw [exhausted] at possible remainder
  rw [possible.2, UInt32.toNat_zero, Nat.zero_mul, Nat.add_zero] at position
  have nothing : OpenaiAudioStream.leftOver setup.channels (frame.captured setup.channels)
      loop.calls = [] := by
    rw [remainder, position]
    apply List.drop_eq_nil_of_le
    rw [CapturedFrame.captured, List.length_take]
    omega
  have whole := consumed_leftOver sound.offered
  rwa [nothing, List.append_nil] at whole

theorem ResampleSound.passed_flatten (sound : ResampleSound setup frame loop) :
    loop.passed.flatten = sampleBytes (loop.calls.flatMap SpeexCall.produced) := by
  rw [sound.passed, List.flatten_filter_not_isEmpty, sampleBytes, List.flatMap_assoc]
  rfl

theorem ResampleSound.framePieces (sound : ResampleSound setup frame loop) (resampler : σ)
    (data : List β) :
    framePieces ⟨setup.rtpPackets, some fun _ _ =>
      (loop.resampler, loop.calls.map fun call => sampleBytes call.produced)⟩ resampler data =
        (loop.resampler, loop.passed) := by
  rw [sound.passed]
  rfl

end

/-- Whatever becomes of the connection, the loop ends with the whole frame consumed, in order
and once, and all output passed on, in order and once. -/
theorem resampleLoop_consumes {setup : CaptureResampler β σ} {frame : CapturedFrame β}
    {pending : σ → Nat} (admitted : setup.Admitted)
    (fits : frame.samples.toNat * setup.channels * 2 ≤ recommendedBufferSize)
    (progresses : Progresses setup.process setup.channels pending) (resampler : σ)
    {sbuffer : BoundedFifo β} (created : sbuffer.capacity = setup.buflen)
    (links : Nat → Bool × Bool) :
    let loopAfter := drive (ResampleLoop.step setup frame) links (.start frame resampler sbuffer)
    (∀ count, (loopAfter count).input ≤ frame.samples.toNat * setup.channels ∧
        (∀ inLen outLen, (loopAfter count).pc = .advance inLen outLen →
          inLen ≤ (loopAfter count).remainingSamples) ∧
        OfferedInOrder setup.channels (frame.captured setup.channels) (loopAfter count).calls ∧
        (∀ call ∈ (loopAfter count).calls,
          call.produced.length = call.outLen.toNat * setup.channels) ∧
        (loopAfter count).passed.flatten =
          sampleBytes ((loopAfter count).calls.flatMap SpeexCall.produced) ∧
        ∀ exit, (loopAfter count).pc = .left exit → exit = .exhausted) ∧
      ∃ count, (loopAfter count).pc = .left .exhausted ∧
        (loopAfter count).calls.flatMap (SpeexCall.consumed setup.channels) =
          frame.captured setup.channels ∧
        (loopAfter count).events.flatMap (takenOver setup.rtpPackets) =
          (loopAfter count).passed.flatten := by
  intro loopAfter
  have few : frame.samples.toNat ≤ 4096 := by
    rw [recommendedBufferSize] at fits
    rcases admitted.channels with mono | stereo
    · rw [mono] at fits
      omega
    · rw [stereo] at fits
      omega
  have capacity : 0 < setup.outputCapacity frame.samples := by
    rw [UInt32.lt_iff_toNat_lt, CaptureResampler.outputCapacity_toNat admitted few]
    exact Nat.succ_pos _
  have room : 0 < sbuffer.capacity := by
    rw [created]
    exact CaptureResampler.buflen_pos admitted
  have steps (link : Bool × Bool) (loop : ResampleLoop β σ)
      (sound : ResampleSound setup frame loop) := step_sound progresses capacity fits link sound
  have initial := @sound_start _ _ setup frame resampler _ room
  have sound (count : Nat) : ResampleSound setup frame (loopAfter count) :=
    drive_invariant (fun link loop held => (steps link loop held).1) links initial count
  constructor
  · intro count
    refine ⟨?_, ?_, (sound count).offered, (sound count).produced, (sound count).passed_flatten,
      ?_⟩
    · have position := (sound count).position
      omega
    · intro inLen outLen advancing
      have claimed := (sound count).claimed
      rw [advancing] at claimed
      exact UInt32.le_iff_toNat_le.mpr claimed
    · intro exit left
      have possible := (sound count).possible
      rw [left] at possible
      exact possible.1
  · obtain ⟨count, ended⟩ := drive_ends (ResampleLoop.rank pending)
      (fun link loop held => (steps link loop held).1)
      (fun link loop held => (steps link loop held).2) links initial
    refine ⟨count, ended, (sound count).consumed ended, ?_⟩
    have handed := (sound count).handed
    rw [ended] at handed
    simpa [ResamplePc.rest] using handed

/-- Half the rate of silence; the state is whether an output is due at the next input. -/
def halveSilence : SpeexProcess UInt8 Bool := fun isDue _ inLen outLen =>
  let due := inLen / 2 + if isDue then inLen % 2 else 0
  let given := if due ≤ outLen then due else outLen
  ⟨isDue ^^ (inLen % 2 = 1), true, inLen, given, List.replicate outLen.toNat (0, 0)⟩

def halvingSetup : CaptureResampler UInt8 Bool :=
  ⟨halveSilence, halveSilence, 16000, 8000, 1, 2⟩

theorem halveSilence_progresses : Progresses halveSilence 1 fun _ => 0 := by
  intro isDue offered inLen outLen _ more _
  have consumes : inLen ≠ 0 := by
    rintro rfl
    exact absurd more (by decide)
  constructor
  · rfl
  · exact UInt32.le_refl _
  · simp only [halveSilence]
    generalize inLen / 2 + (if isDue then inLen % 2 else 0) = due
    split
    · assumption
    · exact UInt32.le_refl _
  · simp [halveSilence]
  · exact Or.inl consumes
  · intro untaken
    exact absurd untaken consumes

def silentFrame : CapturedFrame UInt8 where
  data := List.replicate 4096 (0, 0)
  samples := 3
  bufferSize := by rw [List.length_replicate, recommendedBufferSize]

theorem resampleLoop_silence :
    let loopAfter := drive (ResampleLoop.step halvingSetup silentFrame) (fun _ => (true, true))
      (.start silentFrame true (.create 640))
    ∃ count, (loopAfter count).pc = .left .exhausted ∧
      (loopAfter count).calls.flatMap (SpeexCall.consumed 1) = silentFrame.captured 1 := by
  have admitted : halvingSetup.Admitted := by
    constructor
    · exact Or.inl rfl
    · decide
    · decide
    · decide
  obtain ⟨-, count, ended, consumed, -⟩ := @resampleLoop_consumes _ _ halvingSetup silentFrame _
    admitted (by decide) halveSilence_progresses true (.create 640) rfl fun _ => (true, true)
  exact ⟨count, ended, consumed⟩

end OpenaiAudioStream
