import Mathlib.Algebra.GroupWithZero.Nat
import OpenaiAudioStream.RateConversion
import OpenaiAudioStream.RawAudio

/-!
The one-shot playback resample: what a run of `convertRawAudio` calls takes from its
payloads and gives back, with the double arithmetic of the capacity read as exact. The
consumed count that Speex reports is not looked at, so the accounts are Speex's own.
-/

namespace OpenaiAudioStream

open RateConversion

variable {β σ : Type}

def inSamples (streamer : RawStreamer β σ) (inputRaw : List β) : Nat :=
  (streamer.usableBytes inputRaw).2.length / 2

def outSamples (streamer : RawStreamer β σ) (inputRaw : List β) : Nat :=
  inSamples streamer inputRaw * streamer.outSampleRate / streamer.inSampleRate + 1

def tooManySamples (streamer : RawStreamer β σ) (inputRaw : List β) : Prop :=
  inSamples streamer inputRaw > uint32Max ∨ outSamples streamer inputRaw > uint32Max

instance (streamer : RawStreamer β σ) (inputRaw : List β) :
    Decidable (tooManySamples streamer inputRaw) :=
  inferInstanceAs (Decidable (_ ∨ _))

structure ConvertCall (β σ : Type) where
  before : RawStreamer β σ
  inputRaw : List β
  after : RawStreamer β σ
  converted : List (Sample β)

def convertRun (process : ResampleCall β σ) :
    RawStreamer β σ → List (List β) → List (ConvertCall β σ)
  | _, [] => []
  | streamer, inputRaw :: rest =>
      let outcome := convertRawAudio process streamer inputRaw
      ⟨streamer, inputRaw, outcome.1, outcome.2.converted⟩ :: convertRun process outcome.1 rest

def ConvertCall.counted (call : ConvertCall β σ) : Nat :=
  if tooManySamples call.before call.inputRaw then 0 else inSamples call.before call.inputRaw

/-- What is assumed of Speex: no errors, and outputs and inputs by its accounts. -/
structure KeepsAccounts (process : ResampleCall β σ) (inRate outRate : Nat)
    (account : σ → Account) : Prop where
  taken : ∀ resampler samples room, account (process resampler samples room).1 =
    (account resampler).call inRate outRate samples.length room
  given : ∀ resampler samples room, ∃ output, (process resampler samples room).2 = some output ∧
    (account resampler).given + output.length =
      (account (process resampler samples room).1).given

theorem pcmSamples_length {bytes : List β} : (pcmSamples bytes).length = bytes.length / 2 := by
  induction bytes using pcmSamples.induct with
  | case1 low high rest ih =>
      simp only [pcmSamples, List.length_cons, ih]
      omega
  | case2 bytes short =>
      have few := length_le_one short
      rw [pcmSamples_short few, List.length_nil]
      omega

/-- A call has room from every phase and its resampler takes all of its samples, unless the
guard drops it; without a resampler the samples are copied. -/
structure CallExact (account : σ → Account) (inRate outRate : Nat) (call : ConvertCall β σ) :
    Prop where
  room : ∀ position, due inRate outRate (position + inSamples call.before call.inputRaw) ≤
    due inRate outRate position + outSamples call.before call.inputRaw
  taken : ∀ before, call.before.resampler = some before → ∃ after,
    call.after.resampler = some after ∧
      (account after).taken = (account before).taken + call.counted ∧
      (tooManySamples call.before call.inputRaw → after = before ∧ call.converted = [])
  copied : call.before.resampler = none →
    call.converted = pcmSamples (call.before.usableBytes call.inputRaw).2

/-- As the constructor leaves a streamer: its resampler is new, and it does without one
between equal rates. -/
structure Fresh (account : σ → Account) (streamer : RawStreamer β σ) : Prop where
  unused : ∀ resampler, streamer.resampler = some resampler → account resampler = ⟨0, 0⟩
  equalRates : streamer.resampler = none → streamer.inSampleRate = streamer.outSampleRate

section

variable {process : ResampleCall β σ} {inRate outRate : Nat} {account : σ → Account}
  {streamer : RawStreamer β σ}

theorem room_enough (inPositive : 0 < inRate) (inEq : streamer.inSampleRate = inRate)
    (outEq : streamer.outSampleRate = outRate) (inputRaw : List β) (position : Nat) :
    due inRate outRate (position + inSamples streamer inputRaw) ≤
      due inRate outRate position + outSamples streamer inputRaw := by
  rw [outSamples, inEq, outEq]
  exact due_add_le inPositive position _

theorem convertRawAudio_rates (inputRaw : List β) :
    (convertRawAudio process streamer inputRaw).1.inSampleRate = streamer.inSampleRate ∧
      (convertRawAudio process streamer inputRaw).1.outSampleRate = streamer.outSampleRate := by
  obtain ⟨inRate, outRate, -, -⟩ := usableBytes_frame streamer inputRaw
  simp only [convertRawAudio]
  repeat' split
  all_goals exact ⟨inRate, outRate⟩

theorem convertRawAudio_nothing {resampler : σ} (present : streamer.resampler = some resampler)
    {inputRaw : List β}
    (nothing : inSamples streamer inputRaw = 0 ∨ tooManySamples streamer inputRaw) :
    (convertRawAudio process streamer inputRaw).1.resampler = some resampler ∧
      (convertRawAudio process streamer inputRaw).2.converted = [] := by
  obtain ⟨inRate, outRate, same, -⟩ := usableBytes_frame streamer inputRaw
  obtain ⟨-, even⟩ := usableBytes_spec streamer inputRaw
  rw [present] at same
  by_cases empty : (streamer.usableBytes inputRaw).2.length = 0
  · simp only [convertRawAudio, empty, if_true]
    exact ⟨same, trivial⟩
  · have large : (streamer.usableBytes inputRaw).2.length / 2 > uint32Max ∨
        (streamer.usableBytes inputRaw).2.length / 2 * streamer.outSampleRate /
          streamer.inSampleRate + 1 > uint32Max := by
      rcases nothing with sampleless | large
      · simp only [inSamples] at sampleless
        omega
      · exact large
    simp only [convertRawAudio, if_neg empty, same, inRate, outRate]
    rw [if_pos (by simpa using large)]
    exact ⟨same, rfl⟩

theorem convertRawAudio_resampled {resampler : σ} (present : streamer.resampler = some resampler)
    {inputRaw : List β} (sampled : inSamples streamer inputRaw ≠ 0)
    (fits : ¬tooManySamples streamer inputRaw) :
    let samples := pcmSamples (streamer.usableBytes inputRaw).2
    let outcome := process resampler samples (outSamples streamer inputRaw)
    (convertRawAudio process streamer inputRaw).1.resampler = some outcome.1 ∧
      (convertRawAudio process streamer inputRaw).2.converted = outcome.2.getD [] := by
  obtain ⟨inRate, outRate, same, -⟩ := usableBytes_frame streamer inputRaw
  rw [present] at same
  have nonempty : (streamer.usableBytes inputRaw).2.length ≠ 0 := by
    simp only [inSamples] at sampled
    omega
  have small : ¬((streamer.usableBytes inputRaw).2.length / 2 > uint32Max ∨
      (streamer.usableBytes inputRaw).2.length / 2 * streamer.outSampleRate /
        streamer.inSampleRate + 1 > uint32Max) := fits
  simp only [convertRawAudio, if_neg nonempty, same, inRate, outRate]
  rw [if_neg (by simpa using small)]
  exact ⟨rfl, rfl⟩

theorem convertRawAudio_exact (accounts : KeepsAccounts process inRate outRate account)
    (inPositive : 0 < inRate) (outPositive : 0 < outRate)
    (inEq : streamer.inSampleRate = inRate) (outEq : streamer.outSampleRate = outRate)
    {resampler : σ} (present : streamer.resampler = some resampler)
    (exact : (account resampler).Exact inRate outRate) (inputRaw : List β) :
    ∃ after, (convertRawAudio process streamer inputRaw).1.resampler = some after ∧
      (account after).Exact inRate outRate ∧
      (account after).taken = (account resampler).taken +
        (if tooManySamples streamer inputRaw then 0 else inSamples streamer inputRaw) ∧
      (account after).given = (account resampler).given +
        (convertRawAudio process streamer inputRaw).2.converted.length ∧
      (tooManySamples streamer inputRaw → after = resampler ∧
        (convertRawAudio process streamer inputRaw).2.converted = []) := by
  by_cases nothing : inSamples streamer inputRaw = 0 ∨ tooManySamples streamer inputRaw
  · obtain ⟨same, empty⟩ := @convertRawAudio_nothing _ _ process _ _ present _ nothing
    refine ⟨resampler, same, exact, ?_, by simp [empty], fun _ => ⟨rfl, empty⟩⟩
    split
    · rfl
    · next fits => simp [nothing.resolve_right fits]
  · rw [not_or] at nothing
    obtain ⟨same, converted⟩ :=
      @convertRawAudio_resampled _ _ process _ _ present _ nothing.1 nothing.2
    have length : (pcmSamples (streamer.usableBytes inputRaw).2).length =
        inSamples streamer inputRaw := pcmSamples_length
    generalize pcmSamples (streamer.usableBytes inputRaw).2 = samples at same converted length
    obtain ⟨output, succeeded, given⟩ :=
      accounts.given resampler samples (outSamples streamer inputRaw)
    have called := accounts.taken resampler samples (outSamples streamer inputRaw)
    have room := room_enough inPositive inEq outEq inputRaw (account resampler).taken
    rw [length, Account.call_exact inPositive outPositive exact (by rw [exact]; exact room)]
      at called
    refine ⟨_, same, ?_, ?_, ?_, fun large => absurd large nothing.2⟩
    · rw [Account.Exact, called]
    · rw [called, if_neg nothing.2]
    · rw [converted, succeeded, Option.getD_some, given]

theorem convertRun_resampled (accounts : KeepsAccounts process inRate outRate account)
    (inPositive : 0 < inRate) (outPositive : 0 < outRate)
    (inEq : streamer.inSampleRate = inRate) (outEq : streamer.outSampleRate = outRate)
    {resampler : σ} (present : streamer.resampler = some resampler)
    (exact : (account resampler).Exact inRate outRate) (payloads : List (List β)) :
    (∀ call ∈ convertRun process streamer payloads, CallExact account inRate outRate call) ∧
      (account resampler).given +
          ((convertRun process streamer payloads).map fun call => call.converted.length).sum =
        due inRate outRate ((account resampler).taken +
          ((convertRun process streamer payloads).map ConvertCall.counted).sum) := by
  induction payloads generalizing streamer resampler with
  | nil =>
      refine ⟨fun call member => absurd member (by simp [convertRun]), ?_⟩
      simpa [convertRun, Account.Exact] using exact
  | cons inputRaw rest ih =>
      obtain ⟨after, same, exactAfter, taken, given, dropped⟩ :=
        convertRawAudio_exact accounts inPositive outPositive inEq outEq present exact inputRaw
      obtain ⟨inAfter, outAfter⟩ := @convertRawAudio_rates _ _ process streamer inputRaw
      obtain ⟨calls, total⟩ := ih (inAfter.trans inEq) (outAfter.trans outEq) same exactAfter
      simp only [convertRun, List.forall_mem_cons, List.map_cons, List.sum_cons]
      refine ⟨⟨⟨room_enough inPositive inEq outEq inputRaw, ?_, ?_⟩, calls⟩, ?_⟩
      · intro before isBefore
        obtain rfl := Option.some.inj (present.symm.trans isBefore)
        exact ⟨after, same, taken, dropped⟩
      · intro absent
        rw [present] at absent
        contradiction
      · rw [← Nat.add_assoc, ← given, total, taken, ← Nat.add_assoc]
        rfl

theorem convertRawAudio_copied (absent : streamer.resampler = none)
    (equal : streamer.inSampleRate = streamer.outSampleRate) (inputRaw : List β) :
    (convertRawAudio process streamer inputRaw).1.resampler = none ∧
      (convertRawAudio process streamer inputRaw).2.converted =
        pcmSamples (streamer.usableBytes inputRaw).2 := by
  obtain ⟨inSame, outSame, same, -⟩ := usableBytes_frame streamer inputRaw
  rw [absent] at same
  by_cases empty : (streamer.usableBytes inputRaw).2.length = 0
  · simp only [convertRawAudio, empty, if_true]
    refine ⟨same, ?_⟩
    rw [List.length_eq_zero_iff.mp empty]
    rfl
  · simp only [convertRawAudio, if_neg empty, same, inSame, outSame, equal, ne_eq,
      not_true_eq_false, if_false]
    trivial

theorem tooManySamples_equalRates (equal : streamer.inSampleRate = streamer.outSampleRate)
    (positive : 0 < streamer.inSampleRate) {inputRaw : List β}
    (bounded : inputRaw.length ≤ maxWsMessageBytes) : ¬tooManySamples streamer inputRaw := by
  have usable : (streamer.usableBytes inputRaw).2.length ≤ inputRaw.length + 1 := by
    have carried : streamer.pending.length ≤ 1 := by
      rw [RawStreamer.pending]
      split <;> simp
    rw [RawStreamer.usableBytes]
    split <;> simp <;> omega
  simp only [tooManySamples, outSamples, inSamples, ← equal, Nat.mul_div_cancel _ positive,
    uint32Max]
  simp only [maxWsMessageBytes] at bounded
  omega

theorem convertRun_copied (positive : 0 < outRate) (absent : streamer.resampler = none)
    (inEq : streamer.inSampleRate = outRate) (outEq : streamer.outSampleRate = outRate)
    (payloads : List (List β))
    (bounded : ∀ inputRaw ∈ payloads, inputRaw.length ≤ maxWsMessageBytes) :
    (∀ call ∈ convertRun process streamer payloads, CallExact account outRate outRate call) ∧
      ((convertRun process streamer payloads).map fun call => call.converted.length).sum =
        ((convertRun process streamer payloads).map ConvertCall.counted).sum := by
  induction payloads generalizing streamer with
  | nil => exact ⟨fun call member => absurd member (by simp [convertRun]), rfl⟩
  | cons inputRaw rest ih =>
      have equal : streamer.inSampleRate = streamer.outSampleRate := inEq.trans outEq.symm
      obtain ⟨absentAfter, copied⟩ := @convertRawAudio_copied _ _ process _ absent equal inputRaw
      obtain ⟨inAfter, outAfter⟩ := @convertRawAudio_rates _ _ process streamer inputRaw
      have here := List.forall_mem_cons.mp bounded
      obtain ⟨calls, total⟩ :=
        ih absentAfter (inAfter.trans inEq) (outAfter.trans outEq) here.2
      have fits := tooManySamples_equalRates equal (by omega) here.1
      simp only [convertRun, List.forall_mem_cons, List.map_cons, List.sum_cons]
      refine ⟨⟨⟨room_enough (by omega) inEq outEq inputRaw, ?_, fun _ => copied⟩, calls⟩, ?_⟩
      · intro before isBefore
        rw [absent] at isBefore
        contradiction
      · rw [total, copied, pcmSamples_length, ConvertCall.counted, if_neg fits, inSamples]

end

/-- Playback never loses a sample to a short room: every call takes what it is offered, and
the outputs of a run are those due for its inputs, the dropped calls aside. -/
theorem convertRun_exact {process : ResampleCall β σ} {account : σ → Account}
    {streamer : RawStreamer β σ}
    (accounts : KeepsAccounts process streamer.inSampleRate streamer.outSampleRate account)
    (inPositive : 0 < streamer.inSampleRate) (outPositive : 0 < streamer.outSampleRate)
    (fresh : Fresh account streamer) (payloads : List (List β))
    (bounded : ∀ inputRaw ∈ payloads, inputRaw.length ≤ maxWsMessageBytes) :
    (∀ call ∈ convertRun process streamer payloads,
        CallExact account streamer.inSampleRate streamer.outSampleRate call) ∧
      ((convertRun process streamer payloads).map fun call => call.converted.length).sum =
        due streamer.inSampleRate streamer.outSampleRate
          ((convertRun process streamer payloads).map ConvertCall.counted).sum := by
  cases resamples : streamer.resampler with
  | none =>
      have equal := fresh.equalRates resamples
      rw [equal, due_same outPositive]
      exact convertRun_copied outPositive resamples equal rfl payloads bounded
  | some resampler =>
      have unused := fresh.unused resampler resamples
      have exact : (account resampler).Exact streamer.inSampleRate streamer.outSampleRate := by
        rw [unused]
        exact Account.exact_start
      obtain ⟨calls, total⟩ := convertRun_resampled accounts inPositive outPositive rfl rfl
        resamples exact payloads
      rw [unused, Nat.zero_add, Nat.zero_add] at total
      exact ⟨calls, total⟩

def resampleSilence (inRate outRate : Nat) : ResampleCall UInt8 Account :=
  fun account samples room =>
    let after := account.call inRate outRate samples.length room
    (after, some (List.replicate (after.given - account.given) (0, 0)))

theorem resampleSilence_accounts (inRate outRate : Nat) :
    KeepsAccounts (resampleSilence inRate outRate) inRate outRate id := by
  constructor
  · intro resampler samples room
    rfl
  · intro resampler samples room
    refine ⟨_, rfl, ?_⟩
    simp only [resampleSilence, id, Account.call, List.length_replicate]
    omega

def silentStreamer (inRate outRate : Nat) : RawStreamer UInt8 Account :=
  ⟨inRate, outRate, some ⟨0, 0⟩, true, 0, false⟩

theorem silentStreamer_fresh (inRate outRate : Nat) :
    Fresh id (silentStreamer inRate outRate) := by
  constructor
  · rintro _ ⟨⟩
    rfl
  · rintro ⟨⟩

theorem convertRun_silence :
    (∀ call ∈ convertRun (resampleSilence 24000 8000) (silentStreamer 24000 8000)
        [[0, 0, 0], [0, 0, 0, 0, 0]], CallExact id 24000 8000 call) ∧
      ((convertRun (resampleSilence 24000 8000) (silentStreamer 24000 8000)
        [[0, 0, 0], [0, 0, 0, 0, 0]]).map fun call => call.converted.length).sum = 2 := by
  have run := convertRun_exact (resampleSilence_accounts 24000 8000) (by decide) (by decide)
    (silentStreamer_fresh 24000 8000) [[0, 0, 0], [0, 0, 0, 0, 0]] (by decide)
  exact ⟨run.1, by decide⟩

theorem silence_dropped {inputRaw : List UInt8} (length : inputRaw.length = 8388608) :
    inSamples (silentStreamer 8000 8192000) inputRaw = 4194304 ∧
      outSamples (silentStreamer 8000 8192000) inputRaw = 4294967297 ∧
      (convertRawAudio (resampleSilence 8000 8192000) (silentStreamer 8000 8192000)
        inputRaw).1.resampler = some ⟨0, 0⟩ ∧
      (convertRawAudio (resampleSilence 8000 8192000) (silentStreamer 8000 8192000)
        inputRaw).2.converted = [] := by
  have usable : ((silentStreamer 8000 8192000).usableBytes inputRaw).2.length = 8388608 := by
    simp [RawStreamer.usableBytes, RawStreamer.pending, silentStreamer, length]
  have samples : inSamples (silentStreamer 8000 8192000) inputRaw = 4194304 := by
    rw [inSamples, usable]
  have room : outSamples (silentStreamer 8000 8192000) inputRaw = 4294967297 := by
    rw [outSamples, samples]
    simp [silentStreamer]
  have large : tooManySamples (silentStreamer 8000 8192000) inputRaw := by
    right
    rw [room]
    decide
  exact ⟨samples, room, convertRawAudio_nothing rfl (Or.inr large)⟩

/-- From 8000 to 8192000 Hz a full message needs 2 ^ 32 + 1 samples of room: the guard drops
it, and its samples never reach the resampler. -/
theorem convertRawAudio_drops :
    (List.replicate 8388608 (0 : UInt8)).length ≤ maxWsMessageBytes ∧
      KeepsAccounts (resampleSilence 8000 8192000) 8000 8192000 id ∧
      Fresh id (silentStreamer 8000 8192000) ∧
      inSamples (silentStreamer 8000 8192000) (List.replicate 8388608 0) = 4194304 ∧
      outSamples (silentStreamer 8000 8192000) (List.replicate 8388608 0) = 4294967297 ∧
      (convertRawAudio (resampleSilence 8000 8192000) (silentStreamer 8000 8192000)
        (List.replicate 8388608 0)).1.resampler = some ⟨0, 0⟩ ∧
      (convertRawAudio (resampleSilence 8000 8192000) (silentStreamer 8000 8192000)
        (List.replicate 8388608 0)).2.converted = [] :=
  ⟨by rw [List.length_replicate]; decide, resampleSilence_accounts _ _, silentStreamer_fresh _ _,
    silence_dropped List.length_replicate⟩

end OpenaiAudioStream
