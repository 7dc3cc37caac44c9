import OpenaiAudioStream.CaptureResampling
import OpenaiAudioStream.ExtraHeaders
import OpenaiAudioStream.RawAudio
import OpenaiAudioStream.StartCommand

/-!
The settings of a stream: the channel variables that `stream_session_init` reads, what
`stream_data_init` makes of them and of the arguments of the start command, and what the
`AudioStreamer` constructor sets on its WebSocket.
-/

namespace OpenaiAudioStream

open CString

/-- The channel of the session; `isTrue` is how FreeSWITCH reads a truth value. -/
structure Channel where
  name : List Char
  getVariable : List Char → Option (List Char)
  isTrue : List Char → Bool

def Channel.varTrue (channel : Channel) (varname : String) : Bool :=
  (channel.getVariable varname.toList).any channel.isTrue

def maxStreamBufferMs : Int := 1000

def maxHeartbeatSeconds : Int := 3600

structure CheckedSetting where
  value : Int
  warning : Option (List Char) := none

def heartBeatSetting (channel : Channel) (heartBeat : Option (List Char)) : CheckedSetting :=
  match heartBeat with
  | none => { value := 0 }
  | some heartBeat =>
      let (value, endptr) := strtol heartBeat
      if endptr = [] ∧ endptr ≠ heartBeat ∧ value > 0 ∧ value ≤ maxHeartbeatSeconds then
        { value := value }
      else
        { value := 0
          warning := some (channel.name ++ ": STREAM_HEART_BEAT of ".toList ++ heartBeat ++
            " is not between 1 and 3600 seconds. Ignoring.\n".toList) }

def bufferSizeSetting (channel : Channel) (bufferSize : Option (List Char)) : CheckedSetting :=
  match bufferSize with
  | none => { value := 1 }
  | some bufferSize =>
      let (bSize, endptr) := strtol bufferSize
      if endptr ≠ [] ∨ endptr = bufferSize ∨ bSize < 20 ∨ bSize > maxStreamBufferMs ∨
          bSize.tmod 20 ≠ 0 then
        { value := 1
          warning := some (channel.name ++ ": Buffer size of ".toList ++ bufferSize ++
            " is not a multiple of 20ms between 20 and 1000. Using default 20ms.\n".toList) }
      else { value := bSize.tdiv 20 }

structure SessionSettings where
  deflate : Bool
  heartBeat : CheckedSetting
  suppressLog : Bool
  rtpPackets : CheckedSetting
  extraHeaders : Option (List Char)
  noReconnect : Bool
  tlsCafile : Option (List Char)
  tlsKeyfile : Option (List Char)
  tlsCertfile : Option (List Char)
  tlsDisableHostnameValidation : Bool
  disableAudiofiles : Bool
  rawAudioMode : Bool

def heartBeatName : List Char := "STREAM_HEART_BEAT".toList

def bufferSizeName : List Char := "STREAM_BUFFER_SIZE".toList

def sessionSettings (cjson : CJsonText) (channel : Channel) (forceRawAudioMode : Bool) :
    Option SessionSettings :=
  let getVariable (varname : String) := channel.getVariable varname.toList
  match extraHeaders cjson (getVariable "STREAM_OPENAI_API_KEY")
      (getVariable "STREAM_EXTRA_HEADERS") with
  | none => none
  | some extra => some {
      deflate := channel.varTrue "STREAM_MESSAGE_DEFLATE"
      heartBeat := heartBeatSetting channel (channel.getVariable heartBeatName)
      suppressLog := channel.varTrue "STREAM_SUPPRESS_LOG"
      rtpPackets := bufferSizeSetting channel (channel.getVariable bufferSizeName)
      extraHeaders := extra
      noReconnect := channel.varTrue "STREAM_NO_RECONNECT"
      tlsCafile := getVariable "STREAM_TLS_CA_FILE"
      tlsKeyfile := getVariable "STREAM_TLS_KEY_FILE"
      tlsCertfile := getVariable "STREAM_TLS_CERT_FILE"
      tlsDisableHostnameValidation := channel.varTrue "STREAM_TLS_DISABLE_HOSTNAME_VALIDATION"
      disableAudiofiles := channel.varTrue "STREAM_DISABLE_AUDIOFILES"
      rawAudioMode := forceRawAudioMode || channel.varTrue "STREAM_RAW_AUDIO" }

structure StreamerOptions where
  url : List Char
  extraHeaders : Option WebSocketHttpHeaders
  caFile : Option (List Char)
  keyFile : Option (List Char)
  certFile : Option (List Char)
  disableHostnameValidation : Bool
  pingInterval : Option Int
  perMessageDeflate : Bool
  automaticReconnection : Bool
  suppressLog : Bool
  disableAudiofiles : Bool
  rawAudioMode : Bool
  inSampleRate : UInt32
  outSampleRate : UInt32

def streamerOptions (cjson : CJsonText) (settings : SessionSettings) (wsUri : List Char)
    (sessionSampling playbackSampling : UInt32) : StreamerOptions :=
  let headers := constructorHeaders cjson settings.extraHeaders
  { url := wsUri
    extraHeaders := if headers.entries.isEmpty then none else some headers
    caFile := settings.tlsCafile
    keyFile := settings.tlsKeyfile
    certFile := settings.tlsCertfile
    disableHostnameValidation := settings.tlsDisableHostnameValidation
    pingInterval := if settings.heartBeat.value ≠ 0 then some settings.heartBeat.value else none
    perMessageDeflate := !settings.deflate
    automaticReconnection := !settings.noReconnect
    suppressLog := settings.suppressLog
    disableAudiofiles := settings.disableAudiofiles
    rawAudioMode := settings.rawAudioMode
    inSampleRate := playbackSampling
    outSampleRate := sessionSampling }

def maxSessionId : Nat := 256

/-- `private_t` after `stream_data_init`; the resampler by its two rates. -/
structure PrivateData where
  sessionId : List Char
  sampling : Int
  channels : Int
  rtpPackets : Int
  userAudioMuted : Bool
  buflen : UInt64
  resampler : Option (UInt32 × UInt32)
  streamer : StreamerOptions

def PrivateData.init (cjson : CJsonText) (settings : SessionSettings) (uuid wsUri : List Char)
    (sampling playbackTargetRate : UInt32) (desiredSampling playbackSampling channels : Int)
    (startMuted : Bool) : PrivateData where
  sessionId := uuid.take (maxSessionId - 1)
  sampling := desiredSampling
  channels := channels
  rtpPackets := settings.rtpPackets.value
  userAudioMuted := startMuted
  buflen := UInt64.ofNat frameSize8000 * UInt64.ofInt desiredSampling / 8000 *
    UInt64.ofInt channels * UInt64.ofInt settings.rtpPackets.value
  resampler :=
    if UInt32.ofInt desiredSampling ≠ sampling then some (sampling, UInt32.ofInt desiredSampling)
    else none
  streamer := streamerOptions cjson settings wsUri playbackTargetRate
    (UInt32.ofInt playbackSampling)

/-- The call of `stream_session_init` in `start_capture`, if no allocation fails. `readRate`
and `writeRate` are the rates of the codecs of the session, a write codec that is not ready
has none. -/
def startCaptureData (cjson : CJsonText) (channel : Channel) (uuid : List Char)
    (readRate : UInt32) (writeRate : Option UInt32) (call : StartCapture) : Option PrivateData :=
  (sessionSettings cjson channel call.forceRawAudioMode).map fun settings =>
    .init cjson settings uuid call.wsUri readRate (writeRate.getD readRate) call.sampling
      call.playbackSampling (if .stereo ∈ call.flags then 2 else 1) call.startMuted

/-! What the documentation says of the two numbers. -/

/-- A number, with what `strtol` tolerates in front of it. -/
def askedNumber (text : List Char) : Option Nat :=
  if Numeral (unsigned text) then some (Nat.ofDigitChars 10 (unsigned text) 0) else none

/-- Buffer duration in milliseconds, divisible by 20, at most 1000; 20 by default. -/
def documentedBufferMs (bufferSize : Option (List Char)) : Nat :=
  match bufferSize.bind askedNumber with
  | none => 20
  | some ms => if 20 ∣ ms ∧ 20 ≤ ms ∧ ms ≤ 1000 then ms else 20

/-- Number of seconds, 1 to 3600; off by default. -/
def documentedHeartBeat (heartBeat : Option (List Char)) : Option Nat :=
  match heartBeat.bind askedNumber with
  | none => none
  | some seconds => if 1 ≤ seconds ∧ seconds ≤ 3600 then some seconds else none

theorem askedNumber_strtol (text : List Char) :
    (∃ number, askedNumber text = some number ∧ text ≠ [] ∧
        strtol text = (min (longMax : Int) number, [])) ∨
      askedNumber text = none ∧
        ((strtol text).2 = text ∨ (strtol text).2 ≠ [] ∨ (strtol text).1 ≤ 0) := by
  by_cases numeral : Numeral (unsigned text)
  · refine .inl ⟨_, if_pos numeral, ?_, strtol_numeral numeral⟩
    rintro rfl
    exact numeral.1 rfl
  · exact .inr ⟨if_neg numeral, strtol_other numeral⟩

theorem heartBeatSetting_documented (channel : Channel) (heartBeat : Option (List Char)) :
    (heartBeatSetting channel heartBeat).value = (documentedHeartBeat heartBeat).getD 0 ∧
      ((heartBeatSetting channel heartBeat).warning = none ↔
        heartBeat = none ∨ documentedHeartBeat heartBeat ≠ none) := by
  rcases heartBeat with _ | text
  · exact ⟨rfl, by simp [heartBeatSetting]⟩
  rcases askedNumber_strtol text with ⟨number, asked, some, read⟩ | ⟨asked, refused⟩
  · have documented : documentedHeartBeat (.some text) =
        if 1 ≤ number ∧ number ≤ 3600 then .some number else none := by
      simp [documentedHeartBeat, asked]
    rw [documented]
    simp only [heartBeatSetting, read]
    split
    · next accepted =>
      simp only [maxHeartbeatSeconds, longMax] at accepted ⊢
      rw [if_pos (by omega)]
      exact ⟨by simp only [Option.getD_some]; omega, by simp⟩
    · next refused =>
      simp only [maxHeartbeatSeconds, longMax, true_and, ne_eq, some.symm, not_false_eq_true]
        at refused
      rw [if_neg (by omega)]
      exact ⟨rfl, by simp⟩
  · have documented : documentedHeartBeat (.some text) = none := by
      simp [documentedHeartBeat, asked]
    rw [documented]
    simp only [heartBeatSetting]
    split
    · next accepted =>
      obtain ⟨ended, moved, positive, -⟩ := accepted
      rcases refused with same | more | nonpositive
      · exact absurd same moved
      · exact absurd ended more
      · omega
    · exact ⟨rfl, by simp⟩

theorem bufferSizeSetting_documented (channel : Channel) (bufferSize : Option (List Char)) :
    (bufferSizeSetting channel bufferSize).value = (documentedBufferMs bufferSize / 20 : Nat) ∧
      ((bufferSizeSetting channel bufferSize).warning = none ↔ bufferSize = none ∨
        bufferSize.bind askedNumber = some (documentedBufferMs bufferSize)) := by
  rcases bufferSize with _ | text
  · exact ⟨rfl, by simp [bufferSizeSetting]⟩
  rcases askedNumber_strtol text with ⟨number, asked, some, read⟩ | ⟨asked, refused⟩
  · have documented : documentedBufferMs (.some text) =
        if 20 ∣ number ∧ 20 ≤ number ∧ number ≤ 1000 then number else 20 := by
      simp [documentedBufferMs, asked]
    have nonneg : 0 ≤ min (longMax : Int) number := by omega
    rw [documented]
    simp only [bufferSizeSetting, read, Option.bind_some, asked, Option.some.injEq,
      Int.tmod_eq_emod_of_nonneg nonneg, Int.tdiv_eq_ediv_of_nonneg nonneg]
    split
    · next refused =>
      simp only [maxStreamBufferMs, longMax, ne_eq, some.symm, not_true_eq_false, false_or]
        at refused
      rw [if_neg (by omega)]
      refine ⟨rfl, ⟨by simp, ?_⟩⟩
      rintro (unset | usual)
      · cases unset
      · omega
    · next accepted =>
      simp only [maxStreamBufferMs, longMax, ne_eq, some.symm, not_true_eq_false, false_or,
        not_or, not_not] at accepted
      rw [if_pos (by omega)]
      refine ⟨?_, by simp⟩
      simp only [longMax]
      omega
  · have documented : documentedBufferMs (.some text) = 20 := by
      simp [documentedBufferMs, asked]
    rw [documented]
    simp only [bufferSizeSetting, Option.bind_some, asked]
    split
    · exact ⟨rfl, by simp⟩
    · next accepted =>
      simp only [not_or, not_not] at accepted
      obtain ⟨ended, moved, atLeast, -⟩ := accepted
      rcases refused with same | more | nonpositive
      · exact absurd same moved
      · exact absurd ended more
      · omega

theorem documentedBufferMs_admitted (bufferSize : Option (List Char)) :
    20 ∣ documentedBufferMs bufferSize ∧ 20 ≤ documentedBufferMs bufferSize ∧
      documentedBufferMs bufferSize ≤ 1000 := by
  simp only [documentedBufferMs]
  split
  · decide
  split
  · assumption
  · decide

theorem sizeT_toNat {value : Nat} (small : value < 4294967296) :
    (UInt64.ofInt value).toNat = value := by
  simp only [UInt64.ofInt, UInt64.toNat_ofNat']
  omega

theorem uint32_toNat {value : Nat} (small : value < 4294967296) :
    (UInt32.ofInt value).toNat = value := by
  simp only [UInt32.ofInt, UInt32.toNat_ofNat']
  omega

/-- The 64-bit arithmetic of `buflen` does not wrap. -/
theorem buflen_toNat (capture : CaptureConfig) :
    (UInt64.ofNat frameSize8000 * UInt64.ofInt capture.sampling / 8000 *
      UInt64.ofInt capture.channels * UInt64.ofInt capture.rtpPackets).toNat = capture.buflen := by
  obtain ⟨-, -, rate⟩ := capture.samplingAdmitted
  obtain ⟨-, -, duration⟩ := capture.bufferAdmitted
  have channels : capture.channels ≤ 2 := by
    rcases capture.channelsAdmitted with mono | stereo <;> omega
  have packets : capture.rtpPackets ≤ 50 := by
    rw [CaptureConfig.rtpPackets]
    omega
  have packet : frameSize8000 * capture.sampling / 8000 ≤ 1920 := by
    rw [frameSize8000]
    omega
  have frames : frameSize8000 * capture.sampling / 8000 * capture.channels ≤ 1920 * 2 :=
    Nat.mul_le_mul packet channels
  have whole : frameSize8000 * capture.sampling / 8000 * capture.channels * capture.rtpPackets ≤
      1920 * 2 * 50 := Nat.mul_le_mul frames packets
  simp only [UInt64.toNat_mul, UInt64.toNat_div, sizeT_toNat (show capture.sampling < _ by omega),
    sizeT_toNat (show capture.channels < _ by omega),
    sizeT_toNat (show capture.rtpPackets < _ by omega), CaptureConfig.buflen]
  have unit : (UInt64.ofNat frameSize8000).toNat = frameSize8000 := rfl
  have divisor : UInt64.toNat 8000 = 8000 := rfl
  have product : frameSize8000 * capture.sampling < 2 ^ 64 := by
    rw [frameSize8000]
    omega
  have small : frameSize8000 * capture.sampling / 8000 * capture.channels < 2 ^ 64 := by omega
  rw [unit, divisor, Nat.mod_eq_of_lt product, Nat.mod_eq_of_lt small]
  exact Nat.mod_eq_of_lt (by omega)

def PrivateData.captureResampler {β σ : Type*} (data : PrivateData) (sampling : UInt32)
    (processInt processInterleavedInt : SpeexProcess β σ) : CaptureResampler β σ where
  processInt := processInt
  processInterleavedInt := processInterleavedInt
  inputRate := sampling
  outputRate := UInt32.ofInt data.sampling
  channels := data.channels.toNat
  rtpPackets := data.rtpPackets.toNat

def PrivateData.rawStreamer {β σ : Type*} (data : PrivateData) (resampler : σ) (first : β) :
    RawStreamer β σ where
  inSampleRate := data.streamer.inSampleRate.toNat
  outSampleRate := data.streamer.outSampleRate.toNat
  resampler :=
    if data.streamer.inSampleRate = data.streamer.outSampleRate then none else some resampler
  rawAudioMode := data.streamer.rawAudioMode
  pendingRawByte := first
  hasPendingRawByte := false

def AdmittedRate (sampling : Int) (rate : Nat) : Prop :=
  sampling = rate ∧ 8000 ∣ rate ∧ 8000 ≤ rate ∧ rate ≤ 48000

instance (sampling : Int) (rate : Nat) : Decidable (AdmittedRate sampling rate) :=
  inferInstanceAs (Decidable (_ ∧ _))

theorem rateToken_admitted {token : List Char} {sampling : Int}
    (form : RateToken token sampling) : ∃ rate, AdmittedRate sampling rate := by
  cases form with
  | eight => exact ⟨8000, by decide⟩
  | sixteen => exact ⟨16000, by decide⟩
  | twentyFour => exact ⟨24000, by decide⟩
  | numeral _ _ divides low high => exact ⟨_, rfl, divides, low, high⟩

theorem rates_admitted {rates : List (List Char)} {sampling playbackSampling : Int}
    (form : Rates rates sampling playbackSampling) :
    (∃ rate, AdmittedRate sampling rate) ∧ ∃ rate, AdmittedRate playbackSampling rate := by
  have usual : ∃ rate, AdmittedRate 24000 rate := ⟨24000, by decide⟩
  cases form with
  | absent => exact ⟨usual, usual⟩
  | one rate => exact ⟨rateToken_admitted rate, usual⟩
  | two rate other => exact ⟨rateToken_admitted rate, rateToken_admitted other⟩

/-- What the start command, the channel variables and the codecs give a stream, by the
documentation. `capture` is its capture side. -/
structure Configured (channel : Channel) (readRate : UInt32) (writeRate : Option UInt32)
    (call : StartCapture) (data : PrivateData) (capture : CaptureConfig) : Prop where
  requestedSampling : data.sampling = call.sampling
  requestedChannels : data.channels = if .stereo ∈ call.flags then 2 else 1
  requestedUri : data.streamer.url = call.wsUri
  requestedPlayback : (data.streamer.inSampleRate.toNat : Int) = call.playbackSampling
  playbackTarget : data.streamer.outSampleRate = writeRate.getD readRate
  startMuted : data.userAudioMuted = call.startMuted
  rawAudioMode : data.streamer.rawAudioMode =
    (call.forceRawAudioMode || channel.varTrue "STREAM_RAW_AUDIO")
  automaticReconnection : data.streamer.automaticReconnection =
    !channel.varTrue "STREAM_NO_RECONNECT"
  disableAudiofiles : data.streamer.disableAudiofiles = channel.varTrue "STREAM_DISABLE_AUDIOFILES"
  sampling : data.sampling = capture.sampling
  channels : data.channels = capture.channels
  rtpPackets : data.rtpPackets = capture.rtpPackets
  bufferMs : capture.bufferMs = documentedBufferMs (channel.getVariable bufferSizeName)
  buflen : data.buflen.toNat = capture.buflen
  resampler : data.resampler = if capture.sampling = readRate.toNat then none
    else some (readRate, UInt32.ofNat capture.sampling)
  pingInterval : data.streamer.pingInterval =
    (documentedHeartBeat (channel.getVariable heartBeatName)).map Int.ofNat
  wsUri : WsUri data.streamer.url
  inSampleRate : 8000 ≤ data.streamer.inSampleRate.toNat ∧
    data.streamer.inSampleRate.toNat ≤ 48000

theorem pingInterval_documented (channel : Channel) (heartBeat : Option (List Char)) :
    (if (heartBeatSetting channel heartBeat).value ≠ 0 then
      some (heartBeatSetting channel heartBeat).value else none) =
        (documentedHeartBeat heartBeat).map Int.ofNat := by
  rw [(heartBeatSetting_documented channel heartBeat).1]
  rcases found : documentedHeartBeat heartBeat with _ | seconds
  · rfl
  · have positive : seconds ≠ 0 := by
      simp only [documentedHeartBeat] at found
      split at found
      · cases found
      · simp only [Option.ite_none_right_eq_some, Option.some.injEq] at found
        omega
    simp [positive]

theorem resampler_rates {rate : Nat} {readRate : UInt32}
    (small : (UInt32.ofInt rate).toNat = rate) :
    (if UInt32.ofInt rate ≠ readRate then some (readRate, UInt32.ofInt rate) else none) =
      if rate = readRate.toNat then none else some (readRate, UInt32.ofNat rate) := by
  have same : UInt32.ofInt rate = UInt32.ofNat rate := by
    rw [← UInt32.toNat_inj, small, ← small]
    simp
  by_cases equal : rate = readRate.toNat
  · rw [if_pos equal, if_neg]
    rw [ne_eq, not_not, ← UInt32.toNat_inj, small, equal]
  · rw [if_neg equal, if_pos, same]
    rintro rfl
    exact equal small.symm

theorem executes_rates {config : StreamApiConfig} {buffer : Vector Char maxWsUri}
    {cmd : List Char} {argv : List Token} {call : StartCapture}
    (started : executes config buffer cmd argv call) :
    (∃ rate, AdmittedRate call.sampling rate) ∧
      (∃ rate, AdmittedRate call.playbackSampling rate) ∧ WsUri call.wsUri := by
  have form := documented_of_executes started
  generalize bareRates (argv.map (·.contents)) = tokens at form
  cases form with
  | start _ uri _ _ rates _ =>
      obtain ⟨send, playback⟩ := rates_admitted rates
      exact ⟨send, playback, uri⟩

theorem sessionSettings_spec {cjson : CJsonText} {channel : Channel} {forceRawAudioMode : Bool}
    {settings : SessionSettings}
    (read : sessionSettings cjson channel forceRawAudioMode = some settings) :
    settings.heartBeat = heartBeatSetting channel (channel.getVariable heartBeatName) ∧
      settings.rtpPackets = bufferSizeSetting channel (channel.getVariable bufferSizeName) ∧
      settings.noReconnect = channel.varTrue "STREAM_NO_RECONNECT" ∧
      settings.disableAudiofiles = channel.varTrue "STREAM_DISABLE_AUDIOFILES" ∧
      settings.rawAudioMode = (forceRawAudioMode || channel.varTrue "STREAM_RAW_AUDIO") := by
  simp only [sessionSettings] at read
  split at read
  · cases read
  · obtain rfl := Option.some.inj read
    exact ⟨rfl, rfl, rfl, rfl, rfl⟩

theorem playable_of_rates {β σ : Type} {data : PrivateData}
    (low : 8000 ≤ data.streamer.inSampleRate.toNat)
    (high : data.streamer.outSampleRate.toNat ≤ 48000) (resampler : σ) (first : β) :
    (data.rawStreamer resampler first).Playable where
  converts := by
    intro absent
    simp only [PrivateData.rawStreamer] at absent ⊢
    split at absent
    · next equal => rw [equal]
    · cases absent
  ratio := by
    simp only [PrivateData.rawStreamer, maxWsMessageBytes, uint32Max]
    omega

/-- Every stream that a start command opens has the configuration that the documentation
gives its command, its variables and the codecs, and one that the capture and playback sides
admit. Of the command only what `strtol` tolerates in front of a rate is not documented. -/
theorem started_stream_configured {config : StreamApiConfig} {buffer : Vector Char maxWsUri}
    {cmd : List Char} {argv : List Token} {call : StartCapture} {cjson : CJsonText}
    {channel : Channel} {uuid : List Char} {readRate : UInt32} {writeRate : Option UInt32}
    {data : PrivateData} (started : executes config buffer cmd argv call)
    (initialized : startCaptureData cjson channel uuid readRate writeRate call = some data) :
    Documented config (bareRates (argv.map (·.contents))) call ∧
      (∃ capture, Configured channel readRate writeRate call data capture) ∧
      (8000 ≤ readRate.toNat ∧ readRate.toNat ≤ 48000 →
        ∀ {β σ : Type} (processInt processInterleavedInt : SpeexProcess β σ),
          (data.captureResampler readRate processInt processInterleavedInt).Admitted) ∧
      (data.streamer.outSampleRate.toNat ≤ 48000 →
        ∀ {β σ : Type} (resampler : σ) (first : β),
          (data.rawStreamer resampler first).Playable) := by
  obtain ⟨⟨send, sendEq, sendAdmitted⟩, playbackRate, uri⟩ := executes_rates started
  obtain ⟨playback, playbackEq, -, playbackLow, playbackHigh⟩ := playbackRate
  obtain ⟨settings, read, rfl⟩ := Option.map_eq_some_iff.1 initialized
  obtain ⟨heartBeat, rtpPackets, noReconnect, noFiles, rawMode⟩ := sessionSettings_spec read
  obtain ⟨packets, -⟩ := bufferSizeSetting_documented channel (channel.getVariable bufferSizeName)
  have durations := documentedBufferMs_admitted (channel.getVariable bufferSizeName)
  have stereo : ∃ channels : Nat, ((if .stereo ∈ call.flags then 2 else 1 : Int) = channels) ∧
      (channels = 1 ∨ channels = 2) := by
    split
    · exact ⟨2, rfl, .inr rfl⟩
    · exact ⟨1, rfl, .inl rfl⟩
  obtain ⟨channels, channelsEq, channelsAdmitted⟩ := stereo
  let capture : CaptureConfig := ⟨send, channels, _, sendAdmitted, channelsAdmitted, durations⟩
  have value : settings.rtpPackets.value = capture.rtpPackets := by
    rw [rtpPackets, packets]
    rfl
  have sendRate := @uint32_toNat send (by omega)
  have playbackValue : (UInt32.ofInt call.playbackSampling).toNat = playback := by
    rw [playbackEq, @uint32_toNat playback (by omega)]
  have playbackRate : 8000 ≤ (UInt32.ofInt call.playbackSampling).toNat ∧
      (UInt32.ofInt call.playbackSampling).toNat ≤ 48000 := by
    rw [playbackValue]
    exact ⟨playbackLow, playbackHigh⟩
  refine ⟨documented_of_executes started, ⟨capture, ?_⟩,
    fun codec _ _ processInt processInterleavedInt => ?_, fun codec _ _ resampler first => ?_⟩
  · exact {
      requestedSampling := rfl
      requestedChannels := rfl
      requestedUri := rfl
      requestedPlayback := by
        simp only [PrivateData.init, streamerOptions, playbackValue]
        exact playbackEq.symm
      playbackTarget := rfl
      startMuted := rfl
      rawAudioMode := rawMode
      automaticReconnection := congrArg not noReconnect
      disableAudiofiles := noFiles
      sampling := sendEq
      channels := channelsEq
      rtpPackets := value
      bufferMs := rfl
      buflen := by
        simp only [PrivateData.init, sendEq, channelsEq, value]
        exact buflen_toNat capture
      resampler := by
        simp only [PrivateData.init, sendEq]
        exact resampler_rates sendRate
      pingInterval := by
        simp only [PrivateData.init, streamerOptions, heartBeat]
        exact pingInterval_documented _ _
      wsUri := uri
      inSampleRate := playbackRate }
  · exact {
      channels := by
        simp only [PrivateData.captureResampler, PrivateData.init, channelsEq, Int.toNat_natCast]
        exact channelsAdmitted
      inputRate := codec
      outputRate := by
        simp only [PrivateData.captureResampler, PrivateData.init, sendEq, sendRate]
        exact sendAdmitted.2
      rtpPackets := by
        simp only [PrivateData.captureResampler, PrivateData.init, value, Int.toNat_natCast]
        exact capture.rtpPackets_pos }
  · exact playable_of_rates playbackRate.1 codec resampler first

def bufferedStart : List Token :=
  signedRate.take 3 ++ [⟨"stereo".toList, by simp [nul]⟩, ⟨"16k".toList, by simp [nul]⟩]

def bufferedChannel : Channel where
  name := "c".toList
  getVariable := fun varname => if varname = bufferSizeName then some "100".toList else none
  isTrue := fun _ => false

theorem started_stream_configured_stereo :
    ∃ call data, executes ⟨[], false⟩ (Vector.replicate maxWsUri nul)
        "u start ws://h stereo 16k".toList bufferedStart call ∧
      startCaptureData ⟨fun _ => none, fun _ => none⟩ bufferedChannel "u".toList 8000 none call =
        some data ∧ data.rtpPackets = 5 ∧ data.sampling = 16000 ∧ data.channels = 2 ∧
      data.streamer.url = "ws://h".toList ∧
      ∃ capture, Configured bufferedChannel 8000 none call data capture := by
  have uri : WsUri "ws://h".toList :=
    ⟨_, "h".toList, [], [], .inl rfl, .name (by decide) (by simp; decide), .absent, .absent,
      by decide⟩
  have bare : Documented ⟨[], false⟩ (bareRates (bufferedStart.map (·.contents)))
      ⟨[.readStream, .writeReplace, .oneOnly, .writeStream, .stereo], "ws://h".toList, 16000,
        24000, false, false⟩ :=
    @Documented.start _ "u".toList "start".toList _ "stereo".toList ["16k".toList] [] _ _ _ _ rfl
      uri (by decide) .stereo (.one .sixteen) .absent
  have started := @executes_of_documented _ (Vector.replicate maxWsUri nul)
    "u start ws://h stereo 16k".toList _ _ bare
  refine ⟨_, _, started, rfl, rfl, rfl, rfl, rfl, ?_⟩
  exact (started_stream_configured started rfl).2.1

end OpenaiAudioStream
