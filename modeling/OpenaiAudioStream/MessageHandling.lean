import OpenaiAudioStream.Base64
import OpenaiAudioStream.CJson
import OpenaiAudioStream.JsonDepth
import OpenaiAudioStream.RawAudio

/-!
What the message callback does with one message, from its bytes to the playback side:
limits, parsing, the type, and the delta of received audio.
-/

namespace OpenaiAudioStream

open CString

inductive JsonMessageType where
  | error | speechStarted | speechStopped | audioDelta | audioDone | unhandled
  deriving DecidableEq, Repr

def strstr (text part : List Char) : Bool := text.tails.any part.isPrefixOf

def classifyJsonMessage (type : Option (List Char)) : JsonMessageType :=
  match type with
  | none => .unhandled
  | some type =>
      if strstr type "error".toList then .error
      else if type = "input_audio_buffer.speech_started".toList then .speechStarted
      else if type = "input_audio_buffer.speech_stopped".toList then .speechStopped
      else if type = "response.output_audio.delta".toList then .audioDelta
      else if type = "response.output_audio.done".toList then .audioDone
      else .unhandled

def maxJsonDepth : Int := 128

def typeName : List Char := "type".toList

def deltaName : List Char := "delta".toList

def fileName : List Char := "file".toList

inductive StreamEvent where
  | json | play
  deriving DecidableEq, Repr

inductive IncomingMessage where
  | text (message : List Char)
  | binary (data : List UInt8)

def IncomingMessage.size : IncomingMessage → Nat
  | .text message => message.length
  | .binary data => data.length

/-- What the handling of a message asks of the code around it. -/
structure MessageContext (σ : Type) where
  cjson : CJsonText
  process : ResampleCall UInt8 σ
  -- the answer of `switch_core_session_locate`
  located : Bool
  disableAudiofiles : Bool
  -- the path of a debug recording, empty if it failed
  saveDebugAudioFile : List UInt8 → List Char
  playback : PlaybackConfig

/-- The status of `processMessage`, the message as it leaves it, and what it did. -/
structure Processed (σ : Type) where
  status : Bool
  message : List Char
  streamer : RawStreamer UInt8 σ
  actions : List (WsAction UInt8) := []
  notifications : List (StreamEvent × List Char) := []

variable {σ : Type}

def processRawAudio (context : MessageContext σ) (streamer : RawStreamer UInt8 σ) (json : CJson)
    (message : List Char) (rawAudio : List UInt8) : Processed σ :=
  let json := json.deleteItemFromObject deltaName
  let filePath := if context.disableAudiofiles then [] else context.saveDebugAudioFile rawAudio
  let notifyPlay := filePath ≠ []
  let json :=
    if notifyPlay then json.addItemToObject fileName (.createString filePath) else json
  let jsonString := context.cjson.printUnformatted json
  let conversion := convertRawAudio context.process streamer rawAudio
  let resampled := conversion.2.converted
  { status := !resampled.isEmpty
    message := jsonString.getD message
    streamer := conversion.1
    actions := .storeResponseAudioDone false ::
      if resampled.isEmpty then [] else [.pushAudioQueue resampled]
    notifications :=
      match jsonString with
      | none => []
      | some jsonString => if notifyPlay then [(.play, jsonString)] else [] }

def processDelta (context : MessageContext σ) (streamer : RawStreamer UInt8 σ) (json : CJson)
    (message : List Char) : Processed σ :=
  -- the flag is stored before the delta is looked at
  let dropped : Processed σ :=
    { status := false
      message := message
      streamer := streamer
      actions := [.storeResponseAudioDone false] }
  match json.getObjectCstr deltaName with
  | none => dropped
  | some jsonAudio =>
      if jsonAudio.length > 0 then
        match base64Decode jsonAudio with
        | none => dropped
        | some rawAudio => processRawAudio context streamer json message rawAudio
      else dropped

def processMessage (context : MessageContext σ) (streamer : RawStreamer UInt8 σ)
    (message : List Char) : Processed σ :=
  let unhandled : Processed σ := { status := false, message := message, streamer := streamer }
  if jsonDepthExceeded (some message) maxJsonDepth then { unhandled with status := true }
  else
    match context.cjson.parse message with
    | none => unhandled
    | some json =>
        match json.getObjectCstr typeName with
        | none => unhandled
        | some jsType =>
            match classifyJsonMessage (some jsType) with
            | .error => unhandled
            | .speechStarted =>
                { unhandled with actions := [.clearAudioQueue, .requestPlaybackClear] }
            | .speechStopped => unhandled
            | .audioDelta => processDelta context streamer json message
            | .audioDone => { unhandled with actions := [.storeResponseAudioDone true] }
            | .unhandled => unhandled

structure Handling (σ : Type) where
  streamer : RawStreamer UInt8 σ
  actions : List (WsAction UInt8) := []
  notifications : List (StreamEvent × List Char) := []

def eventCallback (context : MessageContext σ) (streamer : RawStreamer UInt8 σ)
    (message : List Char) : Handling σ :=
  if context.located then
    let processed := processMessage context streamer message
    { streamer := processed.streamer
      actions := processed.actions
      notifications := processed.notifications ++
        if processed.status then [] else [(.json, processed.message)] }
  else { streamer := streamer }

def cStr (message : List Char) : List Char := message.takeWhile (· ≠ Char.ofNat 0)

def onMessage (context : MessageContext σ) (streamer : RawStreamer UInt8 σ) :
    IncomingMessage → Handling σ
  | .text message =>
      if message.length > maxWsMessageBytes then { streamer := streamer }
      else eventCallback context streamer (cStr message)
  | .binary data =>
      -- a debug recording of the data sends its own notification
      let reception := messageCallback context.process streamer (.binary data)
      { streamer := reception.streamer
        actions := reception.messages.flatMap
          (WsMessage.handler context.playback context.located) }

def runActions (config : PlaybackConfig) (state : PlaybackState UInt8) :
    List (WsAction UInt8) → PlaybackState UInt8
  | [] => state
  | action :: rest =>
      match webSocketStep config { state with handler := action :: rest } with
      | none => state
      | some (next, _) => runActions config next rest

def handled (context : MessageContext σ) (streamer : RawStreamer UInt8 σ)
    (state : PlaybackState UInt8) (message : IncomingMessage) :
    RawStreamer UInt8 σ × PlaybackState UInt8 :=
  let handling := onMessage context streamer message
  (handling.streamer, runActions context.playback state handling.actions)

/-! What a message is. -/

def deltaAudio (json : CJson) : Option (List UInt8) :=
  match json.getObjectCstr deltaName with
  | none => none
  | some jsonAudio => if jsonAudio = [] then none else base64Decode jsonAudio

def messageType (json : CJson) : Option JsonMessageType :=
  (json.getObjectCstr typeName).map fun type => classifyJsonMessage (some type)

/-- Messages that are refused or that say nothing about playback. -/
inductive Rejected (context : MessageContext σ) (rawAudioMode : Bool) : IncomingMessage → Prop
  | oversized {message} : message.size > maxWsMessageBytes → Rejected context rawAudioMode message
  | binary {data} : rawAudioMode = false → Rejected context rawAudioMode (.binary data)
  | nested {message} : jsonDepthExceeded (some (cStr message)) maxJsonDepth = true →
      Rejected context rawAudioMode (.text message)
  | unparsable {message} : context.cjson.parse (cStr message) = none →
      Rejected context rawAudioMode (.text message)
  | untyped {message json} : context.cjson.parse (cStr message) = some json →
      messageType json = none → Rejected context rawAudioMode (.text message)
  | silent {message json type} : context.cjson.parse (cStr message) = some json →
      messageType json = some type →
      type = .error ∨ type = .unhandled ∨ type = .speechStopped →
      Rejected context rawAudioMode (.text message)
  | delta {message json} : context.cjson.parse (cStr message) = some json →
      messageType json = some .audioDelta → deltaAudio json = none →
      Rejected context rawAudioMode (.text message)

structure AudioDelta (context : MessageContext σ) (message : List Char) (json : CJson) : Prop where
  located : context.located = true
  size : message.length ≤ maxWsMessageBytes
  depth : jsonDepthExceeded (some (cStr message)) maxJsonDepth = false
  parsed : context.cjson.parse (cStr message) = some json
  type : messageType json = some .audioDelta

inductive Converted (context : MessageContext σ) (streamer : RawStreamer UInt8 σ) :
    IncomingMessage → Prop
  | binary {data} : streamer.rawAudioMode = true → data.length ≤ maxWsMessageBytes →
      (convertRawAudio context.process streamer data).2.converted ≠ [] →
      Converted context streamer (.binary data)
  | delta {message json rawAudio} : AudioDelta context message json →
      deltaAudio json = some rawAudio →
      (convertRawAudio context.process streamer rawAudio).2.converted ≠ [] →
      Converted context streamer (.text message)

structure SamePlayback (streamer : RawStreamer UInt8 σ) (state : PlaybackState UInt8)
    (after : RawStreamer UInt8 σ × PlaybackState UInt8) : Prop where
  audioQueue : after.2.audioQueue = state.audioQueue
  playbackClearGen : after.2.playbackClearGen = state.playbackClearGen
  responseAudioDone : after.2.responseAudioDone = state.responseAudioDone
  terminalClose : after.2.terminalClose = state.terminalClose
  pending : after.1.pending = streamer.pending

/-- A payload that gives samples: the carried byte and the payload hold one, and rates are
equal or the resampler returns some. -/
def Yields (process : ResampleCall UInt8 σ) (streamer : RawStreamer UInt8 σ)
    (rawAudio : List UInt8) : Prop :=
  let usable := (streamer.usableBytes rawAudio).2
  usable ≠ [] ∧
    match streamer.resampler with
    | none => streamer.inSampleRate = streamer.outSampleRate
    | some resampler =>
        let outSamples := usable.length / 2 * streamer.outSampleRate / streamer.inSampleRate + 1
        usable.length / 2 ≤ uint32Max ∧ outSamples ≤ uint32Max ∧
          (process resampler (pcmSamples usable) outSamples).2.getD [] ≠ []

theorem pcmSamples_ne_nil {bytes : List UInt8} (some : bytes ≠ [])
    (even : bytes.length % 2 = 0) : pcmSamples bytes ≠ [] := by
  rcases bytes with _ | ⟨low, _ | ⟨high, rest⟩⟩
  · exact absurd rfl some
  · simp at even
  · simp [pcmSamples]

theorem converted_iff_yields (process : ResampleCall UInt8 σ) (streamer : RawStreamer UInt8 σ)
    (rawAudio : List UInt8) :
    (convertRawAudio process streamer rawAudio).2.converted ≠ [] ↔
      Yields process streamer rawAudio := by
  obtain ⟨-, even⟩ := usableBytes_spec streamer rawAudio
  obtain ⟨inRate, outRate, resampler, -⟩ := usableBytes_frame streamer rawAudio
  simp only [convertRawAudio, Yields, inRate, outRate, resampler]
  generalize (streamer.usableBytes rawAudio).2 = usable at even
  by_cases empty : usable = []
  · simp [empty]
  have some := pcmSamples_ne_nil empty even
  rw [if_neg (by simpa using empty)]
  rcases streamer.resampler with _ | resampler
  · by_cases equal : streamer.inSampleRate = streamer.outSampleRate <;> simp [empty, equal, some]
  · simp only [ne_eq, empty, not_false_eq_true, true_and]
    split
    · next large =>
      simp only [Bool.or_eq_true, decide_eq_true_eq] at large
      simp only [not_true_eq_false, false_iff, not_and, not_not]
      omega
    · next small =>
      simp only [Bool.or_eq_true, decide_eq_true_eq, not_or, Nat.not_lt] at small
      simp [small]

/-! The handlers, message by message. -/

variable {context : MessageContext σ} {streamer : RawStreamer UInt8 σ}

theorem onMessage_text {message : List Char} (located : context.located = true)
    (size : message.length ≤ maxWsMessageBytes) :
    (onMessage context streamer (.text message)).streamer =
        (processMessage context streamer (cStr message)).streamer ∧
      (onMessage context streamer (.text message)).actions =
        (processMessage context streamer (cStr message)).actions := by
  simp [onMessage, eventCallback, located, Nat.not_lt.2 size]

theorem processMessage_delta {message : List Char} {json : CJson}
    (delta : AudioDelta context message json) :
    processMessage context streamer (cStr message) =
      processDelta context streamer json (cStr message) := by
  obtain ⟨type, found, classified⟩ := Option.map_eq_some_iff.1 delta.type
  simp only [processMessage, delta.depth, delta.parsed, found, classified]
  rfl

theorem deltaAudio_spec {json : CJson} {rawAudio : List UInt8}
    (payload : deltaAudio json = some rawAudio) :
    ∃ jsonAudio, json.getObjectCstr deltaName = some jsonAudio ∧ jsonAudio ≠ [] ∧
      base64Decode jsonAudio = some rawAudio := by
  rcases found : json.getObjectCstr deltaName with _ | jsonAudio
  · simp [deltaAudio, found] at payload
  · by_cases empty : jsonAudio = []
    · simp [deltaAudio, found, empty] at payload
    · simp only [deltaAudio, found, if_neg empty] at payload
      exact ⟨jsonAudio, rfl, empty, payload⟩

theorem processDelta_payload {json : CJson} {message : List Char} {rawAudio : List UInt8}
    (payload : deltaAudio json = some rawAudio) :
    processDelta context streamer json message =
      processRawAudio context streamer json message rawAudio := by
  obtain ⟨jsonAudio, found, nonempty, decoded⟩ := deltaAudio_spec payload
  simp [processDelta, found, decoded, List.length_pos_iff.2 nonempty]

theorem processDelta_dropped {json : CJson} {message : List Char}
    (missing : deltaAudio json = none) :
    (processDelta context streamer json message).streamer = streamer ∧
      (processDelta context streamer json message).actions = [.storeResponseAudioDone false] := by
  rcases found : json.getObjectCstr deltaName with _ | jsonAudio
  · simp [processDelta, found]
  · by_cases empty : jsonAudio = []
    · simp [processDelta, found, empty]
    · simp only [deltaAudio, found, if_neg empty] at missing
      simp [processDelta, found, missing]

theorem onMessage_delta {message : List Char} {json : CJson} {rawAudio : List UInt8}
    (delta : AudioDelta context message json) (payload : deltaAudio json = some rawAudio) :
    (onMessage context streamer (.text message)).streamer =
        (convertRawAudio context.process streamer rawAudio).1 ∧
      (onMessage context streamer (.text message)).actions =
        WsMessage.handler context.playback true
          (.audioDelta (convertRawAudio context.process streamer rawAudio).2.converted) := by
  obtain ⟨same, actions⟩ := @onMessage_text _ context streamer message delta.located delta.size
  rw [same, actions, processMessage_delta delta, processDelta_payload payload]
  exact ⟨rfl, rfl⟩

theorem onMessage_dropped {message : List Char} {json : CJson}
    (delta : AudioDelta context message json) (missing : deltaAudio json = none) :
    (onMessage context streamer (.text message)).streamer = streamer ∧
      (onMessage context streamer (.text message)).actions =
        WsMessage.handler context.playback true (.audioDelta []) := by
  obtain ⟨same, actions⟩ := @onMessage_text _ context streamer message delta.located delta.size
  rw [same, actions, processMessage_delta delta]
  exact processDelta_dropped missing

theorem onMessage_messageCallback {message : List Char} {json : CJson}
    (delta : AudioDelta context message json) :
    let frame := WsFrame.audioDelta context.located message.length ((deltaAudio json).getD [])
    let reception := messageCallback context.process streamer frame
    (onMessage context streamer (.text message)).streamer = reception.streamer ∧
      (onMessage context streamer (.text message)).actions =
        reception.messages.flatMap (WsMessage.handler context.playback context.located) := by
  have size := Nat.not_lt.2 delta.size
  rcases payload : deltaAudio json with _ | rawAudio
  · rw [(onMessage_dropped delta payload).1, (onMessage_dropped delta payload).2]
    simp [messageCallback, size, delta.located]
  · obtain ⟨jsonAudio, -, nonempty, decoded⟩ := deltaAudio_spec payload
    have bytes := base64Decode_ne_nil nonempty decoded
    rw [(onMessage_delta delta payload).1, (onMessage_delta delta payload).2]
    simp [messageCallback, size, delta.located, bytes]

theorem audioDelta_delivered {message : List Char} {json : CJson} {rawAudio : List UInt8}
    (delta : AudioDelta context message json) (payload : deltaAudio json = some rawAudio)
    (within : ∀ jsonAudio, json.getObjectCstr deltaName = some jsonAudio →
      jsonAudio.length ≤ message.length) :
    (WsFrame.audioDelta context.located message.length rawAudio).Delivered
      streamer.rawAudioMode := by
  obtain ⟨jsonAudio, found, -, decoded⟩ := deltaAudio_spec payload
  have short := base64Decode_length jsonAudio decoded
  exact ⟨delta.located, Nat.le_trans short (within jsonAudio found), delta.size⟩

def ChangesPlayback (json : CJson) (type : JsonMessageType) : Prop :=
  type = .speechStarted ∨ type = .audioDone ∨ type = .audioDelta ∧ deltaAudio json ≠ none

theorem not_rejected {message : List Char} {json : CJson} {type : JsonMessageType} (mode : Bool)
    (size : message.length ≤ maxWsMessageBytes)
    (depth : jsonDepthExceeded (some (cStr message)) maxJsonDepth = false)
    (parsed : context.cjson.parse (cStr message) = some json)
    (found : messageType json = some type) (playing : ChangesPlayback json type) :
    ¬Rejected context mode (.text message) := by
  intro rejected
  cases rejected with
  | oversized large => exact absurd size (Nat.not_le.2 large)
  | nested deep => exact absurd (depth.symm.trans deep) (by decide)
  | unparsable none => exact absurd (parsed.symm.trans none) (by simp)
  | untyped other none =>
      obtain rfl := Option.some.inj (parsed.symm.trans other)
      exact absurd (found.symm.trans none) (by simp)
  | silent other same silent =>
      obtain rfl := Option.some.inj (parsed.symm.trans other)
      obtain rfl := Option.some.inj (found.symm.trans same)
      rcases playing with rfl | rfl | ⟨rfl, -⟩ <;> simp at silent
  | delta other same missing =>
      obtain rfl := Option.some.inj (parsed.symm.trans other)
      obtain rfl := Option.some.inj (found.symm.trans same)
      rcases playing with type | type | ⟨-, present⟩
      · nomatch type
      · nomatch type
      · exact present missing

theorem onMessage_other {message : List Char} (other : ∀ json, ¬AudioDelta context message json) :
    (onMessage context streamer (.text message)).streamer = streamer ∧
      ((onMessage context streamer (.text message)).actions = [] ∨
        ¬Rejected context streamer.rawAudioMode (.text message) ∧
          ∃ received : WsMessage UInt8, (received = .speechStarted ∨ received = .audioDone) ∧
            (onMessage context streamer (.text message)).actions =
              received.handler context.playback true) := by
  by_cases size : maxWsMessageBytes < message.length
  · simp [onMessage, size]
  rcases located : context.located with _ | _
  · simp [onMessage, size, eventCallback, located]
  rw [Nat.not_lt] at size
  obtain ⟨same, actions⟩ := @onMessage_text _ context streamer message located size
  rw [same, actions]
  rcases depth : jsonDepthExceeded (some (cStr message)) maxJsonDepth with _ | _
  · rcases parsed : context.cjson.parse (cStr message) with _ | json
    · simp [processMessage, depth, parsed]
    rcases found : json.getObjectCstr typeName with _ | jsType
    · simp [processMessage, depth, parsed, found]
    have typed : messageType json = some (classifyJsonMessage (some jsType)) := by
      simp [messageType, found]
    rcases type : classifyJsonMessage (some jsType) with _ | _ | _ | _ | _ | _ <;>
      rw [type] at typed
    · simp [processMessage, depth, parsed, found, type]
    · have playing := not_rejected streamer.rawAudioMode size depth parsed typed (.inl rfl)
      refine ⟨?_, .inr ⟨playing, .speechStarted, .inl rfl, ?_⟩⟩ <;>
        simp [processMessage, depth, parsed, found, type, WsMessage.handler]
    · simp [processMessage, depth, parsed, found, type]
    · exact absurd ⟨located, size, depth, parsed, typed⟩ (other json)
    · have playing := not_rejected streamer.rawAudioMode size depth parsed typed (.inr (.inl rfl))
      refine ⟨?_, .inr ⟨playing, .audioDone, .inr rfl, ?_⟩⟩ <;>
        simp [processMessage, depth, parsed, found, type, WsMessage.handler]
    · simp [processMessage, depth, parsed, found, type]
  · simp [processMessage, depth]

/-! The playback state after a message. -/

variable {state : PlaybackState UInt8}

theorem handled_idle {incoming : IncomingMessage}
    (same : (onMessage context streamer incoming).streamer = streamer)
    (idle : (onMessage context streamer incoming).actions = []) :
    SamePlayback streamer state (handled context streamer state incoming) ∧
      (handled context streamer state incoming).2.responseAudioDone = state.responseAudioDone := by
  have nothing : handled context streamer state incoming = (streamer, state) := by
    simp [handled, same, idle, runActions]
  rw [nothing]
  exact ⟨⟨rfl, rfl, rfl, rfl, rfl⟩, rfl⟩

theorem runActions_delta (config : PlaybackConfig) (converted : List (Sample UInt8)) :
    (runActions config state
      (WsMessage.handler config true (.audioDelta converted))).responseAudioDone = false := by
  by_cases empty : converted.isEmpty = true <;>
    simp [WsMessage.handler, runActions, webSocketStep, empty]

theorem runActions_dropped (config : PlaybackConfig) :
    runActions config state (WsMessage.handler config true (.audioDelta [])) =
      { state with responseAudioDone := false, handler := [] } := by
  simp [WsMessage.handler, runActions, webSocketStep]

/-- A message keeps what it has to keep: everything if it is rejected, and the flag unless
samples came out of it. -/
def KeepsPlayback (context : MessageContext σ) (streamer : RawStreamer UInt8 σ)
    (state : PlaybackState UInt8) (incoming : IncomingMessage) : Prop :=
  (Rejected context streamer.rawAudioMode incoming →
      SamePlayback streamer state (handled context streamer state incoming)) ∧
    (state.responseAudioDone = true →
      (handled context streamer state incoming).2.responseAudioDone = false →
      Converted context streamer incoming)

theorem keepsPlayback_idle {incoming : IncomingMessage}
    (same : (onMessage context streamer incoming).streamer = streamer)
    (idle : (onMessage context streamer incoming).actions = []) :
    KeepsPlayback context streamer state incoming := by
  obtain ⟨kept, flag⟩ := @handled_idle _ context streamer state incoming same idle
  refine ⟨fun _ => kept, fun before after => ?_⟩
  rw [flag, before] at after
  nomatch after

theorem not_rejected_binary {data : List UInt8} {mode : Bool} (raw : mode = true)
    (size : data.length ≤ maxWsMessageBytes) : ¬Rejected context mode (.binary data) := by
  intro rejected
  cases rejected with
  | oversized large => exact absurd size (Nat.not_le.2 large)
  | binary other => exact absurd (raw.symm.trans other) (by decide)

theorem keepsPlayback_binary (data : List UInt8) :
    KeepsPlayback context streamer state (.binary data) := by
  by_cases size : maxWsMessageBytes < data.length
  · apply keepsPlayback_idle <;> simp [onMessage, messageCallback, size]
  rcases raw : streamer.rawAudioMode with _ | _
  · apply keepsPlayback_idle <;> simp [onMessage, messageCallback, size, raw]
  rw [Nat.not_lt] at size
  refine ⟨fun rejected => absurd rejected (not_rejected_binary raw size), fun before after => ?_⟩
  refine .binary raw size fun empty => ?_
  have actions : (onMessage context streamer (.binary data)).actions = [] := by
    simp [onMessage, messageCallback, Nat.not_lt.2 size, raw, empty, WsMessage.handler]
  simp only [handled, actions, runActions, before] at after
  cases after

theorem keepsPlayback_other {message : List Char}
    (other : ∀ json, ¬AudioDelta context message json) :
    KeepsPlayback context streamer state (.text message) := by
  obtain ⟨same, idle | ⟨playing, received, kind, actions⟩⟩ := onMessage_other other
  · exact keepsPlayback_idle same idle
  · refine ⟨fun rejected => absurd rejected playing, fun before after => ?_⟩
    simp only [handled, actions] at after
    rcases kind with rfl | rfl <;>
      simp [WsMessage.handler, runActions, webSocketStep, before] at after

theorem keepsPlayback_delta {message : List Char} {json : CJson}
    (delta : AudioDelta context message json) :
    KeepsPlayback context streamer state (.text message) ↔
      (state.responseAudioDone = true → ∃ rawAudio, deltaAudio json = some rawAudio ∧
        Yields context.process streamer rawAudio) := by
  constructor
  · intro keeps before
    have after : (handled context streamer state (.text message)).2.responseAudioDone = false := by
      rcases payload : deltaAudio json with _ | rawAudio
      · rw [handled, (onMessage_dropped delta payload).2]
        exact runActions_delta context.playback []
      · rw [handled, (onMessage_delta delta payload).2]
        exact runActions_delta context.playback _
    cases keeps.2 before after with
    | delta found payload converted =>
        obtain rfl := Option.some.inj (delta.parsed.symm.trans found.parsed)
        exact ⟨_, payload, (converted_iff_yields _ _ _).1 converted⟩
  · intro carries
    rcases payload : deltaAudio json with _ | rawAudio
    · -- the flag was not set, so that storing it changes nothing
      have before : state.responseAudioDone = false := by
        refine Bool.eq_false_iff.2 fun set => ?_
        obtain ⟨rawAudio, found, -⟩ := carries set
        exact absurd (payload.symm.trans found) (by simp)
      obtain ⟨same, actions⟩ := onMessage_dropped delta payload
      have result : handled context streamer state (.text message) =
          (streamer, { state with responseAudioDone := false, handler := [] }) := by
        rw [handled, same, actions, runActions_dropped]
      rw [KeepsPlayback, result, before]
      exact ⟨fun _ => ⟨rfl, rfl, before.symm, rfl, rfl⟩, fun set => absurd set (by decide)⟩
    · refine ⟨fun rejected => ?_, fun before _ => ?_⟩
      · have playing : ChangesPlayback json .audioDelta := .inr (.inr ⟨rfl, by simp [payload]⟩)
        exact absurd rejected
          (not_rejected _ delta.size delta.depth delta.parsed delta.type playing)
      · obtain ⟨found, here, yields⟩ := carries before
        obtain rfl := Option.some.inj (payload.symm.trans here)
        exact .delta delta payload ((converted_iff_yields _ _ _).2 yields)

theorem keepsPlayback_iff (context : MessageContext σ) (streamer : RawStreamer UInt8 σ)
    (state : PlaybackState UInt8) (incoming : IncomingMessage) :
    KeepsPlayback context streamer state incoming ↔
      (state.responseAudioDone = true → ∀ message json, incoming = .text message →
        AudioDelta context message json → ∃ rawAudio, deltaAudio json = some rawAudio ∧
          Yields context.process streamer rawAudio) := by
  rcases incoming with message | data
  · by_cases delta : ∃ json, AudioDelta context message json
    · obtain ⟨json, delta⟩ := delta
      rw [keepsPlayback_delta delta]
      constructor
      · rintro carries before _ other ⟨⟩ found
        obtain rfl := Option.some.inj (delta.parsed.symm.trans found.parsed)
        exact carries before
      · intro carries before
        exact carries before message json rfl delta
    · rw [not_exists] at delta
      refine iff_of_true (keepsPlayback_other delta) ?_
      rintro - _ json ⟨⟩ found
      exact absurd found (delta json)
  · refine iff_of_true (keepsPlayback_binary data) ?_
    intro _ message json text
    nomatch text

/-! A response that is done, and a delta without audio behind it. -/

def doneText : List Char :=
  "\x7b\"type\":\"response.output_audio.done\"\x7d".toList

def deltaText : List Char :=
  "\x7b\"type\":\"response.output_audio.delta\"\x7d".toList

def typedMessage (type : String) : CJson :=
  .item .object none none [.item .string (some type.toList) (some typeName) []]

def typedTable : CJsonText where
  parse text :=
    if text = doneText then some (typedMessage "response.output_audio.done")
    else if text = deltaText then some (typedMessage "response.output_audio.delta")
    else none
  printUnformatted _ := none

def typedContext : MessageContext Unit where
  cjson := typedTable
  process := fun resampler audio _ => (resampler, some audio)
  located := true
  disableAudiofiles := true
  saveDebugAudioFile := fun _ => []
  playback := ⟨24000, true⟩

def plainStreamer : RawStreamer UInt8 Unit := ⟨24000, 24000, none, false, 0, false⟩

theorem short_depth {text : List Char} (short : text.length ≤ 128) :
    jsonDepthExceeded (some text) maxJsonDepth = false := by
  have scanned : scanDepth 128 false 0 text = false := scanDepth_short false text (by omega)
  simpa [jsonDepthExceeded, maxJsonDepth] using scanned

theorem typedMessage_name (type : String) :
    (typedMessage type).getObjectCstr typeName = some type.toList := by
  simp [typedMessage, CJson.getObjectCstr, CJson.getObjectItem, CJson.child, CJson.isNamed,
    CJson.name, CJson.type, CJson.valuestring, CString.sameCaseless]

theorem typedTable_done : typedTable.parse (cStr doneText) =
    some (typedMessage "response.output_audio.done") := by
  have same : cStr doneText = doneText := by decide
  simp [typedTable, same]

theorem typedTable_delta : typedTable.parse (cStr deltaText) =
    some (typedMessage "response.output_audio.delta") := by
  have same : cStr deltaText = deltaText := by decide
  have other : deltaText ≠ doneText := by decide
  simp [typedTable, same, other]

theorem doneText_done :
    (handled typedContext plainStreamer {} (.text doneText)).2.responseAudioDone = true := by
  obtain ⟨-, actions⟩ := @onMessage_text _ typedContext plainStreamer doneText rfl (by decide)
  have done : classifyJsonMessage (some "response.output_audio.done".toList) = .audioDone := by
    decide
  have depth : jsonDepthExceeded (some (cStr doneText)) maxJsonDepth = false :=
    short_depth (by decide)
  have processed : (processMessage typedContext plainStreamer (cStr doneText)).actions =
      [.storeResponseAudioDone true] := by
    simp only [processMessage, depth, typedContext, typedTable_done, typedMessage_name, done]
    rfl
  rw [handled, actions, processed]
  rfl

/-- A delta message without its delta, after the response was done. -/
theorem deltaText_clears :
    ¬KeepsPlayback typedContext plainStreamer
      (handled typedContext plainStreamer {} (.text doneText)).2 (.text deltaText) := by
  have type : messageType (typedMessage "response.output_audio.delta") = some .audioDelta := by
    rw [messageType, typedMessage_name]
    decide
  have delta : AudioDelta typedContext deltaText (typedMessage "response.output_audio.delta") :=
    ⟨rfl, by decide, short_depth (by decide), typedTable_delta, type⟩
  have missing : deltaAudio (typedMessage "response.output_audio.delta") = none := rfl
  rw [keepsPlayback_delta delta]
  intro carries
  obtain ⟨rawAudio, payload, -⟩ := carries doneText_done
  exact absurd (missing.symm.trans payload) (by simp)

end OpenaiAudioStream
