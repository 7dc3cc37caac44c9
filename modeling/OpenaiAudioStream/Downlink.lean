import OpenaiAudioStream.MessageHandling
import OpenaiAudioStream.PlaybackOrder

/-!
The playback machine with the messages that really arrive: from the text of a delta or the
bytes of a binary frame to the bytes that `write_frame` hands over.
-/

namespace OpenaiAudioStream

/-! The messages of the WebSocket. -/

structure Downlink (σ : Type) where
  playback : PlaybackState UInt8 := {}
  streamer : RawStreamer UInt8 σ
  history : List (PlaybackEvent UInt8) := []

/-- `save` is `saveDebugAudioFile` as it answers during this message. -/
inductive DownlinkStep where
  | received (located : Bool) (save : List UInt8 → List Char) (message : IncomingMessage)
  | opened
  | errored (located : Bool)
  | closed (located : Bool)
  | webSocket
  | pauseresume (pause : Bool)
  | setOpenaiMute (mute : Bool)
  | writeFrame (frame : WriteFrame)
  | media (located : Bool)

section

variable {σ : Type}

def MessageContext.during (context : MessageContext σ) (located : Bool)
    (save : List UInt8 → List Char) : MessageContext σ :=
  { context with located := located, saveDebugAudioFile := save }

def Downlink.advance (config : PlaybackConfig) (link : Downlink σ) (label : PlaybackStep UInt8) :
    Option (Downlink σ) :=
  (playbackStep config link.playback label).map fun outcome =>
    { link with playback := outcome.1, history := outcome.2.reverse ++ link.history }

/-- The WebSocket thread takes a callback when it is done with the one before. -/
def downlinkStep (context : MessageContext σ) (link : Downlink σ) :
    DownlinkStep → Option (Downlink σ)
  | .received located save message =>
      if link.playback.handler.isEmpty then
        let handling := onMessage (context.during located save) link.streamer message
        some { link with
          playback := { link.playback with handler := handling.actions }
          streamer := handling.streamer }
      else none
  | .opened =>
      (link.advance context.playback (.message true .opened)).map fun link =>
        { link with streamer := { link.streamer with hasPendingRawByte := false } }
  | .errored located => link.advance context.playback (.message located .errored)
  | .closed located => link.advance context.playback (.message located .closed)
  | .webSocket => link.advance context.playback .webSocket
  | .pauseresume pause => link.advance context.playback (.pauseresume pause)
  | .setOpenaiMute mute => link.advance context.playback (.setOpenaiMute mute)
  | .writeFrame frame => link.advance context.playback (.writeFrame frame)
  | .media located => link.advance context.playback (.media located)

/-! What the messages say. -/

def dispatched (context : MessageContext σ) (message : List Char) :
    Option (CJson × JsonMessageType) :=
  if context.located && !decide (message.length > maxWsMessageBytes) &&
      !jsonDepthExceeded (some (cStr message)) maxJsonDepth then
    (context.cjson.parse (cStr message)).bind fun json =>
      (messageType json).map fun type => (json, type)
  else none

def IncomingMessage.frames (context : MessageContext σ) : IncomingMessage → List (WsFrame UInt8)
  | .binary data => [.binary data]
  | .text message =>
      match dispatched context message with
      | some (json, .audioDelta) =>
          [.audioDelta context.located message.length ((deltaAudio json).getD [])]
      | _ => []

/-- The message of the playback machine that a message amounts to. -/
def IncomingMessage.meaning (context : MessageContext σ) (streamer : RawStreamer UInt8 σ)
    (message : IncomingMessage) : WsMessage UInt8 :=
  match message with
  | .binary data =>
      (messageCallback context.process streamer (.binary data)).messages.headD .otherMessage
  | .text content =>
      match dispatched context content with
      | some (_, .speechStarted) => .speechStarted
      | some (_, .audioDone) => .audioDone
      | some (json, .audioDelta) =>
          (messageCallback context.process streamer (.audioDelta context.located
            content.length ((deltaAudio json).getD []))).messages.headD .otherMessage
      | _ => .otherMessage

def DownlinkStep.frames (context : MessageContext σ) : DownlinkStep → List (WsFrame UInt8)
  | .received located save message => message.frames (context.during located save)
  | .opened => [.opened]
  | _ => []

def DownlinkStep.meaning (context : MessageContext σ) (streamer : RawStreamer UInt8 σ) :
    DownlinkStep → PlaybackStep UInt8
  | .received located save message =>
      .message located (message.meaning (context.during located save) streamer)
  | .opened => .message true .opened
  | .errored located => .message located .errored
  | .closed located => .message located .closed
  | .webSocket => .webSocket
  | .pauseresume pause => .pauseresume pause
  | .setOpenaiMute mute => .setOpenaiMute mute
  | .writeFrame frame => .writeFrame frame
  | .media located => .media located

def playbackSchedule (context : MessageContext σ) :
    RawStreamer UInt8 σ → List DownlinkStep → List (PlaybackStep UInt8)
  | _, [] => []
  | streamer, label :: rest =>
      label.meaning context streamer ::
        playbackSchedule context
          (receiveAll context.process streamer (label.frames context)).streamer rest

variable {context : MessageContext σ} {streamer : RawStreamer UInt8 σ}

theorem dispatched_delta {message : List Char} {json : CJson}
    (found : dispatched context message = some (json, .audioDelta)) :
    AudioDelta context message json := by
  unfold dispatched at found
  split at found
  · next reached =>
    simp only [Bool.and_eq_true, Bool.not_eq_true', decide_eq_false_iff_not, Nat.not_lt]
      at reached
    obtain ⟨other, parsed, typed⟩ := Option.bind_eq_some_iff.1 found
    obtain ⟨type, has, same⟩ := Option.map_eq_some_iff.1 typed
    cases same
    exact ⟨reached.1.1, reached.1.2, reached.2, parsed, has⟩
  · cases found

theorem onMessage_undispatched {message : List Char} (nothing : dispatched context message = none) :
    (onMessage context streamer (.text message)).streamer = streamer ∧
      (onMessage context streamer (.text message)).actions = [] := by
  by_cases size : message.length > maxWsMessageBytes
  · simp [onMessage, size]
  rcases located : context.located with _ | _
  · simp [onMessage, size, eventCallback, located]
  rcases depth : jsonDepthExceeded (some (cStr message)) maxJsonDepth with _ | _
  · rcases parsed : context.cjson.parse (cStr message) with _ | json
    · simp [onMessage, size, eventCallback, located, processMessage, depth, parsed]
    · rcases found : json.getObjectCstr typeName with _ | type
      · simp [onMessage, size, eventCallback, located, processMessage, depth, parsed, found]
      · simp [dispatched, size, located, depth, parsed, messageType, found] at nothing
  · simp [onMessage, size, eventCallback, located, processMessage, depth]

def typedHandler : JsonMessageType → WsMessage UInt8
  | .speechStarted => .speechStarted
  | .audioDone => .audioDone
  | _ => .otherMessage

theorem onMessage_typed {message : List Char} {json : CJson} {type : JsonMessageType}
    (found : dispatched context message = some (json, type)) (other : type ≠ .audioDelta) :
    (onMessage context streamer (.text message)).streamer = streamer ∧
      (onMessage context streamer (.text message)).actions =
        (typedHandler type).handler context.playback context.located := by
  unfold dispatched at found
  split at found
  · next reached =>
    simp only [Bool.and_eq_true, Bool.not_eq_true', decide_eq_false_iff_not] at reached
    obtain ⟨⟨located, size⟩, depth⟩ := reached
    obtain ⟨object, parsed, typed⟩ := Option.bind_eq_some_iff.1 found
    obtain ⟨kind, has, same⟩ := Option.map_eq_some_iff.1 typed
    cases same
    obtain ⟨text, present, classified⟩ := Option.map_eq_some_iff.1 has
    cases type with
    | audioDelta => exact absurd rfl other
    | _ =>
        simp [onMessage, size, eventCallback, located, processMessage, depth, parsed, present,
          classified, typedHandler, WsMessage.handler]
  · cases found

theorem onMessage_meaning (message : IncomingMessage) :
    (onMessage context streamer message).actions =
        (message.meaning context streamer).handler context.playback context.located ∧
      (onMessage context streamer message).streamer =
        (receiveAll context.process streamer (message.frames context)).streamer := by
  cases message with
  | binary data =>
      refine ⟨?_, rfl⟩
      simp only [onMessage, IncomingMessage.meaning, messageCallback]
      split
      · rfl
      · split <;> simp [WsMessage.handler]
  | text message =>
      rcases found : dispatched context message with _ | ⟨json, type⟩
      · obtain ⟨same, silent⟩ := @onMessage_undispatched _ context streamer message found
        simp [IncomingMessage.meaning, IncomingMessage.frames, found, same, silent,
          WsMessage.handler, receiveAll]
      · by_cases delta : type = .audioDelta
        · subst delta
          have located := (dispatched_delta found).located
          have size := Nat.not_lt.2 (dispatched_delta found).size
          obtain ⟨same, actions⟩ := @onMessage_messageCallback _ context streamer message json
            (dispatched_delta found)
          simp only [IncomingMessage.meaning, IncomingMessage.frames, found, receiveAll]
          refine ⟨actions.trans ?_, same⟩
          simp only [messageCallback, if_neg size]
          split <;> simp
        · obtain ⟨same, actions⟩ :=
            @onMessage_typed _ context streamer message json type found delta
          cases type with
          | audioDelta => exact absurd rfl delta
          | _ =>
              simp [IncomingMessage.meaning, IncomingMessage.frames, found, same, actions,
                typedHandler, receiveAll]

theorem binaryAudio_audio (config : PlaybackConfig) (located : Bool)
    (converted : List (Sample UInt8)) :
    ((WsMessage.binaryAudio converted).handler config located).flatMap WsAction.audio =
      converted := by
  cases converted <;> simp [WsMessage.handler, WsAction.audio]

theorem audioDelta_audio (config : PlaybackConfig) (converted : List (Sample UInt8)) :
    ((WsMessage.audioDelta converted).handler config true).flatMap WsAction.audio =
      converted := by
  cases converted <;> simp [WsMessage.handler, WsAction.audio]

theorem meaning_audio (config : PlaybackConfig) (message : IncomingMessage) :
    ((message.meaning context streamer).handler config context.located).flatMap WsAction.audio =
      (receiveAll context.process streamer (message.frames context)).returned := by
  cases message with
  | binary data =>
      simp only [IncomingMessage.meaning, IncomingMessage.frames, receiveAll, messageCallback]
      split
      · rfl
      · split
        · simp [binaryAudio_audio, Reception.returned, WsMessage.converted]
        · rfl
  | text message =>
      rcases found : dispatched context message with _ | ⟨json, type⟩
      · simp only [IncomingMessage.meaning, IncomingMessage.frames, found]
        rfl
      · cases type with
        | audioDelta =>
            have located := (dispatched_delta found).located
            have size := Nat.not_lt.2 (dispatched_delta found).size
            simp only [IncomingMessage.meaning, IncomingMessage.frames, found, receiveAll,
              messageCallback, if_neg size, located]
            split <;> simp [audioDelta_audio, Reception.returned, WsMessage.converted]
        | speechStarted | audioDone =>
            simp only [IncomingMessage.meaning, IncomingMessage.frames, found, WsMessage.handler]
            split <;> rfl
        | _ =>
            simp only [IncomingMessage.meaning, IncomingMessage.frames, found]
            rfl

theorem meaning_arriving (config : PlaybackConfig) (label : DownlinkStep) :
    (label.meaning context streamer).arriving config =
      (receiveAll context.process streamer (label.frames context)).returned := by
  cases label with
  | received located save message =>
      exact @meaning_audio _ (context.during located save) streamer config message
  | errored located =>
      simp only [DownlinkStep.meaning, PlaybackStep.arriving, WsMessage.handler]
      split <;> rfl
  | closed located =>
      simp only [DownlinkStep.meaning, PlaybackStep.arriving, WsMessage.handler]
      split <;> rfl
  | _ => rfl

theorem meaning_announcement (message : IncomingMessage) :
    (message.meaning context streamer).announcement = [] := by
  cases message with
  | binary data =>
      simp only [IncomingMessage.meaning, messageCallback]
      split
      · rfl
      · split <;> rfl
  | text message =>
      simp only [IncomingMessage.meaning]
      split
      · rfl
      · rfl
      · simp only [messageCallback]
        split
        · rfl
        · split <;> rfl
      · rfl

theorem downlinkStep_meaning (link : Downlink σ) (label : DownlinkStep) :
    downlinkStep context link label =
      (plainStep context.playback (link.playback, link.history)
        (label.meaning context link.streamer)).map fun plain =>
          { playback := plain.1
            streamer := (receiveAll context.process link.streamer (label.frames context)).streamer
            history := plain.2 } := by
  cases label with
  | received located save message =>
      obtain ⟨actions, same⟩ := @onMessage_meaning _ (context.during located save) link.streamer
        message
      have silent := @meaning_announcement _ (context.during located save) link.streamer message
      simp only [downlinkStep, plainStep, DownlinkStep.meaning, DownlinkStep.frames, playbackStep,
        silent]
      split
      · simp only [actions, same, Option.map_some, List.reverse_nil, List.nil_append]
        rfl
      · rfl
  | opened =>
      simp [downlinkStep, Downlink.advance, plainStep, DownlinkStep.meaning,
        DownlinkStep.frames, receiveAll, messageCallback, Function.comp_def]
  | _ =>
      simp [downlinkStep, Downlink.advance, plainStep, DownlinkStep.meaning,
        DownlinkStep.frames, receiveAll, Function.comp_def]

theorem playbackSchedule_arriving (labels : List DownlinkStep) :
    (playbackSchedule context streamer labels).flatMap (PlaybackStep.arriving context.playback) =
      (receiveAll context.process streamer
        (labels.flatMap (DownlinkStep.frames context))).returned := by
  induction labels generalizing streamer with
  | nil => rfl
  | cons label rest ih =>
      rw [playbackSchedule, List.flatMap_cons, List.flatMap_cons, receiveAll_append, ih,
        meaning_arriving]
      simp [Reception.returned]

/-- The downlink runs exactly when the playback machine runs, on the messages that the
decoder makes of what arrives: how the threads interleave does not matter to it. -/
theorem downlink_run (link : Downlink σ) (labels : List DownlinkStep) :
    Runs.run (downlinkStep context) link labels =
      (Runs.run (plainStep context.playback) (link.playback, link.history)
        (playbackSchedule context link.streamer labels)).map fun plain =>
          { playback := plain.1
            streamer := (receiveAll context.process link.streamer
              (labels.flatMap (DownlinkStep.frames context))).streamer
            history := plain.2 } := by
  induction labels generalizing link with
  | nil => rfl
  | cons label rest ih =>
      simp only [Runs.run, downlinkStep_meaning, playbackSchedule, List.flatMap_cons,
        receiveAll_append]
      cases plainStep context.playback (link.playback, link.history)
          (label.meaning context link.streamer) with
      | none => rfl
      | some plain => simp [ih]

end

/-! Without a resampler the bytes of the payloads are what is played. -/

section

variable {σ : Type} {process : ResampleCall UInt8 σ} {streamer : RawStreamer UInt8 σ}

def WsFrame.heard (rawAudioMode : Bool) : WsFrame UInt8 → List UInt8
  | .binary data => if rawAudioMode && decide (data.length ≤ maxWsMessageBytes) then data else []
  | .audioDelta located size rawAudio =>
      if located && decide (size ≤ maxWsMessageBytes) then rawAudio else []
  | .opened => []

theorem sampleBytes_pcmSamples {bytes : List UInt8} (even : bytes.length % 2 = 0) :
    sampleBytes (pcmSamples bytes) = bytes := by
  induction bytes using pcmSamples.induct with
  | case1 low high rest ih =>
      simp only [List.length_cons] at even
      simp [pcmSamples, ih (by omega)]
  | case2 bytes short =>
      have few := length_le_one short
      obtain rfl := List.length_eq_zero_iff.mp (by omega : bytes.length = 0)
      rfl

/-- What is heard of a frame is played in order, up to a byte that stays pending. -/
structure Passes (before after : RawStreamer UInt8 σ) (played heard : List UInt8) : Prop where
  same : RawStreamer.SameSetup before after
  ordered : (played ++ after.pending).Sublist (before.pending ++ heard)
  whole : before.inSampleRate = before.outSampleRate →
    played ++ after.pending = before.pending ++ heard

theorem Passes.nothing (streamer : RawStreamer UInt8 σ) : Passes streamer streamer [] [] :=
  ⟨.refl streamer, by simp, by simp⟩

theorem Passes.absent {before after : RawStreamer UInt8 σ} {played heard : List UInt8}
    (passes : Passes before after played heard) (absent : before.resampler = none) :
    after.resampler = none := by
  have same := passes.same.resampler
  rw [absent] at same
  simpa using same

theorem convertRawAudio_setup (inputRaw : List UInt8) :
    RawStreamer.SameSetup streamer (convertRawAudio process streamer inputRaw).1 := by
  obtain ⟨inRate, outRate, resampler, mode⟩ := usableBytes_frame streamer inputRaw
  unfold convertRawAudio
  dsimp only
  split
  · exact ⟨inRate, outRate, by rw [resampler], mode⟩
  · split
    · split <;> exact ⟨inRate, outRate, by rw [resampler], mode⟩
    · next present found =>
      have before : streamer.resampler.isSome = true := by rw [← resampler, found]; rfl
      split
      · exact ⟨inRate, outRate, by rw [resampler], mode⟩
      · exact ⟨inRate, outRate, by simp [before], mode⟩

theorem convertRawAudio_plain (absent : streamer.resampler = none) (inputRaw : List UInt8) :
    Passes streamer (convertRawAudio process streamer inputRaw).1
      (sampleBytes (convertRawAudio process streamer inputRaw).2.converted) inputRaw := by
  obtain ⟨joined, even⟩ := usableBytes_spec streamer inputRaw
  obtain ⟨inRate, outRate, resampler, -⟩ := usableBytes_frame streamer inputRaw
  have whole := sampleBytes_pcmSamples even
  have same := @convertRawAudio_setup _ process streamer inputRaw
  refine ⟨same, ?_, ?_⟩ <;> simp only [convertRawAudio, resampler, absent, inRate, outRate]
  · split
    · next empty =>
      rw [List.length_eq_zero_iff.1 empty, List.nil_append] at joined
      simp [joined]
    · split <;> simp [← joined, whole]
  · intro equal
    rw [if_neg (not_not.2 equal)]
    split
    · next empty =>
      rw [List.length_eq_zero_iff.1 empty, List.nil_append] at joined
      simp [joined]
    · simp [← joined, whole]

theorem messageCallback_plain (absent : streamer.resampler = none) {frame : WsFrame UInt8}
    (audible : frame ≠ .opened) :
    Passes streamer (messageCallback process streamer frame).streamer
      (sampleBytes (messageCallback process streamer frame).returned)
      (frame.heard streamer.rawAudioMode) := by
  cases frame with
  | binary data =>
      have converted := @convertRawAudio_plain _ process streamer absent data
      by_cases large : data.length > maxWsMessageBytes
      · simpa [messageCallback, large, Nat.not_le.2 large, Reception.returned, WsFrame.heard] using
          Passes.nothing streamer
      · cases mode : streamer.rawAudioMode with
        | false =>
            simpa [messageCallback, large, mode, Reception.returned, WsFrame.heard] using
              Passes.nothing streamer
        | true =>
            simpa [messageCallback, large, mode, Reception.returned, WsMessage.converted,
              WsFrame.heard, Nat.not_lt.1 large] using converted
  | audioDelta located size rawAudio =>
      have converted := @convertRawAudio_plain _ process streamer absent rawAudio
      by_cases large : size > maxWsMessageBytes
      · simpa [messageCallback, large, Nat.not_le.2 large, Reception.returned, WsFrame.heard] using
          Passes.nothing streamer
      · by_cases taken : located = true ∧ rawAudio ≠ []
        · simpa [messageCallback, large, taken, Reception.returned, WsMessage.converted,
            WsFrame.heard, Nat.not_lt.1 large] using converted
        · have silent : located = true → rawAudio = [] := by simpa using taken
          cases located with
          | false =>
              simpa [messageCallback, large, Reception.returned, WsMessage.converted,
                WsFrame.heard] using Passes.nothing streamer
          | true =>
              simpa [messageCallback, large, silent rfl, Reception.returned, WsMessage.converted,
                WsFrame.heard] using Passes.nothing streamer
  | opened => exact absurd rfl audible

theorem receiveAll_ordered (absent : streamer.resampler = none) (frames : List (WsFrame UInt8)) :
    (sampleBytes (receiveAll process streamer frames).returned ++
        (receiveAll process streamer frames).streamer.pending).Sublist
      (streamer.pending ++ frames.flatMap (WsFrame.heard streamer.rawAudioMode)) := by
  induction frames generalizing streamer with
  | nil => simp [receiveAll, Reception.returned]
  | cons frame rest ih =>
      rw [receiveAll_returned, sampleBytes_append, List.flatMap_cons]
      by_cases connects : frame = .opened
      · subst connects
        have later := @ih { streamer with hasPendingRawByte := false } absent
        exact later.trans (by simp [RawStreamer.pending, WsFrame.heard])
      · have first := @messageCallback_plain _ process streamer absent frame connects
        have later := ih (first.absent absent)
        rw [first.same.rawAudioMode] at later
        have behind := later.append_left
          (sampleBytes (messageCallback process streamer frame).returned)
        have before := first.ordered.append_right
          (rest.flatMap (WsFrame.heard streamer.rawAudioMode))
        simp only [List.append_assoc] at behind before ⊢
        exact behind.trans before

def wholeSamples (bytes : List UInt8) : List UInt8 := sampleBytes (pcmSamples bytes)

def connectionAudio (rawAudioMode : Bool) (carried : List UInt8) :
    List (WsFrame UInt8) → List (List UInt8)
  | [] => [carried]
  | frame :: rest =>
      match frame with
      | .opened => carried :: connectionAudio rawAudioMode [] rest
      | frame => connectionAudio rawAudioMode (carried ++ frame.heard rawAudioMode) rest

theorem connectionAudio_heard {rawAudioMode : Bool} {carried : List UInt8} {frame : WsFrame UInt8}
    (audible : frame ≠ .opened) (rest : List (WsFrame UInt8)) :
    connectionAudio rawAudioMode carried (frame :: rest) =
      connectionAudio rawAudioMode (carried ++ frame.heard rawAudioMode) rest := by
  cases frame with
  | opened => exact absurd rfl audible
  | _ => rfl

theorem wholeSamples_append {first : List UInt8} (second : List UInt8)
    (even : first.length % 2 = 0) :
    wholeSamples (first ++ second) = first ++ wholeSamples second := by
  rw [wholeSamples, pcmSamples_append second even, sampleBytes_append, sampleBytes_pcmSamples even]
  rfl

theorem wholeSamples_pending (streamer : RawStreamer UInt8 σ) :
    wholeSamples streamer.pending = [] := by
  rw [wholeSamples, pcmSamples_short streamer.pending_length, sampleBytes_nil]

theorem receiveAll_connections (absent : streamer.resampler = none)
    (equal : streamer.inSampleRate = streamer.outSampleRate) {played : List UInt8}
    (even : played.length % 2 = 0) (frames : List (WsFrame UInt8)) :
    (connectionAudio streamer.rawAudioMode (played ++ streamer.pending) frames).flatMap
        wholeSamples =
      played ++ sampleBytes (receiveAll process streamer frames).returned := by
  induction frames generalizing streamer played with
  | nil =>
      simp [connectionAudio, wholeSamples_append _ even, wholeSamples_pending, receiveAll,
        Reception.returned]
  | cons frame rest ih =>
      rw [receiveAll_returned, sampleBytes_append]
      by_cases connects : frame = .opened
      · subst connects
        have later := @ih { streamer with hasPendingRawByte := false } absent equal [] rfl
        simp only [List.nil_append] at later
        rw [connectionAudio, List.flatMap_cons, wholeSamples_append _ even, wholeSamples_pending,
          List.append_nil]
        simpa [RawStreamer.pending, messageCallback, Reception.returned, WsMessage.converted]
          using later
      · have first := @messageCallback_plain _ process streamer absent frame connects
        have rates : (messageCallback process streamer frame).streamer.inSampleRate =
            (messageCallback process streamer frame).streamer.outSampleRate := by
          rw [first.same.inSampleRate, first.same.outSampleRate, equal]
        have longer : (played ++ sampleBytes
            (messageCallback process streamer frame).returned).length % 2 = 0 := by
          rw [List.length_append, sampleBytes_length]
          omega
        have later := ih (first.absent absent) rates longer
        rw [first.same.rawAudioMode, List.append_assoc, first.whole equal] at later
        rw [connectionAudio_heard connects, List.append_assoc, later, List.append_assoc]

end

def heardAudio {σ : Type} (context : MessageContext σ) (rawAudioMode : Bool)
    (labels : List DownlinkStep) : List UInt8 :=
  (labels.flatMap (DownlinkStep.frames context)).flatMap (WsFrame.heard rawAudioMode)

def Downlink.audio {σ : Type} (link : Downlink σ) : List UInt8 :=
  audioOf (link.playback, link.history)

/-! A delta of three bytes on a second connection. -/

def audioText : List Char :=
  "\x7b\"type\":\"response.output_audio.delta\",\"delta\":\"AQID\"\x7d".toList

def audioObject : CJson :=
  (CJson.createObject.addStringToObject typeName "response.output_audio.delta".toList)
    |>.addStringToObject deltaName "AQID".toList

def audioContext : MessageContext Unit where
  cjson :=
    { parse := fun text => if text = audioText then some audioObject else none
      printUnformatted := fun _ => none }
  process := noResampler
  located := true
  disableAudiofiles := true
  saveDebugAudioFile := fun _ => []
  playback := ⟨16000, true⟩

def audioSchedule : List DownlinkStep :=
  [.opened, .received true (fun _ => []) (.binary [9]), .closed true, .opened,
    .received true (fun _ => []) (.text audioText), .webSocket, .webSocket,
    .writeFrame ⟨4, 2, 8192⟩, .media true, .media true, .media true, .media true, .media true,
    .media true]

theorem audioSchedule_runs :
    ∃ final, Runs.run (downlinkStep audioContext) { streamer := rawStreamer 0 } audioSchedule =
      some final ∧ final.audio = [1, 2] ∧ .rejected ∉ final.history :=
  Runs.exists_run (by decide +kernel)

/-! What of the received audio is played. -/

section

variable {σ : Type} {context : MessageContext σ} {streamer : RawStreamer UInt8 σ}

/-- Every run of the downlink is an observed run of the playback machine, whose messages carry
what `messageCallback` makes of the frames on their own, in the order of their arrival. -/
theorem downlink_refines_playback {labels : List DownlinkStep} {final : Downlink σ}
    (reached : Runs.run (downlinkStep context) { streamer := streamer } labels = some final) :
    let reception := receiveAll context.process streamer
      (labels.flatMap (DownlinkStep.frames context))
    let schedule := playbackSchedule context streamer labels
    final.streamer = reception.streamer ∧
      schedule.flatMap (PlaybackStep.arriving context.playback) = reception.returned ∧
      ∃ observed, Reaches context.playback schedule observed ∧
        observed.erase = (final.playback, final.history) := by
  intro reception schedule
  rw [downlink_run] at reached
  obtain ⟨plain, ran, rfl⟩ := Option.map_eq_some_iff.1 reached
  refine ⟨rfl, playbackSchedule_arriving labels, ?_⟩
  rw [plain_run_erases] at ran
  exact Option.map_eq_some_iff.1 ran

theorem downlink_refines_playback_delta :
    ∃ final observed, Runs.run (downlinkStep audioContext) { streamer := rawStreamer 0 }
        audioSchedule = some final ∧
      Reaches audioContext.playback (playbackSchedule audioContext (rawStreamer 0) audioSchedule)
        observed ∧ observed.erase = (final.playback, final.history) := by
  obtain ⟨final, reached, -⟩ := audioSchedule_runs
  obtain ⟨-, -, observed, ran, same⟩ := downlink_refines_playback reached
  exact ⟨final, observed, reached, ran, same⟩

/-- Played and waiting audio is received audio: nothing is made up, doubled or put in another
place, whatever the server sends and however the threads interleave. -/
theorem downlink_plays_in_order {labels : List DownlinkStep} {final : Downlink σ}
    (reached : Runs.run (downlinkStep context) { streamer := streamer } labels = some final) :
    let reception := receiveAll context.process streamer
      (labels.flatMap (DownlinkStep.frames context))
    final.audio.Sublist (sampleBytes reception.returned) ∧
      (streamer.resampler = none → (final.audio ++ final.streamer.pending).Sublist
        (streamer.pending ++ heardAudio context streamer.rawAudioMode labels)) := by
  intro reception
  rw [downlink_run] at reached
  obtain ⟨plain, ran, rfl⟩ := Option.map_eq_some_iff.1 reached
  have order := plain_run_order ran
  rw [playbackSchedule_arriving] at order
  have ordered : (audioOf plain).Sublist (sampleBytes reception.returned) := by
    simpa [audioOf, PlaybackState.unplayed, pending, PlaybackState.handed, AudioQueue.bytes]
      using order
  refine ⟨ordered, fun absent => ?_⟩
  exact (ordered.append_right _).trans (receiveAll_ordered absent _)

theorem downlink_plays_in_order_delta :
    ∃ final, Runs.run (downlinkStep audioContext) { streamer := rawStreamer 0 } audioSchedule =
        some final ∧ final.audio = [1, 2] ∧
      (final.audio ++ final.streamer.pending).Sublist
        (heardAudio audioContext true audioSchedule) := by
  obtain ⟨final, reached, audio, -⟩ := audioSchedule_runs
  exact ⟨final, reached, audio, (downlink_plays_in_order reached).2 rfl⟩

def IncomingMessage.isBargeIn (context : MessageContext σ) : IncomingMessage → Bool
  | .binary _ => false
  | .text content => (dispatched context content).any fun found => found.2 = .speechStarted

def DownlinkStep.isBargeIn (context : MessageContext σ) : DownlinkStep → Bool
  | .received located save message => message.isBargeIn (context.during located save)
  | _ => false

theorem meaning_bargeIn (label : DownlinkStep) (quiet : label.isBargeIn context = false) :
    (label.meaning context streamer).isBargeIn = false := by
  cases label with
  | received located save message =>
      cases message with
      | binary data =>
          simp only [DownlinkStep.meaning, IncomingMessage.meaning, messageCallback]
          split
          · rfl
          · split <;> rfl
      | text content =>
          simp only [DownlinkStep.isBargeIn, IncomingMessage.isBargeIn] at quiet
          simp only [DownlinkStep.meaning, IncomingMessage.meaning]
          split
          · next found => simp [found] at quiet
          · rfl
          · simp only [messageCallback]
            split
            · rfl
            · split <;> rfl
          · rfl
  | _ => rfl

theorem playbackSchedule_harmless {labels : List DownlinkStep}
    (quiet : ∀ label ∈ labels, label.isBargeIn context = false)
    (frames : ∀ frame, .writeFrame frame ∈ labels → SmallFrame frame) :
    ∀ label ∈ playbackSchedule context streamer labels, label.Harmless := by
  induction labels generalizing streamer with
  | nil => simp [playbackSchedule]
  | cons first rest ih =>
      intro label member
      rcases List.mem_cons.1 member with rfl | later
      · refine ⟨meaning_bargeIn first (quiet first (by simp)), fun frame same => ?_⟩
        apply frames frame
        cases first <;> simp_all [DownlinkStep.meaning]
      · exact ih (fun other inside => quiet other (by simp [inside]))
          (fun frame inside => frames frame (by simp [inside])) label later

/-- As long as the caller does not speak and the queue does not overflow, all that the decoder
returns is played or waits; at equal rates that is every byte of every connection, but for an
odd last one. -/
theorem downlink_plays_everything {labels : List DownlinkStep} {final : Downlink σ}
    (reached : Runs.run (downlinkStep context) { streamer := streamer } labels = some final)
    (quiet : ∀ label ∈ labels, label.isBargeIn context = false)
    (frames : ∀ frame, .writeFrame frame ∈ labels → SmallFrame frame)
    (kept : .rejected ∉ final.history) :
    let received := labels.flatMap (DownlinkStep.frames context)
    final.audio = sampleBytes (receiveAll context.process streamer received).returned ∧
      (streamer.resampler = none → streamer.inSampleRate = streamer.outSampleRate →
        final.audio = (connectionAudio streamer.rawAudioMode streamer.pending received).flatMap
          wholeSamples) := by
  intro received
  rw [downlink_run] at reached
  obtain ⟨plain, ran, rfl⟩ := Option.map_eq_some_iff.1 reached
  have order := plain_run_lossless lossless_initial (playbackSchedule_harmless quiet frames)
    (List.append_nil _).symm kept ran
  rw [playbackSchedule_arriving] at order
  have whole : audioOf plain =
      sampleBytes (receiveAll context.process streamer received).returned := by
    simpa [audioOf, PlaybackState.unplayed, pending, PlaybackState.handed, AudioQueue.bytes]
      using order
  refine ⟨whole, fun absent equal => ?_⟩
  have connected := @receiveAll_connections _ context.process streamer absent equal [] rfl received
  exact whole.trans connected.symm

theorem downlink_plays_everything_delta :
    ∃ final, Runs.run (downlinkStep audioContext) { streamer := rawStreamer 0 } audioSchedule =
        some final ∧ final.audio = [1, 2] ∧
      final.audio = (connectionAudio true []
        (audioSchedule.flatMap (DownlinkStep.frames audioContext))).flatMap wholeSamples := by
  obtain ⟨final, reached, audio, kept⟩ := audioSchedule_runs
  refine ⟨final, reached, audio, (downlink_plays_everything reached ?_ ?_ kept).2 rfl rfl⟩
  · decide +kernel
  · intro frame member
    simp only [audioSchedule, List.mem_cons, DownlinkStep.writeFrame.injEq, reduceCtorEq,
      List.not_mem_nil, or_false, false_or] at member
    subst member
    decide

end

end OpenaiAudioStream
