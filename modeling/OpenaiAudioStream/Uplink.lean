import OpenaiAudioStream.Base64Encode
import OpenaiAudioStream.CaptureOrder
import OpenaiAudioStream.ExtraHeaders
import OpenaiAudioStream.MessageHandling

/-!
The capture machine with the messages it really sends: `sendAudio`, the silence of a mute and
the final JSON of a stop as they go over the WebSocket, and what the server reads from them.
-/

namespace OpenaiAudioStream

open CString

inductive WireMessage where
  | text (text : List Char)
  | binary (data : List UInt8)
  deriving DecidableEq

structure UplinkContext where
  cjson : CJsonText
  rawAudioMode : Bool
  channels : Int
  sampling : Int

def appendType : List Char := "input_audio_buffer.append".toList

def audioName : List Char := "audio".toList

def appendObject (base64Audio : List Char) : CJson :=
  (CJson.createObject.addStringToObject typeName appendType).addStringToObject audioName base64Audio

def writeAudioDelta (context : UplinkContext) (buffer : List UInt8) : Option WireMessage :=
  match base64Encode buffer false with
  | none => none
  | some base64Audio =>
      if base64Audio = [] then none
      else (context.cjson.printUnformatted (appendObject base64Audio)).map WireMessage.text

def writeBinary (buffer : List UInt8) : Option WireMessage := some (.binary buffer)

def audioMessage (context : UplinkContext) (buffer : List UInt8) : Option WireMessage :=
  if context.rawAudioMode then writeBinary buffer else writeAudioDelta context buffer

def silence (context : UplinkContext) : List UInt8 :=
  let channels := if context.channels > 0 then context.channels.toNat else 1
  let sampleRate := if context.sampling > 0 then context.sampling.toNat else 24000
  List.replicate (channels * sampleRate * 2) 0

def jsonMessage (cjson : CJsonText) (base64Input : List Char) : Option WireMessage :=
  if base64Input = [] then none
  else
    match base64Decode base64Input with
    | none => none
    | some decoded =>
        if decoded = [] then none
        else
          match cjson.parse (cStr (decoded.map fun byte => Char.ofNat byte.toNat)) with
          | none => none
          | some object => (cjson.printUnformatted object).map WireMessage.text

/-- `finalJson` is the text that the latest stop came with. -/
structure Uplink (ρ : Type*) where
  recorded : Recorded UInt8 ρ
  finalJson : List Char := []
  -- newest message first
  wire : List WireMessage := []

inductive UplinkStep where
  | capture (label : CaptureStep UInt8)
  | cleanup (text : Option (List Char)) (channelIsClosing : Bool)

section

variable {ρ : Type*}

def Uplink.initial (capacity : Nat) (resampler : ρ) (startMuted : Bool) : Uplink ρ where
  recorded := .initial capacity resampler startMuted

/-- The send that a step makes, with its message; none inside where there is none to send. -/
def attempt (context : UplinkContext) (rtpPackets : Nat) (uplink : Uplink ρ) :
    CaptureStep UInt8 → Option (Option WireMessage)
  | .media _ _ =>
      match uplink.recorded.state.media with
      | .piece (.start data) _ => if rtpPackets = 1 then some (audioMessage context data) else none
      | .piece (.flushSend _ _ bytes) _ => some (audioMessage context bytes)
      | _ => none
  | .api _ =>
      match uplink.recorded.state.command with
      | .flushSend _ bytes => some (audioMessage context bytes)
      | .silenceSend => some (audioMessage context (silence context))
      | .sendJson _ => some (jsonMessage context.cjson uplink.finalJson)
      | _ => none
  | _ => none

def answered (message : Option WireMessage) : CaptureStep UInt8 → CaptureStep UInt8
  | .media available accepted => .media available (accepted && message.isSome)
  | .api outcome => .api (outcome && message.isSome)
  | label => label

def CaptureStep.accepts : CaptureStep UInt8 → Bool
  | .media _ accepted => accepted
  | .api outcome => outcome
  | _ => false

def transmit (context : UplinkContext) (setup : CaptureSetup UInt8 ρ) (uplink : Uplink ρ)
    (label : CaptureStep UInt8) : Option (Uplink ρ) :=
  match attempt context setup.rtpPackets uplink label with
  | none =>
      (recordedStep setup uplink.recorded label).map fun recorded =>
        { uplink with recorded := recorded }
  | some message =>
      (recordedStep setup uplink.recorded (answered message label)).map fun recorded =>
        { uplink with
          recorded := recorded
          wire :=
            (if uplink.recorded.state.connected && label.accepts then message.toList else []) ++
              uplink.wire }

def uplinkStep (context : UplinkContext) (setup : CaptureSetup UInt8 ρ) (uplink : Uplink ρ) :
    UplinkStep → Option (Uplink ρ)
  | .capture (.command (.cleanup _ _)) => none
  | .capture label => transmit context setup uplink label
  | .cleanup text channelIsClosing =>
      let given := text.any fun text => !text.isEmpty
      (recordedStep setup uplink.recorded (.command (.cleanup given channelIsClosing))).map
        fun recorded => { uplink with recorded := recorded, finalJson := text.getD [] }

/-! What the server makes of a message. -/

def serverAudio (parse : List Char → Option CJson) : WireMessage → Option (List UInt8)
  | .binary data => some data
  | .text text =>
      (parse text).bind fun object =>
        if object.getObjectCstr typeName = some appendType then
          (object.getObjectCstr audioName).bind base64Decode
        else none

inductive Upload where
  | audio (bytes : List UInt8)
  | silence
  | json
  deriving DecidableEq

def CaptureEvent.uploads : CaptureEvent UInt8 → List Upload
  | .audio (.sent bytes) => [.audio bytes]
  | .silenceSent => [.silence]
  | .jsonSent => [.json]
  | _ => []

def uploads (history : List (CaptureEvent UInt8)) : List Upload :=
  Runs.gathered CaptureEvent.uploads history

/-- What a message on the wire says for something sent. -/
def Carries (context : UplinkContext) (parse : List Char → Option CJson) :
    Upload → WireMessage → Prop
  | .audio bytes, message => bytes ≠ [] ∧ serverAudio parse message = some bytes
  | .silence, message => serverAudio parse message = some (silence context)
  | .json, message => ∃ input, jsonMessage context.cjson input = some message

def Printable (text : List Char) : Prop := ∀ c ∈ text, 32 ≤ c.toNat ∧ c.toNat < 127

instance (text : List Char) : Decidable (Printable text) :=
  List.decidableBAll (fun c : Char => 32 ≤ c.toNat ∧ c.toNat < 127) text

/-- The server's parser reads printed objects of printable strings back. -/
def ReadsBack (cjson : CJsonText) (parse : List Char → Option CJson) : Prop :=
  ∀ object printed, object.type = .object →
    (∀ member ∈ object.child, member.type = .string ∧
      (∀ text ∈ member.valuestring, Printable text) ∧ ∀ name ∈ member.name, Printable name) →
    cjson.printUnformatted object = some printed →
    ∃ again, parse printed = some again ∧ again.type = .object ∧
      again.child.map stringMember = object.child.map stringMember

/-! Nothing empty is ever on its way to a send. -/

section

variable {β : Type*}

def PiecePc.outgoing : PiecePc β → Option (List β)
  | .start data => some data
  | .flushSend _ _ bytes => some bytes
  | _ => none

structure Loaded (state : CaptureState β ρ) : Prop where
  piece : ∀ position rest, state.media = .piece position rest →
    (∀ bytes ∈ position.outgoing, bytes ≠ []) ∧ ∀ piece ∈ rest, piece ≠ []
  command : ∀ bytes, state.command.residue? = some bytes → bytes ≠ []

theorem loaded_initial (capacity : Nat) (resampler : ρ) (startMuted : Bool) :
    Loaded (.initial capacity resampler startMuted : CaptureState β ρ) where
  piece := by simp [CaptureState.initial]
  command := by simp [CaptureState.initial, CommandPc.residue?]

theorem framePieces_nonempty {setup : CaptureSetup β ρ} {resampler : ρ} {frame : List β}
    (nonempty : frame ≠ []) : ∀ piece ∈ (framePieces setup resampler frame).2, piece ≠ [] := by
  unfold framePieces
  split
  · simpa using nonempty
  · intro piece member
    simpa using (List.mem_filter.1 member).2

theorem nextPiece_loaded {pieces : List (List β)} (nonempty : ∀ piece ∈ pieces, piece ≠ [])
    (position : PiecePc β) (rest : List (List β))
    (standing : nextPiece pieces = .piece position rest) :
    (∀ bytes ∈ position.outgoing, bytes ≠ []) ∧ ∀ piece ∈ rest, piece ≠ [] := by
  cases pieces with
  | nil => cases standing
  | cons piece pieces =>
      cases standing
      refine ⟨?_, fun other member => nonempty other (by simp [member])⟩
      rintro _ ⟨⟩
      exact nonempty piece (by simp)

theorem outgoing_afterFlush (sbuffer : BoundedFifo β) (atHead : Bool) (data : List β) :
    (afterFlush sbuffer atHead data).outgoing = none := by
  unfold afterFlush
  split <;> rfl

theorem outgoing_piece {rtpPackets : Nat} {usable accepted : Bool} {sbuffer after : BoundedFifo β}
    {position later : PiecePc β} {events : List (AudioEvent β)}
    (moved : PieceTransition rtpPackets usable accepted sbuffer position after later events) :
    ∀ bytes ∈ later.outgoing, bytes ≠ [] := by
  cases moved with
  | wrote data count written later contents continued =>
      rcases continued with rfl | rfl <;> simp [PiecePc.outgoing]
  | taken atHead data after bytes events checked =>
      rintro _ ⟨⟩
      exact (flushCheck_some checked).2.2.2.1
  | flushed | flushSent => simp [outgoing_afterFlush]
  | direct | begun | ended | full | writeFailed => simp [PiecePc.outgoing]

theorem loaded_transition {setup : CaptureSetup β ρ} {state next : CaptureState β ρ}
    {label : CaptureStep β} {events : List (CaptureEvent β)} (held : Loaded state)
    (moved : CaptureTransition setup state label next events) : Loaded next := by
  obtain ⟨piece, command⟩ := held
  cases moved with
  | readFrame count accepted standing nonempty =>
      exact ⟨nextPiece_loaded (framePieces_nonempty nonempty), command⟩
  | pieceReturned available accepted rest standing =>
      exact ⟨nextPiece_loaded (piece _ _ standing).2, command⟩
  | pieceMoved available accepted position rest standing running =>
      refine ⟨?_, command⟩
      rintro later others ⟨⟩
      exact ⟨outgoing_piece (pieceStep_transition running), (piece _ _ standing).2⟩
  | pieceFailed available accepted rest standing =>
      refine ⟨?_, command⟩
      simp only
      split <;> simp
  | residueTaken outcome work sbuffer bytes events standing checked =>
      refine ⟨piece, ?_⟩
      rintro _ ⟨⟩
      exact (flushCheck_some checked).2.2.2.1
  | flagStored outcome stored standing =>
      have none := storeFlag_residue state stored
      cases stored <;> exact ⟨piece, by simp [none]⟩
  | residueGone | residueSent => exact ⟨piece, by simp⟩
  | pausedReturn | entered | mutedReturn | unmuted | tryFailed | tryLocked | unconnected
  | connected | resetConsumed | resetAbsent | readFailed | mediaUnlocked =>
      exact ⟨by simp, command⟩
  | flagCommand | cleanupCommand | bugFlushed | locked | silenceUnconnected | silenceConnected
  | silenceSent | jsonSent | removeRefused | bugRemoved | finished | apiUnlocked =>
      exact ⟨piece, by simp [CommandPc.residue?]⟩
  | _ => exact ⟨piece, command⟩

end

/-! What the server reads back. -/

theorem getObjectCstr_stringMember (object : CJson) (name : List Char) :
    object.getObjectCstr name =
      ((object.child.map stringMember).find? fun member =>
        member.1.any fun own => sameCaseless own name).bind Prod.snd := by
  rw [List.find?_map]
  simp only [CJson.getObjectCstr, CJson.getObjectItem]
  have same : (fun member : CJson => CJson.isNamed name member) =
      (fun member => member.1.any fun own => decide (sameCaseless own name)) ∘ stringMember := rfl
  rw [← same]
  cases object.child.find? (CJson.isNamed name) <;> rfl

theorem groups_printable (bytes : List UInt8) : Printable (groups false bytes) := by
  intro c member
  refine @groups_char false (fun c => 32 ≤ c.toNat ∧ c.toNat < 127) ?_ ?_ bytes c member
  · decide +kernel
  · decide

theorem child_appendObject (base64Audio : List Char) :
    (appendObject base64Audio).child =
      [.item .string (some appendType) (some typeName) [],
        .item .string (some base64Audio) (some audioName) []] := rfl

theorem appendObject_readsBack {cjson : CJsonText} {parse : List Char → Option CJson}
    (readsBack : ReadsBack cjson parse) {bytes : List UInt8} {printed : List Char}
    (given : cjson.printUnformatted (appendObject (groups false bytes)) = some printed) :
    ∃ again, parse printed = some again ∧
      again.getObjectCstr typeName = some appendType ∧
      again.getObjectCstr audioName = some (groups false bytes) := by
  have plain : ∀ member ∈ (appendObject (groups false bytes)).child, member.type = .string ∧
      (∀ text ∈ member.valuestring, Printable text) ∧ ∀ name ∈ member.name, Printable name := by
    have audio := groups_printable bytes
    have type : Printable typeName ∧ Printable appendType ∧ Printable audioName := by decide
    intro member inside
    simp only [child_appendObject, List.mem_cons, List.not_mem_nil, or_false] at inside
    rcases inside with rfl | rfl
    · exact ⟨rfl, by simpa [CJson.valuestring] using type.2.1, by simpa [CJson.name] using type.1⟩
    · exact ⟨rfl, by simpa [CJson.valuestring] using audio, by simpa [CJson.name] using type.2.2⟩
  obtain ⟨again, parsed, -, same⟩ := readsBack _ _ rfl plain given
  refine ⟨again, parsed, ?_, ?_⟩
  · rw [getObjectCstr_stringMember, same]
    rfl
  · rw [getObjectCstr_stringMember, same]
    rfl

theorem serverAudio_audioMessage {context : UplinkContext} {parse : List Char → Option CJson}
    (readsBack : ReadsBack context.cjson parse) {bytes : List UInt8} {message : WireMessage}
    (built : audioMessage context bytes = some message) :
    serverAudio parse message = some bytes := by
  unfold audioMessage at built
  split at built
  · cases built
    rfl
  · by_cases short : bytes.length < 4294967296
    · simp only [writeAudioDelta, base64Encode_groups short] at built
      split at built
      · cases built
      · obtain ⟨printed, given, rfl⟩ := Option.map_eq_some_iff.1 built
        obtain ⟨again, parsed, type, audio⟩ := appendObject_readsBack readsBack given
        simp [serverAudio, parsed, type, audio, base64Decode_groups]
    · have endless : base64Encode bytes false = none :=
        encodeLoop_endless (Nat.not_lt.1 short) _ _
      simp [writeAudioDelta, endless] at built

/-! One step of the uplink, and its runs. -/

section

variable {context : UplinkContext} {setup : CaptureSetup UInt8 ρ} {uplink : Uplink ρ}
  {parse : List Char → Option CJson}

theorem uploads_append (newer older : List (CaptureEvent UInt8)) :
    uploads (newer ++ older) = uploads older ++ uploads newer :=
  Runs.gathered_append CaptureEvent.uploads newer older

theorem flushCheck_unsent {usable : Bool} {sbuffer after : BoundedFifo UInt8}
    {taken : Option (List UInt8)} {events : List (AudioEvent UInt8)}
    (checked : flushCheck usable sbuffer = (after, taken, events)) :
    uploads (events.map CaptureEvent.audio).reverse = [] := by
  obtain ⟨_, _, ⟨_, _, rfl⟩ | ⟨_, _, rfl⟩ | ⟨_, _, _, rfl⟩⟩ := flushCheck_cases checked <;> rfl

theorem uploads_piece {rtpPackets : Nat} {usable accepted : Bool}
    {sbuffer after : BoundedFifo UInt8} {position later : PiecePc UInt8}
    {events : List (AudioEvent UInt8)}
    (aggregated : ∀ data, position = .start data → rtpPackets ≠ 1)
    (unflushed : ∀ atHead data bytes, position ≠ .flushSend atHead data bytes)
    (moved : PieceTransition rtpPackets usable accepted sbuffer position after later events) :
    uploads (events.map CaptureEvent.audio).reverse = [] := by
  cases moved with
  | direct data one => exact absurd one (aggregated data rfl)
  | flushSent atHead data bytes => exact absurd rfl (unflushed atHead data bytes)
  | flushed atHead data after events checked => exact flushCheck_unsent checked
  | taken atHead data after bytes events checked => exact flushCheck_unsent checked
  | begun | ended | full | writeFailed | wrote => rfl

theorem uploads_unattempted {label : CaptureStep UInt8} {next : CaptureState UInt8 ρ}
    {events : List (CaptureEvent UInt8)}
    (silent : attempt context setup.rtpPackets uplink label = none)
    (moved : CaptureTransition setup uplink.recorded.state label next events) :
    uploads events.reverse = [] := by
  cases moved with
  | pieceMoved available accepted position rest standing running =>
      refine uploads_piece ?_ ?_ (pieceStep_transition running)
      · rintro data rfl one
        simp [attempt, standing, one] at silent
      · rintro atHead data bytes rfl
        simp [attempt, standing] at silent
  | residueGone outcome work sbuffer events standing checked => exact flushCheck_unsent checked
  | residueTaken outcome work sbuffer bytes events standing checked =>
      exact flushCheck_unsent checked
  | residueSent outcome work bytes standing => simp [attempt, standing] at silent
  | silenceSent outcome standing => simp [attempt, standing] at silent
  | jsonSent outcome channelIsClosing standing => simp [attempt, standing] at silent
  | _ => rfl

/-- A send that a step makes: what it uploads if it is accepted, and the message of it. -/
inductive Attempts (context : UplinkContext) (rtpPackets : Nat) (uplink : Uplink ρ) :
    CaptureStep UInt8 → Upload → Option WireMessage → Prop
  | piece {available accepted data rest} :
      uplink.recorded.state.media = .piece (.start data) rest → rtpPackets = 1 →
      Attempts context rtpPackets uplink (.media available accepted) (.audio data)
        (audioMessage context data)
  | flush {available accepted atHead data bytes rest} :
      uplink.recorded.state.media = .piece (.flushSend atHead data bytes) rest →
      Attempts context rtpPackets uplink (.media available accepted) (.audio bytes)
        (audioMessage context bytes)
  | residue {outcome work bytes} :
      uplink.recorded.state.command = .flushSend work bytes →
      Attempts context rtpPackets uplink (.api outcome) (.audio bytes) (audioMessage context bytes)
  | silence {outcome} : uplink.recorded.state.command = .silenceSend →
      Attempts context rtpPackets uplink (.api outcome) .silence
        (audioMessage context (silence context))
  | json {outcome channelIsClosing} :
      uplink.recorded.state.command = .sendJson channelIsClosing →
      Attempts context rtpPackets uplink (.api outcome) .json
        (jsonMessage context.cjson uplink.finalJson)

theorem attempt_attempts {rtpPackets : Nat} {label : CaptureStep UInt8}
    {message : Option WireMessage}
    (made : attempt context rtpPackets uplink label = some message) :
    ∃ upload, Attempts context rtpPackets uplink label upload message := by
  unfold attempt at made
  split at made
  · split at made
    · next standing =>
      split at made
      · next one =>
        cases made
        exact ⟨_, .piece standing one⟩
      · cases made
    · next standing =>
      cases made
      exact ⟨_, .flush standing⟩
    · cases made
  · split at made
    · next standing =>
      cases made
      exact ⟨_, .residue standing⟩
    · next standing =>
      cases made
      exact ⟨_, .silence standing⟩
    · next standing =>
      cases made
      exact ⟨_, .json standing⟩
    · cases made
  · cases made

theorem attempts_uploads {label : CaptureStep UInt8} {upload : Upload}
    {message : Option WireMessage} {next : Recorded UInt8 ρ} {sent : Bool}
    (attempts : Attempts context setup.rtpPackets uplink label upload message)
    (accepted : (uplink.recorded.state.connected && (label.accepts && message.isSome)) = sent)
    (taken : recordedStep setup uplink.recorded (answered message label) = some next) :
    uploads next.history =
      uploads uplink.recorded.history ++ if sent then [upload] else [] := by
  have whole (events older : List (CaptureEvent UInt8)) :
      uploads (events.reverse ++ older) = uploads older ++ uploads events.reverse :=
    uploads_append _ _
  cases attempts with
  | piece standing one =>
      simp only [CaptureStep.accepts] at accepted
      simp only [answered, recordedStep, captureStep, captureMediaStep, standing, sendPiece,
        pieceStep, one, if_true, Option.map_some, Option.some.injEq, accepted] at taken
      subst taken
      cases sent <;> exact whole _ _
  | flush standing =>
      simp only [CaptureStep.accepts] at accepted
      simp only [answered, recordedStep, captureStep, captureMediaStep, standing, sendPiece,
        pieceStep, flushSend, Option.map_some, Option.some.injEq, accepted] at taken
      subst taken
      cases sent <;> exact whole _ _
  | residue standing =>
      simp only [CaptureStep.accepts] at accepted
      simp only [answered, recordedStep, captureStep, captureApiStep, standing, flushSend,
        Option.map_some, Option.some.injEq, accepted] at taken
      subst taken
      cases sent <;> exact whole _ _
  | silence standing =>
      simp only [CaptureStep.accepts] at accepted
      simp only [answered, recordedStep, captureStep, captureApiStep, standing, Option.map_some,
        Option.some.injEq, accepted] at taken
      subst taken
      cases sent <;> exact whole _ _
  | json standing =>
      simp only [CaptureStep.accepts] at accepted
      simp only [answered, recordedStep, captureStep, captureApiStep, standing, Option.map_some,
        Option.some.injEq, accepted] at taken
      subst taken
      cases sent <;> exact whole _ _

theorem attempts_carries (readsBack : ReadsBack context.cjson parse)
    (loaded : Loaded uplink.recorded.state) {rtpPackets : Nat} {label : CaptureStep UInt8}
    {upload : Upload} {message : WireMessage}
    (attempts : Attempts context rtpPackets uplink label upload (some message)) :
    Carries context parse upload message := by
  generalize given : some message = built at attempts
  cases attempts with
  | piece standing one =>
      exact ⟨(loaded.piece _ _ standing).1 _ rfl, serverAudio_audioMessage readsBack given.symm⟩
  | flush standing =>
      exact ⟨(loaded.piece _ _ standing).1 _ rfl, serverAudio_audioMessage readsBack given.symm⟩
  | residue standing =>
      exact ⟨loaded.command _ (by rw [standing]; rfl),
        serverAudio_audioMessage readsBack given.symm⟩
  | silence standing => exact serverAudio_audioMessage readsBack given.symm
  | json standing => exact ⟨_, given.symm⟩

structure CarriesAll (context : UplinkContext) (parse : List Char → Option CJson)
    (uplink : Uplink ρ) : Prop where
  loaded : Loaded uplink.recorded.state
  carried : List.Forall₂ (Carries context parse) (uploads uplink.recorded.history)
    uplink.wire.reverse

theorem loaded_recordedStep {recorded next : Recorded UInt8 ρ} {label : CaptureStep UInt8}
    (held : Loaded recorded.state) (taken : recordedStep setup recorded label = some next) :
    Loaded next.state := by
  obtain ⟨state, events, rfl, moved⟩ := recordedStep_transition taken
  exact loaded_transition held moved

theorem carriesAll_transmit (readsBack : ReadsBack context.cjson parse) {next : Uplink ρ}
    {label : CaptureStep UInt8} (held : CarriesAll context parse uplink)
    (taken : transmit context setup uplink label = some next) : CarriesAll context parse next := by
  obtain ⟨loaded, carried⟩ := held
  unfold transmit at taken
  split at taken
  · next silent =>
    obtain ⟨recorded, moved, rfl⟩ := Option.map_eq_some_iff.1 taken
    refine ⟨loaded_recordedStep loaded moved, ?_⟩
    obtain ⟨state, events, rfl, transition⟩ := recordedStep_transition moved
    rw [uploads_append, uploads_unattempted silent transition, List.append_nil]
    exact carried
  · next message made =>
    obtain ⟨recorded, moved, rfl⟩ := Option.map_eq_some_iff.1 taken
    refine ⟨loaded_recordedStep loaded moved, ?_⟩
    obtain ⟨upload, attempts⟩ := attempt_attempts made
    rw [attempts_uploads attempts rfl moved, List.reverse_append]
    refine List.rel_append carried ?_
    cases message with
    | none => simp
    | some message =>
        have right := attempts_carries readsBack loaded attempts
        rw [Option.isSome_some, Bool.and_true]
        cases uplink.recorded.state.connected && label.accepts with
        | false => exact .nil
        | true => exact .cons right .nil

theorem carriesAll_step (readsBack : ReadsBack context.cjson parse) {next : Uplink ρ}
    {label : UplinkStep} (held : CarriesAll context parse uplink)
    (taken : uplinkStep context setup uplink label = some next) :
    CarriesAll context parse next := by
  unfold uplinkStep at taken
  split at taken
  · cases taken
  · exact carriesAll_transmit readsBack held taken
  · next text channelIsClosing =>
    obtain ⟨recorded, moved, rfl⟩ := Option.map_eq_some_iff.1 taken
    refine ⟨loaded_recordedStep held.loaded moved, ?_⟩
    obtain ⟨state, events, rfl, transition⟩ := recordedStep_transition moved
    have silent : uploads events.reverse = [] := by
      cases transition <;> rfl
    rw [uploads_append, silent, List.append_nil]
    exact held.carried

theorem uplinkStep_recorded {next : Uplink ρ} {label : UplinkStep}
    (taken : uplinkStep context setup uplink label = some next) :
    ∃ label, recordedStep setup uplink.recorded label = some next.recorded := by
  unfold uplinkStep at taken
  split at taken
  · cases taken
  · unfold transmit at taken
    split at taken
    · obtain ⟨recorded, moved, rfl⟩ := Option.map_eq_some_iff.1 taken
      exact ⟨_, moved⟩
    · obtain ⟨recorded, moved, rfl⟩ := Option.map_eq_some_iff.1 taken
      exact ⟨_, moved⟩
  · obtain ⟨recorded, moved, rfl⟩ := Option.map_eq_some_iff.1 taken
    exact ⟨_, moved⟩

theorem uplink_run_recorded {labels : List UplinkStep} {final : Uplink ρ}
    (reached : Runs.run (uplinkStep context setup) uplink labels = some final) :
    ∃ schedule, Runs.run (recordedStep setup) uplink.recorded schedule = some final.recorded := by
  induction labels generalizing uplink with
  | nil =>
      simp only [Runs.run_nil, Option.some.injEq] at reached
      exact ⟨[], by rw [Runs.run_nil, reached]⟩
  | cons label rest ih =>
      obtain ⟨next, taken, later⟩ := Runs.run_cons_inv reached
      obtain ⟨first, moved⟩ := uplinkStep_recorded taken
      obtain ⟨schedule, ran⟩ := ih later
      exact ⟨first :: schedule, by simp [Runs.run, moved, ran]⟩

end

/-! A sample on the wire. -/

def appendText : List Char :=
  "\x7b\"type\":\"input_audio_buffer.append\",\"audio\":\"AQI=\"\x7d".toList

def oneObject : CJsonText where
  parse text := if text = appendText then some (appendObject (groups false [1, 2])) else none
  printUnformatted object :=
    if object.child.map stringMember =
        (appendObject (groups false [1, 2])).child.map stringMember then
      some appendText
    else none

def oneContext : UplinkContext where
  cjson := oneObject
  rawAudioMode := false
  channels := 1
  sampling := 24000

theorem oneObject_readsBack : ReadsBack oneObject oneObject.parse := by
  intro object printed type plain given
  simp only [oneObject] at given
  split at given
  · next same =>
    cases given
    exact ⟨appendObject (groups false [1, 2]), by simp [oneObject], rfl, same.symm⟩
  · cases given

def sampleSchedule : List UplinkStep :=
  [.capture .connectionOpened, .capture (.capture [1, 2]), .capture .streamFrame] ++
    ([none, none, none, none, some 2, none].map fun available =>
      .capture (.media available true))

end

end OpenaiAudioStream
