import OpenaiAudioStream.Downlink

/-!
What the application hears of the messages: `m_notify` with `EVENT_JSON` and `EVENT_PLAY`,
along any run of the downlink.
-/

namespace OpenaiAudioStream

abbrev Notification : Type := StreamEvent × List Char

section

variable {σ : Type}

def notifyPlayback (context : MessageContext σ) (filePath : List Char) : List Notification :=
  if filePath ≠ [] ∧ context.located = true then
    let payload := CJson.createObject.addStringToObject fileName filePath
    match context.cjson.printUnformatted payload with
    | none => []
    | some jsonString => [(.play, jsonString)]
  else []

def messageNotifications (context : MessageContext σ) (streamer : RawStreamer UInt8 σ) :
    IncomingMessage → List Notification
  | .text message => (onMessage context streamer (.text message)).notifications
  | .binary data =>
      if data.length > maxWsMessageBytes || !streamer.rawAudioMode || context.disableAudiofiles
      then []
      else notifyPlayback context (context.saveDebugAudioFile data)

def DownlinkStep.notifications (context : MessageContext σ) (streamer : RawStreamer UInt8 σ) :
    DownlinkStep → List Notification
  | .received located save message =>
      messageNotifications (context.during located save) streamer message
  | _ => []

/-- The downlink and what the application was told so far. -/
structure ToldDownlink (σ : Type) where
  link : Downlink σ
  told : List Notification := []

def toldStep (context : MessageContext σ) (state : ToldDownlink σ) (label : DownlinkStep) :
    Option (ToldDownlink σ) :=
  (downlinkStep context state.link label).map fun link =>
    { link := link, told := state.told ++ label.notifications context state.link.streamer }

/-! What becomes of a text. -/

def IncomingMessage.isText : IncomingMessage → Bool
  | .text _ => true
  | .binary _ => false

def IncomingMessage.isDropped (context : MessageContext σ) : IncomingMessage → Bool
  | .text message =>
      decide (message.length > maxWsMessageBytes) || !context.located ||
        jsonDepthExceeded (some (cStr message)) maxJsonDepth
  | .binary _ => false

def deltaPayload (context : MessageContext σ) (message : List Char) :
    Option (CJson × List UInt8) :=
  match dispatched context message with
  | some (json, .audioDelta) => (deltaAudio json).map fun rawAudio => (json, rawAudio)
  | _ => none

def strippedDelta (json : CJson) (filePath : List Char) : CJson :=
  if filePath ≠ [] then
    (json.deleteItemFromObject deltaName).addItemToObject fileName (.createString filePath)
  else json.deleteItemFromObject deltaName

def MessageContext.recording (context : MessageContext σ) (rawAudio : List UInt8) : List Char :=
  if context.disableAudiofiles then [] else context.saveDebugAudioFile rawAudio

def WsAction.isPush {β : Type*} : WsAction β → Bool
  | .pushAudioQueue _ => true
  | _ => false

def PlaybackEvent.isPush {β : Type*} : PlaybackEvent β → Bool
  | .accepted _ | .rejected => true
  | _ => false

variable {context : MessageContext σ} {streamer : RawStreamer UInt8 σ} {message : List Char}

theorem kept_iff : IncomingMessage.isDropped context (.text message) = false ↔
    message.length ≤ maxWsMessageBytes ∧ context.located = true ∧
      jsonDepthExceeded (some (cStr message)) maxJsonDepth = false := by
  simp [IncomingMessage.isDropped, and_assoc]

theorem dropped_told (dropped : IncomingMessage.isDropped context (.text message) = true) :
    (onMessage context streamer (.text message)).notifications = [] ∧
      (onMessage context streamer (.text message)).actions = [] := by
  simp only [IncomingMessage.isDropped, Bool.or_eq_true, decide_eq_true_eq, Bool.not_eq_true']
    at dropped
  by_cases size : message.length > maxWsMessageBytes
  · simp [onMessage, size]
  rcases located : context.located with _ | _
  · simp [onMessage, size, eventCallback, located]
  · have depth := dropped.resolve_left (by simp [size, located])
    simp [onMessage, size, eventCallback, located, processMessage, depth]

theorem forwarded_told (kept : IncomingMessage.isDropped context (.text message) = false)
    (plain : deltaPayload context message = none) :
    (onMessage context streamer (.text message)).notifications = [(.json, cStr message)] ∧
      (onMessage context streamer (.text message)).actions.countP WsAction.isPush = 0 := by
  obtain ⟨size, located, depth⟩ := kept_iff.1 kept
  have within := Nat.not_lt.2 size
  simp only [onMessage, gt_iff_lt, if_neg within, eventCallback, located, if_true]
  rcases parsed : context.cjson.parse (cStr message) with _ | json
  · simp [processMessage, depth, parsed]
  rcases found : json.getObjectCstr typeName with _ | jsType
  · simp [processMessage, depth, parsed, found]
  rcases type : classifyJsonMessage (some jsType) with _ | _ | _ | _ | _ | _
  · simp [processMessage, depth, parsed, found, type]
  · simp [processMessage, depth, parsed, found, type, WsAction.isPush]
  · simp [processMessage, depth, parsed, found, type]
  · have reached : dispatched context message = some (json, .audioDelta) := by
      simp [dispatched, within, located, depth, parsed, messageType, found, type]
    have missing : deltaAudio json = none := by
      simpa [deltaPayload, reached] using plain
    have silent : processDelta context streamer json (cStr message) =
        { status := false, message := cStr message, streamer := streamer,
          actions := [.storeResponseAudioDone false] } := by
      rcases held : json.getObjectCstr deltaName with _ | jsonAudio
      · simp [processDelta, held]
      · by_cases empty : jsonAudio = []
        · simp [processDelta, held, empty]
        · simp only [deltaAudio, held, if_neg empty] at missing
          simp [processDelta, held, missing]
    simp [processMessage, depth, parsed, found, type, silent, WsAction.isPush]
  · simp [processMessage, depth, parsed, found, type, WsAction.isPush]
  · simp [processMessage, depth, parsed, found, type]

theorem deltaPayload_spec {json : CJson} {rawAudio : List UInt8}
    (payload : deltaPayload context message = some (json, rawAudio)) :
    AudioDelta context message json ∧ deltaAudio json = some rawAudio := by
  unfold deltaPayload at payload
  split at payload
  · next found =>
    obtain ⟨bytes, decoded, same⟩ := Option.map_eq_some_iff.1 payload
    cases same
    exact ⟨dispatched_delta found, decoded⟩
  · cases payload

theorem delta_told {json : CJson} {rawAudio : List UInt8}
    (payload : deltaPayload context message = some (json, rawAudio)) :
    let jsonString :=
      context.cjson.printUnformatted (strippedDelta json (context.recording rawAudio))
    let silent := (convertRawAudio context.process streamer rawAudio).2.converted.isEmpty
    (onMessage context streamer (.text message)).notifications =
        (if context.recording rawAudio ≠ [] then jsonString.toList.map (StreamEvent.play, ·)
          else []) ++
        (if silent then [(.json, jsonString.getD (cStr message))] else []) ∧
      (onMessage context streamer (.text message)).actions.countP WsAction.isPush =
        if silent then 0 else 1 := by
  intro jsonString silent
  obtain ⟨delta, decoded⟩ := deltaPayload_spec payload
  have within := Nat.not_lt.2 delta.size
  have processed : processMessage context streamer (cStr message) =
      processRawAudio context streamer json (cStr message) rawAudio :=
    (processMessage_delta delta).trans (processDelta_payload decoded)
  simp only [onMessage, gt_iff_lt, if_neg within, eventCallback, delta.located, if_true, processed]
  refine ⟨?_, ?_⟩
  · have copied : (processRawAudio context streamer json (cStr message) rawAudio).message =
        jsonString.getD (cStr message) := rfl
    have status : (processRawAudio context streamer json (cStr message) rawAudio).status =
        !silent := rfl
    have played : (processRawAudio context streamer json (cStr message) rawAudio).notifications =
        if context.recording rawAudio ≠ [] then jsonString.toList.map (StreamEvent.play, ·)
        else [] := by
      change (match jsonString with
        | none => []
        | some jsonString =>
            if context.recording rawAudio ≠ [] then [(StreamEvent.play, jsonString)] else []) = _
      rcases jsonString with _ | jsonString <;> simp
    rw [copied, status, played]
    cases silent <;> rfl
  · change (WsAction.storeResponseAudioDone false :: if silent then [] else _).countP _ = _
    cases silent <;> simp [WsAction.isPush]

/-! Every text is accounted for. -/

def Downlink.chunks (link : Downlink σ) : Nat :=
  link.history.countP PlaybackEvent.isPush + link.playback.handler.countP WsAction.isPush

theorem pushes_transition {β : Type*} {config : PlaybackConfig} {state next : PlaybackState β}
    {label : PlaybackStep β} {events : List (PlaybackEvent β)}
    (moved : PlaybackTransition config state label next events)
    (quiet : ∀ located received, label = .message located received →
      (received.handler config located).countP WsAction.isPush = 0) :
    events.countP PlaybackEvent.isPush + next.handler.countP WsAction.isPush =
      state.handler.countP WsAction.isPush := by
  cases moved with
  | message located received standing =>
      have silent : received.announcement.countP PlaybackEvent.isPush = 0 := by
        cases received <;> rfl
      simp [standing, silent, quiet located received rfl]
  | clearQueue rest standing | requestClear rest standing | storeDone done rest standing
  | storeTerminal rest standing | requestClose rest standing =>
      simp [standing, PlaybackEvent.isPush, WsAction.isPush]
  | pushAccepted audio rest standing | pushRejected audio rest standing =>
      simp [standing, PlaybackEvent.isPush, List.countP_cons, WsAction.isPush, Nat.add_comm]
  | clearSeen | emitted => cases state.openaiSpeaking <;> simp [PlaybackEvent.isPush]
  | _ => simp [PlaybackEvent.isPush]

theorem advance_chunks {config : PlaybackConfig} {link next : Downlink σ}
    {label : PlaybackStep UInt8} (taken : link.advance config label = some next)
    (quiet : ∀ located received, label = .message located received →
      (received.handler config located).countP WsAction.isPush = 0) :
    next.chunks = link.chunks ∧ next.streamer = link.streamer := by
  obtain ⟨outcome, found, rfl⟩ := Option.map_eq_some_iff.1 taken
  have counts := pushes_transition (playbackStep_transition found) quiet
  refine ⟨?_, rfl⟩
  simp only [Downlink.chunks, List.countP_append, List.countP_reverse]
  omega

theorem quiet_handler (config : PlaybackConfig) (located : Bool) {received : WsMessage UInt8}
    (other : received = .opened ∨ received = .errored ∨ received = .closed) :
    (received.handler config located).countP WsAction.isPush = 0 := by
  rcases other with rfl | rfl | rfl
  · rfl
  · simp only [WsMessage.handler]
    split <;> rfl
  · simp only [WsMessage.handler]
    split <;> rfl

theorem messageCallback_mode (process : ResampleCall UInt8 σ) (frame : WsFrame UInt8) :
    (messageCallback process streamer frame).streamer.rawAudioMode = streamer.rawAudioMode := by
  have converted : ∀ inputRaw, (convertRawAudio process streamer inputRaw).1.rawAudioMode =
      streamer.rawAudioMode := fun inputRaw => (convertRawAudio_setup inputRaw).rawAudioMode
  cases frame with
  | binary data =>
      simp only [messageCallback]
      split
      · rfl
      · split
        · exact converted data
        · rfl
  | audioDelta located size rawAudio =>
      simp only [messageCallback]
      split
      · rfl
      · split
        · exact converted rawAudio
        · rfl
  | opened => rfl

theorem onMessage_mode (message : IncomingMessage) :
    (onMessage context streamer message).streamer.rawAudioMode = streamer.rawAudioMode := by
  rw [(onMessage_meaning message).2]
  cases message with
  | binary data => exact messageCallback_mode context.process _
  | text message =>
      simp only [IncomingMessage.frames]
      split
      · exact messageCallback_mode context.process _
      · rfl

/-- A text is dropped, or told, or its audio is queued. -/
theorem message_balance (plain : streamer.rawAudioMode = false) (message : IncomingMessage) :
    (messageNotifications context streamer message).countP (·.1 = .json) +
        (onMessage context streamer message).actions.countP WsAction.isPush +
        (if message.isDropped context then 1 else 0) =
      if message.isText then 1 else 0 := by
  cases message with
  | binary data =>
      have ignored : (onMessage context streamer (.binary data)).actions = [] := by
        simp only [onMessage, messageCallback, plain]
        split <;> rfl
      simp [messageNotifications, plain, ignored, IncomingMessage.isDropped,
        IncomingMessage.isText]
  | text message =>
      simp only [messageNotifications, IncomingMessage.isText, if_true]
      rcases kept : IncomingMessage.isDropped context (.text message) with _ | _
      · rcases payload : deltaPayload context message with _ | ⟨json, rawAudio⟩
        · obtain ⟨told, queued⟩ := @forwarded_told _ context streamer message kept payload
          rw [told, queued]
          rfl
        · obtain ⟨told, queued⟩ := @delta_told _ context streamer message json rawAudio payload
          rw [told, queued, List.countP_append]
          have plays : ∀ body : Option (List Char), (body.toList.map
              (StreamEvent.play, ·)).countP (fun told => decide (told.1 = .json)) = 0 := by
            intro body
            cases body <;> rfl
          cases (convertRawAudio context.process streamer rawAudio).2.converted.isEmpty <;>
            split <;> simp [plays]
      · obtain ⟨told, queued⟩ := @dropped_told _ context streamer message kept
        simp [told, queued]

def DownlinkStep.isText : DownlinkStep → Bool
  | .received _ _ message => message.isText
  | _ => false

def DownlinkStep.isDropped (context : MessageContext σ) : DownlinkStep → Bool
  | .received located save message => message.isDropped (context.during located save)
  | _ => false

def ToldDownlink.outcomes (state : ToldDownlink σ) : Nat :=
  state.told.countP (·.1 = .json) + state.link.chunks

theorem toldStep_balance {state next : ToldDownlink σ} {label : DownlinkStep}
    (plain : state.link.streamer.rawAudioMode = false)
    (taken : toldStep context state label = some next) :
    next.link.streamer.rawAudioMode = false ∧
      next.outcomes + (if label.isDropped context then 1 else 0) =
        state.outcomes + if label.isText then 1 else 0 := by
  obtain ⟨link, moved, rfl⟩ := Option.map_eq_some_iff.1 taken
  simp only [ToldDownlink.outcomes, List.countP_append]
  cases label with
  | received located save message =>
      simp only [downlinkStep] at moved
      split at moved
      · next standing =>
        obtain rfl := Option.some.inj moved
        have balance := @message_balance _ (context.during located save) _ plain message
        refine ⟨(onMessage_mode message).trans plain, ?_⟩
        have idle : state.link.playback.handler = [] := List.isEmpty_iff.1 standing
        change _ + (if message.isDropped (context.during located save) then 1 else 0) =
          _ + if message.isText then 1 else 0
        simp only [DownlinkStep.notifications, Downlink.chunks, idle, List.countP_nil]
        omega
      · cases moved
  | opened =>
      obtain ⟨advanced, found, rfl⟩ := Option.map_eq_some_iff.1 moved
      obtain ⟨same, kept⟩ := advance_chunks found fun located received label => by
        cases label
        exact quiet_handler context.playback true (.inl rfl)
      rw [← same, kept]
      exact ⟨plain, rfl⟩
  | errored located | closed located =>
      obtain ⟨same, kept⟩ := advance_chunks moved fun located received label => by
        cases label
        exact quiet_handler context.playback _ (by simp)
      rw [← same, kept]
      exact ⟨plain, rfl⟩
  | webSocket | pauseresume pause | setOpenaiMute mute | writeFrame frame | media located =>
      obtain ⟨same, kept⟩ := advance_chunks moved (by simp)
      rw [← same, kept]
      exact ⟨plain, rfl⟩

def DownlinkStep.plainText (context : MessageContext σ) : DownlinkStep → Option (List Char)
  | .received located save (.text message) =>
      if IncomingMessage.isDropped (context.during located save) (.text message) ||
          (deltaPayload (context.during located save) message).isSome then none
      else some (cStr message)
  | _ => none

def jsonBody (event : Notification) : Option (List Char) :=
  if event.1 = .json then some event.2 else none

theorem plainText_told (label : DownlinkStep) :
    (label.plainText context).toList.Sublist
      ((label.notifications context streamer).filterMap jsonBody) := by
  cases label with
  | received located save message =>
      cases message with
      | binary data => exact List.nil_sublist _
      | text message =>
          simp only [DownlinkStep.plainText, DownlinkStep.notifications, messageNotifications]
          split
          · exact List.nil_sublist _
          · next kept =>
            simp only [Bool.or_eq_true, not_or, Bool.not_eq_true, Option.isSome_eq_false_iff,
              Option.isNone_iff_eq_none] at kept
            rw [(forwarded_told kept.1 kept.2).1]
            exact List.Sublist.refl _
  | _ => exact List.nil_sublist _

theorem toldStep_told {state next : ToldDownlink σ} {label : DownlinkStep}
    (taken : toldStep context state label = some next) :
    next.told = state.told ++ label.notifications context state.link.streamer := by
  obtain ⟨link, -, rfl⟩ := Option.map_eq_some_iff.1 taken
  rfl

theorem told_run_plainText {labels : List DownlinkStep} {start final : ToldDownlink σ}
    (reached : Runs.run (toldStep context) start labels = some final) :
    (start.told.filterMap jsonBody ++ labels.filterMap (DownlinkStep.plainText context)).Sublist
      (final.told.filterMap jsonBody) := by
  induction labels generalizing start with
  | nil =>
      simp only [Runs.run_nil, Option.some.injEq] at reached
      simp [reached]
  | cons label rest ih =>
      obtain ⟨next, taken, later⟩ := Runs.run_cons_inv reached
      have onward := ih later
      have first := @plainText_told _ context start.link.streamer label
      have split : (label :: rest).filterMap (DownlinkStep.plainText context) =
          (label.plainText context).toList ++ rest.filterMap (DownlinkStep.plainText context) := by
        rw [List.filterMap_cons]
        cases label.plainText context <;> rfl
      rw [toldStep_told taken, List.filterMap_append, List.append_assoc] at onward
      rw [split]
      exact ((first.append_right _).append_left _).trans onward

/-- In a stream without raw audio every text is dropped by a limit or a hangup, or told in one
`EVENT_JSON`, or its audio is queued; and all that is no audio is told as it came, in order. -/
theorem messages_accounted {labels : List DownlinkStep} {final : ToldDownlink σ}
    (plain : streamer.rawAudioMode = false)
    (reached : Runs.run (toldStep context) { link := { streamer := streamer } } labels =
      some final) :
    final.told.countP (·.1 = .json) + final.link.chunks +
        labels.countP (DownlinkStep.isDropped context) = labels.countP DownlinkStep.isText ∧
      (labels.filterMap (DownlinkStep.plainText context)).Sublist
        (final.told.filterMap jsonBody) := by
  refine ⟨?_, by simpa using told_run_plainText reached⟩
  have balance := @Runs.run_balanced _ _ (toldStep context)
    (fun state => state.link.streamer.rawAudioMode = false) ToldDownlink.outcomes
    (DownlinkStep.isDropped context) DownlinkStep.isText
    (fun state label next held taken => toldStep_balance held taken) labels _ final plain reached
  simpa [ToldDownlink.outcomes, Downlink.chunks] using balance

/-! A delta and a text that is no JSON. -/

def strippedText : List Char := "\x7b\"type\":\"response.output_audio.delta\"\x7d".toList

def printingContext : MessageContext Unit :=
  { audioContext with
    cjson := { audioContext.cjson with printUnformatted := fun _ => some strippedText } }

def toldSchedule : List DownlinkStep :=
  [.received true (fun _ => []) (.text audioText), .webSocket,
    .received true (fun _ => []) (.text "pong".toList)]

theorem messages_accounted_delta :
    ∃ final, Runs.run (toldStep printingContext) { link := { streamer := plainStreamer } }
        (toldSchedule.insertIdx 2 .webSocket) = some final ∧
      final.told.countP (·.1 = .json) = 1 ∧ final.link.chunks = 1 ∧
      ["pong".toList].Sublist (final.told.filterMap jsonBody) := by
  obtain ⟨final, reached, told, chunks⟩ : ∃ final,
      Runs.run (toldStep printingContext) { link := { streamer := plainStreamer } }
        (toldSchedule.insertIdx 2 .webSocket) = some final ∧
      final.told.countP (·.1 = .json) = 1 ∧ final.link.chunks = 1 :=
    Runs.exists_run (by decide +kernel)
  have forwarded : (toldSchedule.insertIdx 2 .webSocket).filterMap
      (DownlinkStep.plainText printingContext) = ["pong".toList] := by decide +kernel
  have ordered := (messages_accounted rfl reached).2
  rw [forwarded] at ordered
  exact ⟨final, reached, told, chunks, ordered⟩

/-! No audio reaches the application. -/

/-- The body of an event: a text that brings no audio that can be decoded, or an object
printed without a delta. -/
inductive NoAudio (context : MessageContext σ) : List Char → Prop
  | message {text} : (∀ json, context.cjson.parse text = some json →
      messageType json = some .audioDelta → deltaAudio json = none) → NoAudio context text
  | printed {json text} : (∀ member ∈ json.child, member.isNamed deltaName = false) →
      context.cjson.printUnformatted json = some text → NoAudio context text

theorem file_notDelta (type : CJsonType) (valuestring : Option (List Char)) (child : List CJson) :
    CJson.isNamed deltaName (.item type valuestring (some fileName) child) = false := by
  change decide (CString.sameCaseless fileName deltaName) = false
  decide

theorem erased_delta {members : List CJson}
    (single : members.countP (CJson.isNamed deltaName) ≤ 1) :
    ∀ member ∈ members.eraseP (CJson.isNamed deltaName),
      CJson.isNamed deltaName member = false := by
  induction members with
  | nil => nofun
  | cons first rest ih =>
      by_cases named : CJson.isNamed deltaName first = true
      · rw [List.eraseP_cons_of_pos named]
        rw [List.countP_cons_of_pos named] at single
        have none := List.countP_eq_zero.1 (by omega : rest.countP (CJson.isNamed deltaName) = 0)
        exact fun member inside => by simpa using none member inside
      · rw [List.eraseP_cons_of_neg named]
        rw [List.countP_cons_of_neg named] at single
        intro member inside
        rcases List.mem_cons.1 inside with rfl | later
        · simpa using named
        · exact ih single member later

theorem strippedDelta_members {json : CJson}
    (single : json.child.countP (CJson.isNamed deltaName) ≤ 1) (filePath : List Char) :
    ∀ member ∈ (strippedDelta json filePath).child, member.isNamed deltaName = false := by
  have erased := erased_delta single
  unfold strippedDelta
  split
  · intro member inside
    rcases List.mem_append.1 inside with old | new
    · exact erased member old
    · obtain rfl := List.mem_singleton.1 new
      exact file_notDelta _ _ _
  · exact erased

theorem binary_noAudio {data : List UInt8} :
    ∀ event ∈ messageNotifications context streamer (.binary data), NoAudio context event.2 := by
  intro event told
  simp only [messageNotifications, notifyPlayback] at told
  split at told
  · cases told
  split at told
  · split at told
    · cases told
    · next printed =>
      obtain rfl := List.mem_singleton.1 told
      refine .printed ?_ printed
      intro member inside
      obtain rfl := List.mem_singleton.1 inside
      exact file_notDelta _ _ _
  · cases told

theorem text_noAudio (prints : ∀ json, context.cjson.printUnformatted json ≠ none)
    (single : ∀ json, context.cjson.parse (cStr message) = some json →
      json.child.countP (CJson.isNamed deltaName) ≤ 1) :
    ∀ event ∈ (onMessage context streamer (.text message)).notifications,
      NoAudio context event.2 := by
  intro event told
  rcases kept : IncomingMessage.isDropped context (.text message) with _ | _
  · rcases payload : deltaPayload context message with _ | ⟨json, rawAudio⟩
    · rw [(forwarded_told kept payload).1] at told
      obtain rfl := List.mem_singleton.1 told
      refine .message fun json parsed typed => ?_
      obtain ⟨size, located, depth⟩ := kept_iff.1 kept
      have reached : dispatched context message = some (json, .audioDelta) := by
        simp [dispatched, Nat.not_lt.2 size, located, depth, parsed, typed]
      simpa [deltaPayload, reached] using payload
    · have parsed := (deltaPayload_spec payload).1.parsed
      rw [(delta_told payload).1] at told
      obtain ⟨body, printed⟩ := Option.ne_none_iff_exists'.1
        (prints (strippedDelta json (context.recording rawAudio)))
      have same : event.2 = body := by
        rw [printed] at told
        rcases List.mem_append.1 told with play | forwarded
        · split at play
          · obtain rfl := List.mem_singleton.1 play
            rfl
          · cases play
        · split at forwarded
          · obtain rfl := List.mem_singleton.1 forwarded
            rfl
          · cases forwarded
      rw [same]
      exact .printed (strippedDelta_members (single json parsed) _) printed
  · rw [(dropped_told kept).1] at told
    cases told

theorem told_run_events {property : Notification → Prop} {labels : List DownlinkStep}
    (each : ∀ label ∈ labels, ∀ streamer, ∀ event ∈ label.notifications context streamer,
      property event)
    {start final : ToldDownlink σ} (quiet : ∀ event ∈ start.told, property event)
    (reached : Runs.run (toldStep context) start labels = some final) :
    ∀ event ∈ final.told, property event := by
  induction labels generalizing start with
  | nil =>
      obtain rfl := Option.some.inj reached
      exact quiet
  | cons label rest ih =>
      obtain ⟨next, taken, later⟩ := Runs.run_cons_inv reached
      refine ih (fun other member => each other (List.mem_cons_of_mem _ member)) ?_ later
      rw [toldStep_told taken]
      intro event told
      rcases List.mem_append.1 told with old | new
      · exact quiet event old
      · exact each label List.mem_cons_self _ event new

/-- Of the audio that comes in nothing goes out in an event, unless a message has two members
by the name of its delta. -/
theorem events_carry_no_audio {labels : List DownlinkStep} {final : ToldDownlink σ}
    (prints : ∀ json, context.cjson.printUnformatted json ≠ none)
    (single : ∀ located save message json, .received located save (.text message) ∈ labels →
      context.cjson.parse (cStr message) = some json →
      json.child.countP (CJson.isNamed deltaName) ≤ 1)
    (reached : Runs.run (toldStep context) { link := { streamer := streamer } } labels =
      some final) :
    ∀ event ∈ final.told, NoAudio context event.2 := by
  refine told_run_events (fun label member streamer => ?_) (by simp) reached
  cases label with
  | received located save message =>
      have unchanged : ∀ text, NoAudio (context.during located save) text →
          NoAudio context text := by
        intro text quiet
        cases quiet with
        | message plain => exact .message plain
        | printed members printed => exact .printed members printed
      intro event told
      cases message with
      | binary data => exact unchanged _ (binary_noAudio event told)
      | text message =>
          exact unchanged _ (@text_noAudio _ (context.during located save) streamer message prints
            (fun json => single located save message json member) event told)
  | _ => exact nofun

theorem events_carry_no_audio_delta :
    ∃ final, Runs.run (toldStep printingContext)
        { link := { streamer := { plainStreamer with outSampleRate := 8000 } } } toldSchedule =
          some final ∧
      final.told.map Prod.snd = [strippedText, "pong".toList] ∧
      ∀ event ∈ final.told, NoAudio printingContext event.2 := by
  obtain ⟨final, reached, told⟩ : ∃ final, Runs.run (toldStep printingContext)
      { link := { streamer := { plainStreamer with outSampleRate := 8000 } } } toldSchedule =
        some final ∧ final.told.map Prod.snd = [strippedText, "pong".toList] :=
    Runs.exists_run (by decide +kernel)
  refine ⟨final, reached, told, events_carry_no_audio nofun ?_ reached⟩
  intro located save message json _ parsed
  simp only [printingContext, audioContext] at parsed
  split at parsed
  · obtain rfl := Option.some.inj parsed
    decide
  · cases parsed

end

end OpenaiAudioStream
