import OpenaiAudioStream.StartCommand
import OpenaiAudioStream.Utf8

/-!
`stream_api_execute` from its tokens to its reply: the session is located, its lifecycle
lock is taken, the command is checked and runs what it asks for, and both are given back.
-/

namespace OpenaiAudioStream

open CString

abbrev ByteToken : Type := CString UInt8 0

theorem charOf_nonzero {byte : UInt8} (nonzero : byte ≠ 0) : Char.ofNat byte.toNat ≠ nul := by
  have small := byte.toNat_lt
  refine ofNat_nonzero (.inl (by omega)) ?_
  rw [Nat.pos_iff_ne_zero]
  exact fun zero => nonzero (UInt8.toNat_inj.1 zero)

def token (bytes : ByteToken) : Token where
  contents := bytes.contents.map fun byte => Char.ofNat byte.toNat
  nonzero := by
    intro c member
    obtain ⟨byte, known, rfl⟩ := List.mem_map.1 member
    exact charOf_nonzero (bytes.nonzero byte known)

def text (bytes : ByteToken) : List Char := (token bytes).contents

inductive SessionCall where
  | startCapture (call : StartCapture)
  | cleanup (json : Option (List Char))
  | pauseresume (pause : Bool)
  | sendJson (json : List Char)
  | setUserMute (mute : Bool)
  | setOpenaiMute (mute : Bool)
  deriving DecidableEq, Repr

structure ApiSession where
  -- `switch_core_session_locate`
  located : Bool
  -- `stream_session_lifecycle_lock`
  locked : Bool
  -- whether a call returns success
  answer : SessionCall → Bool

inductive ApiAction where
  | locate (uuid : List Char) (found : Bool)
  | lifecycleLock (acquired : Bool)
  | call (call : SessionCall) (success : Bool)
  | lifecycleUnlock
  | rwunlock
  deriving DecidableEq, Repr

/-- The cases of the command: `written` is what they write before the reply, `log` their
error lines. -/
structure CaseOutcome where
  status : Bool := false
  calls : List (SessionCall × Bool) := []
  log : List (List Char) := []
  written : List Char := []

def invoke (session : ApiSession) (call : SessionCall) : CaseOutcome where
  status := session.answer call
  calls := [(call, session.answer call)]

def refuse (line : List Char) : CaseOutcome where
  log := [line]

def doAudioMute (session : ApiSession) (target : Option (List Char)) (mute : Bool) :
    CaseOutcome :=
  let which := match target with
    | none => "user".toList
    | some target => if target ≠ [] then target else "user".toList
  if sameCaseless which "user".toList then invoke session (.setUserMute mute)
  else if sameCaseless which "openai".toList then invoke session (.setOpenaiMute mute)
  else if sameCaseless which "all".toList ∨ sameCaseless which "both".toList then
    let userStatus := session.answer (.setUserMute mute)
    let openaiStatus := session.answer (.setOpenaiMute mute)
    { status := userStatus && openaiStatus
      calls := [(.setUserMute mute, userStatus), (.setOpenaiMute mute, openaiStatus)] }
  else refuse ("mod_openai_audio_stream: invalid mute target '".toList ++ which ++
    "', expected user|openai|all\n".toList)

/-- `case STREAM_CMD_START`; the reply that `startCase` has at the end of what it writes is
left to the end of the command. -/
def startOutcome (session : ApiSession) (config : StreamApiConfig) (buffer : Vector Char maxWsUri)
    (cmd : List Char) (argv : List ByteToken) : Option CaseOutcome :=
  match startCase config buffer cmd (argv.map token) with
  | some (.started call) => some (invoke session (.startCapture call))
  | some (.refused line written) =>
      some { log := [line], written := written.take (written.length - failed.length) }
  | _ => none

/-- The `switch` of the command; `verb` is `argv[1]`, `arguments` the tokens behind it. -/
def commandCase (session : ApiSession) (config : StreamApiConfig) (buffer : Vector Char maxWsUri)
    (cmd : List Char) (uuid verb : ByteToken) (arguments : List ByteToken) : Option CaseOutcome :=
  match streamCommandFromString (text verb) with
  | .stop =>
      match arguments with
      | [] => some (invoke session (.cleanup none))
      | [json] =>
          (isValidUtf8 (some json)).map fun valid =>
            if valid then invoke session (.cleanup (some (text json)))
            else refuse (text json ++ " contains invalid utf8 characters\n".toList)
      | _ => some (refuse "stop accepts at most one final json argument\n".toList)
  | .pause =>
      if arguments = [] then some (invoke session (.pauseresume true))
      else some (refuse (text verb ++ " does not accept arguments\n".toList))
  | .resume =>
      if arguments = [] then some (invoke session (.pauseresume false))
      else some (refuse (text verb ++ " does not accept arguments\n".toList))
  | .sendJson =>
      match arguments with
      | [json] => some (invoke session (.sendJson (text json)))
      | _ => some (refuse
          "send_json requires exactly one argument specifying json to send\n".toList)
  | .start => startOutcome session config buffer cmd (uuid :: verb :: arguments)
  | .mute => muteCase true
  | .unmute => muteCase false
  | .unknown => some (refuse
      ("unsupported mod_openai_audio_stream cmd: ".toList ++ text verb ++ "\n".toList))
where
  muteCase (mute : Bool) : Option CaseOutcome :=
    match arguments with
    | [] => some (doAudioMute session (some "user".toList) mute)
    | [target] => some (doAudioMute session (some (text target)) mute)
    | _ => some (refuse
        (text verb ++ " accepts at most one target argument (user | openai | all)\n".toList))

structure ApiOutcome where
  actions : List ApiAction
  log : List (List Char)
  written : List Char

def success : List Char := "+OK Success\n".toList

def releaseSession (uuid : List Char) (outcome : CaseOutcome) : ApiOutcome where
  actions := .locate uuid true :: .lifecycleLock true ::
    outcome.calls.map (fun call => .call call.1 call.2) ++ [.lifecycleUnlock, .rwunlock]
  log := outcome.log
  written := outcome.written ++ if outcome.status then success else failed

def streamApi (session : ApiSession) (config : StreamApiConfig) (buffer : Vector Char maxWsUri)
    (cmd : List Char) (argv : List ByteToken) : Option ApiOutcome :=
  match argv with
  | uuid :: verb :: arguments =>
      if !session.located then some {
        actions := [.locate (text uuid) false]
        log := ["Error locating session ".toList ++ text uuid ++ "\n".toList]
        written := failed }
      else if !session.locked then some {
        actions := [.locate (text uuid) true, .lifecycleLock false, .rwunlock]
        log := ["failed to acquire stream lifecycle lock\n".toList]
        written := failed }
      else
        (commandCase session config buffer cmd uuid verb arguments).map
          (releaseSession (text uuid))
  | _ => some {
      actions := []
      log := ["Error with command ".toList ++ cmd ++ ".\n".toList]
      written := config.syntaxText ++ "\n".toList }

/-! The documented commands and what each of them asks for. -/

inductive MuteTarget (mute : Bool) : Option (List Char) → List SessionCall → Prop
  | usual : MuteTarget mute none [.setUserMute mute]
  | empty : MuteTarget mute (some []) [.setUserMute mute]
  | user {target} : sameCaseless target "user".toList →
      MuteTarget mute (some target) [.setUserMute mute]
  | openai {target} : sameCaseless target "openai".toList →
      MuteTarget mute (some target) [.setOpenaiMute mute]
  | all {target} : sameCaseless target "all".toList ∨ sameCaseless target "both".toList →
      MuteTarget mute (some target) [.setUserMute mute, .setOpenaiMute mute]

inductive RequestedCalls (config : StreamApiConfig) : List ByteToken → List SessionCall → Prop
  | start {argv call} : Documented config (argv.map text) call →
      RequestedCalls config argv [.startCapture call]
  | stop {uuid verb} : sameCaseless (text verb) "stop".toList →
      RequestedCalls config [uuid, verb] [.cleanup none]
  | stopJson {uuid verb json} : sameCaseless (text verb) "stop".toList →
      Utf8Text json.contents →
      RequestedCalls config [uuid, verb, json] [.cleanup (some (text json))]
  | pause {uuid verb} : sameCaseless (text verb) "pause".toList →
      RequestedCalls config [uuid, verb] [.pauseresume true]
  | resume {uuid verb} : sameCaseless (text verb) "resume".toList →
      RequestedCalls config [uuid, verb] [.pauseresume false]
  | sendJson {uuid verb json} : sameCaseless (text verb) "send_json".toList →
      RequestedCalls config [uuid, verb, json] [.sendJson (text json)]
  | mute {uuid verb calls} {target : Option ByteToken} :
      sameCaseless (text verb) "mute".toList → MuteTarget true (target.map text) calls →
      RequestedCalls config (uuid :: verb :: target.toList) calls
  | unmute {uuid verb calls} {target : Option ByteToken} :
      sameCaseless (text verb) "unmute".toList → MuteTarget false (target.map text) calls →
      RequestedCalls config (uuid :: verb :: target.toList) calls

/-- What is run: the documented commands, and a start with rates in front of which `strtol`
skips white space or a plus sign. -/
inductive AcceptedCalls (config : StreamApiConfig) (argv : List ByteToken) :
    List SessionCall → Prop
  | requested {calls} : RequestedCalls config argv calls → AcceptedCalls config argv calls
  | tolerant {call} : Documented config (bareRates (argv.map text)) call →
      AcceptedCalls config argv [.startCapture call]

theorem accepted_iff_requested {config : StreamApiConfig} {argv : List ByteToken}
    {calls : List SessionCall} (plain : bareRates (argv.map text) = argv.map text) :
    AcceptedCalls config argv calls ↔ RequestedCalls config argv calls := by
  constructor
  · intro accepted
    cases accepted with
    | requested form => exact form
    | tolerant documented =>
        rw [plain] at documented
        exact .start documented
  · exact .requested

/-- What the cases write before the reply: nothing, or the syntax of the command. -/
def Usage (config : StreamApiConfig) (usage : List Char) : Prop :=
  usage = [] ∨ usage = config.syntaxText ++ "\n".toList

def StreamCommand.verb : StreamCommand → List Char
  | .unknown => []
  | .start => "start".toList
  | .stop => "stop".toList
  | .sendJson => "send_json".toList
  | .pause => "pause".toList
  | .resume => "resume".toList
  | .mute => "mute".toList
  | .unmute => "unmute".toList

theorem streamCommand_same {left right : List Char} (same : sameCaseless left right) :
    streamCommandFromString left = streamCommandFromString right := by
  have empty : left = [] ↔ right = [] := by
    have lengths := congrArg List.length same
    simp only [List.length_map] at lengths
    rw [← List.length_eq_zero_iff, ← List.length_eq_zero_iff, lengths]
  have others : ∀ name, sameCaseless left name ↔ sameCaseless right name := by
    intro name
    rw [sameCaseless, sameCaseless, show left.map Char.toLower = right.map Char.toLower from same]
  simp only [streamCommandFromString, empty, others]

theorem streamCommand_verb {verb : List Char}
    (known : streamCommandFromString verb ≠ .unknown) :
    sameCaseless verb (streamCommandFromString verb).verb := by
  simp only [streamCommandFromString] at known ⊢
  split_ifs at known ⊢ <;> first | assumption | exact absurd rfl known

def ran (session : ApiSession) (calls : List SessionCall) : CaseOutcome where
  status := calls.all session.answer
  calls := calls.map fun call => (call, session.answer call)

theorem invoke_ran (session : ApiSession) (call : SessionCall) :
    invoke session call = ran session [call] := by
  simp [invoke, ran]

section

variable {session : ApiSession} {config : StreamApiConfig} {buffer : Vector Char maxWsUri}
  {cmd : List Char} {uuid verb : ByteToken} {arguments : List ByteToken}

theorem doAudioMute_ran {mute : Bool} {target : Option (List Char)} {calls : List SessionCall}
    (form : MuteTarget mute target calls) :
    doAudioMute session target mute = ran session calls := by
  cases form with
  | usual | empty => exact invoke_ran session _
  | @user target same =>
      have some : target ≠ [] := by
        rintro rfl
        exact absurd same (by decide)
      simp only [doAudioMute, if_pos some, if_pos same, invoke_ran]
  | @openai target same =>
      have some : target ≠ [] := by
        rintro rfl
        exact absurd same (by decide)
      have other : ¬sameCaseless target "user".toList := by
        intro user
        exact absurd (same.symm.trans user) (by decide)
      simp only [doAudioMute, if_pos some, if_neg other, if_pos same, invoke_ran]
  | @all target same =>
      have some : target ≠ [] := by
        rintro rfl
        exact absurd same (by decide)
      have user : ¬sameCaseless target "user".toList := by
        rintro user
        rcases same with same | same <;> exact absurd (same.symm.trans user) (by decide)
      have openai : ¬sameCaseless target "openai".toList := by
        rintro openai
        rcases same with same | same <;> exact absurd (same.symm.trans openai) (by decide)
      simp only [doAudioMute, if_pos some, if_neg user, if_neg openai, if_pos same, ran,
        List.all_cons, List.all_nil, Bool.and_true, List.map_cons, List.map_nil]

theorem doAudioMute_cases (session : ApiSession) (mute : Bool) (target : List Char) :
    (∃ calls, MuteTarget mute (some target) calls) ∨
      ∃ line, doAudioMute session (some target) mute = refuse line := by
  by_cases empty : target = []
  · subst empty
    exact .inl ⟨_, .empty⟩
  by_cases user : sameCaseless target "user".toList
  · exact .inl ⟨_, .user user⟩
  by_cases openai : sameCaseless target "openai".toList
  · exact .inl ⟨_, .openai openai⟩
  by_cases all : sameCaseless target "all".toList ∨ sameCaseless target "both".toList
  · exact .inl ⟨_, .all all⟩
  · simp only [doAudioMute, ne_eq, empty, not_false_eq_true, if_true, if_neg user, if_neg openai,
      if_neg all]
    exact .inr ⟨_, rfl⟩

theorem token_texts (argv : List ByteToken) :
    (argv.map token).map (·.contents) = argv.map text := by
  rw [List.map_map]
  rfl

theorem executes_iff {call : StartCapture} :
    executes config buffer cmd ((uuid :: verb :: arguments).map token) call ↔
      streamCommandFromString (text verb) = .start ∧
        startCase config buffer cmd ((uuid :: verb :: arguments).map token) =
          some (.started call) := by
  simp only [executes, streamApiExecute, List.map_cons]
  constructor
  · intro started
    split at started
    · next verbForm => exact ⟨verbForm, started⟩
    · cases started
  · rintro ⟨verbForm, started⟩
    have same : streamCommandFromString (token verb).contents = .start := verbForm
    rw [same]
    exact started

theorem startCase_cases (argv : List Token) :
    (∃ call, startCase config buffer cmd argv = some (.started call)) ∨
      ∃ line usage, Usage config usage ∧
        startCase config buffer cmd argv = some (.refused line (usage ++ failed)) := by
  rcases argv with _ | ⟨uuid, _ | ⟨verb, _ | ⟨uri, _ | ⟨mix, rest⟩⟩⟩⟩
  iterate 4 exact .inr ⟨_, _, .inr rfl, rfl⟩
  rcases mixed : mixFlags mix.contents with _ | flags
  · exact .inr ⟨_, [], .inl rfl, by simp only [startCase, mixed]; rfl⟩
  rcases whole : (startOptions rest).unexpected with _ | ⟨unexpected, after⟩
  · by_cases valid : WsUri uri.contents ∧ uri.contents.length < buffer.toList.length
    · have accepted := validateWsUri_accepts uri _ valid.1 valid.2
      by_cases bad : badSampling (samplingOf (startOptions rest).samplingStr)
      · exact .inr ⟨_, [], .inl rfl, by
          simp only [startCase, mixed, whole, accepted, if_pos bad]; rfl⟩
      by_cases playbackBad : badSampling (samplingOf (startOptions rest).playbackSamplingStr)
      · exact .inr ⟨_, [], .inl rfl, by
          simp only [startCase, mixed, whole, accepted, if_neg bad, if_pos playbackBad]; rfl⟩
      · exact .inl ⟨_, startCase_started mixed whole valid.1 (by simpa using valid.2) bad
          playbackBad⟩
    · have rejected := validateWsUri_rejects uri _ valid
      exact .inr ⟨_, [], .inl rfl, by simp only [startCase, mixed, whole, rejected]; rfl⟩
  · exact .inr ⟨_, _, .inr rfl, by simp only [startCase, mixed, whole]; rfl⟩

theorem muteCase_ran {mute : Bool} {target : Option ByteToken} {calls : List SessionCall}
    (form : MuteTarget mute (target.map text) calls) :
    commandCase.muteCase session verb target.toList mute = some (ran session calls) := by
  rcases target with _ | target
  · cases form
    exact congrArg some (doAudioMute_ran (.user rfl))
  · exact congrArg some (doAudioMute_ran form)

theorem start_runs {call : StartCapture}
    (documented : Documented config (bareRates ((uuid :: verb :: arguments).map text)) call) :
    commandCase session config buffer cmd uuid verb arguments =
      some (ran session [.startCapture call]) := by
  rw [← token_texts] at documented
  obtain ⟨verbForm, started⟩ := executes_iff.1
    (@executes_of_documented config buffer cmd _ _ documented)
  simp only [commandCase, verbForm, startOutcome, started, invoke_ran]

theorem requested_runs {calls : List SessionCall}
    (form : RequestedCalls config (uuid :: verb :: arguments) calls) :
    commandCase session config buffer cmd uuid verb arguments = some (ran session calls) := by
  generalize argvEq : uuid :: verb :: arguments = argv at form
  cases form with
  | start documented =>
      subst argvEq
      exact start_runs (by rwa [documented_bare documented])
  | @stop uuid verb same =>
      cases argvEq
      have verbForm : streamCommandFromString (text verb) = .stop :=
        (streamCommand_same same).trans (by decide)
      simp only [commandCase, verbForm, invoke_ran]
  | @stopJson uuid verb json same utf8 =>
      cases argvEq
      have verbForm : streamCommandFromString (text verb) = .stop :=
        (streamCommand_same same).trans (by decide)
      obtain ⟨valid, checked, iff⟩ := utf8Loop_spec json.contents json.nonzero
      obtain rfl := iff.2 utf8
      simp only [commandCase, verbForm, isValidUtf8, checked, Option.map_some, if_true, invoke_ran]
  | @pause uuid verb same =>
      cases argvEq
      have verbForm : streamCommandFromString (text verb) = .pause :=
        (streamCommand_same same).trans (by decide)
      simp only [commandCase, verbForm, if_true, invoke_ran]
  | @resume uuid verb same =>
      cases argvEq
      have verbForm : streamCommandFromString (text verb) = .resume :=
        (streamCommand_same same).trans (by decide)
      simp only [commandCase, verbForm, if_true, invoke_ran]
  | @sendJson uuid verb json same =>
      cases argvEq
      have verbForm : streamCommandFromString (text verb) = .sendJson :=
        (streamCommand_same same).trans (by decide)
      simp only [commandCase, verbForm, invoke_ran]
  | @mute uuid verb calls target same form =>
      cases argvEq
      have verbForm : streamCommandFromString (text verb) = .mute :=
        (streamCommand_same same).trans (by decide)
      simp only [commandCase, verbForm]
      exact muteCase_ran form
  | @unmute uuid verb calls target same form =>
      cases argvEq
      have verbForm : streamCommandFromString (text verb) = .unmute :=
        (streamCommand_same same).trans (by decide)
      simp only [commandCase, verbForm]
      exact muteCase_ran form

theorem accepted_runs {calls : List SessionCall}
    (accepted : AcceptedCalls config (uuid :: verb :: arguments) calls) :
    commandCase session config buffer cmd uuid verb arguments = some (ran session calls) := by
  cases accepted with
  | requested form => exact requested_runs form
  | tolerant documented => exact start_runs documented

theorem muteCase_cases {mute : Bool} :
    (∃ (target : Option ByteToken) (calls : List SessionCall), arguments = target.toList ∧
        MuteTarget mute (target.map text) calls) ∨
      ∃ line, commandCase.muteCase session verb arguments mute = some (refuse line) := by
  rcases arguments with _ | ⟨target, _ | ⟨more, rest⟩⟩
  · exact .inl ⟨none, _, rfl, .usual⟩
  · rcases doAudioMute_cases session mute (text target) with ⟨calls, form⟩ | ⟨line, refused⟩
    · exact .inl ⟨some target, calls, rfl, form⟩
    · exact .inr ⟨line, congrArg some refused⟩
  · exact .inr ⟨_, rfl⟩

theorem commandCase_cases :
    (∃ calls, AcceptedCalls config (uuid :: verb :: arguments) calls) ∨
      ∃ line usage, Usage config usage ∧
        commandCase session config buffer cmd uuid verb arguments =
          some { log := [line], written := usage } := by
  have same := @streamCommand_verb (text verb)
  simp only [commandCase]
  cases named : streamCommandFromString (text verb) with
  | unknown => exact .inr ⟨_, [], .inl rfl, rfl⟩
  | start =>
      rcases @startCase_cases config buffer cmd ((uuid :: verb :: arguments).map token) with
        ⟨call, started⟩ | ⟨line, usage, known, refused⟩
      · have documented := documented_of_executes (executes_iff.2 ⟨named, started⟩)
        rw [token_texts] at documented
        exact .inl ⟨_, .tolerant documented⟩
      · refine .inr ⟨line, usage, known, ?_⟩
        simp only [startOutcome, refused]
        simp
  | stop =>
      rw [named] at same
      rcases arguments with _ | ⟨json, _ | ⟨more, rest⟩⟩
      · exact .inl ⟨_, .requested (.stop (same nofun))⟩
      · obtain ⟨valid, checked, iff⟩ := utf8Loop_spec json.contents json.nonzero
        cases valid with
        | true => exact .inl ⟨_, .requested (.stopJson (same nofun) (iff.1 rfl))⟩
        | false => exact .inr ⟨_, [], .inl rfl, by simp only [isValidUtf8, checked]; rfl⟩
      · exact .inr ⟨_, [], .inl rfl, rfl⟩
  | sendJson =>
      rw [named] at same
      rcases arguments with _ | ⟨json, _ | ⟨more, rest⟩⟩
      · exact .inr ⟨_, [], .inl rfl, rfl⟩
      · exact .inl ⟨_, .requested (.sendJson (same nofun))⟩
      · exact .inr ⟨_, [], .inl rfl, rfl⟩
  | pause =>
      rw [named] at same
      rcases arguments with _ | ⟨more, rest⟩
      · exact .inl ⟨_, .requested (.pause (same nofun))⟩
      · exact .inr ⟨_, [], .inl rfl, rfl⟩
  | resume =>
      rw [named] at same
      rcases arguments with _ | ⟨more, rest⟩
      · exact .inl ⟨_, .requested (.resume (same nofun))⟩
      · exact .inr ⟨_, [], .inl rfl, rfl⟩
  | mute =>
      rw [named] at same
      rcases @muteCase_cases session verb arguments true with
        ⟨target, calls, rfl, form⟩ | ⟨line, refused⟩
      · exact .inl ⟨calls, .requested (.mute (same nofun) form)⟩
      · exact .inr ⟨line, [], .inl rfl, refused⟩
  | unmute =>
      rw [named] at same
      rcases @muteCase_cases session verb arguments false with
        ⟨target, calls, rfl, form⟩ | ⟨line, refused⟩
      · exact .inl ⟨calls, .requested (.unmute (same nofun) form)⟩
      · exact .inr ⟨line, [], .inl rfl, refused⟩

theorem ran_injective {calls other : List SessionCall}
    (same : ran session calls = ran session other) : calls = other := by
  have pairs := congrArg (fun outcome => outcome.calls.map Prod.fst) same
  simpa [ran, Function.comp_def] using pairs

theorem muteTarget_ne_nil {mute : Bool} {target : Option (List Char)} {calls : List SessionCall}
    (form : MuteTarget mute target calls) : calls ≠ [] := by
  cases form <;> simp

theorem requested_ne_nil {argv : List ByteToken} {calls : List SessionCall}
    (form : RequestedCalls config argv calls) : calls ≠ [] := by
  cases form with
  | mute _ target | unmute _ target => exact muteTarget_ne_nil target
  | _ => simp

theorem accepted_ne_nil {argv : List ByteToken} {calls : List SessionCall}
    (accepted : AcceptedCalls config argv calls) : calls ≠ [] := by
  cases accepted with
  | requested form => exact requested_ne_nil form
  | tolerant documented => simp

theorem accepted_length {argv : List ByteToken} {calls : List SessionCall}
    (accepted : AcceptedCalls config argv calls) : 2 ≤ argv.length := by
  have tokens {documented : List (List Char)} {call : StartCapture}
      (form : Documented config documented call) : 2 ≤ documented.length := by
    cases form
    simp only [List.length_cons]
    omega
  cases accepted with
  | requested form =>
      cases form with
      | start documented => simpa using tokens documented
      | _ => simp
  | tolerant documented =>
      rcases argv with _ | ⟨uuid, _ | ⟨verb, arguments⟩⟩
      · exact tokens documented
      · exact absurd (tokens documented) (by simp [bareRates])
      · simp

end

inductive ApiTrace (session : ApiSession) :
    List ByteToken → List SessionCall → List ApiAction → Prop
  | short {argv} : argv.length < 2 → ApiTrace session argv [] []
  | unlocated {uuid verb arguments} : session.located = false →
      ApiTrace session (uuid :: verb :: arguments) [] [.locate (text uuid) false]
  | unlocked {uuid verb arguments} : session.located = true → session.locked = false →
      ApiTrace session (uuid :: verb :: arguments) []
        [.locate (text uuid) true, .lifecycleLock false, .rwunlock]
  | locked {uuid verb arguments calls} : session.located = true → session.locked = true →
      ApiTrace session (uuid :: verb :: arguments) calls
        (.locate (text uuid) true :: .lifecycleLock true ::
          calls.map (fun call => .call call (session.answer call)) ++ [.lifecycleUnlock, .rwunlock])

/-- What is written behind the usage: nothing for less than two tokens, else the reply. -/
def Replied (session : ApiSession) (argv : List ByteToken) (calls : List SessionCall)
    (reply : List Char) : Prop :=
  if argv.length < 2 then reply = []
  else if calls ≠ [] ∧ ∀ call ∈ calls, session.answer call = true then reply = success
  else reply = failed

theorem long_command_runs (session : ApiSession) (config : StreamApiConfig)
    (buffer : Vector Char maxWsUri) (cmd : List Char) (uuid verb : ByteToken)
    (arguments : List ByteToken) :
    ∃ outcome calls usage,
      streamApi session config buffer cmd (uuid :: verb :: arguments) = some outcome ∧
      ApiTrace session (uuid :: verb :: arguments) calls outcome.actions ∧
      (∀ other, other ≠ [] → (calls = other ↔ session.located = true ∧ session.locked = true ∧
        AcceptedCalls config (uuid :: verb :: arguments) other)) ∧
      outcome.written = usage ++
        (if calls ≠ [] ∧ ∀ call ∈ calls, session.answer call = true then success else failed) ∧
      Usage config usage ∧ (calls ≠ [] → usage = []) ∧
      outcome.log.length = if calls = [] then 1 else 0 := by
  by_cases located : session.located = true
  · by_cases locked : session.locked = true
    · have ofCase : ∀ {outcome},
          commandCase session config buffer cmd uuid verb arguments = some outcome →
          streamApi session config buffer cmd (uuid :: verb :: arguments) =
            some (releaseSession (text uuid) outcome) := by
        intro outcome taken
        simp [streamApi, located, locked, taken]
      rcases @commandCase_cases session config buffer cmd uuid verb arguments with
        ⟨calls, form⟩ | ⟨line, usage, known, refused⟩
      · have taken := @accepted_runs session config buffer cmd _ _ _ _ form
        have some := accepted_ne_nil form
        refine ⟨releaseSession (text uuid) (ran session calls), calls, [], ofCase taken, ?_,
          fun other _ => ?_, ?_, .inl rfl, fun _ => rfl, ?_⟩
        · have trace := @ApiTrace.locked session uuid verb arguments calls located locked
          simpa [releaseSession, ran, Function.comp_def] using trace
        · simp only [located, locked, true_and]
          refine ⟨fun same => same ▸ form, fun otherForm => ?_⟩
          have again := @accepted_runs session config buffer cmd _ _ _ _ otherForm
          exact ran_injective (Option.some.inj (taken.symm.trans again))
        · simp [releaseSession, ran, some]
        · simp [releaseSession, ran, some]
      · refine ⟨_, [], usage, ofCase refused, .locked located locked, fun other some => ?_, ?_,
          known, fun some => absurd rfl some, rfl⟩
        · refine ⟨fun same => absurd same.symm some, fun requested => ?_⟩
          have taken := @accepted_runs session config buffer cmd _ _ _ _ requested.2.2
          rw [refused] at taken
          have none := congrArg CaseOutcome.calls (Option.some.inj taken)
          exact (some (List.map_eq_nil_iff.1 none.symm)).elim
        · simp [releaseSession]
    · have unlocked : session.locked = false := by simpa using locked
      refine ⟨_, [], [], by simp [streamApi, located, unlocked]; rfl, .unlocked located unlocked,
        fun other some => ?_, by simp, .inl rfl, fun _ => rfl, rfl⟩
      simp [unlocked, some.symm]
  · have unlocated : session.located = false := by simpa using located
    refine ⟨_, [], [], by simp [streamApi, unlocated]; rfl, .unlocated unlocated,
      fun other some => ?_, by simp, .inl rfl, fun _ => rfl, rfl⟩
    simp [unlocated, some.symm]

end OpenaiAudioStream
