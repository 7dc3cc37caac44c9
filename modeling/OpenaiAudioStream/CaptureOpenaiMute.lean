import OpenaiAudioStream.CaptureConnections
import OpenaiAudioStream.CapturePrivacy

/-!
Muting the OpenAI leg and the audio of the caller. The command flushes the media bug
before it stores its flag, as the commands of the user leg do. A run is compared with
the run on its schedule without these commands: what they discard is what the other
run may still send.
-/

namespace OpenaiAudioStream

section

variable {β ρ : Type*}

def FlagCommand.isOpenai : FlagCommand → Bool
  | .setOpenaiMute _ => true
  | _ => false

def CommandPc.openaiMuting : CommandPc β → Bool
  | .flushBug command => command.isOpenai
  | .storeFlag command => command.isOpenai
  | _ => false

def CommandPc.openaiFlushing : CommandPc β → Bool
  | .flushBug command => command.isOpenai
  | _ => false

def openaiMuteStep (state : CaptureState β ρ) : CaptureStep β → Bool
  | .command (.flag command) => command.isOpenai
  | .api _ => state.command.openaiMuting
  | _ => false

def CaptureStep.isSurrounding : CaptureStep β → Bool
  | .streamFrame => true
  | .connectionOpened => true
  | .connectionDropped => true
  | .closeCallback _ => true
  | _ => false

def callerSchedule (setup : CaptureSetup β ρ) (start : Recorded β ρ)
    (labels : List (CaptureStep β)) : List (CaptureStep β) :=
  Runs.visible (recordedStep setup) (fun recorded => openaiMuteStep recorded.state) start labels

def CaptureEvent.sentMessages (event : CaptureEvent β) : List (List β) := event.sent?.toList

def sentMessages (history : List (CaptureEvent β)) : List (List β) :=
  Runs.gathered CaptureEvent.sentMessages history

/-- An OpenAI mute flushes the bug only while nothing is pending in it, or while no
call will read what is pending before another command flushes it. -/
def SparesPending (recorded : Recorded β ρ) : CaptureStep β → Prop
  | .api _ => recorded.state.command.openaiFlushing = true →
      recorded.state.bug = [] ∨ recorded.state.keepsBug = true
  | _ => True

instance (recorded : Recorded β ρ) : ∀ label, Decidable (SparesPending recorded label)
  | .api _ => inferInstanceAs (Decidable (_ → _ ∨ _))
  | .capture _ => inferInstanceAs (Decidable True)
  | .streamFrame => inferInstanceAs (Decidable True)
  | .media _ _ => inferInstanceAs (Decidable True)
  | .command _ => inferInstanceAs (Decidable True)
  | .connectionOpened => inferInstanceAs (Decidable True)
  | .connectionDropped => inferInstanceAs (Decidable True)
  | .closeCallback _ => inferInstanceAs (Decidable True)

def CaptureState.beside (base : CaptureState β ρ) (bug : List β) (muted : Bool)
    (command : CommandPc β) : CaptureState β ρ :=
  { base with bug := bug, openaiAudioMuted := muted, command := command }

/-- The two bugs differ only while nothing is read from them, and the two commands only
while an OpenAI mute runs. -/
structure Apart (base : CaptureState β ρ) (bug : List β) (command : CommandPc β) : Prop where
  bug : bug = base.bug ∨ base.keepsBug = true
  command : (command.openaiMuting = false ∧ command = base.command) ∨
    (command.openaiMuting = true ∧ base.command = .idle)

def Beside (state base : CaptureState β ρ) : Prop :=
  ∃ bug muted command, state = base.beside bug muted command ∧ Apart base bug command

def StepsBeside (outcome reply : CaptureState β ρ × List (CaptureEvent β)) : Prop :=
  Beside outcome.1 reply.1 ∧ outcome.2 = reply.2

section

variable {setup : CaptureSetup β ρ} {base : CaptureState β ρ} {bug : List β} {muted : Bool}
  {command : CommandPc β}

theorem Apart.free (apart : Apart base bug .idle) : base.command = .idle := by
  rcases apart.command with ⟨_, same⟩ | ⟨_, free⟩
  · exact same.symm
  · exact free

theorem Apart.idle (apart : Apart base bug command) (muting : command.openaiMuting = true) :
    base.command = .idle := by
  rcases apart.command with ⟨calm, _⟩ | ⟨_, idle⟩
  · rw [muting] at calm
    cases calm
  · exact idle

theorem Apart.of_transition {next : CaptureState β ρ} {label : CaptureStep β}
    {events : List (CaptureEvent β)} {after : List β} {running : CommandPc β}
    (apart : Apart base bug command) (moved : CaptureTransition setup base label next events)
    (unflushed : .bugFlushed ∉ events) (equal : bug = base.bug → after = next.bug)
    (commands : (running.openaiMuting = false ∧ running = next.command) ∨
      (running.openaiMuting = true ∧ next.command = .idle)) :
    Apart next after running where
  command := commands
  bug := by
    rcases apart.bug with same | kept
    · exact Or.inl (equal same)
    · rcases keepsBug_transition kept moved with ⟨flushed, _⟩ | still
      · exact absurd flushed unflushed
      · exact Or.inr still

theorem captureMediaStep_frame {next : CaptureState β ρ} {events : List (CaptureEvent β)}
    {available : Option Nat} {accepted : Bool}
    (taken : captureMediaStep setup available accepted base = some (next, events)) :
    next.command = base.command ∧ .bugFlushed ∉ events ∧
      (base.media ≠ .readBug → next.bug = base.bug) := by
  have moved := captureMediaStep_transition taken
  cases moved with
  | readFrame count accepted standing =>
      exact ⟨rfl, by simp, fun other => absurd standing other⟩
  | _ => exact ⟨rfl, by simp, fun _ => rfl⟩

theorem Apart.media {next : CaptureState β ρ} {events : List (CaptureEvent β)}
    {available : Option Nat} {accepted : Bool} (apart : Apart base bug command)
    (elsewhere : base.media ≠ .readBug)
    (taken : captureMediaStep setup available accepted base = some (next, events)) :
    Apart next bug command := by
  obtain ⟨sameCommand, unflushed, sameBug⟩ := captureMediaStep_frame taken
  refine apart.of_transition (captureMediaStep_transition taken) unflushed ?_ ?_
  · exact fun equal => equal.trans (sameBug elsewhere).symm
  · rw [sameCommand]
    exact apart.command

theorem captureMediaStep_beside (available : Option Nat) (accepted : Bool)
    (elsewhere : base.media ≠ .readBug) :
    captureMediaStep setup available accepted (base.beside bug muted command) =
      (captureMediaStep setup available accepted base).map fun outcome =>
        (outcome.1.beside bug muted command, outcome.2) := by
  have media : (base.beside bug muted command).media = base.media := rfl
  unfold captureMediaStep
  rw [media]
  cases standing : base.media with
  | idle | unlock => rfl
  | checkMuted =>
      obtain ⟨_, _, _, _, _, userMuted, _, _, _, _, _, _, _, _⟩ := base
      cases userMuted <;> rfl
  | trylock =>
      obtain ⟨_, _, _, _, _, _, _, _, _, _, _, holder, _, _⟩ := base
      cases holder <;> rfl
  | checkConnected =>
      obtain ⟨_, _, _, _, _, _, _, _, streamer, connected, _, _, _, _⟩ := base
      cases streamer <;> cases connected <;> rfl
  | consumeCaptureReset =>
      obtain ⟨_, _, _, _, _, _, _, reset, _, _, _, _, _, _⟩ := base
      cases reset <;> rfl
  | readBug => exact absurd standing elsewhere
  | piece position rest =>
      cases position with
      | returned success => cases success <;> rfl
      | _ => rfl

theorem readBug_beside (available : Option Nat) :
    readBug setup (base.beside base.bug muted command) available =
      (readBug setup base available).beside (readBug setup base available).bug muted command := by
  cases available with
  | none => rfl
  | some count =>
      have bug : (base.beside base.bug muted command).bug = base.bug := rfl
      simp only [readBug, bug]
      split <;> rfl

theorem readBug_command (available : Option Nat) :
    (readBug setup base available).command = base.command := by
  cases available with
  | none => rfl
  | some count =>
      simp only [readBug]
      split <;> rfl

theorem captureMediaStep_matched (apart : Apart base bug command) (available : Option Nat)
    (accepted : Bool) :
    Option.Rel StepsBeside
      (captureMediaStep setup available accepted (base.beside bug muted command))
      (captureMediaStep setup available accepted base) := by
  by_cases reading : base.media = .readBug
  · have pending : bug = base.bug := by
      rcases apart.bug with equal | kept
      · exact equal
      · simp [CaptureState.keepsBug, CaptureState.mayRead, reading] at kept
    subst pending
    have media : (base.beside base.bug muted command).media = .readBug := reading
    unfold captureMediaStep
    rw [media, reading]
    refine .some ⟨⟨_, _, _, readBug_beside available, Or.inl rfl, ?_⟩, rfl⟩
    rw [readBug_command]
    exact apart.command
  · rw [captureMediaStep_beside available accepted reading]
    cases taken : captureMediaStep setup available accepted base with
    | none => exact .none
    | some outcome => exact .some ⟨⟨_, _, _, rfl, apart.media reading taken⟩, rfl⟩

theorem api_frame {outcome : Bool} {next : CaptureState β ρ} {events : List (CaptureEvent β)}
    (unflagged : ∀ flag, base.command ≠ .flushBug flag ∧ base.command ≠ .storeFlag flag)
    (moved : CaptureTransition setup base (.api outcome) next events) :
    next.command.openaiMuting = false ∧ .bugFlushed ∉ events ∧ next.bug = base.bug := by
  cases moved with
  | bugFlushed outcome flag standing => exact absurd standing (unflagged flag).1
  | flagStored outcome flag standing => exact absurd standing (unflagged flag).2
  | residueGone outcome work | residueSent outcome work =>
      refine ⟨?_, by simp, rfl⟩
      cases work with
      | userMute => rfl
      | cleanup text channelIsClosing => cases text <;> rfl
  | silenceSent | jsonSent => exact ⟨rfl, by split <;> simp, rfl⟩
  | _ => exact ⟨rfl, by simp, rfl⟩

theorem Apart.api (setup : CaptureSetup β ρ) {outcome : Bool}
    {reply : CaptureState β ρ × List (CaptureEvent β)} (apart : Apart base bug base.command)
    (unflagged : ∀ flag, base.command ≠ .flushBug flag ∧ base.command ≠ .storeFlag flag)
    (taken : captureApiStep outcome base = some reply) :
    Apart reply.1 bug reply.1.command := by
  have moved : CaptureTransition setup base (.api outcome) reply.1 reply.2 :=
    captureApiStep_transition taken
  obtain ⟨ended, unflushed, sameBug⟩ := api_frame unflagged moved
  exact apart.of_transition moved unflushed (fun equal => equal.trans sameBug.symm)
    (Or.inl ⟨ended, rfl⟩)

theorem captureApiStep_beside (outcome : Bool)
    (unflagged : ∀ flag, base.command ≠ .flushBug flag ∧ base.command ≠ .storeFlag flag) :
    captureApiStep outcome (base.beside bug muted base.command) =
      (captureApiStep outcome base).map fun reply =>
        (reply.1.beside bug muted reply.1.command, reply.2) := by
  have command : (base.beside bug muted base.command).command = base.command := rfl
  unfold captureApiStep
  rw [command]
  cases standing : base.command with
  | flushBug flag => exact absurd standing (unflagged flag).1
  | storeFlag flag => exact absurd standing (unflagged flag).2
  | idle | finish | unlock | flushSend => rfl
  | lock work =>
      obtain ⟨_, _, _, _, _, _, _, _, _, _, _, holder, _, _⟩ := base
      cases holder <;> rfl
  | flush work =>
      have usable (running : CommandPc β) :
          (base.beside bug muted running).usable = base.usable := rfl
      have sbuffer (running : CommandPc β) :
          (base.beside bug muted running).sbuffer = base.sbuffer := rfl
      simp only [usable, sbuffer]
      obtain ⟨after, taken, events⟩ := flushCheck base.usable base.sbuffer
      cases taken <;> rfl
  | silenceCheck =>
      obtain ⟨_, _, _, _, _, _, _, _, streamer, connected, _, _, _, _⟩ := base
      cases streamer <;> cases connected <;> rfl
  | silenceSend | sendJson =>
      obtain ⟨_, _, _, _, _, _, _, _, _, connected, _, _, _, _⟩ := base
      cases connected <;> cases outcome <;> rfl
  | removeBug channelIsClosing =>
      obtain ⟨_, _, _, _, _, _, _, _, _, _, _, _, media, _⟩ := base
      cases channelIsClosing <;> cases outcome <;> cases media <;> rfl

theorem storeFlag_beside {flag : FlagCommand} (caller : flag.isOpenai = false) :
    storeFlag (base.beside bug muted base.command) flag =
      (storeFlag base flag).beside bug muted (storeFlag base flag).command := by
  cases flag with
  | setOpenaiMute mute => cases caller
  | pauseresume pause => rfl
  | setUserMute mute => rfl

theorem storeFlag_frame {flag : FlagCommand} (caller : flag.isOpenai = false) :
    (storeFlag base flag).bug = base.bug ∧
      (storeFlag base flag).command.openaiMuting = false := by
  cases flag with
  | setOpenaiMute mute => cases caller
  | pauseresume pause => exact ⟨rfl, rfl⟩
  | setUserMute mute =>
      refine ⟨rfl, ?_⟩
      simp only [storeFlag]
      split <;> rfl

theorem captureApiStep_matched (setup : CaptureSetup β ρ) (apart : Apart base bug base.command)
    (caller : base.command.openaiMuting = false) (outcome : Bool) :
    Option.Rel StepsBeside (captureApiStep outcome (base.beside bug muted base.command))
      (captureApiStep outcome base) := by
  cases standing : base.command with
  | flushBug flag =>
      rw [standing] at caller
      unfold captureApiStep
      simp only [CaptureState.beside, standing]
      exact .some ⟨⟨[], muted, .storeFlag flag, rfl, Or.inl rfl, Or.inl ⟨caller, rfl⟩⟩, rfl⟩
  | storeFlag flag =>
      rw [standing] at caller
      obtain ⟨sameBug, ended⟩ : (storeFlag base flag).bug = base.bug ∧
          (storeFlag base flag).command.openaiMuting = false := storeFlag_frame caller
      have stored : storeFlag (base.beside bug muted base.command) flag =
          (storeFlag base flag).beside bug muted (storeFlag base flag).command :=
        storeFlag_beside caller
      have here : (base.beside bug muted base.command).command = .storeFlag flag := standing
      rw [← standing]
      unfold captureApiStep
      rw [here, standing]
      refine .some ⟨⟨bug, muted, _, ?_, ?_, Or.inl ⟨ended, rfl⟩⟩, rfl⟩
      · rw [← standing]
        exact stored
      · rcases apart.bug with equal | kept
        · exact Or.inl (equal.trans sameBug.symm)
        · exact Or.inr (keepsBug_storeFlag standing kept)
  | _ =>
      have unflagged : ∀ flag, base.command ≠ .flushBug flag ∧ base.command ≠ .storeFlag flag := by
        simp [standing]
      rw [← standing, captureApiStep_beside outcome unflagged]
      cases taken : captureApiStep outcome base with
      | none => exact .none
      | some reply => exact .some ⟨⟨bug, muted, _, rfl, apart.api setup unflagged taken⟩, rfl⟩

theorem surrounding_frame {next : CaptureState β ρ} {label : CaptureStep β}
    {events : List (CaptureEvent β)} (outside : label.isSurrounding = true)
    (moved : CaptureTransition setup base label next events) :
    next.command = base.command ∧ .bugFlushed ∉ events ∧ next.bug = base.bug := by
  cases moved with
  | pausedReturn | entered | opened | dropped | resetRequested | resetLost =>
      exact ⟨rfl, by simp, rfl⟩
  | _ => cases outside

theorem surrounding_beside {label : CaptureStep β} (outside : label.isSurrounding = true) :
    captureStep setup (base.beside bug muted command) label =
      (captureStep setup base label).map fun reply =>
        (reply.1.beside bug muted command, reply.2) := by
  obtain ⟨_, attached, _, _, paused, _, _, _, _, connected, callback, _, media, _⟩ := base
  cases label with
  | streamFrame => cases attached <;> cases media <;> cases paused <;> rfl
  | connectionOpened => cases connected <;> cases callback <;> rfl
  | connectionDropped => cases connected <;> rfl
  | closeCallback located => cases callback <;> cases located <;> rfl
  | _ => cases outside

theorem surrounding_matched {label : CaptureStep β} (apart : Apart base bug command)
    (outside : label.isSurrounding = true) :
    Option.Rel StepsBeside (captureStep setup (base.beside bug muted command) label)
      (captureStep setup base label) := by
  rw [surrounding_beside outside]
  cases taken : captureStep setup base label with
  | none => exact .none
  | some reply =>
      have moved : CaptureTransition setup base label reply.1 reply.2 :=
        captureStep_transition taken
      obtain ⟨sameCommand, unflushed, sameBug⟩ := surrounding_frame outside moved
      refine .some ⟨⟨bug, muted, command, rfl, apart.of_transition moved unflushed ?_ ?_⟩, rfl⟩
      · exact fun equal => equal.trans sameBug.symm
      · rw [sameCommand]
        exact apart.command

theorem capture_matched (apart : Apart base bug command) (data : List β) :
    Option.Rel StepsBeside (captureStep setup (base.beside bug muted command) (.capture data))
      (captureStep setup base (.capture data)) := by
  have here : (base.beside bug muted command).bugAttached = base.bugAttached := rfl
  unfold captureStep
  dsimp only
  rw [here]
  split
  · refine .some ⟨⟨bug ++ data, muted, command, rfl, ?_, apart.command⟩, rfl⟩
    rcases apart.bug with equal | kept
    · exact Or.inl (congrArg (· ++ data) equal)
    · exact Or.inr kept
  · exact .none

theorem command_matched {issued : CaptureCommand} (apart : Apart base bug .idle)
    (caller : ∀ flag, issued = .flag flag → flag.isOpenai = false) :
    Option.Rel StepsBeside (captureStep setup (base.beside bug muted .idle) (.command issued))
      (captureStep setup base (.command issued)) := by
  have free := apart.free
  have here : (base.beside bug muted .idle).command = .idle := rfl
  have there : (base.beside bug muted .idle).bugAttached = base.bugAttached := rfl
  unfold captureStep
  simp only [here, there, free]
  split
  · rename_i attached
    cases issued with
    | flag flag =>
        have moved : CaptureTransition setup base _ _ _ := .flagCommand flag free attached
        exact .some ⟨⟨bug, muted, .flushBug flag, rfl,
          apart.of_transition moved (by simp) id (Or.inl ⟨caller flag rfl, rfl⟩)⟩, rfl⟩
    | cleanup text channelIsClosing =>
        have moved : CaptureTransition setup base _ _ _ :=
          .cleanupCommand text channelIsClosing free attached
        exact .some ⟨⟨bug, muted, .lock (.cleanup text channelIsClosing), rfl,
          apart.of_transition moved (by simp) id (Or.inl ⟨rfl, rfl⟩)⟩, rfl⟩
  · exact .some ⟨⟨bug, muted, .idle, rfl, apart⟩, rfl⟩

theorem captureStep_matched {label : CaptureStep β}
    {outcome : CaptureState β ρ × List (CaptureEvent β)} (apart : Apart base bug command)
    (caller : ∀ flag, label = .command (.flag flag) → flag.isOpenai = false)
    (running : ∀ accepted, label = .api accepted → command.openaiMuting = false)
    (taken : captureStep setup (base.beside bug muted command) label = some outcome) :
    ∃ reply, captureStep setup base label = some reply ∧ StepsBeside outcome reply := by
  suffices matched : Option.Rel StepsBeside
      (captureStep setup (base.beside bug muted command) label) (captureStep setup base label) by
    rw [taken] at matched
    exact Runs.exists_of_rel matched
  cases label with
  | capture data => exact capture_matched apart data
  | media available accepted => exact captureMediaStep_matched apart available accepted
  | command issued =>
      have idle : command = .idle := by
        have here : (base.beside bug muted command).command = command := rfl
        unfold captureStep at taken
        simp only [here] at taken
        split at taken
        · rfl
        · cases taken
      subst idle
      exact command_matched apart fun flag same => caller flag (by rw [same])
  | api accepted =>
      have calm := running accepted rfl
      rcases apart.command with ⟨_, rfl⟩ | ⟨busy, _⟩
      · exact captureApiStep_matched setup apart calm accepted
      · rw [calm] at busy
        cases busy
  | streamFrame | connectionOpened | connectionDropped | closeCallback =>
      exact surrounding_matched apart rfl

end

/-- The run with OpenAI mutes and the run without them: states beside each other, and
the same audio sent. -/
def Shadows (recorded base : Recorded β ρ) : Prop :=
  Beside recorded.state base.state ∧ sentMessages recorded.history = sentMessages base.history

theorem shadows_step {setup : CaptureSetup β ρ} {recorded base next : Recorded β ρ}
    {label : CaptureStep β} (shadows : Shadows recorded base)
    (shown : openaiMuteStep recorded.state label = false)
    (taken : recordedStep setup recorded label = some next) :
    ∃ reply, recordedStep setup base label = some reply ∧ Shadows next reply := by
  obtain ⟨⟨bug, muted, command, same, apart⟩, sent⟩ := shadows
  simp only [recordedStep, Option.map_eq_some_iff] at taken ⊢
  obtain ⟨outcome, stepped, rfl⟩ := taken
  rw [same] at stepped
  have caller : ∀ flag, label = .command (.flag flag) → flag.isOpenai = false := by
    rintro flag rfl
    exact shown
  have running : ∀ accepted, label = .api accepted → command.openaiMuting = false := by
    rintro accepted rfl
    rw [openaiMuteStep, same] at shown
    exact shown
  obtain ⟨reply, answered, beside, events⟩ := captureStep_matched apart caller running stepped
  refine ⟨_, ⟨reply, answered, rfl⟩, beside, ?_⟩
  simp only [sentMessages, Runs.gathered_append, events] at sent ⊢
  rw [sent]

theorem keepsBug_beside {base : CaptureState β ρ} {bug : List β} {muted : Bool}
    {flag : FlagCommand} (idle : base.command = .idle)
    (kept : (base.beside bug muted (.flushBug flag)).keepsBug = true) : base.keepsBug = true := by
  simp only [CaptureState.keepsBug, CaptureState.staysPaused, CaptureState.staysMuted,
    CaptureState.mayRead, CaptureState.beside, idle] at kept ⊢
  exact kept

theorem beside_openaiMute {setup : CaptureSetup β ρ} {base next : CaptureState β ρ}
    {bug : List β} {muted : Bool} {command : CommandPc β} {label : CaptureStep β}
    {events : List (CaptureEvent β)} (apart : Apart base bug command)
    (hidden : openaiMuteStep (base.beside bug muted command) label = true)
    (spares : ∀ outcome, label = .api outcome → command.openaiFlushing = true →
      bug = [] ∨ (base.beside bug muted command).keepsBug = true)
    (moved : CaptureTransition setup (base.beside bug muted command) label next events) :
    Beside next base ∧ Runs.gathered CaptureEvent.sentMessages events.reverse = [] := by
  cases moved with
  | flagCommand flag idle =>
      obtain rfl : command = .idle := idle
      exact ⟨⟨bug, muted, .flushBug flag, rfl, apart.bug, Or.inr ⟨hidden, apart.free⟩⟩, rfl⟩
  | noBug issued idle => exact ⟨⟨bug, muted, command, rfl, apart⟩, rfl⟩
  | bugFlushed outcome flag standing =>
      obtain rfl : command = .flushBug flag := standing
      have free := apart.idle hidden
      refine ⟨⟨[], muted, .storeFlag flag, rfl, ?_, Or.inr ⟨hidden, free⟩⟩, rfl⟩
      rcases spares outcome rfl hidden with nothing | kept
      · exact nothing ▸ apart.bug
      · exact Or.inr (keepsBug_beside free kept)
  | flagStored outcome flag standing =>
      obtain rfl : command = .storeFlag flag := standing
      have free := apart.idle hidden
      cases flag with
      | setOpenaiMute mute =>
          exact ⟨⟨bug, mute, .idle, rfl, apart.bug, Or.inl ⟨rfl, free.symm⟩⟩, rfl⟩
      | _ => cases hidden
  | cleanupCommand => cases hidden
  | locked _ _ standing | residueGone _ _ _ _ standing | residueTaken _ _ _ _ _ standing
  | residueSent _ _ _ standing | silenceUnconnected _ standing | silenceConnected _ standing
  | silenceSent _ standing | jsonSent _ _ standing | removeRefused standing
  | bugRemoved _ _ standing | finished _ standing | apiUnlocked _ standing =>
      obtain rfl : command = _ := standing
      cases hidden
  | _ => cases hidden

theorem shadows_openaiMute {setup : CaptureSetup β ρ} {recorded base next : Recorded β ρ}
    {label : CaptureStep β} (shadows : Shadows recorded base)
    (spares : SparesPending recorded label)
    (hidden : openaiMuteStep recorded.state label = true)
    (taken : recordedStep setup recorded label = some next) : Shadows next base := by
  obtain ⟨⟨bug, muted, command, same, apart⟩, sent⟩ := shadows
  obtain ⟨state, events, rfl, moved⟩ := recordedStep_transition taken
  have spared : ∀ outcome, label = .api outcome → command.openaiFlushing = true →
      bug = [] ∨ (base.state.beside bug muted command).keepsBug = true := by
    rintro outcome rfl flushing
    rw [SparesPending, same] at spares
    exact spares flushing
  rw [same] at hidden moved
  obtain ⟨beside, silent⟩ := beside_openaiMute apart hidden spared moved
  refine ⟨beside, ?_⟩
  rw [sentMessages, Runs.gathered_append, silent, List.append_nil]
  exact sent

theorem run_without_openaiMute {setup : CaptureSetup β ρ} {start final : Recorded β ρ}
    {labels : List (CaptureStep β)} (calm : start.state.command.openaiMuting = false)
    (spares : Runs.Along (recordedStep setup) SparesPending start labels)
    (reached : Runs.run (recordedStep setup) start labels = some final) :
    ∃ base, Runs.run (recordedStep setup) start (callerSchedule setup start labels) = some base ∧
      Shadows final base := by
  have initial : Shadows start start :=
    ⟨⟨start.state.bug, start.state.openaiAudioMuted, start.state.command, rfl, Or.inl rfl,
      Or.inl ⟨calm, rfl⟩⟩, rfl⟩
  refine Runs.run_erasing Shadows ?_ ?_ initial spares reached
  · intro recorded base label next shadows met hidden taken
    exact shadows_openaiMute shadows met hidden taken
  · intro recorded base label next shadows _ shown taken
    exact shadows_step shadows shown taken

/-- Two runs with the same schedule apart from their OpenAI mutes send the same caller
audio, when these mutes flush nothing that would still have been read. -/
theorem openai_mute_keeps_caller_audio {setup : CaptureSetup β ρ} {capacity : Nat} {resampler : ρ}
    {startMuted : Bool} {first second : List (CaptureStep β)} {left right : Recorded β ρ}
    (leftReached : Runs.run (recordedStep setup) (.initial capacity resampler startMuted) first =
      some left)
    (rightReached : Runs.run (recordedStep setup) (.initial capacity resampler startMuted)
      second = some right)
    (same : callerSchedule setup (.initial capacity resampler startMuted) first =
      callerSchedule setup (.initial capacity resampler startMuted) second)
    (leftSpares : Runs.Along (recordedStep setup) SparesPending
      (.initial capacity resampler startMuted) first)
    (rightSpares : Runs.Along (recordedStep setup) SparesPending
      (.initial capacity resampler startMuted) second) :
    sentMessages left.history = sentMessages right.history := by
  obtain ⟨base, ran, _, sent⟩ := run_without_openaiMute rfl leftSpares leftReached
  obtain ⟨other, otherRan, _, otherSent⟩ := run_without_openaiMute rfl rightSpares rightReached
  rw [← same, ran] at otherRan
  obtain rfl := Option.some.inj otherRan
  rw [sent, otherSent]

def callerSteps (before between : List (CaptureStep Nat)) : List (CaptureStep Nat) :=
  [.connectionOpened] ++ before ++ [.capture [1]] ++ between ++
  [.capture [2], .streamFrame, .media none true, .media none true, .media none true,
    .media none true, .media (some 2) true, .media none true, .media none true,
    .media none true, .media none true]

def openaiMuteSteps : List (CaptureStep Nat) :=
  [.command (.flag (.setOpenaiMute true)), .api true, .api true]

theorem openai_mute_keeps_caller_audio_captured_later :
    ∃ left right,
      Runs.run (recordedStep directSetup) (.initial 320 () false)
        (callerSteps openaiMuteSteps []) = some left ∧
      Runs.run (recordedStep directSetup) (.initial 320 () false) (callerSteps [] []) =
        some right ∧
      sentMessages right.history = [[1, 2]] ∧
      sentMessages left.history = sentMessages right.history := by
  have muted : ((Runs.run (recordedStep directSetup) (.initial 320 () false)
      (callerSteps openaiMuteSteps [])).any fun _ => decide True) = true := by
    decide
  have unmuted : ((Runs.run (recordedStep directSetup) (.initial 320 () false)
      (callerSteps [] [])).any fun right => decide (sentMessages right.history = [[1, 2]])) =
        true := by
    decide
  obtain ⟨left, leftReached, _⟩ := Runs.exists_run muted
  obtain ⟨right, rightReached, sent⟩ := Runs.exists_run unmuted
  exact ⟨left, right, leftReached, rightReached, sent,
    openai_mute_keeps_caller_audio leftReached rightReached (by decide) (by decide) (by decide)⟩

theorem openai_mute_discards_caller_audio :
    callerSchedule directSetup (.initial 320 () false) (callerSteps [] openaiMuteSteps) =
        callerSchedule directSetup (.initial 320 () false) (callerSteps [] []) ∧
      ∃ left right,
        Runs.run (recordedStep directSetup) (.initial 320 () false)
          (callerSteps [] openaiMuteSteps) = some left ∧
        Runs.run (recordedStep directSetup) (.initial 320 () false) (callerSteps [] []) =
          some right ∧
        sentMessages left.history = [[2]] ∧ sentMessages right.history = [[1, 2]] := by
  refine ⟨by decide, ?_⟩
  have muted : ((Runs.run (recordedStep directSetup) (.initial 320 () false)
      (callerSteps [] openaiMuteSteps)).any fun left =>
        decide (sentMessages left.history = [[2]])) = true := by
    decide
  have unmuted : ((Runs.run (recordedStep directSetup) (.initial 320 () false)
      (callerSteps [] [])).any fun right => decide (sentMessages right.history = [[1, 2]])) =
        true := by
    decide
  obtain ⟨left, leftReached, rest⟩ := Runs.exists_run muted
  obtain ⟨right, rightReached, sent⟩ := Runs.exists_run unmuted
  exact ⟨left, right, leftReached, rightReached, rest, sent⟩

end

end OpenaiAudioStream
