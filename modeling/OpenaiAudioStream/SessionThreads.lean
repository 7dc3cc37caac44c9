import OpenaiAudioStream.ApiCommand
import OpenaiAudioStream.LifecycleExclusion
import OpenaiAudioStream.LifecycleTeardown

/-!
Any number of threads on any number of sessions: API commands and CLOSE callbacks take the
lifecycle lock of their session through its registry and make their calls under it, each
thread on a call stack of its own. FreeSWITCH and the WebSocket threads move without it.
-/

namespace OpenaiAudioStream

open Runs

inductive SessionEntry where
  | start
  | stop (text : Bool)
  | command
  | close (context : Nat)
  deriving DecidableEq, Repr

def SessionEntry.label : SessionEntry → LifecycleStep
  | .start => .start
  | .stop text => .stop text
  | .command => .command
  | .close context => .close context

def SessionEntry.frame : SessionEntry → LifecycleFrame
  | .start => .startCapture
  | .stop text => .cleanup text none
  | .command => .command
  | .close context => .cleanup false (some context)

def LifecycleStep.entry : LifecycleStep → Option SessionEntry
  | .start => some .start
  | .stop text => some (.stop text)
  | .command => some .command
  | .close context => some (.close context)
  | .proceed _ | .callback _ _ | .requestClose _ | .prune _ | .hangup _ => none

/-- A step of FreeSWITCH or of a WebSocket thread, which takes no lock. -/
def LifecycleStep.outside : LifecycleStep → Bool
  | .callback _ _ | .requestClose _ | .prune _ | .hangup _ => true
  | .start | .stop _ | .command | .close _ | .proceed _ => false

def SessionCall.entry : SessionCall → SessionEntry
  | .startCapture _ => .start
  | .cleanup json => .stop (json.any (· ≠ []))
  | .pauseresume _ | .sendJson _ | .setUserMute _ | .setOpenaiMute _ => .command

structure ApiRequest where
  config : StreamApiConfig
  buffer : Vector Char maxWsUri
  cmd : List Char
  uuid : ByteToken
  verb : ByteToken
  arguments : List ByteToken

def ApiRequest.execute (request : ApiRequest) (session : ApiSession) : Option CaseOutcome :=
  commandCase session request.config request.buffer request.cmd request.uuid request.verb
    request.arguments

/-- The calls of a command; what they answer decides on none of them. -/
def ApiRequest.calls (request : ApiRequest) : List SessionCall :=
  match request.execute ⟨true, true, fun _ => true⟩ with
  | none => []
  | some outcome => outcome.calls.map Prod.fst

theorem execute_calls (request : ApiRequest) (session : ApiSession) :
    ∃ outcome, request.execute session = some outcome ∧
      outcome.calls.map Prod.fst = request.calls := by
  by_cases form : ∃ calls,
      AcceptedCalls request.config (request.uuid :: request.verb :: request.arguments) calls
  · obtain ⟨calls, form⟩ := form
    have taken : ∀ other : ApiSession, request.execute other = some (ran other calls) :=
      fun other => accepted_runs form
    refine ⟨_, taken session, ?_⟩
    simp [ApiRequest.calls, taken, ran, Function.comp_def]
  · have refused : ∀ other : ApiSession, ∃ line usage, Usage request.config usage ∧
        request.execute other = some { log := [line], written := usage } :=
      fun other => commandCase_cases.resolve_left form
    obtain ⟨line, usage, -, taken⟩ := refused session
    obtain ⟨probe, syntaxText, -, probed⟩ := refused ⟨true, true, fun _ => true⟩
    exact ⟨_, taken, by simp [ApiRequest.calls, probed]⟩

theorem calls_cases (request : ApiRequest) :
    AcceptedCalls request.config (request.uuid :: request.verb :: request.arguments)
      request.calls ∨ request.calls = [] := by
  rcases @commandCase_cases ⟨true, true, fun _ => true⟩ request.config request.buffer request.cmd
    request.uuid request.verb request.arguments with ⟨calls, form⟩ | ⟨line, usage, -, refused⟩
  · have taken : request.execute ⟨true, true, fun _ => true⟩ = some (ran _ calls) :=
      accepted_runs form
    have same : request.calls = calls := by
      simp [ApiRequest.calls, taken, ran, Function.comp_def]
    exact .inl (same ▸ form)
  · refine .inr ?_
    simp [ApiRequest.calls, ApiRequest.execute, refused]

inductive SessionTask where
  | api (request : ApiRequest)
  -- the CLOSE callback of a pruned or hung up bug
  | close (context : Nat)

def SessionTask.entries : SessionTask → List SessionEntry
  | .api request => request.calls.map SessionCall.entry
  | .close context => [.close context]

/-- `acquiring` stands behind the registry section of `acquire_lifecycle_lock`, `releasing`
behind the unlock of `release_lifecycle_lock`. A holder has calls to make and a stack. -/
inductive ThreadStage where
  | acquiring
  | holding (entries : List SessionEntry) (stack : List LifecycleFrame)
  | releasing

structure SessionThread (υ : Type*) where
  session : υ
  task : SessionTask
  stage : ThreadStage

/-- The channel private, the contexts and the past of a session. -/
structure SessionRecord where
  contexts : Nat → StreamContext := fun _ => {}
  created : Nat := 0
  channelPrivate : Option Nat := none
  history : List LifecycleEvent := []

namespace SessionRecord

def lifecycle (record : SessionRecord) (stack : List LifecycleFrame) : LifecycleState where
  contexts := record.contexts
  created := record.created
  channelPrivate := record.channelPrivate
  stack := stack

def after (record : SessionRecord) (moved : LifecycleState × List LifecycleEvent) :
    SessionRecord where
  contexts := moved.1.contexts
  created := moved.1.created
  channelPrivate := moved.1.channelPrivate
  history := moved.2 ++ record.history

def called (record : SessionRecord) : SessionEntry → SessionRecord
  | .close context =>
      { record with
        contexts := Function.update record.contexts context
          { record.contexts context with bug := .closed }
        history := .calledBack context :: record.history }
  | .start | .stop _ | .command => record

end SessionRecord

structure ThreadedState (τ υ : Type*) where
  lock : LockState τ υ := {}
  threads : τ → Option (SessionThread υ) := fun _ => none
  sessions : υ → SessionRecord := fun _ => {}
  -- the CLOSE callbacks that FreeSWITCH has made, one for each bug
  closes : List (υ × Nat) := []
  -- the tasks that took the lock, in this order
  granted : υ → List SessionTask := fun _ => []

inductive ThreadStep (τ υ : Type*) where
  -- the registry section, for a command or a callback
  | enter (thread : τ) (session : υ) (task : SessionTask)
  -- another step of a lock; a lookup is that of a nested `LifecycleLockScope`
  | lock (step : LockStep τ υ)
  | call (thread : τ)
  | proceed (thread : τ) (outcome : Bool)
  | outside (session : υ) (label : LifecycleStep)

section

variable {τ υ : Type*}

def LockStep.thread : LockStep τ υ → τ
  | .lookup thread _ | .createFailed thread _ _ => thread
  | .handleFailed handle | .lock handle | .unlock handle | .check handle | .delete handle =>
      handle.thread

variable [DecidableEq τ] [DecidableEq υ]

namespace ThreadedState

def depth (state : ThreadedState τ υ) (thread : τ) : Nat :=
  state.lock.handles.countP fun handle => handle.thread = thread ∧ handle.phase = .locked

/-- Where a step of a lock leads its thread: `none` if the code has no such step there. The
scopes inside a task are the schedule's choice, and only a command's lock may fail. -/
def afterLock (state : ThreadedState τ υ) (step : LockStep τ υ) :
    Option (Option (SessionThread υ)) :=
  match step, state.threads step.thread with
  | .createFailed _ _ _, none => some none
  | .handleFailed _, some ⟨_, .api _, .acquiring⟩ => some none
  | .lookup _ session, some ⟨held, task, .holding entries stack⟩ =>
      if session = held then some (some ⟨held, task, .holding entries stack⟩) else none
  | .lock _, some ⟨session, task, .acquiring⟩ =>
      some (some ⟨session, task, .holding task.entries []⟩)
  | .lock _, some ⟨session, task, .holding entries stack⟩ =>
      some (some ⟨session, task, .holding entries stack⟩)
  | .unlock _, some ⟨session, task, .holding entries stack⟩ =>
      if 1 < state.depth step.thread then some (some ⟨session, task, .holding entries stack⟩)
      else if entries = [] ∧ stack = [] then some (some ⟨session, task, .releasing⟩)
      else none
  | .check _, some ⟨session, task, .holding entries stack⟩ =>
      some (some ⟨session, task, .holding entries stack⟩)
  | .check _, some ⟨session, task, .releasing⟩ => some (some ⟨session, task, .releasing⟩)
  | .delete _, some ⟨session, task, .holding entries stack⟩ =>
      some (some ⟨session, task, .holding entries stack⟩)
  | .delete _, some ⟨_, _, .releasing⟩ => some none
  | _, _ => none

def grants (state : ThreadedState τ υ) : LockStep τ υ → Option (υ × SessionTask)
  | .lock handle =>
      match state.threads handle.thread with
      | some ⟨session, task, .acquiring⟩ => some (session, task)
      | _ => none
  | _ => none

def mayEnter (state : ThreadedState τ υ) (session : υ) : SessionTask → Bool
  | .api _ => true
  | .close context =>
      ((state.sessions session).contexts context).bug = .closing ∧
        (session, context) ∉ state.closes

def addClose (state : ThreadedState τ υ) (session : υ) : SessionTask → List (υ × Nat)
  | .api _ => state.closes
  | .close context => (session, context) :: state.closes

def setThread (state : ThreadedState τ υ) (thread : τ) (current : Option (SessionThread υ)) :
    τ → Option (SessionThread υ) :=
  Function.update state.threads thread current

def setSession (state : ThreadedState τ υ) (session : υ) (record : SessionRecord) :
    υ → SessionRecord :=
  Function.update state.sessions session record

def addGranted (state : ThreadedState τ υ) : Option (υ × SessionTask) → υ → List SessionTask
  | none => state.granted
  | some (session, task) =>
      Function.update state.granted session (state.granted session ++ [task])

end ThreadedState

open ThreadedState

def threadedStep (state : ThreadedState τ υ) : ThreadStep τ υ → Option (ThreadedState τ υ)
  | .enter thread session task =>
      match state.threads thread with
      | some _ => none
      | none =>
          if state.mayEnter session task then
            (lockStep state.lock (.lookup thread session)).map fun lock =>
              { state with
                lock := lock
                threads := state.setThread thread (some ⟨session, task, .acquiring⟩)
                closes := state.addClose session task }
          else none
  | .lock step =>
      match state.afterLock step with
      | none => none
      | some current =>
          (lockStep state.lock step).map fun lock =>
            { state with
              lock := lock
              threads := state.setThread step.thread current
              granted := state.addGranted (state.grants step) }
  | .call thread =>
      match state.threads thread with
      | some ⟨session, task, .holding (entry :: entries) []⟩ =>
          if state.lock.ready thread then
            some { state with
              threads := state.setThread thread
                (some ⟨session, task, .holding entries [entry.frame]⟩)
              sessions := state.setSession session ((state.sessions session).called entry) }
          else none
      | _ => none
  | .proceed thread outcome =>
      match state.threads thread with
      | some ⟨session, task, .holding entries (frame :: below)⟩ =>
          if state.lock.ready thread then
            let record := state.sessions session
            let moved := frameStep outcome (record.lifecycle (frame :: below)) below frame
            some { state with
              threads := state.setThread thread
                (some ⟨session, task, .holding entries moved.1.stack⟩)
              sessions := state.setSession session (record.after moved) }
          else none
      | _ => none
  | .outside session label =>
      let record := state.sessions session
      if label.outside then
        (lifecycleStep (record.lifecycle []) label).map fun moved =>
          { state with sessions := state.setSession session (record.after moved) }
      else none

inductive LockMove (state : ThreadedState τ υ) :
    LockStep τ υ → Option (SessionThread υ) → Option (SessionThread υ) → Prop
  | failed {thread session inserted} :
      LockMove state (.createFailed thread session inserted) none none
  | dropped {handle session request} :
      LockMove state (.handleFailed handle) (some ⟨session, .api request, .acquiring⟩) none
  | granted {handle session task} :
      LockMove state (.lock handle) (some ⟨session, task, .acquiring⟩)
        (some ⟨session, task, .holding task.entries []⟩)
  | scope {step : LockStep τ υ} {session task entries stack} :
      (∀ handle, step = .unlock handle → 1 < state.depth handle.thread) →
      (∀ thread other, step = .lookup thread other → other = session) →
      (∀ handle, step ≠ .handleFailed handle) →
      LockMove state step (some ⟨session, task, .holding entries stack⟩)
        (some ⟨session, task, .holding entries stack⟩)
  | released {handle session task} : ¬1 < state.depth handle.thread →
      LockMove state (.unlock handle) (some ⟨session, task, .holding [] []⟩)
        (some ⟨session, task, .releasing⟩)
  | checked {handle session task} :
      LockMove state (.check handle) (some ⟨session, task, .releasing⟩)
        (some ⟨session, task, .releasing⟩)
  | deleted {handle session task} :
      LockMove state (.delete handle) (some ⟨session, task, .releasing⟩) none

theorem afterLock_move {state : ThreadedState τ υ} {step : LockStep τ υ}
    {current : Option (SessionThread υ)} (allowed : state.afterLock step = some current) :
    LockMove state step (state.threads step.thread) current := by
  generalize threadEq : state.threads step.thread = before
  rcases before with _ | ⟨session, task, _ | ⟨entries, stack⟩ | _⟩
  · cases step <;> simp only [afterLock, threadEq] at allowed <;> cases allowed
    exact .failed
  · rcases task with request | context <;> cases step <;>
      simp only [afterLock, threadEq] at allowed <;> cases allowed
    · exact .dropped
    · exact .granted
    · exact .granted
  · cases step with
    | lookup thread other =>
        simp only [afterLock, threadEq, Option.ite_none_right_eq_some, Option.some.injEq] at allowed
        obtain ⟨rfl, rfl⟩ := allowed
        exact .scope nofun (by rintro _ _ ⟨⟩; rfl) nofun
    | createFailed thread other inserted | handleFailed handle =>
        simp only [afterLock, threadEq] at allowed
        cases allowed
    | lock handle | check handle | delete handle =>
        simp only [afterLock, threadEq] at allowed
        cases allowed
        exact .scope nofun nofun nofun
    | unlock handle =>
        simp only [afterLock, threadEq] at allowed
        split at allowed
        · next deep =>
          cases allowed
          exact .scope (by rintro _ ⟨⟩; exact deep) nofun nofun
        · next once =>
          simp only [Option.ite_none_right_eq_some, Option.some.injEq] at allowed
          obtain ⟨⟨rfl, rfl⟩, rfl⟩ := allowed
          exact .released once
  · cases step <;> simp only [afterLock, threadEq] at allowed <;> cases allowed
    · exact .checked
    · exact .deleted

inductive ThreadTransition (state : ThreadedState τ υ) : ThreadStep τ υ → ThreadedState τ υ → Prop
  | entered {thread session task lock} : state.threads thread = none →
      state.mayEnter session task = true →
      lockStep state.lock (.lookup thread session) = some lock →
      ThreadTransition state (.enter thread session task)
        { state with
          lock := lock
          threads := state.setThread thread (some ⟨session, task, .acquiring⟩)
          closes := state.addClose session task }
  | locked {step current lock} : state.afterLock step = some current →
      lockStep state.lock step = some lock →
      ThreadTransition state (.lock step)
        { state with
          lock := lock
          threads := state.setThread step.thread current
          granted := state.addGranted (state.grants step) }
  | called {thread session task entry entries} :
      state.threads thread = some ⟨session, task, .holding (entry :: entries) []⟩ →
      ThreadTransition state (.call thread)
        { state with
          threads := state.setThread thread (some ⟨session, task, .holding entries [entry.frame]⟩)
          sessions := state.setSession session ((state.sessions session).called entry) }
  | proceeded {thread outcome session task entries frame below moved} :
      state.threads thread = some ⟨session, task, .holding entries (frame :: below)⟩ →
      frameStep outcome ((state.sessions session).lifecycle (frame :: below)) below frame = moved →
      ThreadTransition state (.proceed thread outcome)
        { state with
          threads := state.setThread thread (some ⟨session, task, .holding entries moved.1.stack⟩)
          sessions := state.setSession session ((state.sessions session).after moved) }
  | outside {session label moved} : label.outside = true →
      lifecycleStep ((state.sessions session).lifecycle []) label = some moved →
      ThreadTransition state (.outside session label)
        { state with sessions := state.setSession session ((state.sessions session).after moved) }

theorem threadedStep_transition {state next : ThreadedState τ υ} {step : ThreadStep τ υ}
    (taken : threadedStep state step = some next) : ThreadTransition state step next := by
  cases step with
  | enter thread session task =>
      simp only [threadedStep] at taken
      split at taken
      · cases taken
      · next free =>
        simp only [Option.ite_none_right_eq_some] at taken
        obtain ⟨allowed, taken⟩ := taken
        obtain ⟨lock, looked, rfl⟩ := Option.map_eq_some_iff.mp taken
        exact .entered free allowed looked
  | lock step =>
      simp only [threadedStep] at taken
      split at taken
      · cases taken
      · next current allowed =>
        obtain ⟨lock, moved, rfl⟩ := Option.map_eq_some_iff.mp taken
        exact .locked allowed moved
  | call thread =>
      simp only [threadedStep] at taken
      split at taken
      · next holds =>
        simp only [Option.ite_none_right_eq_some, Option.some.injEq] at taken
        obtain ⟨-, rfl⟩ := taken
        exact .called holds
      · cases taken
  | proceed thread outcome =>
      simp only [threadedStep] at taken
      split at taken
      · next holds =>
        simp only [Option.ite_none_right_eq_some, Option.some.injEq] at taken
        obtain ⟨-, rfl⟩ := taken
        exact .proceeded holds rfl
      · cases taken
  | outside session label =>
      simp only [threadedStep, Option.ite_none_right_eq_some] at taken
      obtain ⟨outside, taken⟩ := taken
      obtain ⟨moved, stepped, rfl⟩ := Option.map_eq_some_iff.mp taken
      exact .outside outside stepped

end

end OpenaiAudioStream
