import OpenaiAudioStream.SessionExclusion

/-!
The threads of all sessions refine the lifecycle of each: what they do to a session under
its lock is a run of the machine that takes the lock in one step, task after task.
-/

namespace OpenaiAudioStream

open Runs ThreadedState

section

variable {τ υ : Type*}

def SessionThread.pending (current : SessionThread υ) : List SessionEntry :=
  match current.stage with
  | .acquiring => current.task.entries
  | .holding entries _ => entries
  | .releasing => []

inductive Running (state : ThreadedState τ υ) (session : υ) :
    List SessionEntry → List LifecycleFrame → Prop
  | free : (∀ thread task entries stack,
        state.threads thread ≠ some ⟨session, task, .holding entries stack⟩) →
      Running state session [] []
  | held {thread task entries stack} :
      state.threads thread = some ⟨session, task, .holding entries stack⟩ →
      Running state session entries stack

/-- The lifecycle run that the threads have made on the session. -/
structure SessionRun (state : ThreadedState τ υ) (session : υ) (labels : List LifecycleStep)
    (entries : List SessionEntry) (stack : List LifecycleFrame) : Prop where
  running : Running state session entries stack
  reached : run recordedLifecycleStep .initial labels =
    some ⟨(state.sessions session).lifecycle stack, (state.sessions session).history⟩
  serial : labels.filterMap LifecycleStep.entry ++ entries =
    (state.granted session).flatMap SessionTask.entries

/-! What one session's lifecycle makes of a step. -/

theorem outside_lifecycle {record : SessionRecord} {label : LifecycleStep}
    {moved : LifecycleState × List LifecycleEvent} (outside : label.outside = true)
    (taken : lifecycleStep (record.lifecycle []) label = some moved)
    (stack : List LifecycleFrame) :
    recordedLifecycleStep ⟨record.lifecycle stack, record.history⟩ label =
      some ⟨(record.after moved).lifecycle stack, (record.after moved).history⟩ := by
  cases label with
  | start | stop | command | close | proceed => cases outside
  | callback context drained =>
      simp only [lifecycleStep, Option.ite_none_right_eq_some, Option.some.injEq] at taken
      obtain ⟨attached, rfl⟩ := taken
      have linked : ((record.lifecycle stack).contexts context).bug = .attached := attached
      simp only [recordedLifecycleStep, lifecycleStep, if_pos linked, Option.map_some,
        captureCallback]
      change some _ = some _
      by_cases closing : (record.contexts context).closeRequested = true
      · have known : ((record.lifecycle stack).contexts context).closeRequested = true := closing
        have same : ((record.lifecycle []).contexts context).closeRequested = true := closing
        rw [if_pos known, if_pos same]
        rfl
      · have known : ¬((record.lifecycle stack).contexts context).closeRequested = true := closing
        have same : ¬((record.lifecycle []).contexts context).closeRequested = true := closing
        rw [if_neg known, if_neg same]
        cases drained <;> rfl
  | requestClose context | prune context | hangup context =>
      simp only [lifecycleStep, Option.ite_none_right_eq_some, Option.some.injEq] at taken
      obtain ⟨allowed, rfl⟩ := taken
      simp only [recordedLifecycleStep, lifecycleStep]
      exact congrArg _ (if_pos allowed)

theorem called_lifecycle {record : SessionRecord} {entry : SessionEntry}
    (closing : ∀ context, entry = .close context → (record.contexts context).bug = .closing) :
    recordedLifecycleStep ⟨record.lifecycle [], record.history⟩ entry.label =
      some ⟨(record.called entry).lifecycle [entry.frame], (record.called entry).history⟩ := by
  cases entry with
  | start | stop | command => rfl
  | close context =>
      have linked : ((record.lifecycle []).contexts context).bug = .closing :=
        closing context rfl
      simp only [SessionEntry.label, recordedLifecycleStep, lifecycleStep, if_pos linked]
      rfl

theorem frameStep_closing {state : LifecycleState} {frame : LifecycleFrame}
    {below : List LifecycleFrame} {context : Nat} (shape : Shape state)
    (running : state.stack = frame :: below)
    (closing : (state.contexts context).bug = .closing) (outcome : Bool) :
    ((frameStep outcome state below frame).1.contexts context).bug = .closing := by
  have stage := (shape.linked (by rw [closing]; rfl) : Current state context).stage
  rw [closing, running] at stage
  generalize channel : state.channelPrivate = channelPrivate at stage
  cases stage with
  | sessionStart linked => cases outcome <;> simpa [frameStep] using closing
  | settled linked idle =>
      cases idle <;> simpa [frameStep, channel] using closing
  | bugRemove linked =>
      have other : (state.contexts context).bug ≠ .attached := by simp [closing]
      simpa [frameStep, other] using closing
  | destroy quiet => cases quiet
  | setPrivate | commandContext | flushResidue | sendJson | clearPrivate =>
      simpa [frameStep, channel] using closing

theorem outside_closing {record : SessionRecord} {label : LifecycleStep} {context : Nat}
    {moved : LifecycleState × List LifecycleEvent}
    (taken : lifecycleStep (record.lifecycle []) label = some moved)
    (outside : label.outside = true) (closing : (record.contexts context).bug = .closing) :
    (moved.1.contexts context).bug = .closing := by
  cases label with
  | start | stop | command | close | proceed => cases outside
  | callback other drained =>
      simp only [lifecycleStep, Option.ite_none_right_eq_some, Option.some.injEq] at taken
      obtain ⟨attached, rfl⟩ := taken
      have apart : context ≠ other := by
        rintro rfl
        exact absurd (attached.symm.trans closing) (by decide)
      unfold captureCallback
      split
      · rw [update_other _ apart]
        exact closing
      split
      · rw [update_other _ apart]
        exact closing
      · exact closing
  | requestClose other =>
      simp only [lifecycleStep, Option.ite_none_right_eq_some, Option.some.injEq] at taken
      obtain ⟨-, rfl⟩ := taken
      by_cases same : context = other
      · subst same
        rw [update_self]
        exact closing
      · rw [update_other _ same]
        exact closing
  | prune other =>
      simp only [lifecycleStep, Option.ite_none_right_eq_some, Option.some.injEq] at taken
      obtain ⟨⟨attached, -⟩, rfl⟩ := taken
      have apart : context ≠ other := by
        rintro rfl
        exact absurd (attached.symm.trans closing) (by decide)
      rw [update_other _ apart]
      exact closing
  | hangup other =>
      simp only [lifecycleStep, Option.ite_none_right_eq_some, Option.some.injEq] at taken
      obtain ⟨attached, rfl⟩ := taken
      have apart : context ≠ other := by
        rintro rfl
        exact absurd (attached.symm.trans closing) (by decide)
      rw [update_other _ apart]
      exact closing

theorem lifecycleInvariant_run {labels : List LifecycleStep} {recorded : RecordedLifecycle}
    (reached : run recordedLifecycleStep .initial labels = some recorded) :
    LifecycleInvariant recorded.state recorded.history := by
  refine @run_invariant _ _ recordedLifecycleStep (fun recorded =>
    LifecycleInvariant recorded.state recorded.history) ?_ _ _ _ lifecycleInvariant_initial reached
  intro recorded label next held taken
  obtain ⟨state, events, rfl, moved⟩ := recordedLifecycleStep_moved taken
  exact lifecycleInvariant_step held moved

/-! The invariant of the threads. -/

theorem close_mem_entries {task : SessionTask} {context : Nat}
    (member : .close context ∈ task.entries) : task = .close context := by
  cases task with
  | api request =>
      obtain ⟨call, -, same⟩ := List.mem_map.1 member
      cases call <;> cases same
  | close other =>
      obtain rfl : context = other := by simpa [SessionTask.entries] using member
      rfl

def PendingClose (state : ThreadedState τ υ) (thread : τ) (session : υ) (context : Nat) : Prop :=
  ∃ current, state.threads thread = some current ∧ current.session = session ∧
    .close context ∈ current.pending

def Descends (before after : Option (SessionThread υ)) : Prop :=
  ∀ current, after = some current → ∃ earlier, before = some earlier ∧
    current.session = earlier.session ∧ current.task = earlier.task ∧
    current.pending <:+ earlier.pending

theorem Descends.refl (current : Option (SessionThread υ)) : Descends current current :=
  fun thread found => ⟨thread, found, rfl, rfl, List.suffix_refl _⟩

theorem pendingClose_before {state next : ThreadedState τ υ}
    (descends : ∀ thread, Descends (state.threads thread) (next.threads thread))
    {thread : τ} {session : υ} {context : Nat}
    (closing : PendingClose next thread session context) :
    PendingClose state thread session context := by
  obtain ⟨current, found, rfl, member⟩ := closing
  obtain ⟨earlier, before, session, -, fewer⟩ := descends thread current found
  exact ⟨earlier, before, session.symm, fewer.subset member⟩

theorem SessionRun.aside {state next : ThreadedState τ υ} {session : υ}
    {labels : List LifecycleStep} {entries : List SessionEntry} {stack : List LifecycleFrame}
    (made : SessionRun state session labels entries stack)
    (running : Running next session entries stack)
    (same : next.sessions session = state.sessions session)
    (granted : next.granted session = state.granted session) :
    SessionRun next session labels entries stack where
  running := running
  reached := by rw [same]; exact made.reached
  serial := by rw [granted]; exact made.serial

theorem grants_none {state : ThreadedState τ υ} {step : LockStep τ υ} (placed : ∀ session task,
    state.threads step.thread ≠ some ⟨session, task, .acquiring⟩) : state.grants step = none := by
  cases step with
  | lock handle =>
      simp only [grants]
      split
      · next acquiring => exact absurd acquiring (placed _ _)
      · rfl
  | _ => rfl

variable [DecidableEq τ]

theorem Running.aside {state next : ThreadedState τ υ} {thread : τ}
    {current : Option (SessionThread υ)} {session : υ} {entries : List SessionEntry}
    {stack : List LifecycleFrame} (running : Running state session entries stack)
    (threads : next.threads = Function.update state.threads thread current)
    (before : ∀ task entries stack,
      state.threads thread ≠ some ⟨session, task, .holding entries stack⟩)
    (after : ∀ task entries stack, current ≠ some ⟨session, task, .holding entries stack⟩) :
    Running next session entries stack := by
  cases running with
  | free unheld =>
      refine .free fun other task entries stack => ?_
      rw [threads]
      by_cases same : other = thread
      · rw [same, Function.update_self]
        exact after task entries stack
      · rw [Function.update_of_ne same]
        exact unheld other task entries stack
  | @held holder task _ _ holds =>
      have apart : holder ≠ thread := by
        rintro rfl
        exact before _ _ _ holds
      exact .held (by rw [threads, Function.update_of_ne apart, holds])

theorem Running.beside {state next : ThreadedState τ υ} {thread : τ} {session place : υ}
    {task : SessionTask} {entries more others : List SessionEntry}
    {stack calls waiting : List LifecycleFrame}
    (holds : state.threads thread = some ⟨session, task, .holding entries stack⟩)
    (threads : next.threads = Function.update state.threads thread
      (some ⟨session, task, .holding more calls⟩))
    (apart : place ≠ session) (running : Running state place others waiting) :
    Running next place others waiting := by
  refine running.aside threads ?_ ?_
  · intro other entries stack found
    rw [holds] at found
    cases found
    exact apart rfl
  · intro other entries stack found
    cases found
    exact apart rfl

theorem Running.unique {state : ThreadedState τ υ} {session : υ} {entries more : List SessionEntry}
    {stack calls : List LifecycleFrame} (lock : LockInvariant state.lock)
    (handles : ∀ thread, Handles (ownHandles state.lock.handles thread) (state.threads thread))
    {thread : τ} {task : SessionTask}
    (holds : state.threads thread = some ⟨session, task, .holding more calls⟩)
    (running : Running state session entries stack) : entries = more ∧ stack = calls := by
  cases running with
  | free unheld => exact absurd holds (unheld _ _ _ _)
  | held too =>
      obtain rfl := holder_unique lock handles holds too
      rw [holds] at too
      cases too
      exact ⟨rfl, rfl⟩

structure ThreadsInvariant (state : ThreadedState τ υ) : Prop where
  lock : LockInvariant state.lock
  handles : ∀ thread, Handles (ownHandles state.lock.handles thread) (state.threads thread)
  pending : ∀ thread current, state.threads thread = some current →
    current.pending <:+ current.task.entries
  closes : ∀ thread session context, PendingClose state thread session context →
    (session, context) ∈ state.closes ∧
      ((state.sessions session).contexts context).bug = .closing
  single : ∀ first second session context, PendingClose state first session context →
    PendingClose state second session context → first = second
  refined : ∀ session, ∃ labels entries stack, SessionRun state session labels entries stack

theorem threadsInvariant_initial : ThreadsInvariant ({} : ThreadedState τ υ) where
  lock := lockInvariant_initial
  handles := fun _ => .idle rfl
  pending := nofun
  closes := nofun
  single := nofun
  refined := fun _ => ⟨[], [], [], .free nofun, rfl, rfl⟩

theorem descends_update {threads : τ → Option (SessionThread υ)} {thread : τ}
    {current : Option (SessionThread υ)} (descends : Descends (threads thread) current)
    (other : τ) : Descends (threads other) (Function.update threads thread current other) := by
  by_cases same : other = thread
  · rw [same, Function.update_self]
    exact descends
  · rw [Function.update_of_ne same]
    exact .refl _

theorem pending_kept {state next : ThreadedState τ υ}
    (descends : ∀ thread, Descends (state.threads thread) (next.threads thread))
    (held : ThreadsInvariant state) (thread : τ) (current : SessionThread υ)
    (found : next.threads thread = some current) : current.pending <:+ current.task.entries := by
  obtain ⟨earlier, before, -, task, fewer⟩ := descends thread current found
  rw [task]
  exact fewer.trans (held.pending thread earlier before)

theorem lockMove_descends {state : ThreadedState τ υ} {step : LockStep τ υ}
    {before after : Option (SessionThread υ)} (move : LockMove state step before after) :
    Descends before after := by
  intro current found
  cases move with
  | failed | dropped | deleted => cases found
  | granted | scope | released | checked =>
      cases found
      exact ⟨_, rfl, rfl, rfl, List.suffix_refl _⟩

theorem handles_onward {state : ThreadedState τ υ} {thread : τ} {session : υ}
    {task : SessionTask} {entries more : List SessionEntry} {stack calls : List LifecycleFrame}
    (held : ThreadsInvariant state)
    (holds : state.threads thread = some ⟨session, task, .holding entries stack⟩) (other : τ) :
    Handles (ownHandles state.lock.handles other)
      (Function.update state.threads thread (some ⟨session, task, .holding more calls⟩) other) := by
  have standing := held.handles other
  by_cases same : other = thread
  · subst same
    rw [holds] at standing
    rw [Function.update_self]
    cases standing with
    | holding same held => exact .holding same held
  · rw [Function.update_of_ne same]
    exact standing

theorem refined_aside {state next : ThreadedState τ υ} {thread : τ}
    {current : Option (SessionThread υ)} (held : ThreadsInvariant state)
    (threads : next.threads = Function.update state.threads thread current)
    (before : ∀ session task entries stack,
      state.threads thread ≠ some ⟨session, task, .holding entries stack⟩)
    (after : ∀ session task entries stack,
      current ≠ some ⟨session, task, .holding entries stack⟩)
    (sessions : next.sessions = state.sessions) (granted : next.granted = state.granted)
    (session : υ) : ∃ labels entries stack, SessionRun next session labels entries stack := by
  obtain ⟨labels, entries, stack, made⟩ := held.refined session
  exact ⟨labels, entries, stack, made.aside
    (made.running.aside threads (before session) (after session)) (by rw [sessions])
    (by rw [granted])⟩

theorem pendingClose_entered {state : ThreadedState τ υ} {thread : τ} {session : υ}
    {task : SessionTask} {lock : LockState τ υ} {closes : List (υ × Nat)} {other : τ} {place : υ}
    {context : Nat}
    (closing : PendingClose { state with
      lock := lock
      threads := state.setThread thread (some ⟨session, task, .acquiring⟩)
      closes := closes } other place context) :
    other = thread ∧ place = session ∧ task = .close context ∨
      other ≠ thread ∧ PendingClose state other place context := by
  obtain ⟨current, found, rfl, member⟩ := closing
  by_cases same : other = thread
  · subst same
    simp only [setThread, Function.update_self, Option.some.injEq] at found
    subst found
    exact .inl ⟨rfl, rfl, close_mem_entries member⟩
  · simp only [setThread, Function.update_of_ne same] at found
    exact .inr ⟨same, current, found, rfl, member⟩

variable [DecidableEq υ]

section entered

variable {state : ThreadedState τ υ} {thread : τ} {session : υ} {task : SessionTask}
  {lock : LockState τ υ}

theorem threads_entered (held : ThreadsInvariant state) (free : state.threads thread = none)
    (allowed : state.mayEnter session task = true)
    (looked : lockStep state.lock (.lookup thread session) = some lock) :
    ThreadsInvariant { state with
      lock := lock
      threads := state.setThread thread (some ⟨session, task, .acquiring⟩)
      closes := state.addClose session task } := by
  have moved := lockStep_transition looked
  obtain ⟨change, others⟩ :
      OwnChange (ownHandles state.lock.handles thread) (.lookup thread session)
        (ownHandles lock.handles thread) ∧
      ∀ other, other ≠ thread →
        ownHandles lock.handles other = ownHandles state.lock.handles other := lockStep_own moved
  have unmade : ∀ {context}, task = .close context →
      ((state.sessions session).contexts context).bug = .closing ∧
        (session, context) ∉ state.closes := by
    rintro context rfl
    simpa [mayEnter] using allowed
  have known : ∀ {place : υ} {context}, (place, context) ∈ state.closes →
      (place, context) ∈ state.addClose session task := by
    intro place context member
    cases task with
    | api => exact member
    | close => exact List.mem_cons_of_mem _ member
  refine ⟨lockInvariant_transition held.lock moved, fun other => ?_, ?_, ?_, ?_, ?_⟩
  · by_cases same : other = thread
    · subst same
      have standing := held.handles other
      rw [free] at standing
      generalize ownHandles lock.handles other = after at change
      cases standing with
      | idle none =>
          rw [none] at change
          cases change with
          | looked _ _ mutex =>
              simp only [setThread, Function.update_self]
              exact .acquiring rfl rfl rfl
    · rw [others other same]
      simp only [setThread, Function.update_of_ne same]
      exact held.handles other
  · intro other current found
    by_cases same : other = thread
    · subst same
      simp only [setThread, Function.update_self, Option.some.injEq] at found
      subst found
      exact List.suffix_refl _
    · simp only [setThread, Function.update_of_ne same] at found
      exact held.pending other current found
  · intro other place context closing
    rcases pendingClose_entered closing with ⟨-, rfl, rfl⟩ | ⟨-, before⟩
    · exact ⟨List.mem_cons_self, (unmade rfl).1⟩
    · obtain ⟨member, phase⟩ := held.closes other place context before
      exact ⟨known member, phase⟩
  · intro first second place context closing again
    rcases pendingClose_entered closing with ⟨rfl, rfl, here⟩ | ⟨-, before⟩ <;>
      rcases pendingClose_entered again with ⟨rfl, same, there⟩ | ⟨-, earlier⟩
    · rfl
    · exact absurd (held.closes _ _ _ earlier).1 (unmade here).2
    · subst same
      exact absurd (held.closes _ _ _ before).1 (unmade there).2
    · exact held.single _ _ _ _ before earlier
  · exact refined_aside held rfl (by simp [free]) (by simp) rfl rfl

end entered

section locked

variable {state : ThreadedState τ υ} {step : LockStep τ υ} {current : Option (SessionThread υ)}
  {lock : LockState τ υ}

theorem granted_run {next : ThreadedState τ υ} {handle : LockHandle τ υ} {session : υ}
    {task : SessionTask} (held : ThreadsInvariant state)
    (before : state.threads handle.thread = some ⟨session, task, .acquiring⟩)
    (lockKept : LockInvariant next.lock)
    (handlesKept : ∀ thread,
      Handles (ownHandles next.lock.handles thread) (next.threads thread))
    (threads : next.threads =
      state.setThread handle.thread (some ⟨session, task, .holding task.entries []⟩))
    (sessions : next.sessions = state.sessions)
    (granted : next.granted = state.addGranted (some (session, task))) (place : υ) :
    ∃ labels entries stack, SessionRun next place labels entries stack := by
  obtain ⟨labels, entries, stack, made⟩ := held.refined place
  by_cases same : place = session
  · subst same
    have holds : next.threads handle.thread = some ⟨place, task, .holding task.entries []⟩ := by
      rw [threads, setThread, Function.update_self]
    -- nobody held the lock, for the holder would hold it still
    have idle : entries = [] ∧ stack = [] := by
      cases made.running with
      | free => exact ⟨rfl, rfl⟩
      | @held holder other _ _ too =>
          have apart : holder ≠ handle.thread := by
            rintro rfl
            rw [before] at too
            cases too
          have still : next.threads holder = some ⟨place, other, .holding entries stack⟩ := by
            rw [threads, setThread, Function.update_of_ne apart, too]
          exact absurd (holder_unique lockKept handlesKept still holds) apart
    obtain ⟨rfl, rfl⟩ := idle
    refine ⟨labels, task.entries, [], .held holds, by rw [sessions]; exact made.reached, ?_⟩
    have serial := made.serial
    rw [List.append_nil] at serial
    rw [granted, addGranted, Function.update_self, List.flatMap_append, ← serial]
    simp
  · have apart : ∀ other entries stack, (some ⟨session, task, .holding task.entries []⟩ :
        Option (SessionThread υ)) ≠ some ⟨place, other, .holding entries stack⟩ := by
      intro other entries stack found
      cases found
      exact same rfl
    refine ⟨labels, entries, stack, made.aside
      (made.running.aside threads (by simp [before]) apart) (by rw [sessions]) ?_⟩
    rw [granted, addGranted, Function.update_of_ne same]

theorem released_run {next : ThreadedState τ υ} {thread : τ} {session : υ} {task : SessionTask}
    (held : ThreadsInvariant state)
    (before : state.threads thread = some ⟨session, task, .holding [] []⟩)
    (threads : next.threads = state.setThread thread (some ⟨session, task, .releasing⟩))
    (sessions : next.sessions = state.sessions) (granted : next.granted = state.granted)
    (place : υ) : ∃ labels entries stack, SessionRun next place labels entries stack := by
  obtain ⟨labels, entries, stack, made⟩ := held.refined place
  by_cases same : place = session
  · subst same
    obtain ⟨rfl, rfl⟩ := made.running.unique held.lock held.handles before
    refine ⟨labels, [], [], made.aside (.free ?_) (by rw [sessions]) (by rw [granted])⟩
    intro other task entries stack found
    rw [threads, setThread] at found
    by_cases same : other = thread
    · rw [same, Function.update_self] at found
      cases found
    · rw [Function.update_of_ne same] at found
      exact same (holder_unique held.lock held.handles found before)
  · refine ⟨labels, entries, stack, made.aside
      (made.running.aside threads ?_ (by simp)) (by rw [sessions]) (by rw [granted])⟩
    intro other entries stack found
    rw [before] at found
    cases found
    exact same rfl

theorem threads_locked (held : ThreadsInvariant state)
    (allowed : state.afterLock step = some current)
    (taken : lockStep state.lock step = some lock) :
    ThreadsInvariant { state with
      lock := lock
      threads := state.setThread step.thread current
      granted := state.addGranted (state.grants step) } := by
  have moved := lockStep_transition taken
  have move := afterLock_move allowed
  have lockKept := lockInvariant_transition held.lock moved
  have handlesKept : ∀ thread, Handles (ownHandles lock.handles thread)
      (state.setThread step.thread current thread) := by
    intro thread
    by_cases same : thread = step.thread
    · subst same
      rw [setThread, Function.update_self]
      exact afterLock_handles (held.handles _) allowed taken
    · rw [setThread, Function.update_of_ne same, (lockStep_own moved).2 thread same]
      exact held.handles thread
  have descends : ∀ thread, Descends (state.threads thread)
      (state.setThread step.thread current thread) :=
    descends_update (lockMove_descends move)
  refine ⟨lockKept, handlesKept, fun thread found => pending_kept descends held thread found,
    fun thread session context closing =>
      held.closes thread session context (pendingClose_before descends closing),
    fun first second session context closing again =>
      held.single first second session context (pendingClose_before descends closing)
        (pendingClose_before descends again), ?_⟩
  generalize placed : state.threads step.thread = before at move
  cases move with
  | failed | dropped | checked | deleted =>
      exact refined_aside held rfl (by simp [placed]) (by simp) rfl rfl
  | @granted handle session task =>
      have grant : state.grants (.lock handle) = some (session, task) := by
        have acquiring : state.threads handle.thread = some ⟨session, task, .acquiring⟩ := placed
        simp only [grants, acquiring]
      rw [grant]
      exact granted_run held placed lockKept handlesKept rfl rfl rfl
  | @scope _ session task entries stack =>
      have grant : state.grants step = none := grants_none (by simp [placed])
      have same : state.setThread step.thread (some ⟨session, task, .holding entries stack⟩) =
          state.threads := by
        rw [setThread, ← placed, Function.update_eq_self]
      intro session
      obtain ⟨labels, entries, stack, made⟩ := held.refined session
      rw [grant, same]
      refine ⟨labels, entries, stack, made.aside ?_ rfl rfl⟩
      cases made.running with
      | free unheld => exact .free unheld
      | held holds => exact .held holds
  | released => exact released_run held placed rfl rfl rfl

end locked

theorem refined_moved {state next : ThreadedState τ υ} {session : υ} {label : LifecycleStep}
    {record : SessionRecord} (held : ThreadsInvariant state)
    (sessions : next.sessions = state.setSession session record)
    (granted : next.granted = state.granted)
    (moved : ∀ before calls, Running state session before calls →
      ∃ entries stack, Running next session entries stack ∧
        label.entry.toList ++ entries = before ∧
        recordedLifecycleStep
          ⟨(state.sessions session).lifecycle calls, (state.sessions session).history⟩ label =
          some ⟨record.lifecycle stack, record.history⟩)
    (others : ∀ place entries stack, place ≠ session → Running state place entries stack →
      Running next place entries stack)
    (place : υ) : ∃ labels entries stack, SessionRun next place labels entries stack := by
  obtain ⟨labels, before, calls, made⟩ := held.refined place
  by_cases same : place = session
  · subst same
    obtain ⟨entries, stack, after, earlier, taken⟩ := moved before calls made.running
    have recorded : next.sessions place = record := by
      rw [sessions, setSession, Function.update_self]
    refine ⟨labels ++ [label], entries, stack, after, ?_, ?_⟩
    · rw [recorded]
      exact run_snoc made.reached taken
    · rw [granted, ← made.serial, ← earlier, List.filterMap_append]
      cases label <;> simp [LifecycleStep.entry]
  · refine ⟨labels, before, calls, made.aside (others _ _ _ same made.running) ?_ (by rw [granted])⟩
    rw [sessions, setSession, Function.update_of_ne same]

theorem threads_called {state : ThreadedState τ υ} {thread : τ} {session : υ}
    {task : SessionTask} {entry : SessionEntry} {entries : List SessionEntry}
    (held : ThreadsInvariant state)
    (holds : state.threads thread = some ⟨session, task, .holding (entry :: entries) []⟩) :
    ThreadsInvariant { state with
      threads := state.setThread thread (some ⟨session, task, .holding entries [entry.frame]⟩)
      sessions := state.setSession session ((state.sessions session).called entry) } := by
  have fewer : Descends (state.threads thread)
      (some ⟨session, task, .holding entries [entry.frame]⟩) := by
    rintro current ⟨⟩
    exact ⟨_, holds, rfl, rfl, List.suffix_cons _ _⟩
  have descends := descends_update fewer
  have closing : ∀ context, entry = .close context →
      ((state.sessions session).contexts context).bug = .closing := by
    rintro context rfl
    exact (held.closes thread session context ⟨_, holds, rfl, List.mem_cons_self⟩).2
  refine ⟨held.lock, handles_onward held holds, fun other => pending_kept descends held other,
    fun other place context pending => ?_, fun first second place context pending again =>
      held.single first second place context (pendingClose_before descends pending)
        (pendingClose_before descends again), ?_⟩
  · have before := pendingClose_before descends pending
    obtain ⟨member, phase⟩ := held.closes other place context before
    refine ⟨member, ?_⟩
    by_cases same : place = session
    · subst same
      simp only [setSession, Function.update_self]
      cases entry with
      | start | stop | command => exact phase
      | close closed =>
          by_cases own : context = closed
          · -- its own thread has nothing more to call
            subst own
            have mine := held.single other thread place context before
              ⟨_, holds, rfl, List.mem_cons_self⟩
            subst mine
            obtain ⟨current, found, -, left⟩ := pending
            simp only [setThread, Function.update_self, Option.some.injEq] at found
            subst found
            have suffix := held.pending _ _ holds
            have taskEq := close_mem_entries (suffix.subset List.mem_cons_self)
            have short := suffix.length_le
            obtain rfl : task = .close context := taskEq
            obtain rfl : entries = [] := by
              simpa [SessionThread.pending, SessionTask.entries] using short
            cases left
          · simp only [SessionRecord.called, Function.update_of_ne own]
            exact phase
    · simp only [setSession, Function.update_of_ne same]
      exact phase
  · refine @refined_moved _ _ _ _ _ _ _ entry.label _ held rfl rfl ?_ fun _ _ _ =>
      Running.beside holds rfl
    intro before calls earlier
    obtain ⟨rfl, rfl⟩ := earlier.unique held.lock held.handles holds
    refine ⟨entries, [entry.frame], .held (Function.update_self ..), ?_, called_lifecycle closing⟩
    cases entry <;> rfl

theorem threads_proceeded {state : ThreadedState τ υ} {thread : τ} {outcome : Bool} {session : υ}
    {task : SessionTask} {entries : List SessionEntry} {frame : LifecycleFrame}
    {below : List LifecycleFrame} {moved : LifecycleState × List LifecycleEvent}
    (held : ThreadsInvariant state)
    (holds : state.threads thread = some ⟨session, task, .holding entries (frame :: below)⟩)
    (stepped : frameStep outcome ((state.sessions session).lifecycle (frame :: below)) below frame =
      moved) :
    ThreadsInvariant { state with
      threads := state.setThread thread (some ⟨session, task, .holding entries moved.1.stack⟩)
      sessions := state.setSession session ((state.sessions session).after moved) } := by
  have same : Descends (state.threads thread)
      (some ⟨session, task, .holding entries moved.1.stack⟩) := by
    rintro current ⟨⟩
    exact ⟨_, holds, rfl, rfl, List.suffix_refl _⟩
  have descends := descends_update same
  have shape : Shape ((state.sessions session).lifecycle (frame :: below)) := by
    obtain ⟨labels, before, calls, made⟩ := held.refined session
    obtain ⟨rfl, rfl⟩ := made.running.unique held.lock held.handles holds
    exact (lifecycleInvariant_run made.reached).shape
  refine ⟨held.lock, handles_onward held holds, fun other => pending_kept descends held other,
    fun other place context pending => ?_, fun first second place context pending again =>
      held.single first second place context (pendingClose_before descends pending)
        (pendingClose_before descends again), ?_⟩
  · obtain ⟨member, phase⟩ := held.closes other place context (pendingClose_before descends pending)
    refine ⟨member, ?_⟩
    by_cases same : place = session
    · subst same
      simp only [setSession, Function.update_self, SessionRecord.after, ← stepped]
      exact frameStep_closing shape rfl phase outcome
    · simp only [setSession, Function.update_of_ne same]
      exact phase
  · refine @refined_moved _ _ _ _ _ _ _ (.proceed outcome) _ held rfl rfl ?_ fun _ _ _ =>
      Running.beside holds rfl
    intro before calls earlier
    obtain ⟨rfl, rfl⟩ := earlier.unique held.lock held.handles holds
    refine ⟨before, moved.1.stack, .held (Function.update_self ..), rfl, ?_⟩
    subst stepped
    rfl

theorem threads_outside {state : ThreadedState τ υ} {session : υ} {label : LifecycleStep}
    {moved : LifecycleState × List LifecycleEvent} (held : ThreadsInvariant state)
    (outside : label.outside = true)
    (taken : lifecycleStep ((state.sessions session).lifecycle []) label = some moved) :
    ThreadsInvariant { state with
      sessions := state.setSession session ((state.sessions session).after moved) } := by
  refine ⟨held.lock, held.handles, held.pending, fun other place context pending => ?_,
    held.single, ?_⟩
  · obtain ⟨member, phase⟩ := held.closes other place context pending
    refine ⟨member, ?_⟩
    by_cases same : place = session
    · subst same
      simp only [setSession, Function.update_self]
      exact outside_closing taken outside phase
    · simp only [setSession, Function.update_of_ne same]
      exact phase
  · have unmoved : ∀ {place entries stack}, Running state place entries stack →
        Running { state with
          sessions := state.setSession session ((state.sessions session).after moved) }
          place entries stack := by
      intro place entries stack running
      cases running with
      | free unheld => exact .free unheld
      | held holds => exact .held holds
    refine @refined_moved _ _ _ _ _ _ _ label _ held rfl rfl ?_ fun _ _ _ _ => unmoved
    intro before calls earlier
    refine ⟨before, calls, unmoved earlier, ?_, outside_lifecycle outside taken calls⟩
    cases label <;> first | rfl | cases outside

theorem threadsInvariant_step {state next : ThreadedState τ υ} {step : ThreadStep τ υ}
    (held : ThreadsInvariant state) (taken : threadedStep state step = some next) :
    ThreadsInvariant next := by
  cases threadedStep_transition taken with
  | entered free allowed looked => exact threads_entered held free allowed looked
  | locked allowed moved => exact threads_locked held allowed moved
  | called holds => exact threads_called held holds
  | proceeded holds stepped => exact threads_proceeded held holds stepped
  | outside outside stepped => exact threads_outside held outside stepped

/-- Whatever the threads of all sessions do, in any order: one thread at a time runs calls under
the lock of a session; on each session they make a run of the lifecycle that takes its lock
in one step, in which the tasks that got the lock run whole, one after the other; and so no
context is torn down twice or touched afterwards. -/
theorem threads_refine_lifecycle {steps : List (ThreadStep τ υ)} {state : ThreadedState τ υ}
    (reached : run threadedStep {} steps = some state) (session : υ) :
    (∀ first second task other entries more stack calls,
        state.threads first = some ⟨session, task, .holding entries stack⟩ →
        state.threads second = some ⟨session, other, .holding more calls⟩ → first = second) ∧
      (∃ labels entries stack, SessionRun state session labels entries stack) ∧
      EveryEvent SafeEvent (state.sessions session).history := by
  have held : ThreadsInvariant state := run_invariant
    (fun _ _ _ held taken => threadsInvariant_step held taken) threadsInvariant_initial reached
  obtain ⟨labels, entries, stack, made⟩ := held.refined session
  exact ⟨fun first second _ _ _ _ _ _ holds too => holder_unique held.lock held.handles holds too,
    ⟨labels, entries, stack, made⟩, (lifecycleInvariant_run made.reached).clean⟩

end

def muteAll : ApiRequest where
  config := ⟨[], false⟩
  buffer := Vector.replicate maxWsUri nul
  cmd := []
  uuid := ⟨[49], by simp⟩
  verb := ⟨[109, 117, 116, 101], by simp⟩
  arguments := [⟨[97, 108, 108], by simp⟩]

def muteBoth : List (ThreadStep Nat Nat) :=
  [.enter 1 0 (.api muteAll), .lock (.lock (waitingHandle 1)), .call 1,
    .enter 2 0 (.api muteAll), .proceed 1 false, .call 1, .proceed 1 false,
    .lock (.unlock { waitingHandle 1 with phase := .locked }), .lock (.lock (waitingHandle 2)),
    .call 2]

theorem threads_refine_lifecycle_muteBoth :
    ∃ state, run threadedStep {} muteBoth = some state ∧ (state.granted 0).length = 2 ∧
      ∃ labels entries stack, SessionRun state 0 labels entries stack := by
  obtain ⟨state, reached, granted⟩ := @exists_run _ _ threadedStep {} muteBoth
    (fun state => (state.granted 0).length = 2) (fun _ => inferInstance) (by decide)
  exact ⟨state, reached, granted, (threads_refine_lifecycle reached 0).2.1⟩

end OpenaiAudioStream
