import OpenaiAudioStream.SessionRefinement

/-!
No thread waits for ever: whoever waits for a lifecycle lock waits for a thread that can go
on, and an entry pays for a bounded number of steps.
-/

namespace OpenaiAudioStream

open Runs ThreadedState

section

variable {τ υ : Type*}

/-! A mutex with an owner is held. -/

def OwnersHold (lock : LockState τ υ) : Prop :=
  ∀ mutex, (lock.mutexes mutex).owner ≠ none → 0 < (lock.mutexes mutex).depth

theorem owner_locked {lock : LockState τ υ} (held : LockInvariant lock) (owners : OwnersHold lock)
    {mutex : Nat} {thread : τ} (owner : (lock.mutexes mutex).owner = some thread) :
    ∃ handle ∈ lock.handles, handle.thread = thread ∧ handle.mutex = mutex ∧
      handle.phase = .locked := by
  have deep := owners mutex (by simp [owner])
  rw [held.depth mutex] at deep
  obtain ⟨handle, member, holds⟩ := List.countP_pos_iff.1 deep
  simp only [holdsMutex, Bool.and_eq_true, beq_iff_eq] at holds
  obtain ⟨locked, rfl⟩ := holds
  have own := held.owner handle member locked
  rw [owner, Option.some.injEq] at own
  exact ⟨handle, member, own.symm, rfl, locked⟩

theorem owners_update {lock : LockState τ υ} {mutex : Nat} {changed : RecursiveMutex τ}
    (owners : OwnersHold lock) (deep : changed.owner ≠ none → 0 < changed.depth) (other : Nat)
    (owned : (Function.update lock.mutexes mutex changed other).owner ≠ none) :
    0 < (Function.update lock.mutexes mutex changed other).depth := by
  by_cases same : other = mutex
  · rw [same, Function.update_self] at owned ⊢
    exact deep owned
  · rw [Function.update_of_ne same] at owned ⊢
    exact owners other owned

variable [DecidableEq τ] [DecidableEq υ]

theorem owners_transition {lock next : LockState τ υ} {step : LockStep τ υ}
    (owners : OwnersHold lock) (moved : LockTransition lock step next) : OwnersHold next := by
  cases moved with
  | created => exact owners_update owners nofun
  | locked => exact owners_update owners fun _ => Nat.succ_pos _
  | unlocked handle =>
      refine owners_update owners fun owned => ?_
      have deep := owners handle.mutex
      dsimp only at owned ⊢
      split at owned
      · exact absurd rfl owned
      · have := deep owned
        omega
  | _ => exact owners

/-! The threads can go on. -/

def ThreadStep.actor : ThreadStep τ υ → Option τ
  | .enter thread _ _ | .call thread | .proceed thread _ => some thread
  | .lock step => some step.thread
  | .outside _ _ => none

def ThreadStep.onward : ThreadStep τ υ → Bool
  | .lock step =>
      match step with
      | .lock _ | .unlock _ | .check _ | .delete _ => true
      | .lookup _ _ | .createFailed _ _ _ | .handleFailed _ => false
  | .call _ | .proceed _ _ => true
  | .enter _ _ _ | .outside _ _ => false

def Moves (state : ThreadedState τ υ) (thread : τ) : Prop :=
  ∃ step : ThreadStep τ υ, step.onward = true ∧ step.actor = some thread ∧
    (threadedStep state step).isSome = true

theorem moves_lock {state : ThreadedState τ υ} {step : LockStep τ υ}
    (onward : (ThreadStep.lock step).onward = true) (allowed : (state.afterLock step).isSome = true)
    (taken : (lockStep state.lock step).isSome = true) : Moves state step.thread := by
  refine ⟨.lock step, onward, rfl, ?_⟩
  obtain ⟨current, found⟩ := Option.isSome_iff_exists.1 allowed
  simp [threadedStep, found, taken]

theorem holder_moves {state : ThreadedState τ υ} (held : ThreadsInvariant state) {thread : τ}
    {session : υ} {task : SessionTask} {entries : List SessionEntry} {stack : List LifecycleFrame}
    (holds : state.threads thread = some ⟨session, task, .holding entries stack⟩) :
    Moves state thread := by
  have standing := held.handles thread
  rw [holds] at standing
  obtain ⟨same, mine, member, locked⟩ : (∀ handle ∈ ownHandles state.lock.handles thread,
      handle.session = session) ∧ ∃ handle ∈ ownHandles state.lock.handles thread,
      handle.phase = .locked := by
    cases standing with
    | holding same held => exact ⟨same, held⟩
  obtain ⟨listed, rfl⟩ := mem_own.1 member
  by_cases ready : state.lock.ready mine.thread = true
  · cases stack with
    | cons frame below =>
        exact ⟨.proceed mine.thread true, rfl, rfl, by simp [threadedStep, holds, ready]⟩
    | nil =>
        cases entries with
        | cons entry rest =>
            exact ⟨.call mine.thread, rfl, rfl, by simp [threadedStep, holds, ready]⟩
        | nil =>
            refine @moves_lock _ _ _ _ state (.unlock mine) rfl ?_ ?_
            · simp only [afterLock, LockStep.thread, holds]
              split <;> simp
            · simp [lockStep, listed, locked, ready]
  · -- a scope inside the call is being entered or left
    simp only [LockState.ready, List.all_eq_true, not_forall, Bool.or_eq_true, bne_iff_ne,
      beq_iff_eq, not_or, ne_eq, not_not] at ready
    obtain ⟨other, found, sameThread, unlocked⟩ := ready
    have placed : state.threads other.thread = some ⟨session, task, .holding entries stack⟩ := by
      rw [sameThread, holds]
    have here := same other (mem_own.2 ⟨found, sameThread⟩)
    rw [← sameThread]
    cases phase : other.phase with
    | referenced =>
        refine @moves_lock _ _ _ _ state (.lock other) rfl ?_ ?_
        · simp [afterLock, LockStep.thread, placed]
        · have entry := held.lock.entry other found (by simp [phase])
          have own := held.lock.entry mine listed (by simp [locked])
          rw [same mine member, ← here, entry, Option.some.injEq, Option.some.injEq] at own
          have owner := held.lock.owner mine listed locked
          rw [← own, ← sameThread] at owner
          simp [lockStep, found, phase, lockMutex, owner]
    | locked => exact absurd phase unlocked
    | unlocked =>
        refine @moves_lock _ _ _ _ state (.check other) rfl ?_ ?_
        · simp [afterLock, LockStep.thread, placed]
        · simp [lockStep, found, phase]
    | checked =>
        refine @moves_lock _ _ _ _ state (.delete other) rfl ?_ ?_
        · simp [afterLock, LockStep.thread, placed]
        · simp [lockStep, found, phase]

/-- Every thread under way can go on, or waits for one that holds the lock and can. -/
theorem underway_moves {state : ThreadedState τ υ} (held : ThreadsInvariant state)
    (owners : OwnersHold state.lock) {thread : τ} {current : SessionThread υ}
    (found : state.threads thread = some current) :
    Moves state thread ∨ current.stage = .acquiring ∧ ∃ holder task entries stack,
      state.threads holder = some ⟨current.session, task, .holding entries stack⟩ ∧
      Moves state holder := by
  have standing := held.handles thread
  rw [found] at standing
  generalize ownEq : ownHandles state.lock.handles thread = own at standing
  cases standing with
  | @acquiring session task handle only same waiting =>
      have member : handle ∈ ownHandles state.lock.handles thread := by simp [ownEq, only]
      obtain ⟨listed, rfl⟩ := mem_own.1 member
      by_cases free : (state.lock.mutexes handle.mutex).owner = none ∨
          (state.lock.mutexes handle.mutex).owner = some handle.thread
      · refine .inl (@moves_lock _ _ _ _ state (.lock handle) rfl ?_ ?_)
        · simp [afterLock, LockStep.thread, found]
        · simp [lockStep, listed, waiting, lockMutex, free]
      · rw [not_or] at free
        obtain ⟨holder, owner⟩ := Option.ne_none_iff_exists'.1 free.1
        obtain ⟨other, belongs, rfl, mutex, locked⟩ := owner_locked held.lock owners owner
        have entry := held.lock.entry handle listed (by simp [waiting])
        have there : other.session = session := by
          rw [held.lock.named handle.session handle.mutex entry other belongs mutex, same]
        have inside := held.handles other.thread
        have mine := mem_own.2 ⟨belongs, rfl⟩
        generalize placed : state.threads other.thread = place at inside
        generalize ownHandles state.lock.handles other.thread = its at inside mine
        cases inside with
        | idle none =>
            subst none
            cases mine
        | acquiring only _ phase | releasing only _ phase =>
            subst only
            obtain rfl := List.mem_singleton.1 mine
            simp [locked] at phase
        | @holding _ task entries stack sessions =>
            obtain rfl := (sessions other mine).symm.trans there
            exact .inr ⟨rfl, other.thread, task, entries, stack, placed, holder_moves held placed⟩
  | holding => exact .inl (holder_moves held found)
  | @releasing session task handle only same phase =>
      have member : handle ∈ ownHandles state.lock.handles thread := by simp [ownEq, only]
      obtain ⟨listed, rfl⟩ := mem_own.1 member
      rcases phase with unlocked | checked
      · refine .inl (@moves_lock _ _ _ _ state (.check handle) rfl ?_ ?_)
        · simp [afterLock, LockStep.thread, found]
        · simp [lockStep, listed, unlocked]
      · refine .inl (@moves_lock _ _ _ _ state (.delete handle) rfl ?_ ?_)
        · simp [afterLock, LockStep.thread, found]
        · simp [lockStep, listed, checked]

/-! What a thread has left to do. -/

def LifecycleFrame.rank : LifecycleFrame → Nat
  | .startCapture => 18
  | .sessionInit => 17
  | .bugAdd _ => 16
  | .setPrivate _ => 15
  | .sessionStart _ => 14
  | .cleanup _ origin => if origin.isSome then 6 else 13
  | .flushResidue _ _ origin => if origin.isSome then 5 else 12
  | .sendJson _ origin => if origin.isSome then 4 else 11
  | .clearPrivate _ origin => if origin.isSome then 3 else 10
  | .bugRemove _ => 9
  | .finish _ _ => 2
  | .destroy _ _ => 1
  | .command => 2
  | .commandContext _ => 1

def stackRank (stack : List LifecycleFrame) : Nat := total LifecycleFrame.rank stack

def entriesRank (entries : List SessionEntry) : Nat :=
  total (fun entry => entry.frame.rank + 1) entries

def HandlePhase.rank : HandlePhase → Nat
  | .referenced => 4
  | .locked => 3
  | .unlocked => 2
  | .checked => 1

def handlesRank (handles : List (LockHandle τ υ)) : Nat :=
  total (fun handle => handle.phase.rank) handles

def SessionThread.rank : Option (SessionThread υ) → Nat
  | none => 0
  | some current =>
      match current.stage with
      | .acquiring => entriesRank current.task.entries
      | .holding entries stack => entriesRank entries + stackRank stack
      | .releasing => 0

def threadRank (thread : τ) (state : ThreadedState τ υ) : Nat :=
  handlesRank (ownHandles state.lock.handles thread) + SessionThread.rank (state.threads thread)

theorem stackRank_cons (frame : LifecycleFrame) (below : List LifecycleFrame) :
    stackRank (frame :: below) = frame.rank + stackRank below := rfl

theorem frameStep_rank (outcome : Bool) (state : LifecycleState) (below : List LifecycleFrame)
    (frame : LifecycleFrame) :
    stackRank (frameStep outcome state below frame).1.stack + 1 ≤ frame.rank + stackRank below := by
  cases frame with
  | startCapture =>
      cases channel : state.channelPrivate <;> cases outcome <;>
        simp only [frameStep, channel, Bool.false_eq_true, ↓reduceIte, stackRank_cons,
          LifecycleFrame.rank] <;>
        omega
  | cleanup text origin =>
      cases channel : state.channelPrivate <;> cases origin <;>
        simp only [frameStep, channel, Option.isSome_none, Option.isSome_some,
          Bool.false_eq_true, ↓reduceIte, stackRank_cons, LifecycleFrame.rank] <;>
        omega
  | flushResidue text context origin =>
      cases text <;> cases origin <;>
        simp only [frameStep, Option.isSome_none, Option.isSome_some, Bool.false_eq_true,
          ↓reduceIte, stackRank_cons, LifecycleFrame.rank] <;>
        omega
  | sendJson context origin | clearPrivate context origin =>
      cases origin <;>
        simp only [frameStep, Option.isSome_none, Option.isSome_some, Bool.false_eq_true,
          ↓reduceIte, stackRank_cons, LifecycleFrame.rank] <;>
        omega
  | bugRemove context =>
      simp only [frameStep]
      split <;>
        simp only [Option.isSome_some, ↓reduceIte, stackRank_cons, LifecycleFrame.rank] <;>
        omega
  | command =>
      cases channel : state.channelPrivate <;>
        simp only [frameStep, channel, stackRank_cons, LifecycleFrame.rank] <;>
        omega
  | sessionInit | bugAdd | sessionStart =>
      cases outcome <;>
        simp only [frameStep, Option.isSome_none, Bool.false_eq_true, ↓reduceIte, stackRank_cons,
          LifecycleFrame.rank] <;>
        omega
  | setPrivate | finish | destroy | commandContext =>
      simp only [frameStep, stackRank_cons, LifecycleFrame.rank]
      omega

theorem entriesRank_bounded (task : SessionTask) : entriesRank task.entries ≤ 19 := by
  cases task with
  | close context => simp [SessionTask.entries, entriesRank, total, SessionEntry.frame,
      LifecycleFrame.rank]
  | api request =>
      simp only [SessionTask.entries]
      rcases calls_cases request with form | none
      · generalize request.calls = calls at form
        generalize request.uuid :: request.verb :: request.arguments = argv at form
        cases form with
        | tolerant documented => simp [SessionCall.entry, entriesRank, total,
            SessionEntry.frame, LifecycleFrame.rank]
        | requested form =>
            cases form with
            | @mute _ _ _ target _ form | @unmute _ _ _ target _ form =>
                generalize target.map text = named at form
                cases form <;> simp [SessionCall.entry, entriesRank, total, SessionEntry.frame,
                  LifecycleFrame.rank]
            | _ => simp [SessionCall.entry, entriesRank, total, SessionEntry.frame,
                LifecycleFrame.rank]
      · simp [none, entriesRank, total]

theorem handlesRank_erase {own : List (LockHandle τ υ)} {handle : LockHandle τ υ}
    (member : handle ∈ own) :
    handle.phase.rank + handlesRank (own.erase handle) = handlesRank own :=
  @total_erase _ _ (fun handle => handle.phase.rank) _ _ member

omit [DecidableEq τ] [DecidableEq υ] in
theorem handlesRank_cons (handle : LockHandle τ υ) (own : List (LockHandle τ υ)) :
    handlesRank (handle :: own) = handle.phase.rank + handlesRank own := rfl

def LockStep.paid : LockStep τ υ → Nat
  | .lookup _ _ => 4
  | _ => 0

theorem ownChange_rank {own after : List (LockHandle τ υ)} {step : LockStep τ υ}
    (change : OwnChange own step after) :
    (if (ThreadStep.lock step).onward then 1 else 0) + handlesRank after ≤
      handlesRank own + step.paid := by
  cases change with
  | looked =>
      simp [ThreadStep.onward, handlesRank_cons, HandlePhase.rank, LockStep.paid, Nat.add_comm]
  | failed => simp [ThreadStep.onward]
  | dropped handle member phase =>
      have erased := handlesRank_erase member
      simp only [ThreadStep.onward, Bool.false_eq_true, if_false]
      omega
  | locked handle member phase | unlocked handle member phase | checked handle member phase =>
      have erased := handlesRank_erase member
      simp only [ThreadStep.onward, handlesRank_cons, phase, HandlePhase.rank, if_true] at erased ⊢
      omega
  | deleted handle member phase =>
      have erased := handlesRank_erase member
      simp only [ThreadStep.onward, phase, HandlePhase.rank, if_true] at erased ⊢
      omega

omit [DecidableEq υ] in
theorem lockMove_rank {state : ThreadedState τ υ} {step : LockStep τ υ}
    {before after : Option (SessionThread υ)} (move : LockMove state step before after) :
    SessionThread.rank after ≤ SessionThread.rank before := by
  cases move <;> simp [SessionThread.rank, entriesRank, stackRank, total]

def paidBy (thread : τ) : ThreadStep τ υ → Nat
  | .enter entering _ _ => if entering = thread then 23 else 0
  | .lock step => if step.thread = thread then step.paid else 0
  | _ => 0

def onwardBy (thread : τ) (step : ThreadStep τ υ) : Bool :=
  step.onward && step.actor = some thread

theorem threadRank_other {state next : ThreadedState τ υ} {step : ThreadStep τ υ} {thread : τ}
    (moved : ThreadTransition state step next) (other : step.actor ≠ some thread) :
    threadRank thread next = threadRank thread state := by
  cases moved with
  | @entered entering _ _ _ _ _ looked =>
      have apart : thread ≠ entering := fun same => other (congrArg some same.symm)
      have own := (lockStep_own (lockStep_transition looked)).2 thread apart
      simp only [threadRank, setThread, Function.update_of_ne apart, own]
  | locked _ taken =>
      have apart : thread ≠ _ := fun same => other (congrArg some same.symm)
      have own := (lockStep_own (lockStep_transition taken)).2 thread apart
      simp only [threadRank, setThread, Function.update_of_ne apart, own]
  | called | proceeded =>
      have apart : thread ≠ _ := fun same => other (congrArg some same.symm)
      simp only [threadRank, setThread, Function.update_of_ne apart]
  | outside => rfl

theorem threadRank_step {state next : ThreadedState τ υ} {step : ThreadStep τ υ}
    (held : ThreadsInvariant state) (moved : ThreadTransition state step next) (thread : τ) :
    (if onwardBy thread step then 1 else 0) + threadRank thread next ≤
      threadRank thread state + paidBy thread step := by
  by_cases own : step.actor = some thread
  · cases moved with
    | @entered entering session task lock free _ looked =>
        obtain rfl := Option.some.inj own
        have standing := held.handles entering
        have change : OwnChange (ownHandles state.lock.handles entering) (.lookup entering session)
            (ownHandles lock.handles entering) := (lockStep_own (lockStep_transition looked)).1
        have added := ownChange_rank change
        have bounded := entriesRank_bounded task
        simp only [onwardBy, ThreadStep.onward, Bool.false_and, threadRank, setThread,
          Function.update_self, SessionThread.rank, free, paidBy, if_true, LockStep.paid] at added ⊢
        simp only [Bool.false_eq_true, if_false] at added ⊢
        omega
    | @locked step current lock allowed taken =>
        obtain rfl := Option.some.inj own
        have changed := ownChange_rank (lockStep_own (lockStep_transition taken)).1
        have fewer := lockMove_rank (afterLock_move allowed)
        have here : onwardBy step.thread (.lock step) = (ThreadStep.lock step).onward := by
          simp [onwardBy, ThreadStep.actor]
        simp only [here, paidBy, if_true, threadRank, setThread, Function.update_self]
        omega
    | called holds =>
        obtain rfl := Option.some.inj own
        simp only [onwardBy, ThreadStep.onward, ThreadStep.actor, threadRank, setThread,
          Function.update_self, SessionThread.rank, holds, paidBy, entriesRank, stackRank, total]
        simp only [decide_true, Bool.and_self, if_true]
        omega
    | @proceeded acting outcome session _ _ frame below _ holds stepped =>
        obtain rfl := Option.some.inj own
        have fewer := frameStep_rank outcome
          ((state.sessions session).lifecycle (frame :: below)) below frame
        rw [stepped] at fewer
        simp only [onwardBy, ThreadStep.onward, ThreadStep.actor, threadRank, setThread,
          Function.update_self, SessionThread.rank, holds, paidBy, stackRank_cons]
        simp only [decide_true, Bool.and_self, if_true]
        omega
    | outside => cases own
  · have same := threadRank_other moved own
    have idle : onwardBy thread step = false := by simp [onwardBy, own]
    rw [same, idle]
    simp

omit [DecidableEq υ] in
theorem threadRank_initial (thread : τ) : threadRank thread ({} : ThreadedState τ υ) = 0 := rfl

def Kept (state : ThreadedState τ υ) : Prop := ThreadsInvariant state ∧ OwnersHold state.lock

theorem kept_step {state next : ThreadedState τ υ} {step : ThreadStep τ υ} (held : Kept state)
    (taken : threadedStep state step = some next) : Kept next := by
  refine ⟨threadsInvariant_step held.1 taken, ?_⟩
  cases threadedStep_transition taken with
  | entered _ _ looked => exact owners_transition held.2 (lockStep_transition looked)
  | locked _ moved => exact owners_transition held.2 (lockStep_transition moved)
  | called | proceeded | outside => exact held.2

/-- No thread is stuck and none runs on. In every order of commands and callbacks, a thread
makes at most 23 steps for each of its entries and 4 for each nested lookup; and in every
state reached each thread under way can go on, unless it waits for the lifecycle lock of
its session, whose holder then can. -/
theorem threads_never_stuck {steps : List (ThreadStep τ υ)} {state : ThreadedState τ υ}
    (reached : run threadedStep {} steps = some state) :
    (∀ thread, steps.countP (onwardBy thread) ≤ total (paidBy thread) steps) ∧
      ∀ thread current, state.threads thread = some current →
        Moves state thread ∨ current.stage = .acquiring ∧ ∃ holder task entries stack,
          state.threads holder = some ⟨current.session, task, .holding entries stack⟩ ∧
          Moves state holder := by
  have initial : Kept ({} : ThreadedState τ υ) := ⟨threadsInvariant_initial, nofun⟩
  constructor
  · intro thread
    have bound := @run_paid _ _ threadedStep Kept (threadRank thread) (onwardBy thread)
      (paidBy thread) (fun state step next held taken => ⟨kept_step held taken,
        threadRank_step held.1 (threadedStep_transition taken) thread⟩) _ _ _ initial reached
    rw [threadRank_initial] at bound
    omega
  · have held := run_invariant (fun _ _ _ held taken => kept_step held taken) initial reached
    exact fun thread current found => underway_moves held.1 held.2 found

end

theorem threads_never_stuck_muteBoth :
    ∃ state current, run threadedStep {} (muteBoth.take 4) = some state ∧
      state.threads 2 = some current ∧
      (Moves state 2 ∨ current.stage = .acquiring ∧ ∃ holder task entries stack,
        state.threads holder = some ⟨current.session, task, .holding entries stack⟩ ∧
        Moves state holder) := by
  obtain ⟨state, reached, waiting⟩ := @exists_run _ _ threadedStep {} (muteBoth.take 4)
    (fun state => (state.threads 2).isSome = true) (fun _ => inferInstance) (by decide)
  obtain ⟨current, found⟩ := Option.isSome_iff_exists.1 waiting
  exact ⟨state, current, reached, found, (threads_never_stuck reached).2 2 current found⟩

end OpenaiAudioStream
