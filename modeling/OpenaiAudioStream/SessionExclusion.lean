import OpenaiAudioStream.SessionThreads

/-!
The handles that a thread owns say where it stands, and so one thread at a time holds the
lifecycle lock of a session, whatever the threads of all sessions do with the registry.
-/

namespace OpenaiAudioStream

open Runs ThreadedState

section

variable {τ υ : Type*} [DecidableEq τ]

def ownHandles (handles : List (LockHandle τ υ)) (thread : τ) : List (LockHandle τ υ) :=
  handles.filter fun handle => handle.thread = thread

theorem mem_own {handles : List (LockHandle τ υ)} {thread : τ} {handle : LockHandle τ υ} :
    handle ∈ ownHandles handles thread ↔ handle ∈ handles ∧ handle.thread = thread := by
  simp [ownHandles]

inductive Handles (own : List (LockHandle τ υ)) : Option (SessionThread υ) → Prop
  | idle : own = [] → Handles own none
  | acquiring {session task handle} : own = [handle] → handle.session = session →
      handle.phase = .referenced → Handles own (some ⟨session, task, .acquiring⟩)
  | holding {session task entries stack} : (∀ handle ∈ own, handle.session = session) →
      (∃ handle ∈ own, handle.phase = .locked) →
      Handles own (some ⟨session, task, .holding entries stack⟩)
  | releasing {session task handle} : own = [handle] → handle.session = session →
      handle.phase = .unlocked ∨ handle.phase = .checked →
      Handles own (some ⟨session, task, .releasing⟩)

theorem own_cons (handles : List (LockHandle τ υ)) (handle : LockHandle τ υ) :
    ownHandles (handle :: handles) handle.thread = handle :: ownHandles handles handle.thread ∧
      ∀ other, other ≠ handle.thread →
        ownHandles (handle :: handles) other = ownHandles handles other := by
  constructor
  · simp [ownHandles]
  · intro other apart
    simp [ownHandles, apart.symm]

theorem depth_own (state : ThreadedState τ υ) (thread : τ) :
    state.depth thread =
      (ownHandles state.lock.handles thread).countP fun handle => handle.phase = .locked := by
  rw [depth, ownHandles, List.countP_filter]
  congr 1
  funext handle
  simp [Bool.and_comm]

theorem own_single {state : ThreadedState τ υ} {handle : LockHandle τ υ}
    (member : handle ∈ ownHandles state.lock.handles handle.thread)
    (ready : state.lock.ready handle.thread = true) (once : ¬1 < state.depth handle.thread) :
    ownHandles state.lock.handles handle.thread = [handle] := by
  have inside : ∀ other ∈ ownHandles state.lock.handles handle.thread,
      other.phase = .locked := by
    intro other belongs
    obtain ⟨listed, same⟩ := mem_own.1 belongs
    have standing := List.all_eq_true.1 ready other listed
    simpa [same] using standing
  rw [depth_own, List.countP_eq_length.2 (by simpa using inside)] at once
  generalize ownHandles state.lock.handles handle.thread = own at member once
  rcases own with _ | ⟨first, _ | ⟨second, rest⟩⟩
  · simp at member
  · simp only [List.mem_singleton] at member
    rw [member]
  · simp at once

theorem holder_unique {state : ThreadedState τ υ} (lock : LockInvariant state.lock)
    (handles : ∀ thread, Handles (ownHandles state.lock.handles thread) (state.threads thread))
    {first second : τ} {session : υ} {task other : SessionTask}
    {entries more : List SessionEntry} {stack calls : List LifecycleFrame}
    (holds : state.threads first = some ⟨session, task, .holding entries stack⟩)
    (too : state.threads second = some ⟨session, other, .holding more calls⟩) :
    first = second := by
  have owned : ∀ {thread task entries stack},
      state.threads thread = some ⟨session, task, .holding entries stack⟩ →
      ∃ handle ∈ state.lock.handles, handle.thread = thread ∧ handle.session = session ∧
        handle.phase = .locked := by
    intro thread task entries stack inside
    have standing := handles thread
    rw [inside] at standing
    cases standing with
    | holding same held =>
        obtain ⟨handle, member, locked⟩ := held
        obtain ⟨listed, own⟩ := mem_own.1 member
        exact ⟨handle, listed, own, same handle member, locked⟩
  obtain ⟨mine, listed, rfl, here, locked⟩ := owned holds
  obtain ⟨its, member, rfl, there, inside⟩ := owned too
  have entry := lock.entry mine listed (by simp [locked])
  have again := lock.entry its member (by simp [inside])
  rw [there, ← here, entry, Option.some.injEq, Option.some.injEq] at again
  have owner := lock.owner mine listed locked
  rw [again, lock.owner its member inside, Option.some.injEq] at owner
  exact owner.symm

variable [DecidableEq υ]

theorem own_erase (handles : List (LockHandle τ υ)) (handle : LockHandle τ υ) :
    ownHandles (handles.erase handle) handle.thread =
        (ownHandles handles handle.thread).erase handle ∧
      ∀ other, other ≠ handle.thread →
        ownHandles (handles.erase handle) other = ownHandles handles other := by
  constructor
  · exact List.erase_filter.symm
  · intro other apart
    rw [ownHandles, ← List.erase_filter]
    apply List.erase_of_not_mem
    simp [apart.symm]

theorem own_move (lock : LockState τ υ) (handle : LockHandle τ υ) (phase : HandlePhase) :
    ownHandles (lock.move handle phase) handle.thread =
        { handle with phase := phase } :: (ownHandles lock.handles handle.thread).erase handle ∧
      ∀ other, other ≠ handle.thread →
        ownHandles (lock.move handle phase) other = ownHandles lock.handles other := by
  obtain ⟨own, others⟩ := own_erase lock.handles handle
  obtain ⟨added, kept⟩ := own_cons (lock.handles.erase handle) { handle with phase := phase }
  exact ⟨added.trans (by rw [own]),
    fun other apart => (kept other apart).trans (others other apart)⟩

inductive OwnChange (own : List (LockHandle τ υ)) :
    LockStep τ υ → List (LockHandle τ υ) → Prop
  | looked (thread session mutex) :
      OwnChange own (.lookup thread session) (⟨thread, session, mutex, .referenced⟩ :: own)
  | failed (thread session inserted) : OwnChange own (.createFailed thread session inserted) own
  | dropped (handle) : handle ∈ own → handle.phase = .referenced →
      OwnChange own (.handleFailed handle) (own.erase handle)
  | locked (handle) : handle ∈ own → handle.phase = .referenced →
      OwnChange own (.lock handle) ({ handle with phase := .locked } :: own.erase handle)
  | unlocked (handle) : handle ∈ own → handle.phase = .locked →
      OwnChange own (.unlock handle) ({ handle with phase := .unlocked } :: own.erase handle)
  | checked (handle) : handle ∈ own → handle.phase = .unlocked →
      OwnChange own (.check handle) ({ handle with phase := .checked } :: own.erase handle)
  | deleted (handle) : handle ∈ own → handle.phase = .checked →
      OwnChange own (.delete handle) (own.erase handle)

theorem lockStep_own {lock next : LockState τ υ} {step : LockStep τ υ}
    (moved : LockTransition lock step next) :
    OwnChange (ownHandles lock.handles step.thread) step (ownHandles next.handles step.thread) ∧
      ∀ other, other ≠ step.thread →
        ownHandles next.handles other = ownHandles lock.handles other := by
  cases moved with
  | found thread session mutex found =>
      obtain ⟨own, others⟩ := own_cons lock.handles ⟨thread, session, mutex, .referenced⟩
      exact ⟨own ▸ .looked thread session mutex, others⟩
  | created thread session absent =>
      obtain ⟨own, others⟩ :=
        own_cons lock.handles ⟨thread, session, lock.nextMutex, .referenced⟩
      exact ⟨own ▸ .looked thread session _, others⟩
  | entryLeft thread session inserted | createFailed thread session inserted =>
      exact ⟨.failed thread session inserted, fun _ _ => rfl⟩
  | handleFailed handle member standing =>
      obtain ⟨own, others⟩ := own_erase lock.handles handle
      exact ⟨own ▸ .dropped handle (mem_own.2 ⟨member, rfl⟩) standing, others⟩
  | locked handle member standing =>
      obtain ⟨own, others⟩ := own_move lock handle .locked
      exact ⟨own ▸ .locked handle (mem_own.2 ⟨member, rfl⟩) standing, others⟩
  | unlocked handle member standing =>
      obtain ⟨own, others⟩ := own_move lock handle .unlocked
      exact ⟨own ▸ .unlocked handle (mem_own.2 ⟨member, rfl⟩) standing, others⟩
  | erased handle member standing | kept handle member standing =>
      obtain ⟨own, others⟩ := own_move lock handle .checked
      exact ⟨own ▸ .checked handle (mem_own.2 ⟨member, rfl⟩) standing, others⟩
  | deleted handle member standing =>
      obtain ⟨own, others⟩ := own_erase lock.handles handle
      exact ⟨own ▸ .deleted handle (mem_own.2 ⟨member, rfl⟩) standing, others⟩

theorem unlock_ready {lock next : LockState τ υ} {handle : LockHandle τ υ}
    (taken : lockStep lock (.unlock handle) = some next) : lock.ready handle.thread = true := by
  simp only [lockStep, Option.ite_none_right_eq_some] at taken
  exact taken.1.2.2

theorem erase_locked {own : List (LockHandle τ υ)} {handle : LockHandle τ υ}
    (unlocked : handle.phase ≠ .locked) (held : ∃ other ∈ own, other.phase = .locked) :
    ∃ other ∈ own.erase handle, other.phase = .locked := by
  obtain ⟨other, member, locked⟩ := held
  refine ⟨other, (List.mem_erase_of_ne ?_).2 member, locked⟩
  rintro rfl
  exact unlocked locked

theorem depth_scope {state : ThreadedState τ υ} {handle : LockHandle τ υ}
    (deep : 1 < state.depth handle.thread) :
    ∃ other ∈ (ownHandles state.lock.handles handle.thread).erase handle,
      other.phase = .locked := by
  rw [depth_own] at deep
  generalize ownHandles state.lock.handles handle.thread = own at deep ⊢
  have left : 0 < (own.erase handle).countP fun other => decide (other.phase = .locked) := by
    have erased := @List.countP_erase _ _ _ (fun other => decide (other.phase = .locked)) own handle
    split at erased <;> omega
  obtain ⟨other, member, locked⟩ := List.countP_pos_iff.1 left
  exact ⟨other, member, by simpa using locked⟩

theorem scope_handles {state : ThreadedState τ υ} {step : LockStep τ υ} {session : υ}
    {own after : List (LockHandle τ υ)}
    (ownEq : ownHandles state.lock.handles step.thread = own)
    (same : ∀ handle ∈ own, handle.session = session)
    (held : ∃ handle ∈ own, handle.phase = .locked)
    (change : OwnChange own step after)
    (deep : ∀ handle, step = .unlock handle → 1 < state.depth handle.thread)
    (there : ∀ thread other, step = .lookup thread other → other = session)
    (unfailed : ∀ handle, step ≠ .handleFailed handle) :
    (∀ handle ∈ after, handle.session = session) ∧ ∃ handle ∈ after, handle.phase = .locked := by
  have moved : ∀ {handle : LockHandle τ υ} {phase}, handle ∈ own →
      ∀ other ∈ { handle with phase := phase } :: own.erase handle, other.session = session := by
    intro handle phase member other belongs
    rcases List.mem_cons.1 belongs with rfl | old
    · exact same handle member
    · exact same other (List.mem_of_mem_erase old)
  have further : ∀ {handle : LockHandle τ υ} {phase},
      (∃ other ∈ own.erase handle, other.phase = .locked) →
      ∃ other ∈ { handle with phase := phase } :: own.erase handle, other.phase = .locked := by
    rintro handle phase ⟨other, member, locked⟩
    exact ⟨other, List.mem_cons_of_mem _ member, locked⟩
  cases change with
  | looked thread other mutex =>
      obtain rfl := there thread other rfl
      refine ⟨?_, ?_⟩
      · intro handle member
        rcases List.mem_cons.1 member with rfl | old
        · rfl
        · exact same handle old
      · obtain ⟨handle, member, locked⟩ := held
        exact ⟨handle, List.mem_cons_of_mem _ member, locked⟩
  | failed => exact ⟨same, held⟩
  | dropped handle => exact absurd rfl (unfailed handle)
  | locked handle member waiting => exact ⟨moved member, _, List.mem_cons_self, rfl⟩
  | unlocked handle member inside =>
      subst ownEq
      exact ⟨moved member, further (depth_scope (deep handle rfl))⟩
  | checked handle member standing =>
      exact ⟨moved member, further (erase_locked (by simp [standing]) held)⟩
  | deleted handle member standing =>
      exact ⟨fun other belongs => same other (List.mem_of_mem_erase belongs),
        erase_locked (by simp [standing]) held⟩

theorem afterLock_handles {state : ThreadedState τ υ} {next : LockState τ υ}
    {step : LockStep τ υ} {current : Option (SessionThread υ)}
    (standing : Handles (ownHandles state.lock.handles step.thread) (state.threads step.thread))
    (allowed : state.afterLock step = some current)
    (taken : lockStep state.lock step = some next) :
    Handles (ownHandles next.handles step.thread) current := by
  have change := (lockStep_own (lockStep_transition taken)).1
  have move := afterLock_move allowed
  generalize ownEq : ownHandles state.lock.handles step.thread = own at standing change
  generalize ownHandles next.handles step.thread = after at change
  generalize state.threads step.thread = before at standing move
  cases move with
  | failed =>
      cases standing with
      | idle free =>
          cases change
          exact .idle free
  | dropped =>
      cases standing with
      | acquiring only same waiting =>
          cases change with
          | dropped handle member =>
              subst only
              obtain rfl := List.mem_singleton.1 member
              exact .idle (by simp)
  | granted =>
      cases standing with
      | acquiring only same waiting =>
          cases change with
          | locked handle member =>
              subst only
              obtain rfl := List.mem_singleton.1 member
              refine .holding ?_ ⟨_, List.mem_cons_self, rfl⟩
              simpa using same
  | scope deep there unfailed =>
      cases standing with
      | holding same held =>
          obtain ⟨sessions, locked⟩ :=
            scope_handles ownEq same held change deep there unfailed
          exact .holding sessions locked
  | @released handle session task once =>
      cases standing with
      | holding same held =>
          cases change with
          | unlocked _ member inside =>
              have only : own = [handle] := by
                rw [← ownEq] at member ⊢
                exact own_single member (unlock_ready taken) once
              subst only
              rw [List.erase_cons_head]
              exact .releasing rfl (same handle (by simp)) (.inl rfl)
  | checked =>
      cases standing with
      | releasing only same =>
          cases change with
          | checked handle member =>
              subst only
              obtain rfl := List.mem_singleton.1 member
              rw [List.erase_cons_head]
              exact .releasing rfl same (.inr rfl)
  | deleted =>
      cases standing with
      | releasing only same =>
          cases change with
          | deleted handle member =>
              subst only
              obtain rfl := List.mem_singleton.1 member
              exact .idle (by simp)

end

end OpenaiAudioStream
