import OpenaiAudioStream.LifecycleLock

/-!
Mutual exclusion of the lifecycle lock: whoever owns or waits for a mutex keeps it
registered for its session, so every later acquisition waits for the same one.
-/

namespace OpenaiAudioStream

section

variable {τ υ : Type*}

def holdsMutex (mutex : Nat) (handle : LockHandle τ υ) : Bool :=
  handle.phase == .locked && handle.mutex == mutex

def LockState.lockedCount (state : LockState τ υ) (mutex : Nat) : Nat :=
  state.handles.countP (holdsMutex mutex)

structure LockInvariant (state : LockState τ υ) : Prop where
  fresh : ∀ handle ∈ state.handles, handle.mutex < state.nextMutex
  freshEntry : ∀ session mutex, state.registry session = some (some mutex) →
    mutex < state.nextMutex
  -- a release that has not come to its check finds its own mutex registered
  entry : ∀ handle ∈ state.handles, handle.phase ≠ .checked →
    state.registry handle.session = some (some handle.mutex)
  named : ∀ session mutex, state.registry session = some (some mutex) →
    ∀ handle ∈ state.handles, handle.mutex = mutex → handle.session = session
  depth : ∀ mutex, (state.mutexes mutex).depth = state.lockedCount mutex
  owner : ∀ handle ∈ state.handles, handle.phase = .locked →
    (state.mutexes handle.mutex).owner = some handle.thread

theorem lockInvariant_initial : LockInvariant ({} : LockState τ υ) := by
  constructor <;> simp [LockState.lockedCount]

theorem useCount_of_registered {state : LockState τ υ} {session : υ} {mutex : Nat}
    (found : state.registered session = some mutex) :
    state.registry session = some (some mutex) ∧
      ∃ handle ∈ state.handles, handle.mutex = mutex := by
  simp only [LockState.registered, LockState.lockWeak, Option.bind_eq_some_iff,
    Option.filter_eq_some_iff, decide_eq_true_eq] at found
  obtain ⟨weak, entry, rfl, used⟩ := found
  obtain ⟨handle, member, same⟩ := List.countP_pos_iff.mp used
  exact ⟨entry, handle, member, by simpa using same⟩

theorem registered_of_entry {state : LockState τ υ} {session : υ} {handle : LockHandle τ υ}
    (member : handle ∈ state.handles)
    (entry : state.registry session = some (some handle.mutex)) :
    state.registered session = some handle.mutex := by
  have used : 0 < state.useCount handle.mutex :=
    List.countP_pos_iff.mpr ⟨handle, member, by simp⟩
  simp [LockState.registered, LockState.lockWeak, entry, used]

theorem found_invariant {state : LockState τ υ} (held : LockInvariant state) {thread : τ}
    {session : υ} {mutex : Nat}
    (found : state.registered session = some mutex) :
    LockInvariant
      { state with handles := ⟨thread, session, mutex, .referenced⟩ :: state.handles } := by
  obtain ⟨entry, user, member, same⟩ := useCount_of_registered found
  constructor
  · intro handle belongs
    rcases List.mem_cons.mp belongs with rfl | older
    · exact held.freshEntry session mutex entry
    · exact held.fresh handle older
  · exact held.freshEntry
  · intro handle belongs unchecked
    rcases List.mem_cons.mp belongs with rfl | older
    · exact entry
    · exact held.entry handle older unchecked
  · intro other registered present handle belongs equal
    rcases List.mem_cons.mp belongs with rfl | older
    · simp only at equal
      rw [← held.named session mutex entry user member same]
      exact held.named other registered present user member (same.trans equal)
    · exact held.named other registered present handle older equal
  · intro other
    simpa [LockState.lockedCount, holdsMutex] using held.depth other
  · intro handle belongs locked
    rcases List.mem_cons.mp belongs with rfl | older
    · cases locked
    · exact held.owner handle older locked

theorem created_invariant [DecidableEq υ] {state : LockState τ υ} (held : LockInvariant state)
    {thread : τ} {session : υ}
    (absent : state.registered session = none) :
    LockInvariant
      { registry := Function.update state.registry session (some (some state.nextMutex))
        mutexes := Function.update state.mutexes state.nextMutex {}
        nextMutex := state.nextMutex + 1
        handles := ⟨thread, session, state.nextMutex, .referenced⟩ :: state.handles } := by
  have unregistered (handle : LockHandle τ υ) (member : handle ∈ state.handles)
      (unchecked : handle.phase ≠ .checked) : handle.session ≠ session := by
    rintro rfl
    have found := registered_of_entry member (held.entry handle member unchecked)
    rw [absent] at found
    cases found
  constructor
  · intro handle belongs
    rcases List.mem_cons.mp belongs with rfl | older
    · exact Nat.lt_succ_self _
    · exact Nat.lt_succ_of_lt (held.fresh handle older)
  · intro other mutex present
    by_cases same : other = session
    · subst same
      simp only [Function.update_self, Option.some.injEq] at present
      exact present ▸ Nat.lt_succ_self _
    · simp only [Function.update_of_ne same] at present
      exact Nat.lt_succ_of_lt (held.freshEntry other mutex present)
  · intro handle belongs unchecked
    rcases List.mem_cons.mp belongs with rfl | older
    · simp
    · simp only [Function.update_of_ne (unregistered handle older unchecked)]
      exact held.entry handle older unchecked
  · intro other mutex present handle belongs equal
    by_cases same : other = session
    · subst same
      simp only [Function.update_self, Option.some.injEq] at present
      rcases List.mem_cons.mp belongs with rfl | older
      · rfl
      · have below := held.fresh handle older
        omega
    · simp only [Function.update_of_ne same] at present
      rcases List.mem_cons.mp belongs with rfl | older
      · have below := held.freshEntry other mutex present
        simp only at equal
        omega
      · exact held.named other mutex present handle older equal
  · intro mutex
    by_cases same : mutex = state.nextMutex
    · subst same
      have none_ : state.lockedCount state.nextMutex = 0 := by
        refine List.countP_eq_zero.mpr fun handle member => ?_
        have below := held.fresh handle member
        simp only [holdsMutex, Bool.and_eq_true, beq_iff_eq, not_and]
        intro _ equal
        omega
      simpa [LockState.lockedCount, holdsMutex] using none_.symm
    · simpa [LockState.lockedCount, holdsMutex, Function.update_of_ne same] using held.depth mutex
  · intro handle belongs locked
    rcases List.mem_cons.mp belongs with rfl | older
    · cases locked
    · have below := held.fresh handle older
      simp only [Function.update_of_ne (Nat.ne_of_lt below)]
      exact held.owner handle older locked

variable [DecidableEq τ] [DecidableEq υ]

theorem entry_of_update {registry : υ → Option (Option Nat)} {session other : υ} {mutex : Nat}
    {entry : Option (Option Nat)} (unnamed : ∀ named, entry ≠ some (some named))
    (present : Function.update registry session entry other = some (some mutex)) :
    registry other = some (some mutex) := by
  by_cases same : other = session
  · rw [same, Function.update_self] at present
    exact absurd present (unnamed mutex)
  · rwa [Function.update_of_ne same] at present

theorem mem_move {state : LockState τ υ} {handle other : LockHandle τ υ} {phase : HandlePhase} :
    other ∈ state.move handle phase ↔
      other = { handle with phase := phase } ∨ other ∈ state.handles.erase handle := by
  rw [LockState.move, List.mem_cons]

theorem countP_erase_of_mem {handles : List (LockHandle τ υ)} {handle : LockHandle τ υ}
    (member : handle ∈ handles) (p : LockHandle τ υ → Bool) :
    handles.countP p = (handles.erase handle).countP p + if p handle then 1 else 0 := by
  rw [(List.perm_cons_erase member).countP_eq, List.countP_cons]

theorem lockedCount_erase {state : LockState τ υ} {handle : LockHandle τ υ}
    (member : handle ∈ state.handles) (mutex : Nat) :
    state.lockedCount mutex =
      (state.handles.erase handle).countP (holdsMutex mutex) +
        if handle.phase = .locked ∧ handle.mutex = mutex then 1 else 0 := by
  rw [LockState.lockedCount, countP_erase_of_mem member]
  simp only [holdsMutex, Bool.and_eq_true, beq_iff_eq]

theorem lockedCount_move (state : LockState τ υ) (handle : LockHandle τ υ) (phase : HandlePhase)
    (mutex : Nat) :
    (state.move handle phase).countP (holdsMutex mutex) =
      (state.handles.erase handle).countP (holdsMutex mutex) +
        if phase = .locked ∧ handle.mutex = mutex then 1 else 0 := by
  rw [LockState.move, List.countP_cons]
  simp only [holdsMutex, Bool.and_eq_true, beq_iff_eq]

theorem alone_of_erases {state : LockState τ υ} {handle other : LockHandle τ υ}
    (member : handle ∈ state.handles) (erases : releaseErases state handle = true)
    (left : other ∈ state.handles.erase handle) : other.mutex ≠ handle.mutex := by
  intro same
  unfold releaseErases at erases
  split at erases
  · cases erases
  · simp only [Bool.and_eq_true, beq_iff_eq] at erases
    have both := countP_erase_of_mem member fun each => each.mutex == handle.mutex
    have another : 0 < (state.handles.erase handle).countP fun each => each.mutex == handle.mutex :=
      List.countP_pos_iff.mpr ⟨other, left, by simpa using same⟩
    have single := erases.1
    simp only [LockState.useCount] at single
    simp only [beq_self_eq_true, if_true] at both
    omega

section

variable {state : LockState τ υ} (held : LockInvariant state)
include held

theorem dropped_invariant {handle : LockHandle τ υ} (member : handle ∈ state.handles)
    (outside : handle.phase ≠ .locked) :
    LockInvariant { state with handles := state.handles.erase handle } := by
  have older {other : LockHandle τ υ} (left : other ∈ state.handles.erase handle) :
      other ∈ state.handles := List.mem_of_mem_erase left
  constructor
  · exact fun other left => held.fresh other (older left)
  · exact held.freshEntry
  · exact fun other left => held.entry other (older left)
  · exact fun session mutex present other left =>
      held.named session mutex present other (older left)
  · intro mutex
    have counted := lockedCount_erase member mutex
    rw [if_neg (by simp [outside]), Nat.add_zero] at counted
    exact (held.depth mutex).trans counted
  · exact fun other left => held.owner other (older left)

theorem moved_invariant {handle : LockHandle τ υ} {phase : HandlePhase}
    {registry : υ → Option (Option Nat)} {mutexes : Nat → RecursiveMutex τ}
    (member : handle ∈ state.handles)
    (narrower : ∀ session mutex, registry session = some (some mutex) →
      state.registry session = some (some mutex))
    (entry : ∀ other ∈ state.move handle phase, other.phase ≠ .checked →
      registry other.session = some (some other.mutex))
    (depth : ∀ mutex, (mutexes mutex).depth =
      (state.move handle phase).countP (holdsMutex mutex))
    (owner : ∀ other ∈ state.move handle phase, other.phase = .locked →
      (mutexes other.mutex).owner = some other.thread) :
    LockInvariant
      { state with
        registry := registry, mutexes := mutexes, handles := state.move handle phase } := by
  constructor
  · intro other belongs
    rcases mem_move.mp belongs with rfl | left
    · exact held.fresh handle member
    · exact held.fresh other (List.mem_of_mem_erase left)
  · exact fun session mutex present =>
      held.freshEntry session mutex (narrower session mutex present)
  · exact entry
  · intro session mutex present other belongs same
    have before := narrower session mutex present
    rcases mem_move.mp belongs with rfl | left
    · exact held.named session mutex before handle member same
    · exact held.named session mutex before other (List.mem_of_mem_erase left) same
  · exact depth
  · exact owner

theorem locked_invariant {handle : LockHandle τ υ} (member : handle ∈ state.handles)
    (waiting : handle.phase = .referenced)
    (free : (state.mutexes handle.mutex).owner = none ∨
      (state.mutexes handle.mutex).owner = some handle.thread) :
    LockInvariant
      { state with
        mutexes := Function.update state.mutexes handle.mutex
          { owner := some handle.thread, depth := (state.mutexes handle.mutex).depth + 1 }
        handles := state.move handle .locked } := by
  apply moved_invariant held member (fun _ _ present => present)
  · intro other belongs unchecked
    rcases mem_move.mp belongs with rfl | left
    · exact held.entry handle member (by simp [waiting])
    · exact held.entry other (List.mem_of_mem_erase left) unchecked
  · intro mutex
    have counted := lockedCount_erase member mutex
    rw [if_neg (by simp [waiting]), Nat.add_zero, ← held.depth] at counted
    rw [lockedCount_move, ← counted]
    by_cases same : mutex = handle.mutex
    · subst same
      simp
    · simp [Function.update_of_ne same, Ne.symm same]
  · intro other belongs inside
    rcases mem_move.mp belongs with rfl | left
    · simp
    · by_cases same : other.mutex = handle.mutex
      · have owned := held.owner other (List.mem_of_mem_erase left) inside
        rw [same] at owned
        simp only [same, Function.update_self]
        rcases free with none_ | mine
        · rw [none_] at owned
          cases owned
        · rw [← mine, owned]
      · simp only [Function.update_of_ne same]
        exact held.owner other (List.mem_of_mem_erase left) inside

theorem unlocked_invariant {handle : LockHandle τ υ} (member : handle ∈ state.handles)
    (inside : handle.phase = .locked) : LockInvariant (unlockMutex state handle) := by
  have counted (mutex : Nat) := (held.depth mutex).trans (lockedCount_erase member mutex)
  apply moved_invariant held member (fun _ _ present => present)
  · intro other belongs unchecked
    rcases mem_move.mp belongs with rfl | left
    · exact held.entry handle member (by simp [inside])
    · exact held.entry other (List.mem_of_mem_erase left) unchecked
  · intro mutex
    have before := counted mutex
    rw [lockedCount_move]
    by_cases same : mutex = handle.mutex
    · subst same
      rw [if_pos ⟨inside, rfl⟩] at before
      simp [before]
    · rw [if_neg (by simp [Ne.symm same])] at before
      simpa [Function.update_of_ne same] using before
  · intro other belongs locked
    rcases mem_move.mp belongs with rfl | left
    · cases locked
    · have owned := held.owner other (List.mem_of_mem_erase left) locked
      by_cases same : other.mutex = handle.mutex
      · -- this handle is locked as well, so the depth was not yet one
        have before := counted handle.mutex
        rw [if_pos ⟨inside, rfl⟩] at before
        have another : 0 < (state.handles.erase handle).countP (holdsMutex handle.mutex) :=
          List.countP_pos_iff.mpr ⟨other, left, by simp [holdsMutex, locked, same]⟩
        rw [same] at owned
        simp only [same, Function.update_self]
        rw [if_neg (by omega), owned]
      · simp only [Function.update_of_ne same]
        exact owned

theorem checked_invariant {handle : LockHandle τ υ} (member : handle ∈ state.handles)
    (standing : handle.phase = .unlocked) {registry : υ → Option (Option Nat)}
    (narrower : ∀ session mutex, registry session = some (some mutex) →
      state.registry session = some (some mutex))
    (entry : ∀ other ∈ state.handles.erase handle, other.phase ≠ .checked →
      registry other.session = some (some other.mutex)) :
    LockInvariant { state with registry := registry, handles := state.move handle .checked } := by
  apply moved_invariant held member narrower
  · intro other belongs unchecked
    rcases mem_move.mp belongs with rfl | left
    · exact absurd rfl unchecked
    · exact entry other left unchecked
  · intro mutex
    have counted := (held.depth mutex).trans (lockedCount_erase member mutex)
    rw [if_neg (by simp [standing])] at counted
    rw [lockedCount_move, if_neg (by simp)]
    exact counted
  · intro other belongs locked
    rcases mem_move.mp belongs with rfl | left
    · cases locked
    · exact held.owner other (List.mem_of_mem_erase left) locked

end

theorem lockInvariant_transition {state next : LockState τ υ} {label : LockStep τ υ}
    (held : LockInvariant state) (moved : LockTransition state label next) :
    LockInvariant next := by
  cases moved with
  | found thread session mutex found => exact found_invariant held found
  | created thread session absent => exact created_invariant held absent
  | entryLeft thread session inserted empty =>
      refine ⟨held.fresh, ?_, ?_, ?_, held.depth, held.owner⟩
      · intro other mutex present
        exact held.freshEntry other mutex (entry_of_update (by simp) present)
      · intro handle member unchecked
        have entry := held.entry handle member unchecked
        have different : handle.session ≠ session := by
          rintro rfl
          rw [empty] at entry
          cases entry
        simp only [Function.update_of_ne different]
        exact entry
      · intro other mutex present
        exact held.named other mutex (entry_of_update (by simp) present)
  | createFailed => exact held
  | handleFailed handle member standing => exact dropped_invariant held member (by simp [standing])
  | locked handle member waiting free => exact locked_invariant held member waiting free
  | unlocked handle member inside => exact unlocked_invariant held member inside
  | erased handle member standing erases =>
      apply checked_invariant held member standing
      · intro session mutex present
        exact entry_of_update (by simp) present
      · intro other left unchecked
        have entry := held.entry other (List.mem_of_mem_erase left) unchecked
        have different : other.session ≠ handle.session := by
          intro same
          have own := held.entry handle member (by simp [standing])
          rw [same, own] at entry
          exact alone_of_erases member erases left (by simpa using entry.symm)
        rwa [Function.update_of_ne different]
  | kept handle member standing _ =>
      exact checked_invariant held member standing (fun _ _ present => present)
        fun other left => held.entry other (List.mem_of_mem_erase left)
  | deleted handle member standing => exact dropped_invariant held member (by simp [standing])

theorem lockInvariant_run {labels : List (LockStep τ υ)} {state : LockState τ υ}
    (reached : Runs.run lockStep {} labels = some state) : LockInvariant state :=
  Runs.run_invariant
    (fun _ _ _ held taken => lockInvariant_transition held (lockStep_transition taken))
    lockInvariant_initial reached

/-- Two holders for one session are one thread, and while a handle owns or waits for
the mutex of a session every lookup for that session takes the same mutex. -/
theorem lifecycle_lock_excludes {labels : List (LockStep τ υ)} {state : LockState τ υ}
    (reached : Runs.run lockStep {} labels = some state) :
    (∀ first ∈ state.handles, ∀ second ∈ state.handles, first.phase = .locked →
        second.phase = .locked → first.session = second.session →
        first.thread = second.thread) ∧
      ∀ handle ∈ state.handles, handle.phase = .referenced ∨ handle.phase = .locked →
        ∀ thread next, lockStep state (.lookup thread handle.session) = some next →
          next.handles = ⟨thread, handle.session, handle.mutex, .referenced⟩ :: state.handles := by
  have held := lockInvariant_run reached
  constructor
  · intro first belongs second member lockedFirst lockedSecond same
    have entryFirst := held.entry first belongs (by simp [lockedFirst])
    have entrySecond := held.entry second member (by simp [lockedSecond])
    rw [same, entrySecond] at entryFirst
    have mutex : second.mutex = first.mutex := by simpa using entryFirst
    have ownerFirst := held.owner first belongs lockedFirst
    have ownerSecond := held.owner second member lockedSecond
    rw [mutex, ownerFirst] at ownerSecond
    simpa using ownerSecond
  · intro handle member standing thread next taken
    have unchecked : handle.phase ≠ .checked := by
      rcases standing with waiting | inside
      · simp [waiting]
      · simp [inside]
    have found := registered_of_entry member (held.entry handle member unchecked)
    simp only [lockStep] at taken
    split at taken
    · cases taken
      simp [acquireLookup, found]
    · cases taken

def waitingHandle (thread : Nat) : LockHandle Nat Nat := ⟨thread, 0, 0, .referenced⟩

theorem lifecycle_lock_excludes_nested :
    ∃ state : LockState Nat Nat, Runs.run lockStep {}
        [.lookup 1 0, .lock (waitingHandle 1), .lookup 1 0, .lock (waitingHandle 1),
          .lookup 2 0] = some state ∧
      ∀ first ∈ state.handles, ∀ second ∈ state.handles, first.phase = .locked →
        second.phase = .locked → first.session = second.session →
        first.thread = second.thread := by
  obtain ⟨state, reached⟩ := Option.isSome_iff_exists.mp
    (by decide : (Runs.run lockStep ({} : LockState Nat Nat)
      [.lookup 1 0, .lock (waitingHandle 1), .lookup 1 0, .lock (waitingHandle 1),
        .lookup 2 0]).isSome = true)
  exact ⟨state, reached, (lifecycle_lock_excludes reached).1⟩

end

end OpenaiAudioStream
