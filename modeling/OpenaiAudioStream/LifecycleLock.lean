import Mathlib.Data.List.Perm.Basic
import Mathlib.Logic.Function.Basic
import OpenaiAudioStream.Runs

/-!
The lock behind `stream_session_lifecycle_lock`: a registry of weak references to
recursive mutexes, one for each session, and handles that own a reference each. A
step is a critical section of the registry mutex, or one operation outside it.
Mutex objects are numbered in the order in which they were made.
-/

namespace OpenaiAudioStream

structure RecursiveMutex (τ : Type*) where
  owner : Option τ := none
  depth : Nat := 0

/-- `referenced` owns a reference and waits for the mutex; `unlocked` and `checked`
stand before and after the registry section of the release. -/
inductive HandlePhase where
  | referenced
  | locked
  | unlocked
  | checked
  deriving DecidableEq, Repr

/-- A `LifecycleLockHandle`, from the reference it is made with until its deletion. -/
structure LockHandle (τ υ : Type*) where
  thread : τ
  session : υ
  mutex : Nat
  phase : HandlePhase
  deriving DecidableEq, Repr

structure LockState (τ υ : Type*) where
  -- `lifecycle_mutexes`: an entry is a weak reference, possibly empty
  registry : υ → Option (Option Nat) := fun _ => none
  mutexes : Nat → RecursiveMutex τ := fun _ => {}
  nextMutex : Nat := 0
  handles : List (LockHandle τ υ) := []

/-- `lookup` is the registry section of `acquire_lifecycle_lock` and `lock` its rest;
`unlock`, `check` and `delete` are `release_lifecycle_lock`. The failures are those
of an allocation: of the entry or the mutex, and of the handle. -/
inductive LockStep (τ υ : Type*) where
  | lookup (thread : τ) (session : υ)
  | createFailed (thread : τ) (session : υ) (inserted : Bool)
  | handleFailed (handle : LockHandle τ υ)
  | lock (handle : LockHandle τ υ)
  | unlock (handle : LockHandle τ υ)
  | check (handle : LockHandle τ υ)
  | delete (handle : LockHandle τ υ)
  deriving DecidableEq, Repr

section

variable {τ υ : Type*}

namespace LockState

def useCount (state : LockState τ υ) (mutex : Nat) : Nat :=
  state.handles.countP fun handle => handle.mutex == mutex

def lockWeak (state : LockState τ υ) (weak : Option Nat) : Option Nat :=
  weak.filter fun mutex => 0 < state.useCount mutex

def registered (state : LockState τ υ) (session : υ) : Option Nat :=
  (state.registry session).bind state.lockWeak

variable [DecidableEq τ] [DecidableEq υ]

def ready (state : LockState τ υ) (thread : τ) : Bool :=
  state.handles.all fun handle => handle.thread != thread || handle.phase == .locked

def move (state : LockState τ υ) (handle : LockHandle τ υ) (phase : HandlePhase) :
    List (LockHandle τ υ) :=
  { handle with phase := phase } :: state.handles.erase handle

end LockState

variable [DecidableEq τ] [DecidableEq υ]

def acquireLookup (state : LockState τ υ) (thread : τ) (session : υ) : LockState τ υ :=
  match state.registered session with
  | some mutex =>
      { state with handles := ⟨thread, session, mutex, .referenced⟩ :: state.handles }
  | none =>
      { registry := Function.update state.registry session (some (some state.nextMutex))
        mutexes := Function.update state.mutexes state.nextMutex {}
        nextMutex := state.nextMutex + 1
        handles := ⟨thread, session, state.nextMutex, .referenced⟩ :: state.handles }

def lockMutex (state : LockState τ υ) (handle : LockHandle τ υ) : Option (LockState τ υ) :=
  let mutex := state.mutexes handle.mutex
  if mutex.owner = none ∨ mutex.owner = some handle.thread then
    some { state with
      mutexes := Function.update state.mutexes handle.mutex
        { owner := some handle.thread, depth := mutex.depth + 1 }
      handles := state.move handle .locked }
  else none

def unlockMutex (state : LockState τ υ) (handle : LockHandle τ υ) : LockState τ υ :=
  let mutex := state.mutexes handle.mutex
  { state with
    mutexes := Function.update state.mutexes handle.mutex
      { owner := if mutex.depth = 1 then none else mutex.owner, depth := mutex.depth - 1 }
    handles := state.move handle .unlocked }

def releaseErases (state : LockState τ υ) (handle : LockHandle τ υ) : Bool :=
  match state.registry handle.session with
  | none => false
  | some weak =>
      state.useCount handle.mutex == 1 && state.lockWeak weak == some handle.mutex

def releaseCheck (state : LockState τ υ) (handle : LockHandle τ υ) : LockState τ υ :=
  { state with
    registry :=
      if releaseErases state handle then Function.update state.registry handle.session none
      else state.registry
    handles := state.move handle .checked }

def lockStep (state : LockState τ υ) : LockStep τ υ → Option (LockState τ υ)
  | .lookup thread session =>
      if state.ready thread then some (acquireLookup state thread session) else none
  | .createFailed thread session inserted =>
      if state.ready thread ∧ state.registered session = none then
        some (if inserted ∧ state.registry session = none then
            { state with registry := Function.update state.registry session (some none) }
          else state)
      else none
  | .handleFailed handle =>
      if handle ∈ state.handles ∧ handle.phase = .referenced then
        some { state with handles := state.handles.erase handle }
      else none
  | .lock handle =>
      if handle ∈ state.handles ∧ handle.phase = .referenced then lockMutex state handle
      else none
  | .unlock handle =>
      if handle ∈ state.handles ∧ handle.phase = .locked ∧ state.ready handle.thread then
        some (unlockMutex state handle)
      else none
  | .check handle =>
      if handle ∈ state.handles ∧ handle.phase = .unlocked then some (releaseCheck state handle)
      else none
  | .delete handle =>
      if handle ∈ state.handles ∧ handle.phase = .checked then
        some { state with handles := state.handles.erase handle }
      else none

inductive LockTransition (state : LockState τ υ) : LockStep τ υ → LockState τ υ → Prop
  | found (thread session mutex) : state.registered session = some mutex →
      LockTransition state (.lookup thread session)
        { state with handles := ⟨thread, session, mutex, .referenced⟩ :: state.handles }
  | created (thread session) : state.registered session = none →
      LockTransition state (.lookup thread session)
        { registry := Function.update state.registry session (some (some state.nextMutex))
          mutexes := Function.update state.mutexes state.nextMutex {}
          nextMutex := state.nextMutex + 1
          handles := ⟨thread, session, state.nextMutex, .referenced⟩ :: state.handles }
  | entryLeft (thread session inserted) : state.registry session = none →
      LockTransition state (.createFailed thread session inserted)
        { state with registry := Function.update state.registry session (some none) }
  | createFailed (thread session inserted) : state.registered session = none →
      LockTransition state (.createFailed thread session inserted) state
  | handleFailed (handle) : handle ∈ state.handles → handle.phase = .referenced →
      LockTransition state (.handleFailed handle)
        { state with handles := state.handles.erase handle }
  | locked (handle) : handle ∈ state.handles → handle.phase = .referenced →
      (state.mutexes handle.mutex).owner = none ∨
        (state.mutexes handle.mutex).owner = some handle.thread →
      LockTransition state (.lock handle)
        { state with
          mutexes := Function.update state.mutexes handle.mutex
            { owner := some handle.thread, depth := (state.mutexes handle.mutex).depth + 1 }
          handles := state.move handle .locked }
  | unlocked (handle) : handle ∈ state.handles → handle.phase = .locked →
      LockTransition state (.unlock handle) (unlockMutex state handle)
  | erased (handle) : handle ∈ state.handles → handle.phase = .unlocked →
      releaseErases state handle = true →
      LockTransition state (.check handle)
        { state with
          registry := Function.update state.registry handle.session none
          handles := state.move handle .checked }
  | kept (handle) : handle ∈ state.handles → handle.phase = .unlocked →
      releaseErases state handle = false →
      LockTransition state (.check handle) { state with handles := state.move handle .checked }
  | deleted (handle) : handle ∈ state.handles → handle.phase = .checked →
      LockTransition state (.delete handle) { state with handles := state.handles.erase handle }

theorem lockStep_transition {state next : LockState τ υ} {label : LockStep τ υ}
    (taken : lockStep state label = some next) : LockTransition state label next := by
  cases label with
  | lookup thread session =>
      simp only [lockStep] at taken
      split at taken
      · cases taken
        unfold acquireLookup
        split
        · rename_i mutex found
          exact .found thread session mutex found
        · rename_i absent
          exact .created thread session absent
      · cases taken
  | createFailed thread session inserted =>
      simp only [lockStep] at taken
      split at taken
      · rename_i allowed
        cases taken
        split
        · rename_i left
          exact .entryLeft thread session inserted left.2
        · exact .createFailed thread session inserted allowed.2
      · cases taken
  | handleFailed handle =>
      simp only [lockStep] at taken
      split at taken
      · rename_i standing
        cases taken
        exact .handleFailed handle standing.1 standing.2
      · cases taken
  | lock handle =>
      simp only [lockStep] at taken
      split at taken
      · rename_i standing
        unfold lockMutex at taken
        simp only at taken
        split at taken
        · rename_i free
          cases taken
          exact .locked handle standing.1 standing.2 free
        · cases taken
      · cases taken
  | unlock handle =>
      simp only [lockStep] at taken
      split at taken
      · rename_i standing
        cases taken
        exact .unlocked handle standing.1 standing.2.1
      · cases taken
  | check handle =>
      simp only [lockStep] at taken
      split at taken
      · rename_i standing
        cases taken
        unfold releaseCheck
        by_cases erases : releaseErases state handle = true
        · rw [if_pos erases]
          exact .erased handle standing.1 standing.2 erases
        · rw [if_neg erases]
          exact .kept handle standing.1 standing.2 (by simpa using erases)
      · cases taken
  | delete handle =>
      simp only [lockStep] at taken
      split at taken
      · rename_i standing
        cases taken
        exact .deleted handle standing.1 standing.2
      · cases taken

end

end OpenaiAudioStream
