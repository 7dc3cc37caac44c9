import OpenaiAudioStream.Runs
import Mathlib.Logic.Function.Basic

/-!
The life of the streams of one session: `start_capture`, `stream_session_cleanup`
and the callbacks that meet on the channel private. The lifecycle lock is
recursive, so its holder is a call stack; FreeSWITCH and the WebSocket threads
move between any two of its steps. Contexts are numbered in the order in which
`stream_session_init` made them.
-/

namespace OpenaiAudioStream

/-- `closing` is a bug that prune or hangup unlinked and whose CLOSE callback is
still to come. -/
inductive BugPhase where
  | absent
  | attached
  | closing
  | closed
  deriving DecidableEq, Repr

structure StreamContext where
  bug : BugPhase := .absent
  prune : Bool := false
  closeRequested : Bool := false
  started : Bool := false
  tornDown : Bool := false
  deriving DecidableEq, Repr

/-- Where a call that holds the lifecycle lock stands. `origin` is the context whose
CLOSE callback called `stream_session_cleanup`, none for a command. -/
inductive LifecycleFrame where
  | startCapture
  | sessionInit
  | bugAdd (context : Nat)
  | setPrivate (context : Nat)
  | sessionStart (context : Nat)
  | cleanup (text : Bool) (origin : Option Nat)
  | flushResidue (text : Bool) (context : Nat) (origin : Option Nat)
  | sendJson (context : Nat) (origin : Option Nat)
  | clearPrivate (context : Nat) (origin : Option Nat)
  | bugRemove (context : Nat)
  | finish (context : Nat) (origin : Option Nat)
  | destroy (context : Nat) (origin : Option Nat)
  | command
  | commandContext (context : Nat)
  deriving DecidableEq, Repr

inductive LifecycleEvent where
  | dereferenced (context : Nat)
  | calledBack (context : Nat)
  | closeRequested (context : Nat)
  | pruned (context : Nat)
  | startFailed (context : Nat)
  | removeRefused (context : Nat)
  | tornDown (context : Nat) (origin : Option Nat)
  deriving DecidableEq, Repr

structure LifecycleState where
  contexts : Nat → StreamContext
  created : Nat
  channelPrivate : Option Nat
  -- the calls of the holder of the lifecycle lock, innermost first
  stack : List LifecycleFrame

inductive LifecycleStep where
  | start
  | stop (text : Bool)
  | command
  /-- the holder of the lock goes on; `outcome` is the result of the call it makes -/
  | proceed (outcome : Bool)
  /-- a READ or WRITE callback; `drained` when `write_frame` finds a terminal close -/
  | callback (context : Nat) (drained : Bool)
  | requestClose (context : Nat)
  | prune (context : Nat)
  | hangup (context : Nat)
  /-- the CLOSE callback of a pruned or hung up bug -/
  | close (context : Nat)
  deriving DecidableEq, Repr

def LifecycleState.initial : LifecycleState where
  contexts := fun _ => {}
  created := 0
  channelPrivate := none
  stack := []

def LifecycleState.update (state : LifecycleState) (context : Nat)
    (change : StreamContext → StreamContext) : LifecycleState :=
  { state with
    contexts := Function.update state.contexts context (change (state.contexts context)) }

@[simp] theorem update_self (state : LifecycleState) (context : Nat)
    (change : StreamContext → StreamContext) :
    (state.update context change).contexts context = change (state.contexts context) := by
  simp [LifecycleState.update]

theorem update_other (state : LifecycleState) {context other : Nat} (apart : other ≠ context)
    (change : StreamContext → StreamContext) :
    (state.update context change).contexts other = state.contexts other := by
  simp [LifecycleState.update, apart]

def frameStep (outcome : Bool) (state : LifecycleState) (below : List LifecycleFrame) :
    LifecycleFrame → LifecycleState × List LifecycleEvent
  | .startCapture =>
      match state.channelPrivate with
      | some _ => ({ state with stack := below }, [])
      -- the pre-answer and the read codec may be missing
      | none => ({ state with stack := if outcome then .sessionInit :: below else below }, [])
  | .sessionInit =>
      if outcome then
        ({ state.update state.created (fun _ => {}) with
          created := state.created + 1
          stack := .bugAdd state.created :: below }, [])
      else ({ state with stack := below }, [])
  | .bugAdd context =>
      if outcome then
        ({ state.update context ({ · with bug := .attached }) with
          stack := .setPrivate context :: below }, [])
      -- `stream_session_release`
      else ({ state with stack := .destroy context none :: below }, [])
  | .setPrivate context =>
      ({ state with channelPrivate := some context, stack := .sessionStart context :: below }, [])
  | .sessionStart context =>
      if outcome then
        ({ state.update context ({ · with started := true }) with stack := below },
          [.dereferenced context])
      else
        ({ state with stack := .cleanup false none :: below },
          [.startFailed context, .dereferenced context])
  | .cleanup text origin =>
      match state.channelPrivate with
      | none => ({ state with stack := below }, [])
      | some context => ({ state with stack := .flushResidue text context origin :: below }, [])
  | .flushResidue text context origin =>
      ({ state with
          stack := (if text then .sendJson context origin else .clearPrivate context origin) ::
            below },
        [.dereferenced context])
  | .sendJson context origin =>
      -- `stream_session_send_json` looks the context up again
      ({ state with stack := .clearPrivate context origin :: below },
        state.channelPrivate.toList.map LifecycleEvent.dereferenced)
  | .clearPrivate context origin =>
      ({ state with
        channelPrivate := none
        stack := (if origin.isSome then .finish context origin else .bugRemove context) ::
          below }, [])
  | .bugRemove context =>
      -- a bug that is no longer linked cannot be removed
      if outcome = true ∧ (state.contexts context).bug = .attached then
        -- the CLOSE callback runs inside the removal
        ({ state.update context ({ · with bug := .closed }) with
            stack := .cleanup false (some context) :: .finish context none :: below },
          [.calledBack context])
      else
        ({ state with channelPrivate := some context, stack := below },
          [.removeRefused context, .dereferenced context])
  | .finish context origin =>
      ({ state.update context ({ · with started := false }) with
          stack := .destroy context origin :: below },
        [.dereferenced context])
  | .destroy context origin =>
      ({ state.update context ({ · with started := false, tornDown := true }) with
          stack := below },
        [.tornDown context origin])
  | .command =>
      match state.channelPrivate with
      | none => ({ state with stack := below }, [])
      | some context => ({ state with stack := .commandContext context :: below }, [])
  | .commandContext context => ({ state with stack := below }, [.dereferenced context])

def acquire (state : LifecycleState) (frame : LifecycleFrame) : Option LifecycleState :=
  match state.stack with
  | [] => some { state with stack := [frame] }
  | _ => none

def captureCallback (drained : Bool) (context : Nat) (state : LifecycleState) :
    LifecycleState × List LifecycleEvent :=
  if (state.contexts context).closeRequested then
    (state.update context ({ · with prune := true }),
      [.dereferenced context, .calledBack context])
  else if drained then
    (state.update context ({ · with closeRequested := true }),
      [.closeRequested context, .dereferenced context, .calledBack context])
  else (state, [.dereferenced context, .calledBack context])

def lifecycleStep (state : LifecycleState) :
    LifecycleStep → Option (LifecycleState × List LifecycleEvent)
  | .start => (acquire state .startCapture).map (·, [])
  | .stop text => (acquire state (.cleanup text none)).map (·, [])
  | .command => (acquire state .command).map (·, [])
  | .proceed outcome =>
      match state.stack with
      | [] => none
      | frame :: below => some (frameStep outcome state below frame)
  | .callback context drained =>
      if (state.contexts context).bug = .attached then
        some (captureCallback drained context state)
      else none
  | .requestClose context =>
      if (state.contexts context).started then
        some (state.update context ({ · with closeRequested := true }),
          [.closeRequested context, .dereferenced context])
      else none
  | .prune context =>
      if (state.contexts context).bug = .attached ∧ (state.contexts context).prune then
        some (state.update context ({ · with bug := .closing }), [.pruned context])
      else none
  | .hangup context =>
      if (state.contexts context).bug = .attached then
        some (state.update context ({ · with bug := .closing }), [])
      else none
  | .close context =>
      if (state.contexts context).bug = .closing then
        (acquire (state.update context ({ · with bug := .closed }))
          (.cleanup false (some context))).map (·, [.calledBack context])
      else none

structure RecordedLifecycle where
  state : LifecycleState
  history : List LifecycleEvent

def RecordedLifecycle.initial : RecordedLifecycle where
  state := .initial
  history := []

def recordedLifecycleStep (recorded : RecordedLifecycle) (label : LifecycleStep) :
    Option RecordedLifecycle :=
  (lifecycleStep recorded.state label).map fun moved =>
    ⟨moved.1, moved.2 ++ recorded.history⟩

theorem recordedLifecycleStep_moved {recorded next : RecordedLifecycle} {label : LifecycleStep}
    (taken : recordedLifecycleStep recorded label = some next) :
    ∃ state events, next = ⟨state, events ++ recorded.history⟩ ∧
      lifecycleStep recorded.state label = some (state, events) := by
  obtain ⟨⟨state, events⟩, moved, rfl⟩ := Option.map_eq_some_iff.mp taken
  exact ⟨state, events, rfl, moved⟩

theorem acquire_some {state next : LifecycleState} {frame : LifecycleFrame}
    (taken : acquire state frame = some next) :
    state.stack = [] ∧ next = { state with stack := [frame] } := by
  unfold acquire at taken
  split at taken
  · next free => exact ⟨free, by simpa using taken.symm⟩
  · cases taken

end OpenaiAudioStream
