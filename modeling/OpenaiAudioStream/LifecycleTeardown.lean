import OpenaiAudioStream.LifecycleCore

/-!
At most one context of a session is not torn down. Every step keeps it in place,
makes it or tears it down, and what the channel private and the call stack hold
follows from the stage that it has reached.
-/

namespace OpenaiAudioStream

def BugPhase.quiet : BugPhase → Bool
  | .absent => true
  | .attached => false
  | .closing => false
  | .closed => true

structure Retired (state : LifecycleState) (context : Nat) : Prop where
  quiet : (state.contexts context).bug.quiet = true
  stopped : (state.contexts context).started = false
  torn : context < state.created → (state.contexts context).tornDown = true

inductive Idle : List LifecycleFrame → Prop
  | free : Idle []
  | startCapture : Idle [.startCapture]
  | cleanup (text : Bool) : Idle [.cleanup text none]
  | command : Idle [.command]

/-- The bug that `stream_session_cleanup` finds in the channel private: linked or about
to be closed for a command, closed for its own CLOSE callback. -/
inductive Cleaning (context : Nat) : Option Nat → BugPhase → Prop
  | command {phase : BugPhase} (linked : phase.quiet = false) : Cleaning context none phase
  | close : Cleaning context (some context) .closed

inductive Stage (context : Nat) : BugPhase → Option Nat → List LifecycleFrame → Prop
  | bugAdd : Stage context .absent none [.bugAdd context]
  | setPrivate {phase : BugPhase} (linked : phase.quiet = false) :
      Stage context phase none [.setPrivate context]
  | sessionStart {phase : BugPhase} (linked : phase.quiet = false) :
      Stage context phase (some context) [.sessionStart context]
  | settled {phase : BugPhase} {stack : List LifecycleFrame} (linked : phase.quiet = false)
      (idle : Idle stack) : Stage context phase (some context) stack
  | commandContext {phase : BugPhase} (linked : phase.quiet = false) :
      Stage context phase (some context) [.commandContext context]
  | closeCallback : Stage context .closed (some context) [.cleanup false (some context)]
  | flushResidue {phase : BugPhase} {origin : Option Nat} (text : Bool)
      (cleaning : Cleaning context origin phase) :
      Stage context phase (some context) [.flushResidue text context origin]
  | sendJson {phase : BugPhase} {origin : Option Nat} (cleaning : Cleaning context origin phase) :
      Stage context phase (some context) [.sendJson context origin]
  | clearPrivate {phase : BugPhase} {origin : Option Nat}
      (cleaning : Cleaning context origin phase) :
      Stage context phase (some context) [.clearPrivate context origin]
  | bugRemove {phase : BugPhase} (linked : phase.quiet = false) :
      Stage context phase none [.bugRemove context]
  | nestedClose :
      Stage context .closed none [.cleanup false (some context), .finish context none]
  | finish {origin : Option Nat} (own : ∀ other ∈ origin, other = context) :
      Stage context .closed none [.finish context origin]
  | destroy {phase : BugPhase} {origin : Option Nat} (quiet : phase.quiet = true)
      (own : ∀ other ∈ origin, other = context) :
      Stage context phase none [.destroy context origin]

structure Current (state : LifecycleState) (context : Nat) : Prop where
  others : ∀ other, other ≠ context → Retired state other
  made : context < state.created
  alive : (state.contexts context).tornDown = false
  stage : Stage context (state.contexts context).bug state.channelPrivate state.stack

inductive Shape (state : LifecycleState) : Prop
  | vacant (retired : ∀ context, Retired state context) (unset : state.channelPrivate = none)
      (waiting : Idle state.stack ∨ state.stack = [.sessionInit])
  | occupied (context : Nat) (current : Current state context)

def LifecycleFrame.cleaning : LifecycleFrame → Bool
  | .cleanup _ _ => true
  | .flushResidue _ _ _ => true
  | .sendJson _ _ => true
  | .clearPrivate _ _ => true
  | .bugRemove _ => true
  | .finish _ _ => true
  | .destroy _ _ => true
  | _ => false

def Pending (stack : List LifecycleFrame) : Prop := ∃ frame ∈ stack, frame.cleaning = true

def LifecycleEvent.AllowedIn (state : LifecycleState) : LifecycleEvent → Prop
  | .dereferenced context => (state.contexts context).tornDown = false
  | .calledBack context => (state.contexts context).tornDown = false
  | .pruned context => (state.contexts context).prune = true
  | .tornDown context origin =>
      (state.contexts context).tornDown = false ∧ ∀ other ∈ origin, other = context
  | .startFailed context => context < state.created
  | _ => True

def LifecycleEvent.Uses (context : Nat) : LifecycleEvent → Prop
  | .dereferenced used => used = context
  | .calledBack used => used = context
  | .closeRequested _ => True
  | .removeRefused _ => True
  | _ => False

def LifecycleEvent.isTeardown : LifecycleEvent → Bool
  | .tornDown _ _ => true
  | _ => false

structure MoveSafe (state : LifecycleState) (events : List LifecycleEvent)
    (next : LifecycleState) : Prop where
  shape : Shape next
  allowed : ∀ event ∈ events, event.AllowedIn state
  grown : state.created ≤ next.created
  kept : ∀ context, context < state.created → (state.contexts context).tornDown = true →
    (next.contexts context).tornDown = true
  teardown : ∀ context origin, .tornDown context origin ∈ events →
    events = [.tornDown context origin] ∧ context < next.created ∧
      (next.contexts context).tornDown = true
  failed : ∀ context, .startFailed context ∈ events → Pending next.stack
  -- a cleanup ends in a teardown unless the removal is refused
  handled : ∀ context, context < state.created → (next.contexts context).tornDown = false →
    Pending state.stack → Pending next.stack ∨ .removeRefused context ∈ events

theorem Retired.carry {state next : LifecycleState} {context : Nat}
    (held : Retired state context) (same : next.contexts context = state.contexts context)
    (created : next.created = state.created) : Retired next context where
  quiet := by rw [same]; exact held.quiet
  stopped := by rw [same]; exact held.stopped
  torn := by rw [same, created]; exact held.torn

theorem MoveSafe.idles {state next : LifecycleState} (retired : ∀ context, Retired state context)
    (contexts : next.contexts = state.contexts) (created : next.created = state.created)
    (unset : next.channelPrivate = none)
    (waiting : Idle next.stack ∨ next.stack = [.sessionInit]) : MoveSafe state [] next where
  shape := .vacant (fun context => (retired context).carry (congrFun contexts context) created)
    unset waiting
  allowed := by simp
  grown := Nat.le_of_eq created.symm
  kept := by
    intro context _ torn
    rwa [contexts]
  teardown := by simp
  failed := by simp
  handled := by
    intro context made untorn _
    rw [contexts, (retired context).torn made] at untorn
    cases untorn

theorem MoveSafe.stays {state next : LifecycleState} {events : List LifecycleEvent} {context : Nat}
    (current : Current state context)
    (frame : ∀ other, other ≠ context → next.contexts other = state.contexts other)
    (created : next.created = state.created)
    (still : (next.contexts context).tornDown = false)
    (stage : Stage context (next.contexts context).bug next.channelPrivate next.stack)
    (allowed : ∀ event ∈ events, event.AllowedIn state)
    (standing : ∀ event ∈ events, event.isTeardown = false)
    (failed : ∀ other, .startFailed other ∈ events → Pending next.stack)
    (handled : Pending state.stack → Pending next.stack ∨ .removeRefused context ∈ events) :
    MoveSafe state events next where
  shape := .occupied context {
    others := fun other apart => (current.others other apart).carry (frame other apart) created
    made := created ▸ current.made
    alive := still
    stage := stage
  }
  allowed := allowed
  grown := Nat.le_of_eq created.symm
  kept := by
    intro other _ torn
    by_cases same : other = context
    · rw [same, current.alive] at torn
      cases torn
    · rwa [frame other same]
  teardown := by
    intro other origin member
    cases standing _ member
  failed := failed
  handled := by
    intro other known untorn pending
    by_cases same : other = context
    · rw [same]
      exact handled pending
    · rw [frame other same, (current.others other same).torn known] at untorn
      cases untorn

theorem LifecycleEvent.Uses.allowedIn {state : LifecycleState} {event : LifecycleEvent}
    {context : Nat} (alive : (state.contexts context).tornDown = false)
    (uses : event.Uses context) : event.AllowedIn state := by
  cases event with
  | dereferenced used | calledBack used =>
      cases uses
      exact alive
  | closeRequested | removeRefused => trivial
  | _ => exact uses.elim

theorem LifecycleEvent.Uses.standing {event : LifecycleEvent} {context : Nat}
    (uses : event.Uses context) : event.isTeardown = false := by
  cases event with
  | tornDown => exact uses.elim
  | _ => rfl

theorem MoveSafe.updates {state : LifecycleState} {events : List LifecycleEvent} {context : Nat}
    {channelPrivate : Option Nat} {stack : List LifecycleFrame}
    (change : StreamContext → StreamContext)
    (current : Current state context)
    (still : (change (state.contexts context)).tornDown = false)
    (stage : Stage context (change (state.contexts context)).bug channelPrivate stack)
    (uses : ∀ event ∈ events, event.Uses context)
    (handled : Pending state.stack → Pending stack ∨ .removeRefused context ∈ events) :
    MoveSafe state events
      { state.update context change with channelPrivate := channelPrivate, stack := stack } :=
  .stays current (fun _ apart => update_other state apart change) rfl
    (by simpa using still) (by simpa using stage)
    (fun event member => (uses event member).allowedIn current.alive)
    (fun event member => (uses event member).standing)
    (fun _ member => (uses _ member).elim) handled

theorem MoveSafe.holds {state : LifecycleState} {events : List LifecycleEvent} {context : Nat}
    {channelPrivate : Option Nat} {stack : List LifecycleFrame}
    (current : Current state context)
    (stage : Stage context (state.contexts context).bug channelPrivate stack)
    (uses : ∀ event ∈ events, event.Uses context)
    (handled : Pending state.stack → Pending stack ∨ .removeRefused context ∈ events) :
    MoveSafe state events { state with channelPrivate := channelPrivate, stack := stack } :=
  .stays current (fun _ _ => rfl) rfl current.alive stage
    (fun event member => (uses event member).allowedIn current.alive)
    (fun event member => (uses event member).standing)
    (fun _ member => (uses _ member).elim) handled

theorem MoveSafe.leaves {state next : LifecycleState} {context : Nat} {origin : Option Nat}
    (current : Current state context)
    (frame : ∀ other, other ≠ context → next.contexts other = state.contexts other)
    (created : next.created = state.created)
    (quiet : (next.contexts context).bug.quiet = true)
    (stopped : (next.contexts context).started = false)
    (torn : (next.contexts context).tornDown = true)
    (own : ∀ other ∈ origin, other = context)
    (unset : next.channelPrivate = none) (free : next.stack = []) :
    MoveSafe state [.tornDown context origin] next where
  shape := by
    refine .vacant (fun other => ?_) unset (.inl (free ▸ .free))
    by_cases same : other = context
    · rw [same]
      exact ⟨quiet, stopped, fun _ => torn⟩
    · exact (current.others other same).carry (frame other same) created
  allowed := by
    intro event member
    rw [List.mem_singleton.mp member]
    exact ⟨current.alive, own⟩
  grown := Nat.le_of_eq created.symm
  kept := by
    intro other _ gone
    by_cases same : other = context
    · rw [same]
      exact torn
    · rwa [frame other same]
  teardown := by
    intro other from' member
    cases List.mem_singleton.mp member
    exact ⟨rfl, created ▸ current.made, torn⟩
  failed := by simp
  handled := by
    intro other known untorn _
    by_cases same : other = context
    · rw [same, torn] at untorn
      cases untorn
    · rw [frame other same, (current.others other same).torn known] at untorn
      cases untorn

theorem MoveSafe.makes {state next : LifecycleState} (retired : ∀ context, Retired state context)
    (frame : ∀ other, other ≠ state.created → next.contexts other = state.contexts other)
    (fresh : next.contexts state.created = {}) (created : next.created = state.created + 1)
    (unset : next.channelPrivate = none) (stack : next.stack = [.bugAdd state.created]) :
    MoveSafe state [] next where
  shape := by
    refine .occupied state.created ⟨fun other apart => ?_, by omega, by rw [fresh], ?_⟩
    · exact {
        quiet := by rw [frame other apart]; exact (retired other).quiet
        stopped := by rw [frame other apart]; exact (retired other).stopped
        torn := by
          intro known
          rw [frame other apart]
          exact (retired other).torn (by omega) }
    · rw [fresh, unset, stack]
      exact .bugAdd
  allowed := by simp
  grown := by omega
  kept := by
    intro other known torn
    rwa [frame other (by omega)]
  teardown := by simp
  failed := by simp
  handled := by
    intro other known untorn _
    rw [frame other (by omega), (retired other).torn known] at untorn
    cases untorn

theorem vacant_proceed {state : LifecycleState} {frame : LifecycleFrame}
    {below : List LifecycleFrame} (retired : ∀ context, Retired state context)
    (unset : state.channelPrivate = none)
    (waiting : Idle state.stack ∨ state.stack = [.sessionInit])
    (top : state.stack = frame :: below) (outcome : Bool) :
    MoveSafe state (frameStep outcome state below frame).2
      (frameStep outcome state below frame).1 := by
  obtain ⟨contexts, created, channelPrivate, stack⟩ := state
  subst unset top
  rcases waiting with idle | making
  · cases idle with
    | startCapture =>
        refine .idles retired rfl rfl rfl ?_
        cases outcome with
        | true => exact .inr rfl
        | false => exact .inl .free
    | cleanup text => exact .idles retired rfl rfl rfl (.inl .free)
    | command => exact .idles retired rfl rfl rfl (.inl .free)
  · cases making
    cases outcome with
    | true =>
        refine .makes retired (fun other apart => ?_) ?_ rfl rfl rfl
        · exact update_other _ apart fun _ => {}
        · exact update_self _ _ fun _ => {}
    | false => exact .idles retired rfl rfl rfl (.inl .free)

theorem Cleaning.own {context : Nat} {origin : Option Nat} {phase : BugPhase}
    (cleaning : Cleaning context origin phase) : ∀ other ∈ origin, other = context := by
  cases cleaning <;> simp

theorem pending_of_cleaning {frame : LifecycleFrame} {below : List LifecycleFrame}
    (cleaning : frame.cleaning = true) : Pending (frame :: below) :=
  ⟨frame, by simp, cleaning⟩

theorem not_pending {frame : LifecycleFrame} (plain : frame.cleaning = false) :
    ¬Pending [frame] := by
  simp [Pending, plain]

theorem not_pending_nil : ¬Pending [] := by
  simp [Pending]

theorem occupied_proceed {state : LifecycleState} {context : Nat} {frame : LifecycleFrame}
    {below : List LifecycleFrame} (current : Current state context)
    (top : state.stack = frame :: below) (outcome : Bool) :
    MoveSafe state (frameStep outcome state below frame).2
      (frameStep outcome state below frame).1 := by
  obtain ⟨contexts, created, channelPrivate, stack⟩ := state
  subst top
  have stage := current.stage
  simp only at stage
  generalize phased : (contexts context).bug = phase at stage
  cases stage with
  | bugAdd =>
      cases outcome with
      | true =>
          exact .updates ({ · with bug := .attached }) current current.alive
            (.setPrivate rfl) (List.forall_mem_nil _) (absurd · (not_pending rfl))
      | false =>
          exact .holds current (.destroy (by simp [phased, BugPhase.quiet]) (by simp))
            (List.forall_mem_nil _) (absurd · (not_pending rfl))
  | setPrivate linked =>
      exact .holds current (.sessionStart (phased ▸ linked)) (List.forall_mem_nil _)
        (absurd · (not_pending rfl))
  | sessionStart linked =>
      cases outcome with
      | true =>
          exact .updates ({ · with started := true }) current current.alive
            (.settled (phased ▸ linked) .free) (List.forall_mem_singleton.mpr rfl)
            (absurd · (not_pending rfl))
      | false =>
          exact .stays current (fun _ _ => rfl) rfl current.alive
            (.settled (phased ▸ linked) (.cleanup false))
            (List.forall_mem_cons.mpr ⟨current.made, List.forall_mem_singleton.mpr current.alive⟩)
            (List.forall_mem_cons.mpr ⟨rfl, List.forall_mem_singleton.mpr rfl⟩)
            (fun _ _ => pending_of_cleaning rfl) (fun _ => .inl (pending_of_cleaning rfl))
  | settled linked idle =>
      cases idle with
      | startCapture =>
          exact .holds current (.settled (phased ▸ linked) .free) (List.forall_mem_nil _)
            (absurd · (not_pending rfl))
      | cleanup text =>
          exact .holds current (.flushResidue text (.command (phased ▸ linked)))
            (List.forall_mem_nil _) (fun _ => .inl (pending_of_cleaning rfl))
      | command =>
          exact .holds current (.commandContext (phased ▸ linked))
            (List.forall_mem_nil _) (absurd · (not_pending rfl))
  | commandContext linked =>
      exact .holds current (.settled (phased ▸ linked) .free)
        (List.forall_mem_singleton.mpr rfl) (absurd · (not_pending rfl))
  | closeCallback =>
      exact .holds current (.flushResidue false (phased ▸ .close))
        (List.forall_mem_nil _) (fun _ => .inl (pending_of_cleaning rfl))
  | flushResidue text cleaning =>
      cases text with
      | true =>
          exact .holds current (.sendJson (phased ▸ cleaning))
            (List.forall_mem_singleton.mpr rfl) (fun _ => .inl (pending_of_cleaning rfl))
      | false =>
          exact .holds current (.clearPrivate (phased ▸ cleaning))
            (List.forall_mem_singleton.mpr rfl) (fun _ => .inl (pending_of_cleaning rfl))
  | sendJson cleaning =>
      exact .holds current (.clearPrivate (phased ▸ cleaning))
        (List.forall_mem_singleton.mpr rfl) (fun _ => .inl (pending_of_cleaning rfl))
  | clearPrivate cleaning =>
      cases cleaning with
      | command linked =>
          exact .holds current (.bugRemove (phased ▸ linked)) (List.forall_mem_nil _)
            (fun _ => .inl (pending_of_cleaning rfl))
      | close =>
          exact .holds current (phased ▸ .finish (by simp)) (List.forall_mem_nil _)
            (fun _ => .inl (pending_of_cleaning rfl))
  | bugRemove linked =>
      simp only [frameStep]
      split
      · exact .updates ({ · with bug := .closed }) current current.alive .nestedClose
          (List.forall_mem_singleton.mpr rfl) (fun _ => .inl (pending_of_cleaning rfl))
      · exact .holds current (.settled (phased ▸ linked) .free)
          (List.forall_mem_cons.mpr ⟨trivial, List.forall_mem_singleton.mpr rfl⟩)
          (fun _ => .inr List.mem_cons_self)
  | nestedClose =>
      exact .holds current (phased ▸ .finish (by simp)) (List.forall_mem_nil _)
        (fun _ => .inl (pending_of_cleaning rfl))
  | finish own =>
      exact .updates ({ · with started := false }) current current.alive
        (.destroy (by simp [phased, BugPhase.quiet]) own) (List.forall_mem_singleton.mpr rfl)
        (fun _ => .inl (pending_of_cleaning rfl))
  | destroy quiet own =>
      refine .leaves current (fun other apart => ?_) rfl ?_ ?_ ?_ own rfl rfl
      · exact update_other _ apart ({ · with started := false, tornDown := true })
      all_goals simp [frameStep, phased, quiet]

theorem Shape.linked {state : LifecycleState} (shape : Shape state) {context : Nat}
    (linked : (state.contexts context).bug.quiet = false) :
    Current state context := by
  cases shape with
  | vacant retired => exact absurd (retired context).quiet (by simp [linked])
  | occupied other current =>
      by_cases same : context = other
      · rw [same]
        exact current
      · exact absurd (current.others context same).quiet (by simp [linked])

theorem Shape.started {state : LifecycleState} (shape : Shape state) {context : Nat}
    (started : (state.contexts context).started = true) :
    Current state context := by
  cases shape with
  | vacant retired => exact absurd (retired context).stopped (by simp [started])
  | occupied other current =>
      by_cases same : context = other
      · rw [same]
        exact current
      · exact absurd (current.others context same).stopped (by simp [started])

theorem Stage.unlink {context : Nat} {phase : BugPhase} {channelPrivate : Option Nat}
    {stack : List LifecycleFrame} (stage : Stage context phase channelPrivate stack)
    (attached : phase = .attached) : Stage context .closing channelPrivate stack := by
  subst attached
  cases stage with
  | setPrivate => exact .setPrivate rfl
  | sessionStart => exact .sessionStart rfl
  | settled linked idle => exact .settled rfl idle
  | commandContext => exact .commandContext rfl
  | flushResidue text cleaning =>
      cases cleaning
      exact .flushResidue text (.command rfl)
  | sendJson cleaning =>
      cases cleaning
      exact .sendJson (.command rfl)
  | clearPrivate cleaning =>
      cases cleaning
      exact .clearPrivate (.command rfl)
  | bugRemove => exact .bugRemove rfl
  | destroy quiet => cases quiet

theorem Stage.free {context : Nat} {phase : BugPhase} {channelPrivate : Option Nat}
    {stack : List LifecycleFrame} (stage : Stage context phase channelPrivate stack)
    (free : stack = []) : channelPrivate = some context ∧ phase.quiet = false := by
  subst free
  cases stage with
  | settled linked => exact ⟨rfl, linked⟩

theorem Shape.proceed {state : LifecycleState} {frame : LifecycleFrame}
    {below : List LifecycleFrame} (shape : Shape state) (top : state.stack = frame :: below)
    (outcome : Bool) :
    MoveSafe state (frameStep outcome state below frame).2
      (frameStep outcome state below frame).1 := by
  cases shape with
  | vacant retired unset waiting => exact vacant_proceed retired unset waiting top outcome
  | occupied context current => exact occupied_proceed current top outcome

theorem acquire_safe {state next : LifecycleState} {frame : LifecycleFrame} (shape : Shape state)
    (idle : Idle [frame]) (taken : acquire state frame = some next) : MoveSafe state [] next := by
  obtain ⟨free, rfl⟩ := acquire_some taken
  cases shape with
  | vacant retired unset => exact .idles retired rfl rfl unset (.inl idle)
  | occupied context current =>
      obtain ⟨set, linked⟩ := current.stage.free free
      exact .holds current (set ▸ .settled linked idle) (List.forall_mem_nil _)
        (by rw [free]; exact (absurd · not_pending_nil))

theorem captureCallback_safe {state : LifecycleState} {context : Nat} (shape : Shape state)
    (attached : (state.contexts context).bug = .attached) (drained : Bool) :
    MoveSafe state (captureCallback drained context state).2
      (captureCallback drained context state).1 := by
  have current := shape.linked (by rw [attached]; rfl)
  unfold captureCallback
  split
  · exact .updates ({ · with prune := true }) current current.alive current.stage
      (List.forall_mem_cons.mpr ⟨rfl, List.forall_mem_singleton.mpr rfl⟩) .inl
  · split
    · exact .updates ({ · with closeRequested := true }) current current.alive current.stage
        (List.forall_mem_cons.mpr ⟨trivial,
          List.forall_mem_cons.mpr ⟨rfl, List.forall_mem_singleton.mpr rfl⟩⟩) .inl
    · exact .holds current current.stage
        (List.forall_mem_cons.mpr ⟨rfl, List.forall_mem_singleton.mpr rfl⟩) .inl

theorem lifecycleStep_safe {state next : LifecycleState} {label : LifecycleStep}
    {events : List LifecycleEvent} (shape : Shape state)
    (taken : lifecycleStep state label = some (next, events)) : MoveSafe state events next := by
  cases label with
  | start =>
      obtain ⟨acquired, locked, same⟩ := Option.map_eq_some_iff.mp taken
      cases same
      exact acquire_safe shape .startCapture locked
  | stop text =>
      obtain ⟨acquired, locked, same⟩ := Option.map_eq_some_iff.mp taken
      cases same
      exact acquire_safe shape (.cleanup text) locked
  | command =>
      obtain ⟨acquired, locked, same⟩ := Option.map_eq_some_iff.mp taken
      cases same
      exact acquire_safe shape .command locked
  | proceed outcome =>
      simp only [lifecycleStep] at taken
      split at taken
      · cases taken
      · next frame below top =>
          have safe := shape.proceed top outcome
          rwa [Option.some.inj taken] at safe
  | callback context drained =>
      simp only [lifecycleStep, Option.ite_none_right_eq_some] at taken
      obtain ⟨attached, same⟩ := taken
      have safe := captureCallback_safe shape attached drained
      rwa [Option.some.inj same] at safe
  | requestClose context =>
      simp only [lifecycleStep, Option.ite_none_right_eq_some] at taken
      obtain ⟨started, same⟩ := taken
      cases same
      have current := shape.started started
      exact .updates ({ · with closeRequested := true }) current current.alive current.stage
        (List.forall_mem_cons.mpr ⟨trivial, List.forall_mem_singleton.mpr rfl⟩) .inl
  | prune context =>
      simp only [lifecycleStep, Option.ite_none_right_eq_some] at taken
      obtain ⟨⟨attached, marked⟩, same⟩ := taken
      cases same
      have current := shape.linked (by rw [attached]; rfl)
      exact .stays current (fun other apart => update_other state apart _) rfl
        (by simpa using current.alive) (by rw [update_self]; exact current.stage.unlink attached)
        (List.forall_mem_singleton.mpr marked) (List.forall_mem_singleton.mpr rfl)
        (by simp) .inl
  | hangup context =>
      simp only [lifecycleStep, Option.ite_none_right_eq_some] at taken
      obtain ⟨attached, same⟩ := taken
      cases same
      have current := shape.linked (by rw [attached]; rfl)
      exact .updates ({ · with bug := .closing }) current current.alive
        (current.stage.unlink attached) (List.forall_mem_nil _) .inl
  | close context =>
      simp only [lifecycleStep, Option.ite_none_right_eq_some] at taken
      obtain ⟨closing, taken⟩ := taken
      obtain ⟨acquired, locked, same⟩ := Option.map_eq_some_iff.mp taken
      cases same
      obtain ⟨free, rfl⟩ := acquire_some locked
      have current := shape.linked (by rw [closing]; rfl)
      have closed : Stage context .closed state.channelPrivate [.cleanup false (some context)] := by
        rw [(current.stage.free free).1]
        exact .closeCallback
      exact .updates ({ · with bug := .closed }) current current.alive closed
        (List.forall_mem_singleton.mpr rfl) (fun _ => .inl (pending_of_cleaning rfl))

/-- What a history of the session is held to. -/
def SafeEvent (earlier : List LifecycleEvent) : LifecycleEvent → Prop
  | .dereferenced context => ∀ origin, .tornDown context origin ∉ earlier
  | .calledBack context => ∀ origin, .tornDown context origin ∉ earlier
  | .tornDown context origin =>
      (∀ other, .tornDown context other ∉ earlier) ∧ ∀ other ∈ origin, other = context
  | .pruned context => .closeRequested context ∈ earlier
  | _ => True

structure FlagsKept (before after : StreamContext) : Prop where
  closeRequested : after.closeRequested = true → before.closeRequested = true
  prune : after.prune = true → before.prune = true

theorem FlagsKept.refl (context : StreamContext) : FlagsKept context context :=
  ⟨id, id⟩

theorem flagsKept_update {contexts : Nat → StreamContext} {changed : Nat} {after : StreamContext}
    (kept : FlagsKept (contexts changed) after) (context : Nat) :
    FlagsKept (contexts context) (Function.update contexts changed after context) := by
  by_cases same : context = changed
  · rw [same, Function.update_self]
    exact kept
  · rw [Function.update_of_ne same]
    exact .refl _

theorem frameStep_flags (outcome : Bool) (state : LifecycleState) (below : List LifecycleFrame)
    (frame : LifecycleFrame) (context : Nat) :
    FlagsKept (state.contexts context)
      ((frameStep outcome state below frame).1.contexts context) := by
  cases frame with
  | startCapture | cleanup | command =>
      simp only [frameStep]
      split <;> exact .refl _
  | sessionInit =>
      simp only [frameStep]
      split
      · refine flagsKept_update ?_ context
        exact ⟨nofun, nofun⟩
      · exact .refl _
  | bugAdd | sessionStart | bugRemove =>
      simp only [frameStep]
      split
      · refine flagsKept_update ?_ context
        exact ⟨id, id⟩
      · exact .refl _
  | finish | destroy =>
      refine flagsKept_update ?_ context
      exact ⟨id, id⟩
  | _ => exact .refl _

def Requested (state : LifecycleState) (history : List LifecycleEvent) : Prop :=
  ∀ context, (state.contexts context).closeRequested = true ∨
    (state.contexts context).prune = true → .closeRequested context ∈ history

theorem Requested.kept {state next : LifecycleState} {events history : List LifecycleEvent}
    (held : Requested state history)
    (kept : ∀ context, FlagsKept (state.contexts context) (next.contexts context)) :
    Requested next (events ++ history) := by
  intro context flagged
  refine List.mem_append_right _ (held context ?_)
  exact flagged.imp (kept context).closeRequested (kept context).prune

theorem Requested.raise {state : LifecycleState} {events history : List LifecycleEvent}
    {changed : Nat} {change : StreamContext → StreamContext} (held : Requested state history)
    (recorded : .closeRequested changed ∈ events ++ history) :
    Requested (state.update changed change) (events ++ history) := by
  intro context flagged
  by_cases same : context = changed
  · rwa [same]
  · rw [update_other state same] at flagged
    exact List.mem_append_right _ (held context flagged)

theorem acquire_contexts {state next : LifecycleState} {frame : LifecycleFrame}
    (taken : acquire state frame = some next) : next.contexts = state.contexts := by
  obtain ⟨-, rfl⟩ := acquire_some taken
  rfl

theorem requested_step {state next : LifecycleState} {label : LifecycleStep}
    {events history : List LifecycleEvent} (held : Requested state history)
    (taken : lifecycleStep state label = some (next, events)) :
    Requested next (events ++ history) := by
  cases label with
  | start | stop | command =>
      obtain ⟨acquired, locked, same⟩ := Option.map_eq_some_iff.mp taken
      cases same
      exact held.kept fun context => by rw [acquire_contexts locked]; exact .refl _
  | proceed outcome =>
      simp only [lifecycleStep] at taken
      split at taken
      · cases taken
      · next frame below top =>
          have kept := @Requested.kept _ _ events _ held (frameStep_flags outcome state below frame)
          rwa [Option.some.inj taken] at kept
  | callback context drained =>
      simp only [lifecycleStep, captureCallback, Option.ite_none_right_eq_some] at taken
      obtain ⟨-, same⟩ := taken
      split at same
      · next asked =>
          cases same
          exact held.raise (List.mem_append_right _ (held context (.inl asked)))
      · split at same
        · cases same
          exact held.raise (by simp)
        · cases same
          exact held.kept fun context => .refl _
  | requestClose context =>
      simp only [lifecycleStep, Option.ite_none_right_eq_some] at taken
      obtain ⟨-, same⟩ := taken
      cases same
      exact held.raise (by simp)
  | prune context =>
      simp only [lifecycleStep, Option.ite_none_right_eq_some] at taken
      obtain ⟨-, same⟩ := taken
      cases same
      refine held.kept (flagsKept_update ?_)
      exact ⟨id, id⟩
  | hangup context =>
      simp only [lifecycleStep, Option.ite_none_right_eq_some] at taken
      obtain ⟨-, same⟩ := taken
      cases same
      refine held.kept (flagsKept_update ?_)
      exact ⟨id, id⟩
  | close context =>
      simp only [lifecycleStep, Option.ite_none_right_eq_some] at taken
      obtain ⟨-, taken⟩ := taken
      obtain ⟨acquired, locked, same⟩ := Option.map_eq_some_iff.mp taken
      cases same
      refine held.kept fun other => ?_
      rw [acquire_contexts locked]
      refine flagsKept_update ?_ other
      exact ⟨id, id⟩

structure LifecycleInvariant (state : LifecycleState) (history : List LifecycleEvent) : Prop where
  shape : Shape state
  torn : ∀ context origin, .tornDown context origin ∈ history →
    context < state.created ∧ (state.contexts context).tornDown = true
  requested : Requested state history
  failed : ∀ context, .startFailed context ∈ history → context < state.created ∧
    ((state.contexts context).tornDown = false →
      .removeRefused context ∈ history ∨ Pending state.stack)
  clean : Runs.EveryEvent SafeEvent history

theorem lifecycleInvariant_initial : LifecycleInvariant .initial [] where
  shape := .vacant (fun _ => ⟨rfl, rfl, nofun⟩) rfl (.inl .free)
  torn := by simp
  requested := by simp [Requested, LifecycleState.initial]
  failed := by simp
  clean := trivial

theorem safeEvent_of_allowed {state : LifecycleState} {history : List LifecycleEvent}
    (held : LifecycleInvariant state history) {event : LifecycleEvent}
    (allowed : event.AllowedIn state) : SafeEvent history event := by
  have untorn : ∀ context, (state.contexts context).tornDown = false →
      ∀ origin, .tornDown context origin ∉ history := by
    intro context alive origin member
    rw [(held.torn context origin member).2] at alive
    cases alive
  cases event with
  | dereferenced context | calledBack context => exact untorn context allowed
  | tornDown context origin => exact ⟨untorn context allowed.1, allowed.2⟩
  | pruned context => exact held.requested context (.inr allowed)
  | _ => trivial

theorem safeEvent_append {events history : List LifecycleEvent} {event : LifecycleEvent}
    (standing : ∀ other ∈ events, other.isTeardown = false)
    (safe : SafeEvent history event) : SafeEvent (events ++ history) event := by
  have absent : ∀ context origin, .tornDown context origin ∉ events := by
    intro context origin member
    cases standing _ member
  cases event with
  | dereferenced context | calledBack context =>
      intro origin member
      exact (List.mem_append.mp member).elim (absent context origin) (safe origin)
  | tornDown context origin =>
      refine ⟨fun other member => ?_, safe.2⟩
      exact (List.mem_append.mp member).elim (absent context other) (safe.1 other)
  | pruned context => exact List.mem_append_right _ safe
  | _ => trivial

theorem everySafe_append {events history : List LifecycleEvent}
    (standing : ∀ other ∈ events, other.isTeardown = false)
    (safe : ∀ event ∈ events, SafeEvent history event)
    (clean : Runs.EveryEvent SafeEvent history) :
    Runs.EveryEvent SafeEvent (events ++ history) := by
  induction events with
  | nil => exact clean
  | cons event rest ih =>
      have later : ∀ other ∈ rest, other.isTeardown = false :=
        fun other member => standing other (by simp [member])
      exact ⟨safeEvent_append later (safe event (by simp)),
        ih later fun other member => safe other (by simp [member])⟩

theorem clean_step {state next : LifecycleState} {events history : List LifecycleEvent}
    (held : LifecycleInvariant state history) (moved : MoveSafe state events next) :
    Runs.EveryEvent SafeEvent (events ++ history) := by
  have safe : ∀ event ∈ events, SafeEvent history event :=
    fun event member => safeEvent_of_allowed held (moved.allowed event member)
  by_cases standing : ∀ event ∈ events, event.isTeardown = false
  · exact everySafe_append standing safe held.clean
  · simp only [not_forall, exists_prop] at standing
    obtain ⟨event, member, teardown⟩ := standing
    cases event with
    | tornDown context origin =>
        obtain ⟨alone, -⟩ := moved.teardown context origin member
        rw [alone]
        exact ⟨safe _ member, held.clean⟩
    | _ => exact absurd rfl teardown

theorem lifecycleInvariant_step {state next : LifecycleState} {label : LifecycleStep}
    {events history : List LifecycleEvent} (held : LifecycleInvariant state history)
    (taken : lifecycleStep state label = some (next, events)) :
    LifecycleInvariant next (events ++ history) := by
  have moved := lifecycleStep_safe held.shape taken
  exact {
    shape := moved.shape
    torn := by
      intro context origin member
      rcases List.mem_append.mp member with fresh | old
      · exact (moved.teardown context origin fresh).2
      · obtain ⟨known, torn⟩ := held.torn context origin old
        exact ⟨Nat.lt_of_lt_of_le known moved.grown, moved.kept context known torn⟩
    requested := requested_step held.requested taken
    failed := by
      intro context member
      rcases List.mem_append.mp member with fresh | old
      · exact ⟨Nat.lt_of_lt_of_le (moved.allowed _ fresh) moved.grown,
          fun _ => .inr (moved.failed context fresh)⟩
      · obtain ⟨known, settled⟩ := held.failed context old
        refine ⟨Nat.lt_of_lt_of_le known moved.grown, fun alive => ?_⟩
        have before : (state.contexts context).tornDown = false := by
          by_contra torn
          rw [moved.kept context known (by simpa using torn)] at alive
          cases alive
        rcases settled before with refused | pending
        · exact .inl (List.mem_append_right _ refused)
        · exact (moved.handled context known alive pending).symm.imp_left
            (List.mem_append_left _)
    clean := clean_step held moved }

def Streaming (state : LifecycleState) (context : Nat) : Prop :=
  context < state.created ∧ (state.contexts context).tornDown = false ∧
    (state.contexts context).bug = .attached

theorem Shape.private_iff {state : LifecycleState} (shape : Shape state) (free : state.stack = [])
    (settled : ∀ context, (state.contexts context).bug ≠ .closing) (context : Nat) :
    state.channelPrivate = some context ↔ Streaming state context := by
  cases shape with
  | vacant retired unset =>
      rw [unset]
      refine ⟨nofun, fun ⟨known, alive, _⟩ => ?_⟩
      rw [(retired context).torn known] at alive
      cases alive
  | occupied live current =>
      obtain ⟨set, linked⟩ := current.stage.free free
      have attached : (state.contexts live).bug = .attached := by
        cases phase : (state.contexts live).bug with
        | attached => rfl
        | closing => exact absurd phase (settled live)
        | absent | closed => simp [phase, BugPhase.quiet] at linked
      rw [set]
      constructor
      · rintro ⟨⟩
        exact ⟨current.made, current.alive, attached⟩
      · rintro ⟨known, alive, -⟩
        by_contra apart
        rw [(current.others context fun same => apart (same ▸ rfl)).torn known] at alive
        cases alive

theorem Shape.torn_quiet {state : LifecycleState} (shape : Shape state) {context : Nat}
    (torn : (state.contexts context).tornDown = true) :
    (state.contexts context).bug.quiet = true := by
  by_contra linked
  have current := shape.linked (by simpa using linked)
  rw [current.alive] at torn
  cases torn

/-- Every context is torn down at most once, by a command or by its own CLOSE callback,
when its bug cannot call back any more, and nothing touches it afterwards. With the
lock free and no CLOSE pending, the channel private is the live context. -/
theorem teardown_exactly_once {labels : List LifecycleStep} {recorded : RecordedLifecycle}
    (reached : Runs.run recordedLifecycleStep .initial labels = some recorded) :
    Runs.EveryEvent SafeEvent recorded.history ∧
      (∀ context, (recorded.state.contexts context).tornDown = true →
        (recorded.state.contexts context).bug.quiet = true) ∧
      (recorded.state.stack = [] →
        (∀ context, (recorded.state.contexts context).bug ≠ .closing) →
        ∀ context, recorded.state.channelPrivate = some context ↔
          Streaming recorded.state context) ∧
      (recorded.state.stack = [] → ∀ context, .startFailed context ∈ recorded.history →
        recorded.state.channelPrivate = some context →
        .removeRefused context ∈ recorded.history) := by
  have held : LifecycleInvariant recorded.state recorded.history := by
    refine @Runs.run_invariant _ _ recordedLifecycleStep (fun recorded =>
      LifecycleInvariant recorded.state recorded.history) ?_ _ _ _ lifecycleInvariant_initial
      reached
    intro recorded label next held taken
    obtain ⟨state, events, rfl, moved⟩ := recordedLifecycleStep_moved taken
    exact lifecycleInvariant_step held moved
  refine ⟨held.clean, fun _ => held.shape.torn_quiet, held.shape.private_iff, ?_⟩
  intro free context failed set
  have alive : (recorded.state.contexts context).tornDown = false := by
    cases held.shape with
    | vacant retired unset =>
        rw [unset] at set
        cases set
    | occupied live current =>
        rw [(current.stage.free free).1] at set
        cases set
        exact current.alive
  rcases (held.failed context failed).2 alive with refused | pending
  · exact refused
  · rw [free] at pending
    exact absurd pending not_pending_nil

/-- The first stream is closed by its WebSocket and pruned, while a start finds it still
attached; the second fails to start its WebSocket. -/
def twoStreams : List LifecycleStep :=
  .start :: List.replicate 5 (.proceed true) ++
  [.requestClose 0, .callback 0 false, .prune 0, .start, .proceed true, .close 0] ++
  List.replicate 5 (.proceed true) ++
  .start :: List.replicate 4 (.proceed true) ++
  .proceed false :: List.replicate 7 (.proceed true)

theorem teardown_exactly_once_twoStreams :
    ∃ recorded, Runs.run recordedLifecycleStep .initial twoStreams = some recorded ∧
      .tornDown 0 (some 0) ∈ recorded.history ∧ .tornDown 1 none ∈ recorded.history ∧
      Runs.EveryEvent SafeEvent recorded.history := by
  have found : ∃ recorded, Runs.run recordedLifecycleStep .initial twoStreams = some recorded ∧
      (.tornDown 0 (some 0) ∈ recorded.history ∧ .tornDown 1 none ∈ recorded.history) :=
    Runs.exists_run (by decide)
  obtain ⟨recorded, reached, pruned, failed⟩ := found
  exact ⟨recorded, reached, pruned, failed, (teardown_exactly_once reached).1⟩

end OpenaiAudioStream
