import OpenaiAudioStream.StreamResources

/-!
The life of the streams of one session with what each of its steps acquires, uses and
releases, in a ledger of all contexts. A step uses what the code may touch there, so a
use of something released or not yet built would be an entry that the ledger refuses.
-/

namespace OpenaiAudioStream

open Ledger Runs

def own (context : Nat) (entries : List ResourceEntry) : List ContextEntry :=
  entries.map (Entry.tag context)

def streamMembers : List StreamResource := [.mutex, .audioStreamer, .streamBuffers]

def cleanupUses (origin : Option Nat) : List StreamResource :=
  if origin.isNone then .mediaBug :: streamMembers else streamMembers

def frameResources (init : SessionInit) (outcome : Bool) (state : LifecycleState)
    (data : Nat → StreamData) : LifecycleFrame → (Nat → StreamData) × List ContextEntry
  | .sessionInit =>
      let built := streamSessionInit init
      (Function.update data state.created built.data, own state.created built.entries)
  | .bugAdd context => (data, if outcome then own context [.acquired .mediaBug] else [])
  | .sessionStart context =>
      if outcome then
        (Function.update data context { data context with started := true },
          own context [.used .audioStreamer, .acquired .webSocketThread])
      else (data, own context [.used .audioStreamer])
  | .flushResidue _ context origin =>
      (data, own context ((cleanupUses origin).map Entry.used))
  | .sendJson _ _ =>
      (data, state.channelPrivate.toList.flatMap fun context => own context [.used .audioStreamer])
  | .bugRemove context =>
      if outcome = true ∧ (state.contexts context).bug = .attached then
        (data, own context [.released .mediaBug])
      else (data, own context [.used .mutex])
  | .finish context _ =>
      let finished := finishStream (data context)
      (Function.update data context finished.1, own context (finished.2 ++ [.used .mutex]))
  | .destroy context _ =>
      let destroyed := destroyTechPvt (data context)
      (Function.update data context destroyed.1, own context destroyed.2)
  | .commandContext context =>
      (data, own context ((.mediaBug :: streamMembers).map Entry.used))
  | .startCapture | .setPrivate _ | .cleanup _ _ | .clearPrivate _ _ | .command => (data, [])

def callbackUses (context : StreamContext) (data : StreamData) : List StreamResource :=
  if context.closeRequested then [.mediaBug]
  else .mediaBug :: streamMembers ++ if data.resampler then [.resampler] else []

def messageUses (data : StreamData) : List StreamResource :=
  .webSocketThread :: .audioStreamer :: if data.playbackResampler then [.playbackResampler] else []

def stepResources (init : SessionInit) (state : LifecycleState) (data : Nat → StreamData) :
    LifecycleStep → (Nat → StreamData) × List ContextEntry
  | .proceed outcome =>
      match state.stack with
      | [] => (data, [])
      | frame :: _ => frameResources init outcome state data frame
  | .callback context _ =>
      (data, own context ((callbackUses (state.contexts context) (data context)).map Entry.used))
  | .requestClose context => (data, own context ((messageUses (data context)).map Entry.used))
  | .close context => (data, own context [.released .mediaBug])
  | .start | .stop _ | .command | .prune _ | .hangup _ => (data, [])

structure RecordedResources where
  lifecycle : LifecycleState
  data : Nat → StreamData
  -- newest entry first
  history : List ContextEntry

inductive ResourceStep where
  -- `init` is what the calls in `stream_session_init` answer, if the step makes them
  | lifecycle (step : LifecycleStep) (init : SessionInit)
  -- the WebSocket thread handles a message
  | message (context : Nat)

/-- The outcome of the frame of `stream_session_init` is its status. -/
def initAgrees (init : SessionInit) (state : LifecycleState) : LifecycleStep → Prop
  | .proceed outcome => state.stack.head? = some .sessionInit →
      outcome = (streamSessionInit init).success
  | _ => True

instance (init : SessionInit) (state : LifecycleState) (step : LifecycleStep) :
    Decidable (initAgrees init state step) := by
  cases step <;> simp only [initAgrees] <;> infer_instance

def RecordedResources.initial : RecordedResources where
  lifecycle := .initial
  data := fun _ => {}
  history := []

def resourceStep (recorded : RecordedResources) : ResourceStep → Option RecordedResources
  | .lifecycle step init =>
      if initAgrees init recorded.lifecycle step then
        (lifecycleStep recorded.lifecycle step).map fun moved =>
          let resources := stepResources init recorded.lifecycle recorded.data step
          ⟨moved.1, resources.1, resources.2.reverse ++ recorded.history⟩
      else none
  | .message context =>
      if (recorded.lifecycle.contexts context).started then
        let entries := own context ((messageUses (recorded.data context)).map Entry.used)
        some { recorded with history := entries.reverse ++ recorded.history }
      else none

def Live (state : LifecycleState) (context : Nat) : Prop :=
  context < state.created ∧ (state.contexts context).tornDown = false

def resourcesOwned (state : LifecycleState) (data : Nat → StreamData)
    (resource : Nat × StreamResource) : Bool :=
  (data resource.1).holds (state.contexts resource.1).bug resource.2

@[simp] def LifecycleFrame.destroys : LifecycleFrame → Bool
  | .destroy _ _ => true
  | _ => false

@[simp] def LifecycleFrame.starts : LifecycleFrame → Bool
  | .bugAdd _ => true
  | .setPrivate _ => true
  | .sessionStart _ => true
  | _ => false

/-- The members of a live context. -/
structure Equipped (context : StreamContext) (stack : List LifecycleFrame) (data : StreamData) :
    Prop where
  complete : data.Complete
  consistent : data.Consistent
  started : data.started = context.started
  -- only `finish` takes the streamer, and `destroy_tech_pvt` is next
  streamer : (∀ frame ∈ stack, frame.destroys = false) → data.pAudioStreamer = true
  waiting : (∃ frame ∈ stack, frame.starts = true) → data.started = false

structure BooksKept (recorded : RecordedResources) : Prop where
  shape : Shape recorded.lifecycle
  books : Books (taggedUsers StreamResource.users) recorded.history
    (resourcesOwned recorded.lifecycle recorded.data)
  equipped : ∀ context, Live recorded.lifecycle context →
    Equipped (recorded.lifecycle.contexts context) recorded.lifecycle.stack
      (recorded.data context)
  empty : ∀ context, ¬Live recorded.lifecycle context → recorded.data context = {}

theorem Retired.not_live {state : LifecycleState} {context : Nat}
    (retired : Retired state context) : ¬Live state context := by
  rintro ⟨made, alive⟩
  rw [retired.torn made] at alive
  cases alive

theorem Current.live {state : LifecycleState} {context : Nat} (current : Current state context) :
    Live state context :=
  ⟨current.made, current.alive⟩

theorem graft_owned {state next : LifecycleState} {data : Nat → StreamData} {context : Nat}
    {changed : StreamData} (frame : ∀ other, other ≠ context →
      (next.contexts other).bug = (state.contexts other).bug) :
    graft (resourcesOwned state data) context (changed.holds (next.contexts context).bug) =
      resourcesOwned next (Function.update data context changed) := by
  funext ⟨other, resource⟩
  by_cases same : other = context
  · subst same
    simp [graft, resourcesOwned]
  · simp [graft, resourcesOwned, same, frame other same]

section

variable {recorded : RecordedResources} {context : Nat} {lifecycle : LifecycleState}

theorem BooksKept.steps {changed : StreamData} {entries : List ResourceEntry}
    (held : BooksKept recorded) (shape : Shape lifecycle)
    (others : ∀ other, other ≠ context →
      ¬Live recorded.lifecycle other ∧ ¬Live lifecycle other ∧
        lifecycle.contexts other = recorded.lifecycle.contexts other)
    (posted : run (post StreamResource.users)
      ((recorded.data context).holds (recorded.lifecycle.contexts context).bug) entries =
        some (changed.holds (lifecycle.contexts context).bug))
    (equipped : Live lifecycle context →
      Equipped (lifecycle.contexts context) lifecycle.stack changed)
    (empty : ¬Live lifecycle context → changed = {}) :
    BooksKept ⟨lifecycle, Function.update recorded.data context changed,
      (own context entries).reverse ++ recorded.history⟩ where
  shape := shape
  books := by
    refine held.books.run ?_
    have start : resourcesOwned recorded.lifecycle recorded.data =
        graft (resourcesOwned recorded.lifecycle recorded.data) context
          ((recorded.data context).holds (recorded.lifecycle.contexts context).bug) := by
      rw [graft_owned fun _ _ => rfl, Function.update_eq_self]
    rw [start, own, run_tag posted, graft_owned fun other apart => by rw [(others other apart).2.2]]
  equipped := by
    intro other live
    by_cases same : other = context
    · subst same
      simpa using equipped live
    · exact absurd live (others other same).2.1
  empty := by
    intro other dead
    by_cases same : other = context
    · subst same
      simpa using empty dead
    · simpa [same] using held.empty other (others other same).1

theorem BooksKept.changes {changed : StreamData} {entries : List ResourceEntry}
    {channelPrivate : Option Nat} {stack : List LifecycleFrame}
    (change : StreamContext → StreamContext) (held : BooksKept recorded)
    (current : Current recorded.lifecycle context)
    (shape : Shape { recorded.lifecycle.update context change with
      channelPrivate := channelPrivate, stack := stack })
    (posted : run (post StreamResource.users)
      ((recorded.data context).holds (recorded.lifecycle.contexts context).bug) entries =
        some (changed.holds (change (recorded.lifecycle.contexts context)).bug))
    (equipped : (change (recorded.lifecycle.contexts context)).tornDown = false →
      Equipped (change (recorded.lifecycle.contexts context)) stack changed)
    (empty : (change (recorded.lifecycle.contexts context)).tornDown = true → changed = {}) :
    BooksKept ⟨{ recorded.lifecycle.update context change with
        channelPrivate := channelPrivate, stack := stack },
      Function.update recorded.data context changed,
      (own context entries).reverse ++ recorded.history⟩ := by
  have frame : ∀ other, other ≠ context →
      (recorded.lifecycle.update context change).contexts other =
        recorded.lifecycle.contexts other := fun other apart => update_other _ apart change
  have self : (recorded.lifecycle.update context change).contexts context =
      change (recorded.lifecycle.contexts context) := update_self _ _ change
  refine held.steps shape (fun other apart => ?_) ?_ (fun live => ?_) fun dead => ?_
  · have retired := current.others other apart
    exact ⟨retired.not_live, (retired.carry (frame other apart) rfl).not_live, frame other apart⟩
  · simpa only [self] using posted
  · have alive := live.2
    simp only [self] at alive ⊢
    exact equipped alive
  · refine empty ?_
    by_contra torn
    exact dead ⟨current.made, by simpa [self] using torn⟩

theorem BooksKept.posts {entries : List ResourceEntry} {channelPrivate : Option Nat}
    {stack : List LifecycleFrame} (change : StreamContext → StreamContext)
    (held : BooksKept recorded) (current : Current recorded.lifecycle context)
    (shape : Shape { recorded.lifecycle.update context change with
      channelPrivate := channelPrivate, stack := stack })
    (posted : run (post StreamResource.users)
      ((recorded.data context).holds (recorded.lifecycle.contexts context).bug) entries =
        some ((recorded.data context).holds (change (recorded.lifecycle.contexts context)).bug))
    (alive : (change (recorded.lifecycle.contexts context)).tornDown = false)
    (equipped : Equipped (change (recorded.lifecycle.contexts context)) stack
      (recorded.data context)) :
    BooksKept ⟨{ recorded.lifecycle.update context change with
        channelPrivate := channelPrivate, stack := stack },
      recorded.data, (own context entries).reverse ++ recorded.history⟩ := by
  have kept := held.changes change current shape posted (fun _ => equipped) (by simp [alive])
  rwa [Function.update_eq_self] at kept

theorem BooksKept.uses {channelPrivate : Option Nat} {stack : List LifecycleFrame}
    (resources : List StreamResource) (held : BooksKept recorded)
    (current : Current recorded.lifecycle context)
    (shape : Shape { recorded.lifecycle with channelPrivate := channelPrivate, stack := stack })
    (equipped : Equipped (recorded.lifecycle.contexts context) stack (recorded.data context))
    (possessed : ∀ resource ∈ resources, (recorded.data context).holds
      (recorded.lifecycle.contexts context).bug resource = true) :
    BooksKept ⟨{ recorded.lifecycle with channelPrivate := channelPrivate, stack := stack },
      recorded.data, (own context (resources.map Entry.used)).reverse ++ recorded.history⟩ := by
  have same : recorded.lifecycle.update context id = recorded.lifecycle := by
    simp [LifecycleState.update]
  have kept := @BooksKept.posts recorded context (resources.map Entry.used) channelPrivate stack id
    held current (by rwa [same]) (run_used possessed) current.alive equipped
  rwa [same] at kept

theorem BooksKept.stands {channelPrivate : Option Nat} {stack : List LifecycleFrame}
    (held : BooksKept recorded) (current : Current recorded.lifecycle context)
    (shape : Shape { recorded.lifecycle with channelPrivate := channelPrivate, stack := stack })
    (equipped : Equipped (recorded.lifecycle.contexts context) stack (recorded.data context)) :
    BooksKept ⟨{ recorded.lifecycle with channelPrivate := channelPrivate, stack := stack },
      recorded.data, recorded.history⟩ :=
  held.uses [] current shape equipped (List.forall_mem_nil _)

theorem BooksKept.idles (held : BooksKept recorded)
    (retired : ∀ context, Retired recorded.lifecycle context) (shape : Shape lifecycle)
    (contexts : lifecycle.contexts = recorded.lifecycle.contexts)
    (created : lifecycle.created = recorded.lifecycle.created) :
    BooksKept ⟨lifecycle, recorded.data, recorded.history⟩ where
  shape := shape
  books := by
    have same : resourcesOwned lifecycle recorded.data =
        resourcesOwned recorded.lifecycle recorded.data := by
      funext resource
      rw [resourcesOwned, resourcesOwned, contexts]
    exact same ▸ held.books
  equipped := fun other live =>
    absurd live ((retired other).carry (congrFun contexts other) created).not_live
  empty := fun other _ => held.empty other (retired other).not_live

theorem BooksKept.fails (held : BooksKept recorded)
    (retired : ∀ context, Retired recorded.lifecycle context) (shape : Shape lifecycle)
    (contexts : lifecycle.contexts = recorded.lifecycle.contexts)
    (created : lifecycle.created = recorded.lifecycle.created) {init : SessionInit}
    (failed : (streamSessionInit init).success = false) :
    BooksKept ⟨lifecycle,
      Function.update recorded.data context (streamSessionInit init).data,
      (own context (streamSessionInit init).entries).reverse ++ recorded.history⟩ := by
  obtain ⟨spec, emptied⟩ := streamSessionInit_spec init
  have dead : ∀ other, ¬Live lifecycle other := fun other =>
    ((retired other).carry (congrFun contexts other) created).not_live
  refine held.steps shape (fun other _ => ?_) ?_ (fun live => absurd live (dead context))
    fun _ => emptied failed
  · exact ⟨(retired other).not_live, dead other, congrFun contexts other⟩
  · have nothing := @holds_nothing _ (retired context).quiet
    rw [held.empty context (retired context).not_live, contexts, nothing, spec.built.posted,
      emptied failed, nothing, holds_nothing rfl]

theorem BooksKept.makes (held : BooksKept recorded)
    (retired : ∀ context, Retired recorded.lifecycle context) (shape : Shape lifecycle)
    (frame : ∀ other, other ≠ recorded.lifecycle.created →
      lifecycle.contexts other = recorded.lifecycle.contexts other)
    (fresh : lifecycle.contexts recorded.lifecycle.created = {})
    (created : lifecycle.created = recorded.lifecycle.created + 1) {init : SessionInit}
    (success : (streamSessionInit init).success = true) :
    BooksKept ⟨lifecycle,
      Function.update recorded.data recorded.lifecycle.created (streamSessionInit init).data,
      (own recorded.lifecycle.created (streamSessionInit init).entries).reverse ++
        recorded.history⟩ := by
  obtain ⟨spec, -⟩ := streamSessionInit_spec init
  obtain ⟨complete, streamer⟩ := spec.complete success
  refine held.steps shape (fun other apart => ?_) ?_ (fun _ => ?_) fun dead => ?_
  · refine ⟨(retired other).not_live, ?_, frame other apart⟩
    rintro ⟨made, alive⟩
    rw [frame other apart, (retired other).torn (by omega)] at alive
    cases alive
  · rw [held.empty _ (retired _).not_live, fresh, holds_nothing (retired _).quiet]
    exact spec.built.posted
  · rw [fresh]
    exact ⟨complete, spec.built.consistent, spec.built.stopped, fun _ => streamer,
      fun _ => spec.built.stopped⟩
  · exact absurd ⟨by omega, by rw [fresh]⟩ dead

theorem vacant_frame {frame : LifecycleFrame} {below : List LifecycleFrame}
    {init : SessionInit} {outcome : Bool} (held : BooksKept recorded)
    (retired : ∀ context, Retired recorded.lifecycle context)
    (unset : recorded.lifecycle.channelPrivate = none)
    (waiting : Idle recorded.lifecycle.stack ∨ recorded.lifecycle.stack = [.sessionInit])
    (top : recorded.lifecycle.stack = frame :: below)
    (agrees : frame = .sessionInit → outcome = (streamSessionInit init).success) :
    BooksKept ⟨(frameStep outcome recorded.lifecycle below frame).1,
      (frameResources init outcome recorded.lifecycle recorded.data frame).1,
      (frameResources init outcome recorded.lifecycle recorded.data frame).2.reverse ++
        recorded.history⟩ := by
  have shape := (held.shape.proceed top outcome).shape
  rcases waiting with idle | making
  · rw [top] at idle
    cases idle with
    | startCapture | cleanup | command =>
        refine held.idles retired shape ?_ ?_ <;> simp only [frameStep, unset]
  · obtain ⟨rfl, rfl⟩ := List.cons.inj (top.symm.trans making)
    cases outcome with
    | true =>
        refine held.makes retired shape (fun other apart => ?_) ?_ rfl (agrees rfl).symm
        · exact update_other _ apart fun _ => {}
        · exact update_self _ _ fun _ => {}
    | false => exact held.fails retired shape rfl rfl (agrees rfl).symm

theorem Equipped.restack {before : StreamContext} {stack next : List LifecycleFrame}
    {data : StreamData} (equipped : Equipped before stack data)
    (standing : ∀ frame ∈ stack, frame.destroys = false) (after : StreamContext)
    (started : after.started = before.started)
    (starting : (∃ frame ∈ next, frame.starts = true) → ∃ frame ∈ stack, frame.starts = true) :
    Equipped after next data where
  complete := equipped.complete
  consistent := equipped.consistent
  started := equipped.started.trans started.symm
  streamer := fun _ => equipped.streamer standing
  waiting := fun found => equipped.waiting (starting found)

theorem Equipped.members {before : StreamContext} {stack : List LifecycleFrame}
    {data : StreamData} (equipped : Equipped before stack data)
    (standing : ∀ frame ∈ stack, frame.destroys = false) (phase : BugPhase) :
    ∀ resource ∈ streamMembers, data.holds phase resource = true := by
  simp only [streamMembers, List.forall_mem_cons, List.not_mem_nil, false_implies, implies_true,
    and_true]
  exact ⟨equipped.complete.mutex, equipped.streamer standing, equipped.complete.streamBuffers⟩

theorem linked_members {data : StreamData} {phase : BugPhase} (linked : phase.quiet = false)
    (members : ∀ resource ∈ streamMembers, data.holds phase resource = true) :
    ∀ resource ∈ .mediaBug :: streamMembers, data.holds phase resource = true := by
  refine List.forall_mem_cons.mpr ⟨?_, members⟩
  simp [StreamData.holds, linked]

theorem cleanupUses_members {data : StreamData} {phase : BugPhase} {origin : Option Nat}
    (cleaning : Cleaning context origin phase)
    (members : ∀ resource ∈ streamMembers, data.holds phase resource = true) :
    ∀ resource ∈ cleanupUses origin, data.holds phase resource = true := by
  cases cleaning with
  | command linked => exact linked_members linked members
  | close => exact members

theorem occupied_frame {frame : LifecycleFrame} {below : List LifecycleFrame}
    {init : SessionInit} {outcome : Bool} (held : BooksKept recorded)
    (current : Current recorded.lifecycle context)
    (top : recorded.lifecycle.stack = frame :: below) :
    BooksKept ⟨(frameStep outcome recorded.lifecycle below frame).1,
      (frameResources init outcome recorded.lifecycle recorded.data frame).1,
      (frameResources init outcome recorded.lifecycle recorded.data frame).2.reverse ++
        recorded.history⟩ := by
  have shape := (held.shape.proceed top outcome).shape
  have equipped := held.equipped context current.live
  have stage := current.stage
  obtain ⟨⟨contexts, created, channelPrivate, stack⟩, data, history⟩ := recorded
  simp only at top stage equipped
  subst top
  generalize phased : (contexts context).bug = phase at stage
  cases stage with
  | bugAdd =>
      cases outcome with
      | true =>
          refine held.posts ({ · with bug := .attached }) current shape ?_ current.alive
            (equipped.restack (by simp) _ rfl (by simp))
          rw [phased]
          exact mediaBug_added
      | false => exact held.stands current shape (equipped.restack (by simp) _ rfl (by simp))
  | setPrivate linked =>
      exact held.stands current shape (equipped.restack (by simp) _ rfl (by simp))
  | sessionStart linked =>
      have streamer := equipped.streamer (by simp)
      cases outcome with
      | true =>
          have stopped := equipped.waiting (by simp)
          refine held.changes ({ · with started := true }) current shape
            (webSocket_started streamer stopped) (fun _ => ?_)
            (fun torn => absurd (current.alive.symm.trans torn) Bool.false_ne_true)
          exact ⟨⟨equipped.complete.streamBuffers, equipped.complete.mutex⟩,
              ⟨fun _ => streamer, fun _ => streamer⟩, rfl, fun _ => streamer, by simp⟩
      | false =>
          exact held.uses [.audioStreamer] current shape
            (equipped.restack (by simp) _ rfl (by simp))
            (List.forall_mem_singleton.mpr streamer)
  | settled linked idle =>
      cases idle with
      | startCapture | cleanup | command =>
          exact held.stands current shape (equipped.restack (by simp) _ rfl (by simp))
  | commandContext linked =>
      exact held.uses _ current shape (equipped.restack (by simp) _ rfl (by simp))
        (linked_members (phased ▸ linked) (equipped.members (by simp) _))
  | closeCallback =>
      exact held.stands current shape (equipped.restack (by simp) _ rfl (by simp))
  | flushResidue text cleaning =>
      refine held.uses _ current shape ?_
        (cleanupUses_members (phased ▸ cleaning) (equipped.members (by simp) _))
      cases text <;> exact equipped.restack (by simp) _ rfl (by simp)
  | sendJson cleaning =>
      exact held.uses [.audioStreamer] current shape (equipped.restack (by simp) _ rfl (by simp))
        (List.forall_mem_singleton.mpr (equipped.streamer (by simp)))
  | clearPrivate cleaning =>
      cases cleaning with
      | command | close =>
          exact held.stands current shape (equipped.restack (by simp) _ rfl (by simp))
  | bugRemove linked =>
      simp only [frameStep, frameResources] at shape ⊢
      split
      · next removed =>
        rw [if_pos removed] at shape
        exact held.posts ({ · with bug := .closed }) current shape
          (mediaBug_closed (phased ▸ linked)) current.alive
          (equipped.restack (by simp) _ rfl (by simp))
      · next refused =>
        rw [if_neg refused] at shape
        exact held.uses [.mutex] current shape (equipped.restack (by simp) _ rfl (by simp))
          (List.forall_mem_singleton.mpr equipped.complete.mutex)
  | nestedClose =>
      exact held.stands current shape (equipped.restack (by simp) _ rfl (by simp))
  | finish ours =>
      have finished := finishStream_streamer (equipped.streamer (by simp))
      refine held.changes ({ · with started := false }) current shape
        (finishStream_unlocked (by simp [phased, BugPhase.quiet]) equipped.complete) (fun _ => ?_)
        (fun torn => absurd (current.alive.symm.trans torn) Bool.false_ne_true)
      rw [finished]
      have absent {part : Prop} : false = true → part := (absurd · Bool.false_ne_true)
      exact ⟨⟨equipped.complete.streamBuffers, equipped.complete.mutex⟩, ⟨absent, absent⟩, rfl,
        by simp, by simp⟩
  | destroy quiet ours =>
      have emptied := destroyTechPvt_empty equipped.consistent
      refine held.changes ({ · with started := false, tornDown := true }) current shape ?_
        (fun alive => absurd alive Bool.noConfusion) fun _ => emptied
      rw [emptied, holds_nothing (phased ▸ quiet)]
      exact destroyTechPvt_run equipped.consistent (phased ▸ quiet)

theorem Stage.standing {phase : BugPhase} {channelPrivate : Option Nat}
    {stack : List LifecycleFrame} (stage : Stage context phase channelPrivate stack)
    (linked : phase.quiet = false) : ∀ frame ∈ stack, frame.destroys = false := by
  cases stage with
  | settled _ idle => cases idle <;> simp
  | destroy quiet => simp [quiet] at linked
  | _ => simp

theorem acquire_kept {next : LifecycleState} {frame : LifecycleFrame} (held : BooksKept recorded)
    (shape : Shape next) (taken : acquire recorded.lifecycle frame = some next)
    (waiting : frame.starts = false) : BooksKept ⟨next, recorded.data, recorded.history⟩ := by
  obtain ⟨free, rfl⟩ := acquire_some taken
  cases held.shape with
  | vacant retired => exact held.idles retired shape rfl rfl
  | occupied context current =>
      have equipped := held.equipped context current.live
      refine held.stands current shape (equipped.restack (by simp [free]) _ rfl ?_)
      rintro ⟨other, member, starting⟩
      rw [List.mem_singleton.mp member, waiting] at starting
      cases starting

theorem BooksKept.linked (held : BooksKept recorded)
    (linked : (recorded.lifecycle.contexts context).bug.quiet = false) :
    Current recorded.lifecycle context ∧
      (∀ frame ∈ recorded.lifecycle.stack, frame.destroys = false) ∧
      Equipped (recorded.lifecycle.contexts context) recorded.lifecycle.stack
        (recorded.data context) := by
  have current := held.shape.linked linked
  exact ⟨current, current.stage.standing linked, held.equipped context current.live⟩

theorem callbackUses_members {before : StreamContext} {data : StreamData}
    (linked : before.bug.quiet = false)
    (members : ∀ resource ∈ streamMembers, data.holds before.bug resource = true) :
    ∀ resource ∈ callbackUses before data, data.holds before.bug resource = true := by
  have all := linked_members linked members
  simp only [callbackUses]
  split
  · exact List.forall_mem_singleton.mpr (all _ (by simp))
  · refine List.forall_mem_append.mpr ⟨all, ?_⟩
    split
    · next present => exact List.forall_mem_singleton.mpr present
    · exact List.forall_mem_nil _

theorem captureCallback_kept (drained : Bool) (held : BooksKept recorded)
    (attached : (recorded.lifecycle.contexts context).bug = .attached) :
    BooksKept ⟨(captureCallback drained context recorded.lifecycle).1, recorded.data,
      (own context ((callbackUses (recorded.lifecycle.contexts context)
        (recorded.data context)).map Entry.used)).reverse ++ recorded.history⟩ := by
  have linked : (recorded.lifecycle.contexts context).bug.quiet = false := by rw [attached]; rfl
  obtain ⟨current, standing, equipped⟩ := held.linked linked
  have shape := (captureCallback_safe held.shape attached drained).shape
  have possessed := callbackUses_members linked (equipped.members standing _)
  unfold captureCallback at shape ⊢
  split
  · next asked =>
    rw [if_pos asked] at shape
    exact held.posts ({ · with prune := true }) current shape (run_used possessed)
      current.alive (equipped.restack standing _ rfl id)
  · next unasked =>
    rw [if_neg unasked] at shape
    split
    · next found =>
      rw [if_pos found] at shape
      exact held.posts ({ · with closeRequested := true }) current shape (run_used possessed)
        current.alive (equipped.restack standing _ rfl id)
    · next silent =>
      rw [if_neg silent] at shape
      exact held.uses _ current shape equipped possessed

theorem messageUses_members {before : StreamContext} {stack : List LifecycleFrame}
    {data : StreamData} (equipped : Equipped before stack data) (started : before.started = true)
    (phase : BugPhase) : ∀ resource ∈ messageUses data, data.holds phase resource = true := by
  have running : data.started = true := equipped.started.trans started
  refine List.forall_mem_cons.mpr ⟨running, List.forall_mem_cons.mpr
    ⟨equipped.consistent.started running, ?_⟩⟩
  split
  · next present => exact List.forall_mem_singleton.mpr present
  · exact List.forall_mem_nil _

theorem unlink_kept (held : BooksKept recorded)
    (attached : (recorded.lifecycle.contexts context).bug = .attached)
    (shape : Shape (recorded.lifecycle.update context ({ · with bug := .closing }))) :
    BooksKept ⟨recorded.lifecycle.update context ({ · with bug := .closing }), recorded.data,
      recorded.history⟩ := by
  obtain ⟨current, standing, equipped⟩ := held.linked (by rw [attached]; rfl)
  refine @BooksKept.posts _ _ [] _ _ ({ · with bug := .closing }) held current shape ?_
    current.alive (equipped.restack standing _ rfl id)
  refine congrArg some (funext fun resource => ?_)
  cases resource with
  | mediaBug => simp [StreamData.holds, attached, BugPhase.quiet]
  | _ => rfl

theorem close_kept (held : BooksKept recorded)
    (closing : (recorded.lifecycle.contexts context).bug = .closing) {next : LifecycleState}
    (locked : acquire (recorded.lifecycle.update context ({ · with bug := .closed }))
      (.cleanup false (some context)) = some next) (shape : Shape next) :
    BooksKept ⟨next, recorded.data,
      (own context [.released .mediaBug]).reverse ++ recorded.history⟩ := by
  obtain ⟨current, standing, equipped⟩ := held.linked (by rw [closing]; rfl)
  obtain ⟨-, rfl⟩ := acquire_some locked
  exact held.posts ({ · with bug := .closed }) current shape
    (mediaBug_closed (by rw [closing]; rfl)) current.alive
    (equipped.restack standing _ rfl (by simp))

theorem resourceStep_kept {next : RecordedResources} {label : ResourceStep}
    (held : BooksKept recorded) (taken : resourceStep recorded label = some next) :
    BooksKept next := by
  cases label with
  | message context =>
      simp only [resourceStep, Option.ite_none_right_eq_some, Option.some.injEq] at taken
      obtain ⟨started, rfl⟩ := taken
      have current := held.shape.started started
      have equipped := held.equipped context current.live
      exact held.uses _ current held.shape equipped (messageUses_members equipped started _)
  | lifecycle step init =>
      simp only [resourceStep, Option.ite_none_right_eq_some] at taken
      obtain ⟨agrees, taken⟩ := taken
      obtain ⟨⟨after, events⟩, moved, rfl⟩ := Option.map_eq_some_iff.mp taken
      have shape := (lifecycleStep_safe held.shape moved).shape
      cases step with
      | start | stop | command =>
          obtain ⟨acquired, locked, same⟩ := Option.map_eq_some_iff.mp moved
          cases same
          exact acquire_kept held shape locked rfl
      | proceed outcome =>
          simp only [lifecycleStep] at moved
          split at moved
          · cases moved
          · next frame below top =>
            obtain ⟨rfl, rfl⟩ := Prod.mk.inj (Option.some.inj moved)
            simp only [stepResources, top]
            cases held.shape with
            | vacant retired unset waiting =>
                refine vacant_frame held retired unset waiting top fun same => agrees ?_
                rw [top, same]
                rfl
            | occupied context current => exact occupied_frame held current top
      | callback context drained =>
          simp only [lifecycleStep, Option.ite_none_right_eq_some] at moved
          obtain ⟨attached, same⟩ := moved
          have kept := captureCallback_kept drained held attached
          rwa [Option.some.inj same] at kept
      | requestClose context =>
          simp only [lifecycleStep, Option.ite_none_right_eq_some] at moved
          obtain ⟨started, same⟩ := moved
          cases same
          have current := held.shape.started started
          have equipped := held.equipped context current.live
          exact held.posts ({ · with closeRequested := true }) current shape
            (run_used (messageUses_members equipped started _)) current.alive
            ⟨equipped.complete, equipped.consistent, equipped.started, equipped.streamer,
              equipped.waiting⟩
      | prune context =>
          simp only [lifecycleStep, Option.ite_none_right_eq_some] at moved
          obtain ⟨⟨attached, -⟩, same⟩ := moved
          cases same
          exact unlink_kept held attached shape
      | hangup context =>
          simp only [lifecycleStep, Option.ite_none_right_eq_some] at moved
          obtain ⟨attached, same⟩ := moved
          cases same
          exact unlink_kept held attached shape
      | close context =>
          simp only [lifecycleStep, Option.ite_none_right_eq_some] at moved
          obtain ⟨closing, taken⟩ := moved
          obtain ⟨acquired, locked, same⟩ := Option.map_eq_some_iff.mp taken
          cases same
          exact close_kept held closing locked shape

end

theorem booksKept_initial : BooksKept .initial where
  shape := .vacant (fun _ => ⟨rfl, rfl, nofun⟩) rfl (.inl .free)
  books := by
    have nothing : resourcesOwned .initial (fun _ => {}) = fun _ => false := by
      funext ⟨context, resource⟩
      exact congrFun (holds_nothing rfl) resource
    exact nothing ▸ books_empty _
  equipped := fun _ live => absurd live.1 (Nat.not_lt_zero _)
  empty := fun _ _ => rfl

def ResourceStep.lifecycleLabel : ResourceStep → Option LifecycleStep
  | .lifecycle step _ => some step
  | .message _ => none

def lifecycleMove (state : LifecycleState) (step : LifecycleStep) : Option LifecycleState :=
  (lifecycleStep state step).map Prod.fst

theorem resources_lifecycle {labels : List ResourceStep} {start recorded : RecordedResources}
    (reached : run resourceStep start labels = some recorded) :
    run lifecycleMove start.lifecycle (labels.filterMap ResourceStep.lifecycleLabel) =
      some recorded.lifecycle := by
  induction labels generalizing start with
  | nil =>
      obtain rfl := Option.some.inj reached
      rfl
  | cons label rest ih =>
      obtain ⟨next, taken, later⟩ := run_cons_inv reached
      have onward := ih later
      cases label with
      | message context =>
          simp only [resourceStep, Option.ite_none_right_eq_some, Option.some.injEq] at taken
          obtain ⟨-, rfl⟩ := taken
          exact onward
      | lifecycle step init =>
          simp only [resourceStep, Option.ite_none_right_eq_some] at taken
          obtain ⟨-, taken⟩ := taken
          obtain ⟨⟨after, events⟩, moved, rfl⟩ := Option.map_eq_some_iff.mp taken
          simp only [List.filterMap_cons, ResourceStep.lifecycleLabel, run, lifecycleMove, moved,
            Option.map_some, Option.bind_some]
          exact onward

/-- In every order of starts, stops, commands, callbacks, messages and closings, and whatever
fails in a start: a resource is acquired only when it is not owned, used only while it is,
and given back once, after the threads that may reach it. Only a context that is not torn
down owns anything, and without one nothing is owned. -/
theorem resources_accounted {labels : List ResourceStep} {recorded : RecordedResources}
    (reached : run resourceStep .initial labels = some recorded) :
    run lifecycleMove .initial (labels.filterMap ResourceStep.lifecycleLabel) =
        some recorded.lifecycle ∧
      EveryEvent (Lawful (taggedUsers StreamResource.users)) recorded.history ∧
      (∀ context resource, outstanding recorded.history (context, resource) = 0 ∨
        outstanding recorded.history (context, resource) = 1 ∧ Live recorded.lifecycle context) ∧
      (recorded.lifecycle.stack = [] → recorded.lifecycle.channelPrivate = none →
        ∀ resource, outstanding recorded.history resource = 0) := by
  have held : BooksKept recorded :=
    run_invariant (fun _ _ _ held taken => resourceStep_kept held taken) booksKept_initial reached
  have unowned : ∀ context resource, ¬Live recorded.lifecycle context →
      outstanding recorded.history (context, resource) = 0 := by
    intro context resource dead
    have quiet : (recorded.lifecycle.contexts context).bug.quiet = true := by
      by_contra linked
      exact dead (held.shape.linked (by simpa using linked)).live
    rw [held.books.balance, resourcesOwned, held.empty context dead, holds_nothing quiet]
    rfl
  refine ⟨resources_lifecycle reached, held.books.lawful, fun context resource => ?_, ?_⟩
  · by_cases live : Live recorded.lifecycle context
    · rw [held.books.balance]
      split
      · exact .inr ⟨rfl, live⟩
      · exact .inl rfl
    · exact .inl (unowned context resource live)
  · rintro free unset ⟨context, resource⟩
    refine unowned context resource fun live => ?_
    cases held.shape with
    | vacant retired => exact (retired context).not_live live
    | occupied other current =>
        rw [(current.stage.free free).1] at unset
        cases unset

def fullInit : SessionInit := ⟨true, true, true, true, true, true, true, some true⟩

def proceeding (outcomes : List Bool) : List ResourceStep :=
  outcomes.map fun outcome => .lifecycle (.proceed outcome) fullInit

/-- The first start fails at the capture resampler; the stream of the second handles a message
and a frame, is closed by its WebSocket and pruned. -/
def secondStart : List ResourceStep :=
  [.lifecycle .start fullInit, .lifecycle (.proceed true) fullInit,
    .lifecycle (.proceed false) { fullInit with resampler := some false },
    .lifecycle .start fullInit] ++ proceeding (List.replicate 5 true) ++
  [.message 0, .lifecycle (.callback 0 false) fullInit, .lifecycle (.requestClose 0) fullInit,
    .lifecycle (.callback 0 false) fullInit, .lifecycle (.prune 0) fullInit,
    .lifecycle (.close 0) fullInit] ++ proceeding (List.replicate 5 true)

theorem resources_accounted_secondStart :
    ∃ recorded, run resourceStep .initial secondStart = some recorded ∧
      .released (0, .webSocketThread) ∈ recorded.history ∧
      EveryEvent (Lawful (taggedUsers StreamResource.users)) recorded.history ∧
      ∀ resource, outstanding recorded.history resource = 0 := by
  obtain ⟨recorded, reached, joined, free, unset⟩ := @exists_run _ _ resourceStep .initial
    secondStart (fun recorded => .released (0, .webSocketThread) ∈ recorded.history ∧
      recorded.lifecycle.stack = [] ∧ recorded.lifecycle.channelPrivate = none)
    (fun _ => inferInstance) (by decide)
  obtain ⟨-, lawful, -, settled⟩ := resources_accounted reached
  exact ⟨recorded, reached, joined, lawful, settled free unset⟩

end OpenaiAudioStream
